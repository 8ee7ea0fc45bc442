import KekPdp11.SectorArray
import KekPdp11.Rk05
import KekPdp11.Rl02
import KekPdp11.Rp06

/-!
# KEK PDP-11: the calls that controllers make of their drives

The backends assert that offset and length of a request are multiples of the
sector size.  A controller passes them on in pieces of one sector, the last
piece being what the guest's word count leaves; it is a sector if the transfer
is a number of whole sectors, and then no assertion fails.
-/

namespace KekPdp11

open StateExcept Slices

/-- A call of a drive is for whole sectors. -/
def DiskEvent.Aligned : DiskEvent → Prop
  | .call offset n sectorSize _ => sectorSize ∣ offset ∧ sectorSize ∣ n
  | _ => True

/-- All calls so far were for whole sectors. -/
def CallsAligned {ρ β : Type} (s : Bench ρ β) : Prop :=
  ∀ e ∈ s.trace, e.Aligned

/-- How a controller may end otherwise: not by a failed assertion. -/
def StopsAligned {ρ β : Type} (e : DiskStop) (s : Bench ρ β) : Prop :=
  e ≠ .assertion ∧ CallsAligned s

/-- The drive at a place of the controller. -/
def Bench.drive {ρ β : Type} (s : Bench ρ β) (device : Nat) : Option β :=
  (s.fhs[device]?).join

/-- All calls so far were for whole sectors; the drive that a command is for
is loaded or not. -/
def Serving {ρ β : Type} (device : Nat) (loaded : Bool) (s : Bench ρ β) :
    Prop :=
  CallsAligned s ∧ (s.drive device).isSome = loaded

/-- A backend whose assertions hold for requests of whole sectors. -/
class AcceptsSectors (β : Type) [DiskBackend β] : Prop where
  read {offset n sectorSize : Nat} (target : Buffer) (b b' : β)
    (hoffset : sectorSize ∣ offset) (hn : sectorSize ∣ n) :
    DiskBackend.read offset n target sectorSize b ≠ .error .assertion b'
  write {offset n sectorSize : Nat} (source : Buffer) (b b' : β)
    (hoffset : sectorSize ∣ offset) (hn : sectorSize ∣ n) :
    DiskBackend.write offset n source sectorSize b ≠ .error .assertion b'

section Backends

variable {offsetIn n sectorSize : Nat}

/-- Reading whole sectors of an image file returns. -/
theorem FileBackend.readSectors_returns
    (f : FileBackend) (k o : Nat) (target : Buffer)
    (haligned : sectorSize ∣ offsetIn + o) :
    ∃ r, FileBackend.readSectors offsetIn n sectorSize k o target f =
      .ok r f := by
  induction k generalizing o target with
  | zero =>
      exact ⟨_, rfl⟩
  | succ k ih =>
      have hnext : sectorSize ∣ offsetIn + (o + sectorSize) := by
        rw [← Nat.add_assoc]
        exact Nat.dvd_add haligned (Nat.dvd_refl _)
      rw [FileBackend.readSectors_succ,
        if_pos (Nat.mod_eq_zero_of_dvd haligned)]
      split
      · exact ih _ _ hnext
      · split
        · exact ⟨_, rfl⟩
        · exact ih _ _ hnext

/-- Reading whole sectors from an NBD server returns or waits. -/
theorem NbdBackend.readSectors_accepts
    (d : NbdBackend) (k o : Nat) (target : Buffer)
    (haligned : sectorSize ∣ offsetIn + o) (d' : NbdBackend) :
    NbdBackend.readSectors offsetIn sectorSize k o target d ≠
      .error .assertion d' := by
  induction k generalizing d o target with
  | zero =>
      exact nofun
  | succ k ih =>
      have hnext : sectorSize ∣ offsetIn + (o + sectorSize) := by
        rw [← Nat.add_assoc]
        exact Nat.dvd_add haligned (Nat.dvd_refl _)
      rw [NbdBackend.readSectors_succ,
        if_pos (Nat.mod_eq_zero_of_dvd haligned)]
      split
      · exact ih _ _ _ hnext
      · split
        · exact nofun
        · split
          · exact ih _ _ _ hnext
          · exact nofun

/-- A call that the derived class ends does not end otherwise. -/
theorem Backend.received_ne_error
    {β α : Type} {wrap : β → Backend} {r : EStateM.Result DiskStop β α}
    {e : DiskStop} {b : Backend} (h : ∀ c, r ≠ .error e c) :
    Backend.received wrap r ≠ .error e b := by
  cases r with
  | ok a c =>
      exact nofun
  | error e' c =>
      intro heq
      injection heq with he
      exact h c (by rw [he])

instance : AcceptsSectors Backend where
  read {offset n sectorSize} target b b' hoffset hn := by
    cases b with
    | file f =>
        refine Backend.received_ne_error fun f' => ?_
        obtain ⟨r, hr⟩ := f.readSectors_returns (n := n) (n / sectorSize) 0
          target (show sectorSize ∣ offset + 0 from hoffset)
        simp only [FileBackend.read, diskAssert_bind_apply,
          Nat.mod_eq_zero_of_dvd hoffset, Nat.mod_eq_zero_of_dvd hn,
          decide_true, if_true, hr]
        exact nofun
    | nbd d =>
        refine Backend.received_ne_error fun d' => ?_
        exact d.readSectors_accepts _ 0 target
          (show sectorSize ∣ offset + 0 from hoffset) d'
  write {offset n sectorSize} source b b' hoffset hn := by
    cases b with
    | file f =>
        refine Backend.received_ne_error fun f' => ?_
        simp only [FileBackend.write, diskAssert_bind_apply, view_bind_apply,
          Nat.mod_eq_zero_of_dvd hoffset, Nat.mod_eq_zero_of_dvd hn,
          decide_true, if_true, id, ite_apply_state, update_bind_apply,
          pure_apply]
        split
        · exact nofun
        · split <;> exact nofun
    | nbd d =>
        refine Backend.received_ne_error fun d' => ?_
        simp only [NbdBackend.write, diskAssert_bind_apply, view_bind_apply,
          Nat.mod_eq_zero_of_dvd hoffset, Nat.mod_eq_zero_of_dvd hn,
          decide_true, if_true, id, ite_apply_state, update_bind_apply,
          pure_apply]
        split
        · exact nofun
        · split
          · exact nofun
          · cases NbdBackend.transmit offset n source d.network d.server with
            | none =>
                exact nofun
            | some result =>
                exact nofun

end Backends

section Calls

variable {ρ β : Type} {device : Nat} {loaded : Bool}

theorem serving_modifyController
    (f : ρ → ρ) :
    Upholds (Serving device loaded) StopsAligned
      (modifyController f : Command ρ β Unit) :=
  .update fun _ hs => hs

/-- A change of the controller at the end of a part of a command. -/
theorem serving_modifyController_pure
    {α : Type} (f : ρ → ρ) (a : α) :
    Upholds (Serving device loaded) StopsAligned
      (do modifyController f; pure a : Command ρ β α) :=
  .bind (Q := fun _ => Serving device loaded) (serving_modifyController f)
    fun _ => .pure fun _ hs => hs

theorem serving_queueInterrupt
    (level : Level) (vector : Word) :
    Upholds (Serving device loaded) StopsAligned
      (queueInterrupt level vector : Command ρ β Unit) :=
  .update fun _ hs => hs

/-- A line of the log that is no call of a drive. -/
theorem Serving.log
    {s t : Bench ρ β} {e : DiskEvent} (hs : Serving device loaded s)
    (hfhs : t.fhs = s.fhs) (htrace : t.trace = e :: s.trace)
    (he : e.Aligned) :
    Serving device loaded t := by
  refine ⟨?_, ?_⟩
  · intro e' he'
    rw [htrace] at he'
    rcases List.mem_cons.mp he' with rfl | he'
    · exact he
    · exact hs.1 e' he'
  · unfold Bench.drive
    rw [hfhs]
    exact hs.2

theorem serving_loadBytes
    (memory : PhysAddr) (n i : Nat) (buffer : Buffer) :
    Upholds (Serving device loaded) StopsAligned
      (loadBytes memory n i buffer : Command ρ β Buffer) := by
  induction n generalizing i buffer with
  | zero =>
      exact .pure fun _ hs => hs
  | succ n ih =>
      refine .bind (Q := fun _ => Serving device loaded) ?_ fun v => ih _ _
      refine .view_bind_any fun v => ?_
      refine .bind (Q := fun _ => Serving device loaded) ?_ fun _ =>
        .pure fun _ hs => hs
      exact .update fun s hs => hs.log rfl rfl trivial

theorem serving_storeBytes
    (memory : PhysAddr) (buffer : Buffer) (n i : Nat) :
    Upholds (Serving device loaded) StopsAligned
      (storeBytes memory buffer n i : Command ρ β Unit) := by
  induction n generalizing i with
  | zero =>
      exact .pure fun _ hs => hs
  | succ n ih =>
      refine .bind (Q := fun _ => Serving device loaded) ?_ fun _ => ih _
      exact .update fun s hs => hs.log rfl rfl trivial

section Drives

variable {offset n sectorSize : Nat}

/-- A call of a drive whose lines in the log are aligned. -/
theorem serving_callDrive
    {α : Type} {call : DiskCall β α} {log : Option α → List DiskEvent}
    (hlog : loaded = true → ∀ answer, ∀ e ∈ log answer, e.Aligned)
    (hcall : loaded = true → ∀ b b', call b ≠ .error .assertion b') :
    Upholds (Serving device loaded) StopsAligned
      (callDrive device call log : Command ρ β α) := by
  intro s hs
  unfold callDrive
  split
  · exact ⟨nofun, hs.1⟩
  · exact ⟨nofun, hs.1⟩
  · rename_i b hdrive
    have hloaded : loaded = true := by
      rw [← hs.2, Bench.drive, hdrive]
      rfl
    have hnew : ∀ answer, ∀ e ∈ log answer ++ s.trace, e.Aligned := by
      intro answer e he
      rcases List.mem_append.mp he with he | he
      · exact hlog hloaded answer e he
      · exact hs.1 e he
    cases hb : call b with
    | ok a b' =>
        refine ⟨hnew (some a), ?_⟩
        have hlt := (List.getElem?_eq_some_iff.mp hdrive).1
        rw [hloaded, Bench.drive, List.getElem?_set_self hlt]
        rfl
    | error e b' =>
        refine ⟨fun he => hcall hloaded b b' (by rw [hb, he]), ?_⟩
        exact hnew none

variable [DiskBackend β] [AcceptsSectors β]

theorem serving_readDrive
    (target : Buffer) (hoffset : loaded = true → sectorSize ∣ offset)
    (hn : loaded = true → sectorSize ∣ n) :
    Upholds (Serving device loaded) StopsAligned
      (readDrive device offset n target sectorSize :
        Command ρ β (Bool × Buffer)) := by
  refine serving_callDrive (fun h => ?_) fun h b b' =>
    AcceptsSectors.read target b b' (hoffset h) (hn h)
  intro answer e he
  rcases answer with _ | ⟨_ | _, t⟩
  · obtain rfl := List.mem_singleton.mp he
    exact ⟨hoffset h, hn h⟩
  · obtain rfl := List.mem_singleton.mp he
    exact ⟨hoffset h, hn h⟩
  · rcases List.mem_cons.mp he with rfl | he
    · trivial
    · obtain rfl := List.mem_singleton.mp he
      exact ⟨hoffset h, hn h⟩

theorem serving_writeDrive
    (source : Buffer) (hoffset : loaded = true → sectorSize ∣ offset)
    (hn : loaded = true → sectorSize ∣ n) :
    Upholds (Serving device loaded) StopsAligned
      (writeDrive device offset n source sectorSize : Command ρ β Bool) := by
  refine serving_callDrive (fun h => ?_) fun h b b' =>
    AcceptsSectors.write source b b' (hoffset h) (hn h)
  intro answer e he
  rcases answer with _ | _ | _
  · obtain rfl := List.mem_singleton.mp he
    exact ⟨hoffset h, hn h⟩
  · obtain rfl := List.mem_singleton.mp he
    exact ⟨hoffset h, hn h⟩
  · rcases List.mem_cons.mp he with rfl | he
    · trivial
    · obtain rfl := List.mem_singleton.mp he
      exact ⟨hoffset h, hn h⟩

end Drives

/-- A sum of multiples modulo 2^32 is one, when the sector size divides
2^32. -/
theorem dvd_toNat_add
    {size : Nat} {x : BitVec 32} {k : Nat} (hsize : size ∣ 2 ^ 32)
    (hx : size ∣ x.toNat) (hk : size ∣ k) :
    size ∣ (x + BitVec.ofNat 32 k).toNat := by
  rw [BitVec.toNat_add, BitVec.toNat_ofNat]
  exact (Nat.dvd_mod_iff hsize).mpr
    (Nat.dvd_add hx ((Nat.dvd_mod_iff hsize).mpr hk))

theorem dvd_min
    {size left : Nat} (h : size ∣ left) :
    size ∣ min size left := by
  rcases Nat.le_total size left with hle | hle
  · rw [Nat.min_eq_left hle]
  · rw [Nat.min_eq_right hle]
    exact h

/-- The loop of a transfer of whole sectors. -/
theorem serving_transferLoop
    {γ : Type} {size : Nat}
    {piece : (memory disk : BitVec 32) → (cur left : Nat) → γ →
      Command ρ β (Bool × γ)}
    (hsize : size ∣ 2 ^ 32)
    (hpiece : ∀ memory disk cur left place,
      (loaded = true → size ∣ disk.toNat) → (loaded = true → size ∣ cur) →
      Upholds (Serving device loaded) StopsAligned
        (piece memory disk cur left place))
    (passes : Nat) (memory disk : BitVec 32) (left : Nat) (place : γ)
    (hdisk : loaded = true → size ∣ disk.toNat)
    (hleft : loaded = true → size ∣ left) :
    Upholds (Serving device loaded) StopsAligned
      (transferLoop size piece passes memory disk left place) := by
  induction passes generalizing memory disk left place with
  | zero =>
      exact .pure fun _ hs => hs
  | succ passes ih =>
      refine .ite (fun _ => .pure fun _ hs => hs) fun _ => ?_
      refine .bind (Q := fun _ => Serving device loaded)
        (hpiece _ _ _ _ _ hdisk fun h => dvd_min (hleft h)) fun result => ?_
      obtain ⟨goOn, place⟩ := result
      refine .ite (fun _ => ?_) fun _ => .pure fun _ hs => hs
      exact ih _ _ _ _
        (fun h => dvd_toNat_add hsize (hdisk h) (dvd_min (hleft h)))
        fun h => Nat.dvd_sub (hleft h) (dvd_min (hleft h))

end Calls

namespace Rk05

variable {β : Type}

/-- The bytes of the transfer that a write of the word starts, if it starts
one. -/
def started (a v : Word) (s : Bench Rk05 β) : Option Nat :=
  if a = RK05_CS ∧ v &&& 1 ≠ 0 ∧ ((v >>> 1) &&& 7 = 1 ∨ (v >>> 1) &&& 7 = 2) ∧
      (s.drive s.controller.selected).isSome then
    some (recordLength (s.controller.get RK05_WC))
  else
    none

variable [DiskBackend β] [AcceptsSectors β] {device : Nat} {loaded : Bool}

theorem serving_writePiece
    (v : Word) (memory disk : BitVec 32) (cur left : Nat) (place : Place)
    (hdisk : loaded = true → 512 ∣ disk.toNat)
    (hcur : loaded = true → 512 ∣ cur) :
    Upholds (Serving device loaded) StopsAligned
      (writePiece v device memory disk cur left place :
        Command Rk05 β (Bool × Place)) := by
  refine .view_bind_any fun buffer => ?_
  refine .bind (Q := fun _ => Serving device loaded)
    (serving_loadBytes _ _ _ _) fun buffer => ?_
  refine .bind (Q := fun _ => Serving device loaded)
    (serving_modifyController _) fun _ => ?_
  refine .bind (Q := fun _ => Serving device loaded)
    (serving_writeDrive _ hdisk hcur) fun ok => ?_
  refine .ite (fun _ => ?_) fun _ => ?_
  · exact serving_modifyController_pure _ _
  · exact serving_modifyController_pure _ _

theorem serving_readPiece
    (v : Word) (memory disk : BitVec 32) (cur left : Nat) (place : Place)
    (hdisk : loaded = true → 512 ∣ disk.toNat)
    (hcur : loaded = true → 512 ∣ cur) :
    Upholds (Serving device loaded) StopsAligned
      (readPiece v device memory disk cur left place :
        Command Rk05 β (Bool × Place)) := by
  refine .view_bind_any fun buffer => ?_
  refine .bind (Q := fun _ => Serving device loaded)
    (serving_readDrive _ hdisk hcur) fun result => ?_
  refine .bind (Q := fun _ => Serving device loaded)
    (serving_modifyController _) fun _ => ?_
  refine .ite (fun _ => ?_) fun _ => ?_
  · exact serving_modifyController_pure _ _
  · exact .bind (Q := fun _ => Serving device loaded)
      (serving_storeBytes _ _ _ _) fun _ => serving_modifyController_pure _ _

theorem diskOffset_dvd
    (da : Word) :
    512 ∣ (diskOffset da).toNat := by
  unfold diskOffset
  rw [BitVec.toNat_mul]
  exact (Nat.dvd_mod_iff (by decide)).mpr (Nat.dvd_mul_left _ _)

omit [DiskBackend β] [AcceptsSectors β] in
theorem serving_transfer
    {piece : Nat → (memory disk : BitVec 32) → (cur left : Nat) → Place →
      Command Rk05 β (Bool × Place)}
    (hpiece : ∀ memory disk cur left place,
      (loaded = true → 512 ∣ disk.toNat) → (loaded = true → 512 ∣ cur) →
      Upholds (Serving device loaded) StopsAligned
        (piece device memory disk cur left place))
    (da : Word) {reclen : Nat} (memoff : BitVec 32)
    (hreclen : loaded = true → 512 ∣ reclen) :
    Upholds (Serving device loaded) StopsAligned
      (transfer piece device da reclen memoff : Command Rk05 β Unit) := by
  refine .view_bind_any fun present => ?_
  refine .ite (fun _ => serving_modifyController _) fun _ => ?_
  refine .bind (Q := fun _ => Serving device loaded) ?_ fun place =>
    serving_modifyController _
  exact serving_transferLoop (by decide) hpiece _ _ _ _ _
    (fun _ => diskOffset_dvd da) hreclen

theorem serving_execute
    (v da : Word) (memoff : BitVec 32) {reclen : Nat}
    (hreclen : loaded = true → (v >>> 1) &&& 7 = 1 ∨ (v >>> 1) &&& 7 = 2 →
      512 ∣ reclen) :
    Upholds (Serving device loaded) StopsAligned
      (execute v device da reclen memoff : Command Rk05 β Unit) := by
  unfold execute
  split
  · exact serving_modifyController _
  · rename_i hfunction
    exact serving_transfer (serving_writePiece v) _ _ fun h =>
      hreclen h (Or.inl (BitVec.eq_of_toNat_eq hfunction))
  · rename_i hfunction
    exact serving_transfer (serving_readPiece v) _ _ fun h =>
      hreclen h (Or.inr (BitVec.eq_of_toNat_eq hfunction))
  · exact serving_modifyController _
  · exact .pure fun _ hs => hs

omit [DiskBackend β] [AcceptsSectors β] in
theorem serving_finish
    (v : Word) (selected : Nat) :
    Upholds (Serving device loaded) StopsAligned
      (finish v selected : Command Rk05 β Unit) := by
  refine .bind (serving_modifyController _) fun _ => ?_
  refine .ite (fun _ => ?_) fun _ => .pure fun _ hs => hs
  exact .bind (serving_modifyController _) fun _ => serving_queueInterrupt _ _

/-- A command that has been started. -/
theorem callsAligned_go
    (v : Word) {s : Bench Rk05 β} (hs : CallsAligned s)
    (hfit : (v >>> 1) &&& 7 = 1 ∨ (v >>> 1) &&& 7 = 2 →
      (s.drive s.controller.selected).isSome = true →
      512 ∣ recordLength (s.controller.get RK05_WC)) :
    After (fun _ => CallsAligned) StopsAligned (go v s) := by
  have hgo : Upholds
      (Serving s.controller.selected (s.drive s.controller.selected).isSome)
      StopsAligned
      (do
        execute v s.controller.selected (s.controller.get RK05_DA)
          (recordLength (s.controller.get RK05_WC)) s.controller.getBusAddress
        finish v s.controller.selected : Command Rk05 β Unit) :=
    .bind (serving_execute v _ _ fun h hfunction => hfit hfunction h)
      fun _ => serving_finish v _
  exact hgo.weaken_post (fun _ _ h => h.1)
    { s with
      controller := s.controller.modify RK05_CS (· &&& ~~~(1#16 <<< 13)) }
    ⟨hs, rfl⟩

theorem callsAligned_writeWord
    (a v : Word) {s : Bench Rk05 β} (hs : CallsAligned s)
    (hfit : ∀ n, started a v s = some n → 512 ∣ n) :
    After (fun _ => CallsAligned) StopsAligned
      (writeWord a v s : EStateM.Result _ (Bench Rk05 β) Unit) := by
  change After _ _ ((if a = RK05_CS ∧ v &&& 1 ≠ 0 then go v else pure ())
    { s with controller := s.controller.set a v })
  split
  · rename_i hgo
    obtain ⟨rfl, hgo⟩ := hgo
    refine callsAligned_go v hs fun hfunction hloaded => ?_
    exact hfit _ (if_pos ⟨rfl, hgo, hfunction, hloaded⟩)
  · exact hs

/-- The bytes of the transfer that an access starts, if it starts one. -/
def startedBy (g : GuestAccess) (s : Bench Rk05 β) : Option Nat :=
  match g with
  | .writeWord a v => started a v s
  | .writeByte a v =>
      started a (updateWord (s.controller.get a) (isOdd a) v) s
  | _ => none

theorem callsAligned_perform
    (g : GuestAccess) {s : Bench Rk05 β} (hs : CallsAligned s)
    (hfit : ∀ n, startedBy g s = some n → 512 ∣ n) :
    After (fun _ => CallsAligned) StopsAligned (g.perform s) := by
  cases g with
  | readByte a =>
      exact hs
  | readWord a =>
      exact hs
  | writeByte a v =>
      exact callsAligned_writeWord _ _ hs hfit
  | writeWord a v =>
      exact callsAligned_writeWord _ _ hs hfit

end Rk05

namespace Rl02

variable {β : Type}

/-- The bytes of the transfer that a write of the word starts, if it starts
one. -/
def started (a v : Word) (s : Bench Rl02 β) : Option Nat :=
  if a = RL02_CSR ∧ 5 ≤ ((v >>> 1) &&& 7).toNat ∧
      (s.drive ((v >>> 8) &&& 3).toNat).isSome then
    some (byteCount (s.controller.get RL02_MPR))
  else
    none

/-- The bytes of the transfer that an access starts, if it starts one. -/
def startedBy (g : GuestAccess) (s : Bench Rl02 β) : Option Nat :=
  match g with
  | .writeWord a v => started a v s
  | .writeByte a v =>
      started a (updateWord (s.controller.get a) (isOdd a) v) s
  | _ => none

variable {device : Nat} {loaded : Bool}

theorem serving_driveLoaded :
    Upholds (Serving device loaded) StopsAligned
      (driveLoaded device : Command Rl02 β Bool) := by
  refine .view_bind_any fun drive => ?_
  cases drive with
  | none =>
      exact .raise fun _ hs => ⟨nofun, hs.1⟩
  | some drive =>
      exact .pure fun _ hs => hs

variable [DiskBackend β] [AcceptsSectors β]

theorem serving_writePiece
    (memory disk : BitVec 32) (cur left : Nat) (place : Unit)
    (hdisk : loaded = true → 256 ∣ disk.toNat)
    (hcur : loaded = true → 256 ∣ cur) :
    Upholds (Serving device loaded) StopsAligned
      (writePiece device memory disk cur left place :
        Command Rl02 β (Bool × Unit)) := by
  refine .view_bind_any fun buffer => ?_
  refine .bind (Q := fun _ => Serving device loaded)
    (serving_loadBytes _ _ _ _) fun buffer => ?_
  refine .bind (Q := fun _ => Serving device loaded)
    (serving_modifyController _) fun _ => ?_
  refine .bind (Q := fun _ => Serving device loaded) ?_ fun ok => ?_
  · refine .bind (Q := fun _ => Serving device loaded)
      serving_driveLoaded fun present => ?_
    exact .ite (fun _ => .pure fun _ hs => hs) fun _ =>
      serving_writeDrive _ hdisk hcur
  · exact .ite (fun _ => .pure fun _ hs => hs) fun _ =>
      serving_modifyController_pure _ _

theorem serving_readPiece
    (memory disk : BitVec 32) (cur left : Nat) (place : Unit)
    (hdisk : loaded = true → 256 ∣ disk.toNat)
    (hcur : loaded = true → 256 ∣ cur) :
    Upholds (Serving device loaded) StopsAligned
      (readPiece device memory disk cur left place :
        Command Rl02 β (Bool × Unit)) := by
  refine .view_bind_any fun buffer => ?_
  refine .bind (Q := fun _ => Serving device loaded) ?_ fun result => ?_
  · refine .bind (Q := fun _ => Serving device loaded)
      serving_driveLoaded fun present => ?_
    exact .ite (fun _ => .pure fun _ hs => hs) fun _ =>
      serving_readDrive _ hdisk hcur
  · refine .bind (Q := fun _ => Serving device loaded)
      (serving_modifyController _) fun _ => ?_
    refine .ite (fun _ => .pure fun _ hs => hs) fun _ => ?_
    exact .bind (Q := fun _ => Serving device loaded)
      (serving_storeBytes _ _ _ _) fun _ => serving_modifyController_pure _ _

theorem calcOffset_dvd
    (c : Rl02) :
    256 ∣ c.calcOffset.toNat := by
  unfold calcOffset rl02BytesPerSector
  rw [BitVec.toNat_ofInt]
  omega

omit [DiskBackend β] [AcceptsSectors β] in
/-- A transfer whose byte count is a number of whole sectors. -/
theorem serving_transfer
    {piece : (memory disk : BitVec 32) → (cur left : Nat) → Unit →
      Command Rl02 β (Bool × Unit)}
    (hpiece : ∀ memory disk cur left place,
      (loaded = true → 256 ∣ disk.toNat) → (loaded = true → 256 ∣ cur) →
      Upholds (Serving device loaded) StopsAligned
        (piece memory disk cur left place))
    {s : Bench Rl02 β} (hs : Serving device loaded s)
    (hcount : loaded = true →
      256 ∣ byteCount (s.controller.get RL02_MPR)) :
    After (fun _ => Serving device loaded) StopsAligned (transfer piece s) := by
  have hloop : Upholds (Serving device loaded) StopsAligned
      (transferLoop rl02BytesPerSector piece
        (byteCount (s.controller.get RL02_MPR)) s.controller.getBusAddress
        (s.controller.position (s.controller.get RL02_DAR)).calcOffset
        (byteCount (s.controller.get RL02_MPR)) ()) :=
    serving_transferLoop (by decide) hpiece _ _ _ _ _
      (fun _ => calcOffset_dvd _) hcount
  exact hloop
    { s with
      controller := s.controller.position (s.controller.get RL02_DAR) } hs

/-- A command, whose drive is loaded or not. -/
theorem serving_execute
    (command : Nat) {s : Bench Rl02 β} (hs : Serving device loaded s)
    (hcount : 5 ≤ command → loaded = true →
      256 ∣ byteCount (s.controller.get RL02_MPR)) :
    After (fun _ => Serving device loaded) StopsAligned
      (execute device command s) := by
  have htransferred : ∀ {m : Command Rl02 β Unit},
      After (fun _ => Serving device loaded) StopsAligned (m s) →
      After (fun _ => Serving device loaded) StopsAligned
        ((do m; pure true : Command Rl02 β Bool) s) :=
    fun hm => after_bind hm fun _ _ ht => ht
  unfold execute driveExists
  rw [view_bind_apply, ite_apply_state]
  split
  · exact serving_modifyController_pure _ true s hs
  · split
    · exact serving_modifyController_pure _ false s hs
    · exact serving_modifyController_pure _ true s hs
    · exact serving_modifyController_pure _ true s hs
    · exact htransferred (serving_transfer serving_writePiece hs
        (hcount (by decide)))
    · exact htransferred (serving_transfer serving_readPiece hs
        (hcount (by decide)))
    · exact htransferred (serving_transfer serving_readPiece hs
        (hcount (by decide)))
    · exact hs

theorem callsAligned_writeWord
    (a v : Word) {s : Bench Rl02 β} (hs : CallsAligned s)
    (hfit : ∀ n, started a v s = some n → 256 ∣ n) :
    After (fun _ => CallsAligned) StopsAligned
      (writeWord a v s : EStateM.Result _ (Bench Rl02 β) Unit) := by
  unfold writeWord modifyController
  rw [update_bind_apply, ite_apply_state]
  split
  · rename_i ha
    have hserving : Serving ((v >>> 8) &&& 3).toNat
        (s.drive ((v >>> 8) &&& 3).toNat).isSome
        { s with controller := s.controller.set a v } :=
      ⟨hs, rfl⟩
    have hexecute := serving_execute ((v >>> 1) &&& 7).toNat hserving
      (fun hcommand hloaded => by
        subst ha
        exact hfit _ (if_pos ⟨rfl, hcommand, hloaded⟩))
    refine after_bind hexecute fun doInt t ht => ?_
    unfold controllerView
    rw [view_bind_apply, ite_apply_state]
    split
    · exact ht.1
    · exact ht.1
  · exact hs

theorem callsAligned_perform
    (g : GuestAccess) {s : Bench Rl02 β} (hs : CallsAligned s)
    (hfit : ∀ n, startedBy g s = some n → 256 ∣ n) :
    After (fun _ => CallsAligned) StopsAligned (g.perform s) := by
  cases g with
  | readByte a =>
      exact hs
  | readWord a =>
      exact hs
  | writeByte a v =>
      exact callsAligned_writeWord _ _ hs hfit
  | writeWord a v =>
      exact callsAligned_writeWord _ _ hs hfit

end Rl02

namespace Rp06

variable {β : Type}

/-- The bytes of the transfer that a write of the word starts, if it starts
one. -/
def started (a v : Word) (s : Bench Rp06 β) : Option Nat :=
  if a = RP06_CS1 ∧ v &&& 1 ≠ 0 ∧ (v &&& 62 = 0o60 ∨ v &&& 62 = 0o70) ∧
      (s.drive 0).isSome then
    some ((65536 - (s.controller.get RP06_WC).toNat) * 2)
  else
    none

/-- The bytes of the transfer that an access starts, if it starts one. -/
def startedBy (g : GuestAccess) (s : Bench Rp06 β) : Option Nat :=
  match g with
  | .writeWord a v => started a v s
  | .writeByte a v =>
      started (a &&& ~~~1) (updateWord (s.controller.get a) (isOdd a) v) s
  | _ => none

variable [DiskBackend β] [AcceptsSectors β] {loaded : Bool}

theorem serving_piece
    (reads : Bool) (memory disk : BitVec 32) (cur : Nat) (buffer : Buffer)
    (hdisk : loaded = true → 512 ∣ disk.toNat)
    (hcur : loaded = true → 512 ∣ cur) :
    Upholds (Serving 0 loaded) StopsAligned
      (piece reads memory disk cur buffer :
        Command Rp06 β (Bool × Buffer)) := by
  refine .ite (fun _ => ?_) fun _ => ?_
  · refine .bind (Q := fun _ => Serving 0 loaded)
      (serving_readDrive _ hdisk hcur) fun result => ?_
    refine .ite (fun _ => .pure fun _ hs => hs) fun _ => ?_
    exact .bind (Q := fun _ => Serving 0 loaded)
      (serving_storeBytes _ _ _ _) fun _ => .pure fun _ hs => hs
  · refine .bind (Q := fun _ => Serving 0 loaded)
      (serving_loadBytes _ _ _ _) fun buffer => ?_
    exact .bind (Q := fun _ => Serving 0 loaded)
      (serving_writeDrive _ hdisk hcur) fun ok => .pure fun _ hs => hs

theorem computeOffset_dvd
    (c : Rp06) :
    512 ∣ c.computeOffset.toNat := by
  unfold computeOffset
  rw [BitVec.toNat_mul]
  exact (Nat.dvd_mod_iff (by decide)).mpr (Nat.dvd_mul_left _ _)

/-- The loop over the sectors between two multiples of the sector size. -/
theorem serving_transferLoop
    (reads : Bool) (endOffset : BitVec 32)
    (hend : loaded = true → 512 ∣ endOffset.toNat)
    (passes : Nat) (memory curOffset : BitVec 32) (buffer : Buffer)
    (hcur : loaded = true → 512 ∣ curOffset.toNat) :
    Upholds (Serving 0 loaded) StopsAligned
      (transferLoop reads endOffset passes memory curOffset buffer :
        Command Rp06 β Unit) := by
  induction passes generalizing memory curOffset buffer with
  | zero =>
      exact .raise fun _ hs => ⟨nofun, hs.1⟩
  | succ passes ih =>
      have hpiece : loaded = true →
          512 ∣ min (endOffset - curOffset).toNat sectorSize := by
        intro h
        rw [Nat.min_comm]
        apply dvd_min
        rw [BitVec.toNat_sub]
        refine (Nat.dvd_mod_iff (by decide)).mpr ?_
        exact Nat.dvd_add (Nat.dvd_sub (by decide) (hcur h)) (hend h)
      refine .ite (fun _ => ?_) fun _ => .pure fun _ hs => hs
      refine .bind (Q := fun _ => Serving 0 loaded)
        (serving_piece reads _ _ _ _ hcur hpiece) fun result => ?_
      refine .ite (fun _ => ?_) fun _ => .pure fun _ hs => hs
      exact ih _ _ _ fun h =>
        dvd_toNat_add (by decide) (hcur h) (Nat.dvd_refl _)

/-- A transfer whose byte count is a number of whole sectors. -/
theorem serving_transfer
    (reads : Bool) {s : Bench Rp06 β} (hs : Serving 0 loaded s)
    (hcount : loaded = true →
      512 ∣ (65536 - (s.controller.get RP06_WC).toNat) * 2) :
    After (fun _ => Serving 0 loaded) StopsAligned (transfer reads s) := by
  refine after_bind (m := transferLoop reads _ _ _ _ _) ?_ fun _ _ ht => ht
  exact serving_transferLoop reads _
    (fun h => dvd_toNat_add (by decide) (computeOffset_dvd _) (hcount h)) _ _ _
    _ (fun _ => computeOffset_dvd _) s hs

/-- A function of the controller. -/
theorem serving_execute
    (functionCode : Nat) {s : Bench Rp06 β} (hs : Serving 0 loaded s)
    (hcount : functionCode = 0o60 ∨ functionCode = 0o70 → loaded = true →
      512 ∣ (65536 - (s.controller.get RP06_WC).toNat) * 2) :
    After (fun _ => Serving 0 loaded) StopsAligned
      (execute functionCode s) := by
  unfold execute
  split
  · exact serving_modifyController_pure _ true s hs
  · exact serving_modifyController_pure _ true s hs
  · exact serving_modifyController_pure _ true s hs
  · exact serving_modifyController_pure _ true s hs
  · exact serving_modifyController_pure _ true s hs
  · exact serving_modifyController_pure _ true s hs
  · exact after_bind
      (serving_transfer false hs (hcount (Or.inl rfl))) fun _ _ ht => ht
  · exact after_bind
      (serving_transfer true hs (hcount (Or.inr rfl))) fun _ _ ht => ht
  · exact hs

theorem callsAligned_go
    (v : Word) {s : Bench Rp06 β} (hs : CallsAligned s)
    (hfit : v &&& 62 = 0o60 ∨ v &&& 62 = 0o70 →
      (s.drive 0).isSome = true →
      512 ∣ (65536 - (s.controller.get RP06_WC).toNat) * 2) :
    After (fun _ => CallsAligned) StopsAligned (go v s) := by
  unfold go modifyController
  rw [update_bind_apply]
  have hserving : Serving 0 (s.drive 0).isSome
      { s with
        controller := s.controller.modify RP06_CS1
          (· &&& ~~~((v &&& 62) ||| cs1Go ||| cs1Tre)) } :=
    ⟨hs, rfl⟩
  refine after_bind (serving_execute _ hserving
    fun hfunction hloaded => ?_) fun doInt t ht => ?_
  · exact hfit (hfunction.imp BitVec.eq_of_toNat_eq BitVec.eq_of_toNat_eq)
      hloaded
  · unfold controllerView
    rw [view_bind_apply, ite_apply_state]
    split
    · exact ht.1
    · exact ht.1

theorem callsAligned_writeWord
    (a v : Word) {s : Bench Rp06 β} (hs : CallsAligned s)
    (hfit : ∀ n, started a v s = some n → 512 ∣ n) :
    After (fun _ => CallsAligned) StopsAligned
      (writeWord a v s : EStateM.Result _ (Bench Rp06 β) Unit) := by
  unfold writeWord modifyController
  rw [update_bind_apply, ite_apply_state]
  split
  · rename_i ha
    subst ha
    rw [update_bind_apply, ite_apply_state]
    split
    · rename_i hgo
      refine callsAligned_go v hs fun hfunction hloaded => ?_
      have hwc : ∀ c : Rp06, (if c.get RP06_CS1 &&& cs1Rdy ≠ 0 then
          c.set RP06_AS 1 else c).get RP06_WC = c.get RP06_WC := by
        intro c
        split <;> rfl
      dsimp only
      rw [hwc]
      exact hfit _ (if_pos ⟨rfl, hgo, hfunction, hloaded⟩)
    · exact hs
  · exact hs

theorem callsAligned_perform
    (g : GuestAccess) {s : Bench Rp06 β} (hs : CallsAligned s)
    (hfit : ∀ n, startedBy g s = some n → 512 ∣ n) :
    After (fun _ => CallsAligned) StopsAligned (g.perform s) := by
  cases g with
  | readByte a =>
      exact hs
  | readWord a =>
      exact hs
  | writeByte a v =>
      exact callsAligned_writeWord _ _ hs hfit
  | writeWord a v =>
      exact callsAligned_writeWord _ _ hs hfit

end Rp06

section Sequences

variable {ρ : Type}

/-- The transfer that an access starts is a number of whole sectors. -/
def WholeSectors {β : Type} (sectorSize : Nat)
    (startedBy : GuestAccess → Bench ρ β → Option Nat)
    (g : GuestAccess) (s : Bench ρ β) : Prop :=
  ∀ n, startedBy g s = some n → sectorSize ∣ n

/-- No assertion of a backend fails in the run, and all its calls of drives
are for whole sectors. -/
def SafeRun {β : Type} (r : EStateM.Result DiskStop (Bench ρ β) Unit) :
    Prop :=
  (∀ e ∈ (final r).trace, e.Aligned) ∧ ∀ t, r ≠ .error .assertion t

theorem safeRun_of_after
    {β : Type} {r : EStateM.Result DiskStop (Bench ρ β) Unit}
    (h : After (fun _ => CallsAligned) StopsAligned r) :
    SafeRun r := by
  cases r with
  | ok a t =>
      exact ⟨h, nofun⟩
  | error e t =>
      refine ⟨h.2, fun t' heq => ?_⟩
      injection heq with he
      exact h.1 he

/-- A sequence of register accesses that only starts transfers of whole
sectors trips no assertion of an image file or an NBD backend. -/
theorem whole_sector_transfers_are_safe
    (gs : List GuestAccess) :
    (∀ s : Bench Rk05 Backend, s.trace = [] →
      AllFit (WholeSectors 512 Rk05.startedBy) gs s →
      SafeRun (performAll gs s)) ∧
    (∀ s : Bench Rl02 Backend, s.trace = [] →
      AllFit (WholeSectors 256 Rl02.startedBy) gs s →
      SafeRun (performAll gs s)) ∧
    (∀ s : Bench Rp06 Backend, s.trace = [] →
      AllFit (WholeSectors 512 Rp06.startedBy) gs s →
      SafeRun (performAll gs s)) := by
  have hempty : ∀ {ρ : Type} {s : Bench ρ Backend}, s.trace = [] →
      CallsAligned s := by
    intro ρ s hs e he
    rw [hs] at he
    cases he
  refine ⟨fun s hs hfit => ?_, fun s hs hfit => ?_, fun s hs hfit => ?_⟩
  · exact safeRun_of_after (performAll_after
      (fun g t ht => Rk05.callsAligned_perform g ht) (hempty hs) hfit)
  · exact safeRun_of_after (performAll_after
      (fun g t ht => Rl02.callsAligned_perform g ht) (hempty hs) hfit)
  · exact safeRun_of_after (performAll_after
      (fun g t ht => Rp06.callsAligned_perform g ht) (hempty hs) hfit)

end Sequences

section Examples

/-- An RK05 with one drive and all registers clear. -/
def oneDriveRk05 (b : Backend) : Bench Rk05 Backend where
  controller := { registers := fun _ => 0, xferBuffer := fun _ => 0 }
  fhs := [some b]
  ram := { size := 0o20000, m := fun _ => 0 }
  requests := []
  trace := []

/-- Write the word count, then the command READ with GO. -/
def readCommand (wc : Word) : List GuestAccess :=
  [.writeWord Rk05.RK05_WC wc, .writeWord Rk05.RK05_CS 5]

/-- A transfer of one sector, with a word count of minus 256. -/
theorem whole_sector_transfers_are_safe_one :
    SafeRun (performAll (readCommand (-256))
      (oneDriveRk05 (threeSectors false))) := by
  refine (whole_sector_transfers_are_safe (readCommand (-256))).1 _ rfl ?_
  refine ⟨nofun, fun t ht => ⟨fun n hn => ?_, fun _ _ => trivial⟩⟩
  injection ht with _ ht
  subst ht
  obtain rfl : 512 = n := by
    injection hn
  exact Nat.dvd_refl _

/-- A transfer of one word trips the assertion on the length. -/
theorem one_word_transfer_asserts :
    ¬ SafeRun (performAll (readCommand (-1))
      (oneDriveRk05 (threeSectors false))) :=
  fun h => h.2 _ rfl

end Examples

end KekPdp11
