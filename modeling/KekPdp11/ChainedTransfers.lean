import KekPdp11.Lib.Lockstep
import KekPdp11.Rk05Registers

/-!
# KEK PDP-11: transfers of the RK05 in two commands

A driver that moves more than fits in one command reuses the bus address and
the disk address that the first command has left.

* `lockstep_transferLoop`: what a transfer moves depends on the buffer, the
  drives and the memory, not on the registers.
* `transferLoop_splits`: the loop of a transfer behind some of its sectors.
* `sameEffect_iff`: when two commands do what one does.
* `chains_iff`: when the registers can be reused.
-/

namespace KekPdp11

open StateExcept Slices

namespace Rk05

variable {β : Type}

section Lockstep

variable {older : List DiskEvent} {device : Nat}

/-- The same buffer and bus address. -/
structure Tied (c c' : Rk05) : Prop where
  buffer : c'.xferBuffer = c.xferBuffer
  bus : c'.getBusAddress = c.getBusAddress

/-- The same drives, memory, buffer and bus address; the log of the second one
follows on `older`. -/
structure Follows (older : List DiskEvent) (s s' : Bench Rk05 β) : Prop where
  fhs : s'.fhs = s.fhs
  ram : s'.ram = s.ram
  tied : Tied s.controller s'.controller
  trace : s'.trace = s.trace ++ older

theorem lockstep_modifyController
    {f f' : Rk05 → Rk05} (h : ∀ c c', Tied c c' → Tied (f c) (f' c')) :
    Lockstep (Follows older) (modifyController f : Command Rk05 β Unit)
      (modifyController f') :=
  .update fun _ _ hs => ⟨hs.fhs, hs.ram, h _ _ hs.tied, hs.trace⟩

theorem Tied.withBuffer
    {c c' : Rk05} (h : Tied c c') (buffer : Buffer) :
    Tied { c with xferBuffer := buffer } { c' with xferBuffer := buffer } :=
  ⟨rfl, h.bus⟩

theorem getBusAddress_fail
    (error : Word) (c : Rk05) :
    (c.fail error).getBusAddress = c.getBusAddress := by
  refine getBusAddress_congr rfl ?_
  have hcs : (c.fail error).get RK05_CS =
      c.get RK05_CS ||| (3#16 <<< 14) := rfl
  unfold extension
  rw [hcs]
  ext i hi
  interval_cases i <;> simp

theorem Tied.fail
    {c c' : Rk05} (h : Tied c c') (error : Word) :
    Tied (c.fail error) (c'.fail error) :=
  ⟨h.buffer, by rw [getBusAddress_fail, getBusAddress_fail, h.bus]⟩

theorem Tied.update
    {c c' : Rk05} (h : Tied c c') (v : Word) :
    Tied (c.updateBusAddress v) (c'.updateBusAddress v) := by
  refine ⟨h.buffer, BitVec.eq_of_toNat_eq ?_⟩
  rw [updateBusAddress_toNat, updateBusAddress_toNat, h.bus]

theorem Tied.iterate
    {c c' : Rk05} (h : Tied c c') (n : Nat) :
    Tied ((fun c => updateBusAddress c 2)^[n] c)
      ((fun c => updateBusAddress c 2)^[n] c') := by
  induction n generalizing c c' with
  | zero =>
      exact h
  | succ n ih =>
      exact ih (h.update 2)

theorem lockstep_storeBytes
    (memory : PhysAddr) (buffer : Buffer) (n i : Nat) :
    Lockstep (Follows older)
      (storeBytes memory buffer n i : Command Rk05 β Unit)
      (storeBytes memory buffer n i) := by
  induction n generalizing i with
  | zero =>
      exact .pure ()
  | succ n ih =>
      refine .bind (.update fun s s' hs => ?_) fun _ => ih _
      refine ⟨hs.fhs, ?_, hs.tied, congrArg (List.cons _) hs.trace⟩
      dsimp only
      rw [hs.ram]

theorem lockstep_loadBytes
    (memory : PhysAddr) (n i : Nat) (buffer : Buffer) :
    Lockstep (Follows older)
      (loadBytes memory n i buffer : Command Rk05 β Buffer)
      (loadBytes memory n i buffer) := by
  induction n generalizing i buffer with
  | zero =>
      exact .pure buffer
  | succ n ih =>
      refine .bind ?_ fun v => ih _ _
      refine .view_bind (fun s s' hs => by rw [hs.ram]) fun v => ?_
      refine .bind (.update fun s s' hs => ?_) fun _ => .pure v
      exact ⟨hs.fhs, hs.ram, hs.tied, congrArg (List.cons _) hs.trace⟩

theorem lockstep_callDrive
    {α : Type} (call : DiskCall β α) (log : Option α → List DiskEvent) :
    Lockstep (Follows older)
      (callDrive device call log : Command Rk05 β α)
      (callDrive device call log) := by
  intro s s' hs
  unfold callDrive
  rw [hs.fhs]
  cases s.fhs[device]? with
  | none =>
      exact ⟨rfl, hs⟩
  | some drive =>
      cases drive with
      | none =>
          exact ⟨rfl, hs⟩
      | some b =>
          have hlog : ∀ answer, log answer ++ s'.trace =
              log answer ++ s.trace ++ older := by
            intro answer
            rw [hs.trace, List.append_assoc]
          cases hcall : call b with
          | ok a b' =>
              simp only [hcall]
              exact ⟨rfl, rfl, hs.ram, hs.tied, hlog _⟩
          | error e b' =>
              simp only [hcall]
              exact ⟨rfl, rfl, hs.ram, hs.tied, hlog _⟩

theorem lockstep_transferLoop
    {γ : Type} {piece piece' : (memory disk : BitVec 32) → (cur left : Nat) →
      γ → Command Rk05 β (Bool × γ)}
    (hpiece : ∀ memory disk cur left place,
      Lockstep (Follows older) (piece memory disk cur left place)
        (piece' memory disk cur left place))
    (size passes : Nat) (memory disk : BitVec 32) (left : Nat) (place : γ) :
    Lockstep (Follows older)
      (transferLoop size piece passes memory disk left place)
      (transferLoop size piece' passes memory disk left place) := by
  induction passes generalizing memory disk left place with
  | zero =>
      exact .pure place
  | succ passes ih =>
      refine .ite (.pure place) ?_
      refine .bind (hpiece _ _ _ _ _) fun result => ?_
      exact .ite (ih _ _ _ _) (.pure _)

variable [DiskBackend β]

/-- What a pass moves does not depend on the other registers. -/
theorem lockstep_readPiece
    {v v' : Word} (hv : v' &&& 2048 = v &&& 2048)
    (memory disk : BitVec 32) (cur left : Nat) (place : Place) :
    Lockstep (Follows older)
      (readPiece v device memory disk cur left place :
        Command Rk05 β (Bool × Place))
      (readPiece v' device memory disk cur left place) := by
  unfold readPiece
  rw [hv]
  refine .view_bind (fun s s' hs => hs.tied.buffer) fun buffer => ?_
  refine .bind (lockstep_callDrive _ _) fun result => ?_
  refine .bind (lockstep_modifyController fun _ _ h => h.withBuffer _)
    fun _ => ?_
  refine .ite ?_ ?_
  · exact .bind (lockstep_modifyController fun _ _ h => h.fail _) fun _ =>
      .pure _
  · refine .bind (lockstep_storeBytes _ _ _ _) fun _ => ?_
    refine .bind (lockstep_modifyController fun c c' h => ?_) fun _ => .pure _
    split
    · exact h.iterate _
    · exact h

theorem lockstep_writePiece
    {v v' : Word} (hv : v' &&& 2048 = v &&& 2048)
    (memory disk : BitVec 32) (cur left : Nat) (place : Place) :
    Lockstep (Follows older)
      (writePiece v device memory disk cur left place :
        Command Rk05 β (Bool × Place))
      (writePiece v' device memory disk cur left place) := by
  unfold writePiece
  rw [hv]
  refine .view_bind (fun s s' hs => hs.tied.buffer) fun buffer => ?_
  refine .bind (lockstep_loadBytes _ _ _ _) fun buffer => ?_
  refine .bind (lockstep_modifyController fun _ _ h => h.withBuffer _)
    fun _ => ?_
  refine .bind (lockstep_callDrive _ _) fun ok => ?_
  refine .ite ?_ ?_
  · exact .bind (lockstep_modifyController fun _ _ h => h.fail _) fun _ =>
      .pure _
  · refine .bind (lockstep_modifyController fun c c' h => ?_) fun _ => .pure _
    split
    · exact h
    · exact h.update _

end Lockstep

section Splitting

variable {v : Word} {reads : Bool} {device b : Nat}

/-- More passes than bytes make no difference. -/
theorem transferLoop_passes
    {γ : Type} {piece : (memory disk : BitVec 32) → (cur left : Nat) → γ →
      Command Rk05 β (Bool × γ)}
    (passes : Nat) (memory disk : BitVec 32) (left : Nat) (place : γ)
    (hpasses : left ≤ passes) :
    transferLoop 512 piece passes memory disk left place =
      transferLoop 512 piece left memory disk left place := by
  induction passes using Nat.strongRecOn generalizing memory disk left place
    with
  | ind passes ih =>
      cases left with
      | zero =>
          cases passes <;> rfl
      | succ left =>
          obtain ⟨passes, rfl⟩ := Nat.exists_eq_add_of_le' hpasses
          rw [show passes + (left + 1) = passes + left + 1 by omega]
          unfold transferLoop
          rw [if_neg (Nat.succ_ne_zero _), if_neg (Nat.succ_ne_zero _)]
          dsimp only
          congr
          funext result
          split
          · rw [ih (passes + left) (by omega) _ _ _ _ (by omega),
              ih left (by omega) _ _ (left + 1 - min 512 (left + 1)) _
                (by omega)]
          · rfl

/-- One pass of the loop. -/
theorem transferLoop_pass
    {γ : Type} {piece : (memory disk : BitVec 32) → (cur left : Nat) → γ →
      Command Rk05 β (Bool × γ)}
    (memory disk : BitVec 32) {left : Nat} (hleft : left ≠ 0) (place : γ) :
    transferLoop 512 piece left memory disk left place = (do
      let (goOn, place) ← piece memory disk (min 512 left) left place
      if goOn then
        transferLoop 512 piece (left - min 512 left)
          (memory + BitVec.ofNat 32 (min 512 left))
          (disk + BitVec.ofNat 32 (min 512 left)) (left - min 512 left) place
      else
        pure place) := by
  obtain ⟨passes, rfl⟩ := Nat.exists_eq_succ_of_ne_zero hleft
  conv_lhs => unfold transferLoop
  rw [if_neg hleft]
  dsimp only
  congr
  funext result
  split
  · rw [transferLoop_passes passes _ _ _ _ (by omega)]
  · rfl

variable [DiskBackend β]

theorem piece_left
    (memory disk : BitVec 32) (cur left left' : Nat) (place : Place) :
    (piece reads v device memory disk cur left place :
      Command Rk05 β (Bool × Place)) =
      piece reads v device memory disk cur left' place := by
  cases reads <;> rfl

/-- The loop of a transfer that does not fail goes through the state in which a
transfer of its first `k` sectors ends. -/
theorem transferLoop_splits
    (k rest : Nat) (memory disk : BitVec 32) (place : Place)
    {p : Place} {s u : Bench Rk05 β}
    (hloop : transferLoop 512 (piece reads v device) (512 * k + rest) memory
      disk (512 * k + rest) place s = .ok p u)
    (hu : ¬ Failed u) (hb : b < 2 ^ 18) (hs : AtBus b s) :
    ∃ t, transferLoop 512 (piece reads v device) (512 * k) memory disk
        (512 * k) place s = .ok (Place.next^[k] place) t ∧
      AtBus (advanced v reads b (512 * k)) t ∧
      transferLoop 512 (piece reads v device) rest
        (memory + BitVec.ofNat 32 (512 * k))
        (disk + BitVec.ofNat 32 (512 * k)) rest (Place.next^[k] place) t =
          .ok p u := by
  induction k generalizing memory disk place s b with
  | zero =>
      refine ⟨s, rfl, ?_, ?_⟩
      · rw [Nat.mul_zero, advanced_zero hb]
        exact hs
      · rw [Nat.mul_zero, Nat.zero_add] at hloop
        simpa using hloop
  | succ k ih =>
      have hmin : ∀ n, min 512 (512 * (k + 1) + n) = 512 := by
        omega
      have hless : ∀ n, 512 * (k + 1) + n - 512 = 512 * k + n := by
        omega
      rw [transferLoop_pass _ _ (by omega), hmin, hless] at hloop
      obtain ⟨⟨goOn, place'⟩, t, hpiece, hrest⟩ := bind_eq_ok hloop
      have hadvances := (piece_advances memory disk (Nat.le_refl 512) _
        place).ok hs hpiece
      cases goOn with
      | false =>
          injection hrest with _ hu'
          rw [← hu'] at hu
          exact absurd hadvances hu
      | true =>
          obtain ⟨rfl, ht⟩ := hadvances
          obtain ⟨t', hloop', ht', hrest'⟩ := ih _ _ _ hrest (by
            unfold advanced
            split
            · exact hb
            · exact Nat.mod_lt _ (by decide)) ht
          have hsum : ∀ a : BitVec 32, a + BitVec.ofNat 32 512 +
              BitVec.ofNat 32 (512 * k) =
                a + BitVec.ofNat 32 (512 * (k + 1)) := by
            intro a
            rw [BitVec.add_assoc, ← BitVec.ofNat_add]
            congr 2
            omega
          rw [advanced_add, show 512 + 512 * k = 512 * (k + 1) by omega]
            at ht'
          rw [hsum, hsum] at hrest'
          refine ⟨t', ?_, ht', hrest'⟩
          have hzero := hmin 0
          have hless' := hless 0
          rw [Nat.add_zero] at hzero hless'
          rw [transferLoop_pass _ _ (by omega), hzero, hless',
            piece_left _ _ _ _ (512 * (k + 1) + rest), bind_of_ok hpiece]
          exact hloop'

end Splitting

section Chained

variable {v : Word} {reads : Bool} {k : Nat}

/-- The command word of the second command: with the bits of the bus address
that the first one has left in the control register. -/
def resumed (v cs : Word) : Word :=
  (v &&& ~~~0x30) ||| (cs &&& 0x30)

/-- A transfer in two commands, the first one for `k` sectors of it. -/
def splitTransfer [DiskBackend β] (v : Word) (k : Nat) :
    Command Rk05 β Unit := do
  let wc ← controllerView fun c => c.get RK05_WC
  writeWord RK05_WC (-BitVec.ofNat 16 (256 * k))
  writeWord RK05_CS v
  writeWord RK05_WC (wc + BitVec.ofNat 16 (256 * k))
  let cs ← controllerView fun c => c.get RK05_CS
  writeWord RK05_CS (resumed v cs)

/-- What two runs leave is the same: the drives, the memory, which bytes have
been moved between them, and the registers of a transfer. -/
structure SameOutcome (u u' : Bench Rk05 β) : Prop where
  fhs : u'.fhs = u.fhs
  ram : u'.ram = u.ram
  trace : u'.trace = u.trace
  count : u'.controller.get RK05_WC = u.controller.get RK05_WC
  address : u'.controller.get RK05_DA = u.controller.get RK05_DA
  bus : u'.controller.getBusAddress = u.controller.getBusAddress

/-- Both commands return, with the same outcome. -/
def SameEffect (r r' : EStateM.Result DiskStop (Bench Rk05 β) Unit) : Prop :=
  ∃ u u', r = .ok () u ∧ r' = .ok () u' ∧ SameOutcome u u'

theorem resumed_transfers
    (hv : Transfers v reads) (cs : Word) :
    Transfers (resumed v cs) reads := by
  obtain ⟨hgo, hfunction⟩ := hv
  refine ⟨?_, ?_⟩
  · have hbit : resumed v cs &&& 1 = v &&& 1 := by
      unfold resumed
      ext i hi
      interval_cases i <;> simp
    rw [hbit]
    exact hgo
  · have hbits : (resumed v cs >>> 1) &&& (7 : Word) = (v >>> 1) &&& 7 := by
      unfold resumed
      ext i hi
      interval_cases i <;> simp
    rw [hbits]
    exact hfunction

theorem resumed_inhibit
    (v cs : Word) :
    resumed v cs &&& 2048 = v &&& 2048 := by
  unfold resumed
  ext i hi
  interval_cases i <;> simp

/-- The bus address is not changed by the second command word. -/
theorem getBusAddress_resumed
    (v : Word) (c : Rk05) :
    (c.set RK05_CS (resumed v (c.get RK05_CS))).getBusAddress =
      c.getBusAddress := by
  refine getBusAddress_congr rfl ?_
  unfold extension
  rw [get_set_self]
  unfold resumed
  ext i hi
  interval_cases i <;> simp

theorem diskOffset_toNat
    (da : Word) :
    (diskOffset da).toNat = sectorNumber da * 512 :=
  toNat_diskOffset ⟨fun _ => da, fun _ => 0⟩

theorem memoryBytes_append
    (newer older : List DiskEvent) :
    memoryBytes (newer ++ older) =
      memoryBytes older ++ memoryBytes newer := by
  induction newer with
  | nil =>
      simp [memoryBytes]
  | cons e newer ih =>
      cases e <;> simp [memoryBytes, ih]

/-- In the log of a transfer, what follows on its first bytes starts behind
them. -/
theorem memory_of_moves
    {memory memory' : PhysAddr} {disk disk' n : Nat}
    {older newer : List DiskEvent}
    (h : Moves reads memory disk (k + n) (newer ++ older))
    (holder : Moves reads memory disk k older)
    (hnewer : Moves reads memory' disk' n newer) (hpos : 0 < n) :
    memory' = memory + BitVec.ofNat 32 k := by
  obtain ⟨-, data, -, hmemory⟩ := h
  obtain ⟨-, data₁, -, hmemory₁⟩ := holder
  obtain ⟨-, data₂, -, hmemory₂⟩ := hnewer
  rw [memoryBytes_append, hmemory₁, hmemory₂, slice_add] at hmemory
  have hsecond := (List.append_inj hmemory (by
    rw [length_slice, length_slice])).2
  have hfirst := congrArg Prod.fst (slice_eq_iff.mp hsecond 0 hpos)
  simpa using hfirst

/-- The word count register, written by the driver. -/
def withCount (w : Word) (s : Bench Rk05 β) : Bench Rk05 β :=
  { s with controller := s.controller.set RK05_WC w }

theorem Follows.refl
    (s : Bench Rk05 β) :
    Follows [] s s :=
  ⟨rfl, rfl, ⟨rfl, rfl⟩, (List.append_nil _).symm⟩

theorem Follows.trans
    {older : List DiskEvent} {s s' s'' : Bench Rk05 β}
    (h : Follows [] s s') (h' : Follows older s' s'') :
    Follows older s s'' := by
  refine ⟨h'.fhs.trans h.fhs, h'.ram.trans h.ram,
    ⟨h'.tied.buffer.trans h.tied.buffer, h'.tied.bus.trans h.tied.bus⟩, ?_⟩
  rw [h'.trace, h.trace, List.append_nil]

theorem Concluded.follows
    {p : Place} {t u : Bench Rk05 β} (h : Concluded p t u) :
    Follows [] t u :=
  ⟨h.fhs, h.ram, ⟨h.buffer, h.bus⟩, by rw [h.trace, List.append_nil]⟩

/-- Starting a command changes neither the buffer nor, for the command word
that is left in the register, the bus address. -/
theorem begun_follows
    (v w : Word) (u : Bench Rk05 β) :
    Follows [] u
      (begun (resumed v (u.controller.get RK05_CS)) (withCount w u)) := by
  refine ⟨rfl, rfl, ⟨rfl, ?_⟩, (List.append_nil _).symm⟩
  rw [begun_bus]
  exact getBusAddress_resumed v (withCount w u).controller

theorem selected_address
    {p : Place} (h : p.Fits) (hlt : p.cylinder.toNat < 256) {c : Rk05}
    (hda : c.get RK05_DA = p.address) :
    c.selected = 0 := by
  unfold selected
  rw [hda, (address_fields h).1]
  omega

theorem recordLength_of_sectors
    (hk : 0 < k) (hlt : k ≤ 128) :
    recordLength (-BitVec.ofNat 16 (256 * k)) = 512 * k := by
  have hneg : (-BitVec.ofNat 16 (256 * k)).toNat = 65536 - 256 * k := by
    rw [BitVec.toNat_neg, BitVec.toNat_ofNat]
    omega
  rw [recordLength_toNat, hneg, if_neg (by omega)]
  omega

theorem recordLength_of_rest
    {w : Word} {rest : Nat} (hw : 0x8000 ≤ w.toNat)
    (hbytes : wordCountBytes w = 512 * k + rest) (hrest : 0 < rest) :
    recordLength (w + BitVec.ofNat 16 (256 * k)) = rest := by
  have hlt := w.isLt
  unfold wordCountBytes at hbytes
  have hsum : (w + BitVec.ofNat 16 (256 * k)).toNat =
      w.toNat + 256 * k := by
    rw [BitVec.toNat_add, BitVec.toNat_ofNat]
    omega
  rw [recordLength_toNat, hsum, if_neg (by omega)]
  omega

variable [DiskBackend β]

theorem lockstep_piece
    {older : List DiskEvent} {v' : Word} (hv : v' &&& 2048 = v &&& 2048)
    (device : Nat) (memory disk : BitVec 32) (cur left : Nat)
    (place : Place) :
    Lockstep (Follows older)
      (piece reads v device memory disk cur left place :
        Command Rk05 β (Bool × Place))
      (piece reads v' device memory disk cur left place) := by
  cases reads with
  | false =>
      exact lockstep_writePiece hv memory disk cur left place
  | true =>
      exact lockstep_readPiece hv memory disk cur left place

/-- The second of the two commands. -/
theorem splitTransfer_apply
    {s u₁ : Bench Rk05 β}
    (h : writeWord RK05_CS v
      (withCount (-BitVec.ofNat 16 (256 * k)) s) = .ok () u₁) :
    splitTransfer v k s =
      writeWord RK05_CS (resumed v (u₁.controller.get RK05_CS))
        (withCount
          (s.controller.get RK05_WC + BitVec.ofNat 16 (256 * k)) u₁) := by
  have hfirst : splitTransfer v k s =
      (writeWord RK05_CS v >>= fun _ => do
        writeWord RK05_WC
          (s.controller.get RK05_WC + BitVec.ofNat 16 (256 * k))
        let cs ← controllerView fun c => c.get RK05_CS
        writeWord RK05_CS (resumed v cs) : Command Rk05 β Unit)
        (withCount (-BitVec.ofNat 16 (256 * k)) s) := rfl
  rw [hfirst, bind_of_ok h]
  rfl

/-- The first of the two commands ends where the one command is behind its
first sectors. -/
theorem first_command
    (hv : Transfers v reads) {s u : Bench Rk05 β}
    (hpresent : s.controller.selected < s.fhs.length)
    (hrun : writeWord RK05_CS v s = .ok () u) (hu : ¬ Failed u)
    {rest : Nat} (hk : 0 < k) (hlt : k ≤ 128)
    (hbytes : recordLength (s.controller.get RK05_WC) = 512 * k + rest) :
    ∃ p t t₁ u₁,
      writeWord RK05_CS v
        (withCount (-BitVec.ofNat 16 (256 * k)) s) = .ok () u₁ ∧
      Follows [] t₁ u₁ ∧
      u₁.controller.get RK05_DA =
        (Place.next^[k] (place (s.controller.get RK05_DA))).address ∧
      AtBus (advanced v reads (s.controller.programmedBus v) (512 * k)) u₁ ∧
      Concluded p t u ∧
      transferLoop 512 (piece reads v s.controller.selected) rest
        ((s.controller.set RK05_CS v).getBusAddress +
          BitVec.ofNat 32 (512 * k))
        (diskOffset (s.controller.get RK05_DA) + BitVec.ofNat 32 (512 * k))
        rest (Place.next^[k] (place (s.controller.get RK05_DA))) t₁ =
          .ok p t := by
  obtain ⟨p, t, hloop, hconcluded⟩ := loop_of_writeWord hv hpresent hrun
  have ht : ¬ Failed t := by
    unfold Failed at hu ⊢
    rw [← hconcluded.trace]
    exact hu
  have hbus : AtBus (s.controller.programmedBus v) (begun v s) := by
    unfold AtBus
    rw [begun_bus, toNat_getBusAddress]
  rw [hbytes] at hloop
  obtain ⟨t₁, hfirst, hat, hrest⟩ :=
    transferLoop_splits k rest _ _ _ hloop ht (programmedBus_lt v _) hbus
  have hfollows : Follows [] (begun v s)
      (begun v (withCount (-BitVec.ofNat 16 (256 * k)) s)) :=
    ⟨rfl, rfl, ⟨rfl, rfl⟩, (List.append_nil _).symm⟩
  obtain ⟨t₁', hfirst', ht₁⟩ :=
    (lockstep_transferLoop (lockstep_piece rfl _) _ _ _ _ _ _).ok hfollows
      hfirst
  rw [← recordLength_of_sectors hk hlt] at hfirst'
  obtain ⟨u₁, hu₁, hconcluded₁⟩ := writeWord_of_loop
    (s := withCount (-BitVec.ofNat 16 (256 * k)) s) hv hpresent hfirst'
  have hend := ht₁.trans hconcluded₁.follows
  refine ⟨p, t, t₁, u₁, hu₁, hend, hconcluded₁.address, ?_, hconcluded,
    hrest⟩
  unfold AtBus at hat ⊢
  rw [hend.tied.bus]
  exact hat

omit [DiskBackend β] in
theorem loaded_callDrive
    {α : Type} {device : Nat} (call : DiskCall β α)
    (log : Option α → List DiskEvent) :
    Keeps (Loaded device) (callDrive device call log : Command Rk05 β α) := by
  intro s hs
  obtain ⟨answer, t, hloaded, -, hrun⟩ := callDrive_of_loaded call log hs
  cases answer with
  | some a =>
      rw [hrun]
      exact hloaded
  | none =>
      obtain ⟨e, hrun⟩ := hrun
      rw [hrun]
      exact hloaded

theorem loaded_piece
    (device : Nat) (memory disk : BitVec 32) (cur left : Nat)
    (place : Place) :
    Keeps (Loaded device)
      (piece reads v device memory disk cur left place :
        Command Rk05 β (Bool × Place)) := by
  have hmodify : ∀ f : Rk05 → Rk05, Keeps (Loaded device)
      (modifyController f : Command Rk05 β Unit) :=
    fun _ => .update fun _ hs => hs
  cases reads with
  | false =>
      refine .view_bind_any fun buffer => ?_
      refine .bind (loadBytes_loaded _ _ _ _) fun buffer => ?_
      refine .bind (hmodify _) fun _ => ?_
      refine .bind (loaded_callDrive _ _) fun ok => ?_
      refine .ite (fun _ => ?_) fun _ => ?_
      · exact .bind (hmodify _) fun _ => .pure fun _ hs => hs
      · exact .bind (hmodify _) fun _ => .pure fun _ hs => hs
  | true =>
      refine .view_bind_any fun buffer => ?_
      refine .bind (loaded_callDrive _ _) fun result => ?_
      refine .bind (hmodify _) fun _ => ?_
      refine .ite (fun _ => ?_) fun _ => ?_
      · exact .bind (hmodify _) fun _ => .pure fun _ hs => hs
      · refine .bind (storeBytes_loaded _ _ _ _) fun _ => ?_
        exact .bind (hmodify _) fun _ => .pure fun _ hs => hs

theorem loaded_transferLoop
    (device passes : Nat) (memory disk : BitVec 32) (left : Nat)
    (place : Place) :
    Keeps (Loaded device)
      (transferLoop 512 (piece reads v device) passes memory disk left place :
        Command Rk05 β Place) := by
  induction passes generalizing memory disk left place with
  | zero =>
      exact .pure fun _ hs => hs
  | succ passes ih =>
      refine .ite (fun _ => .pure fun _ hs => hs) fun _ => ?_
      refine .bind (loaded_piece _ _ _ _ _ _) fun result => ?_
      exact .ite (fun _ => ih _ _ _ _) fun _ => .pure fun _ hs => hs

/-- A command leaves its drive loaded. -/
theorem loaded_writeWord
    (hv : Transfers v reads) {s u : Bench Rk05 β}
    (hloaded : Loaded s.controller.selected s)
    (hrun : writeWord RK05_CS v s = .ok () u) :
    Loaded s.controller.selected u := by
  obtain ⟨p, t, hloop, hconcluded⟩ :=
    loop_of_writeWord hv (Bench.lt_of_drive hloaded) hrun
  have ht := (loaded_transferLoop s.controller.selected _ _ _ _ _).ok
    (show Loaded s.controller.selected (begun v s) from hloaded) hloop
  unfold Loaded Bench.drive at ht ⊢
  rw [hconcluded.fhs]
  exact ht

/-- The bytes of the second command follow on those of the first one in the log,
but in the log of the one command only if they do so in memory. -/
theorem advanced_of_sameOutcome
    (hv : Transfers v reads) {s u u₁ u₂ : Bench Rk05 β} {b m n : Nat}
    {w w' : Word} (htrace : s.trace = [])
    (hloaded : Loaded s.controller.selected s)
    (hrun : writeWord RK05_CS v s = .ok () u) (hu : ¬ Failed u)
    (hu₁ : writeWord RK05_CS v (withCount w s) = .ok () u₁)
    (hlength : recordLength (s.controller.get RK05_WC) = m + n)
    (hfirst : recordLength w = m)
    (hsecond : recordLength ((withCount w' u₁).controller.get RK05_WC) = n)
    (hpos : 0 < n) (hselected : u₁.controller.selected = 0)
    (hloaded₁ : Loaded 0 u₁) (hbus : AtBus b u₁)
    (hu₂ : writeWord RK05_CS (resumed v (u₁.controller.get RK05_CS))
      (withCount w' u₁) = .ok () u₂)
    (hsame : u₂.trace = u.trace) :
    b = s.controller.programmedBus v + m := by
  have hv₂ := resumed_transfers hv (u₁.controller.get RK05_CS)
  have hpresent₂ : (withCount w' u₁).controller.selected <
      (withCount w' u₁).fhs.length := by
    change u₁.controller.selected < u₁.fhs.length
    rw [hselected]
    exact Bench.lt_of_drive hloaded₁
  -- The second command on its own, from an empty log.
  obtain ⟨p, t₂, hloop, hconcluded⟩ := loop_of_writeWord hv₂ hpresent₂ hu₂
  have hfollows : Follows u₁.trace
      (begun (resumed v (u₁.controller.get RK05_CS))
        { withCount w' u₁ with trace := [] })
      (begun (resumed v (u₁.controller.get RK05_CS)) (withCount w' u₁)) :=
    ⟨rfl, rfl, ⟨rfl, rfl⟩, rfl⟩
  obtain ⟨t₂', hloop', ht₂⟩ := (lockstep_transferLoop
    (lockstep_piece rfl _) _ _ _ _ _ _).ok_left hfollows hloop
  obtain ⟨u₂', hu₂', hconcluded'⟩ := writeWord_of_loop
    (s := { withCount w' u₁ with trace := [] }) hv₂ hpresent₂ hloop'
  have htrace₂ : u.trace = u₂'.trace ++ u₁.trace := by
    rw [← hsame, hconcluded.trace, ht₂.trace, hconcluded'.trace]
  have hsucceed : AccessesSucceed (u₂'.trace ++ u₁.trace) := by
    rw [← htrace₂]
    exact not_not.mp hu
  have hended := writeWord_ended hv htrace hloaded
  have hended₁ := writeWord_ended (s := withCount w s) hv htrace hloaded
  have hended₂ := writeWord_ended
    (s := { withCount w' u₁ with trace := [] }) hv₂ rfl (by
      change (u₁.drive u₁.controller.selected).isSome = true
      rw [hselected]
      exact hloaded₁)
  rw [hrun] at hended
  rw [hu₁] at hended₁
  rw [hu₂'] at hended₂
  have hmoves := Or.resolve_right hended hu
  have hmoves₁ := Or.resolve_right hended₁ fun hfailed => hfailed fun e he =>
    hsucceed e (List.mem_append_right _ he)
  have hmoves₂ := Or.resolve_right hended₂ fun hfailed => hfailed fun e he =>
    hsucceed e (List.mem_append_left _ he)
  have hcount₁ : recordLength ((withCount w s).controller.get RK05_WC) = m := by
    rw [← hfirst]
    exact congrArg recordLength (get_set_self _ _ _)
  rw [hlength, htrace₂] at hmoves
  rw [hcount₁] at hmoves₁
  change Moves reads _ _
    (recordLength ((withCount w' u₁).controller.get RK05_WC)) _ at hmoves₂
  rw [hsecond] at hmoves₂
  have hmemory := memory_of_moves hmoves hmoves₁ hmoves₂ hpos
  have hprogrammed : u₁.controller.getBusAddress.toNat =
      (withCount w' u₁).controller.programmedBus
        (resumed v (u₁.controller.get RK05_CS)) := by
    rw [← toNat_getBusAddress]
    exact congrArg BitVec.toNat
      (getBusAddress_resumed v (withCount w' u₁).controller).symm
  have hlt := programmedBus_lt v s.controller
  have hlt₁ := u₁.controller.getBusAddress_lt
  have hm := recordLength_le (s.controller.get RK05_WC)
  unfold AtBus at hbus
  have hnat := congrArg BitVec.toNat hmemory
  rw [BitVec.toNat_add, BitVec.toNat_ofNat, BitVec.toNat_ofNat,
    BitVec.toNat_ofNat] at hnat
  change (withCount w' u₁).controller.programmedBus
    (resumed v (u₁.controller.get RK05_CS)) % _ = _ at hnat
  omega

/-- Two commands have the effect of one if and only if the bus address that the
first one leaves is where the second half of the transfer starts. -/
theorem sameEffect_iff
    (hv : Transfers v reads) {s u : Bench Rk05 β} (htrace : s.trace = [])
    (hloaded : Loaded s.controller.selected s)
    (hsector : (s.controller.get RK05_DA).toNat % 16 < 12)
    (hcount : 0x8000 ≤ (s.controller.get RK05_WC).toNat)
    (hzero : s.controller.selected = 0)
    (hdisk : sectorNumber (s.controller.get RK05_DA) +
      sectorsOf (wordCountBytes (s.controller.get RK05_WC)) < 6144)
    (hrun : writeWord RK05_CS v s = .ok () u) (hu : ¬ Failed u)
    (hk : 0 < k)
    (hlt : k < sectorsOf (wordCountBytes (s.controller.get RK05_WC))) :
    SameEffect (writeWord RK05_CS v s) (splitTransfer v k s) ↔
      advanced v reads (s.controller.programmedBus v) (512 * k) =
        s.controller.programmedBus v + 512 * k := by
  have hlength := (recordLength_eq_iff _).mpr hcount
  obtain ⟨rest, hrest, hbytes⟩ : ∃ rest, 0 < rest ∧
      wordCountBytes (s.controller.get RK05_WC) = 512 * k + rest := by
    unfold sectorsOf at hlt
    exact ⟨wordCountBytes (s.controller.get RK05_WC) - 512 * k, by omega,
      by omega⟩
  have hk' : k ≤ 128 := by
    have hmost := recordLength_le (s.controller.get RK05_WC)
    omega
  have hpresent := Bench.lt_of_drive hloaded
  obtain ⟨p, t, t₁, u₁, hu₁, hfollows, hda, hbus, hconcluded, hloop⟩ :=
    first_command hv hpresent hrun hu hk hk' (hlength.trans hbytes)
  obtain ⟨hfits, hnumber⟩ := iterate_place hsector hk'
  have hcylinder : (Place.next^[k]
      (place (s.controller.get RK05_DA))).cylinder.toNat < 256 := by
    unfold Place.number at hnumber
    omega
  have hselected := selected_address hfits hcylinder hda
  have hloaded₁ : Loaded 0 u₁ := by
    have hkept := loaded_writeWord hv
      (s := withCount (-BitVec.ofNat 16 (256 * k)) s) hloaded hu₁
    have hsame : (withCount (-BitVec.ofNat 16 (256 * k)) s).controller.selected
        = 0 := hzero
    rw [hsame] at hkept
    exact hkept
  have hv₂ := resumed_transfers hv (u₁.controller.get RK05_CS)
  have hdisk₂ : diskOffset (u₁.controller.get RK05_DA) =
      diskOffset (s.controller.get RK05_DA) + BitVec.ofNat 32 (512 * k) := by
    apply BitVec.eq_of_toNat_eq
    rw [BitVec.toNat_add, diskOffset_toNat, diskOffset_toNat,
      BitVec.toNat_ofNat, hda, (address_fields hfits).2.2]
    unfold Place.number at hnumber
    omega
  have hplace₂ : place (u₁.controller.get RK05_DA) =
      Place.next^[k] (place (s.controller.get RK05_DA)) := by
    rw [hda, place_address hfits hcylinder]
  have hwc₂ : recordLength ((withCount (s.controller.get RK05_WC +
      BitVec.ofNat 16 (256 * k)) u₁).controller.get RK05_WC) = rest := by
    have hget : (withCount (s.controller.get RK05_WC +
        BitVec.ofNat 16 (256 * k)) u₁).controller.get RK05_WC =
          s.controller.get RK05_WC + BitVec.ofNat 16 (256 * k) :=
      get_set_self _ _ _
    rw [hget, recordLength_of_rest hcount hbytes hrest]
  have hbus₂ := getBusAddress_resumed v (withCount (s.controller.get RK05_WC +
    BitVec.ofNat 16 (256 * k)) u₁).controller
  rw [splitTransfer_apply hu₁]
  constructor
  · intro h
    obtain ⟨u', u₂, hu', hu₂, houtcome⟩ := h
    have huu : EStateM.Result.ok () u = .ok () u' := hrun.symm.trans hu'
    injection huu with _ huu
    subst huu
    exact advanced_of_sameOutcome hv htrace hloaded hrun hu hu₁
      (hlength.trans hbytes) (recordLength_of_sectors hk hk') hwc₂ hrest
      hselected hloaded₁ hbus hu₂ houtcome.trace
  · intro hadvanced
    have hmemory : u₁.controller.getBusAddress =
        (s.controller.set RK05_CS v).getBusAddress +
          BitVec.ofNat 32 (512 * k) := by
      have hlt' := u₁.controller.getBusAddress_lt
      unfold AtBus at hbus
      apply BitVec.eq_of_toNat_eq
      rw [BitVec.toNat_add, toNat_getBusAddress, BitVec.toNat_ofNat, hbus,
        hadvanced]
      omega
    obtain ⟨t₂, hloop₂, ht₂⟩ := (lockstep_transferLoop (lockstep_piece
      (resumed_inhibit v (u₁.controller.get RK05_CS)) _) _ _ _ _ _ _).ok
        (hfollows.trans (begun_follows v (s.controller.get RK05_WC +
          BitVec.ofNat 16 (256 * k)) u₁)) hloop
    obtain ⟨u₂, hu₂, hconcluded₂⟩ := writeWord_of_loop
      (s := withCount (s.controller.get RK05_WC +
        BitVec.ofNat 16 (256 * k)) u₁) hv₂ (by
          change u₁.controller.selected < u₁.fhs.length
          rw [hselected]
          exact Bench.lt_of_drive hloaded₁) (by
        rw [hwc₂]
        change transferLoop 512 (piece reads _ u₁.controller.selected) rest
          ((withCount _ u₁).controller.set RK05_CS _).getBusAddress
          (diskOffset (u₁.controller.get RK05_DA)) rest
          (place (u₁.controller.get RK05_DA)) _ = _
        rw [hselected, ← hzero, hdisk₂, hplace₂]
        have hbus' : ((withCount (s.controller.get RK05_WC +
          BitVec.ofNat 16 (256 * k)) u₁).controller.set RK05_CS
            (resumed v (u₁.controller.get RK05_CS))).getBusAddress =
              (s.controller.set RK05_CS v).getBusAddress +
                BitVec.ofNat 32 (512 * k) := hbus₂.trans hmemory
        rw [hbus']
        exact hloop₂)
    have hend := ht₂.trans hconcluded₂.follows
    refine ⟨u, u₂, hrun, hu₂, ?_, ?_, ?_, ?_, ?_, ?_⟩
    · rw [hend.fhs, hconcluded.fhs]
    · rw [hend.ram, hconcluded.ram]
    · rw [hend.trace, hconcluded.trace, List.append_nil]
    · rw [hconcluded₂.count, hconcluded.count]
    · rw [hconcluded₂.address, hconcluded.address]
    · rw [hend.tied.bus, hconcluded.bus]

/-- The registers behind a command are those that a driver expects, and behind
any of its sectors it can be split in two. -/
def Chains (v : Word) (s : Bench Rk05 β) : Prop :=
  (∃ u, writeWord RK05_CS v s = .ok () u ∧
    CountedOn v s.controller u.controller) ∧
    ∀ k, 0 < k →
      k < sectorsOf (wordCountBytes (s.controller.get RK05_WC)) →
      SameEffect (writeWord RK05_CS v s) (splitTransfer v k s)

/-- A transfer whose accesses succeed leaves the registers that a driver expects
if and only if the word count is negative as a signed number, the drive is the
first one and the sectors end before the end of the disk, and: with the bus
address inhibited, it is of one sector; otherwise, it is a write whose sectors
start below the end of the addresses of 18 bits. -/
theorem chains_iff
    (hv : Transfers v reads) {s : Bench Rk05 β} (htrace : s.trace = [])
    (hloaded : (s.drive s.controller.selected).isSome = true)
    (hsector : (s.controller.get RK05_DA).toNat % 16 < 12)
    (hsucceed : AccessesSucceed (final (writeWord RK05_CS v s)).trace) :
    Chains v s ↔
      0x8000 ≤ (s.controller.get RK05_WC).toNat ∧
        s.controller.selected = 0 ∧
        sectorNumber (s.controller.get RK05_DA) +
          sectorsOf (wordCountBytes (s.controller.get RK05_WC)) < 6144 ∧
        if v &&& 2048 ≠ 0 then
          sectorsOf (wordCountBytes (s.controller.get RK05_WC)) = 1
        else
          reads = false ∧ s.controller.programmedBus v + 512 *
            (sectorsOf (wordCountBytes (s.controller.get RK05_WC)) - 1) <
              2 ^ 18 := by
  have hended := writeWord_ended hv htrace hloaded
  have hbus := programmedBus_lt v s.controller
  have hsome : 0 < sectorsOf (wordCountBytes (s.controller.get RK05_WC)) := by
    have hpos := wordCountBytes_pos (s.controller.get RK05_WC)
    unfold sectorsOf
    omega
  cases hrun : writeWord RK05_CS v s with
  | error e u =>
      rw [hrun] at hended hsucceed
      exact absurd hsucceed hended
  | ok a u =>
      rw [hrun] at hsucceed
      have hu : ¬ Failed u := not_not.mpr hsucceed
      have hregisters :=
        countedOn_iff hv (Bench.lt_of_drive hloaded) hsector hrun hu
      have hchains : Chains v s ↔ CountedOn v s.controller u.controller ∧
          ∀ k, 0 < k →
            k < sectorsOf (wordCountBytes (s.controller.get RK05_WC)) →
            SameEffect (writeWord RK05_CS v s) (splitTransfer v k s) := by
        refine and_congr_left fun _ => ⟨?_, fun h => ⟨u, hrun, h⟩⟩
        rintro ⟨u', hu', h⟩
        have huu : EStateM.Result.ok () u = .ok () u' := hrun.symm.trans hu'
        injection huu with _ huu
        exact huu ▸ h
      rw [hchains, hregisters]
      constructor
      · rintro ⟨⟨hcount, hzero, hdisk, hinhibit⟩, hsplits⟩
        refine ⟨hcount, hzero, hdisk, ?_⟩
        have hadvanced := fun k hk hlt =>
          (sameEffect_iff hv htrace hloaded hsector hcount hzero hdisk hrun hu
            hk hlt).mp (hsplits k hk hlt)
        unfold advanced at hadvanced
        split
        · next hset =>
            by_contra hmore
            have hone := hadvanced 1 Nat.one_pos (by omega)
            rw [if_pos hset] at hone
            omega
        · next hclear =>
            have hwrites : reads = false := by
              cases reads with
              | false =>
                  rfl
              | true =>
                  exact absurd (hinhibit rfl) hclear
            refine ⟨hwrites, ?_⟩
            by_contra hwraps
            have hlast := hadvanced
              (sectorsOf (wordCountBytes (s.controller.get RK05_WC)) - 1)
              (by omega) (by omega)
            rw [if_neg hclear, hwrites] at hlast
            simp only [Bool.false_eq_true, if_false] at hlast
            omega
      · rintro ⟨hcount, hzero, hdisk, hbits⟩
        refine ⟨⟨hcount, hzero, hdisk, ?_⟩, fun k hk hlt => ?_⟩
        · intro hreads hclear
          rw [if_neg (not_not.mpr hclear)] at hbits
          rw [hbits.1] at hreads
          cases hreads
        · rw [sameEffect_iff hv htrace hloaded hsector hcount hzero hdisk hrun
            hu hk hlt]
          unfold advanced
          split at hbits
          · omega
          · next hclear =>
              rw [if_neg hclear, hbits.1]
              simp only [Bool.false_eq_true, if_false]
              omega

/-- An RK05 with two drives and some memory, its registers set for a transfer
with drive `drive`. -/
def programmedRk05 (wc drive : Word) : Bench Rk05 Healthy where
  controller :=
    { registers := fun i =>
        if i = number RK05_WC then wc
        else if i = number RK05_DA then drive <<< 13 else 0
      xferBuffer := fun _ => 0 }
  fhs := [some .drive, some .drive]
  ram := { size := 0o20000, m := fun _ => 0 }
  requests := []
  trace := []

/-- A write of 257 words with the first drive. -/
theorem chains_of_write :
    Chains 3 (programmedRk05 (-257) 0) := by
  refine (@chains_iff _ 3 false _ ⟨by decide, by decide⟩
    (programmedRk05 (-257) 0) rfl rfl (by decide) ?_).mpr (by decide)
  unfold AccessesSucceed
  decide +kernel

/-- A read of one word counts the bus address on by four, and a write with the
second drive leaves the number of the first one. -/
theorem registers_do_not_chain :
    ¬ Chains 5 (programmedRk05 (-1) 0) ∧
      ¬ Chains 3 (programmedRk05 (-1) 1) := by
  constructor
  · rintro ⟨⟨u, hu, h⟩, -⟩
    have hfinal : final (writeWord RK05_CS 5 (programmedRk05 (-1) 0)) = u :=
      congrArg final hu
    have hbus := h.bus
    rw [← hfinal] at hbus
    exact absurd hbus (by decide +kernel)
  · rintro ⟨⟨u, hu, h⟩, -⟩
    have hfinal : final (writeWord RK05_CS 3 (programmedRk05 (-1) 1)) = u :=
      congrArg final hu
    have hdrive := h.drive
    rw [← hfinal] at hdrive
    exact absurd hdrive (by decide +kernel)

end Chained

end Rk05

end KekPdp11
