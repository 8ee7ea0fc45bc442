import KekPdp11.TransferErrors
import KekPdp11.WordCount

/-!
# KEK PDP-11: the heads of the RL02

A seek stops at the ends of the disk.  The transfers take the position from the
disk address register, whose sector field goes past the forty sectors of a
track, and count it up for each sector without an end.  The heads and the
offsets of the calls stay on the cartridge in every run whose transfers start
at a sector of the disk and end in front of the last one.

* `advance_onDisk`: one sector further.
* `transferLoop_position`: the loop of a transfer, by induction on its passes.
* `heads_stay_on_disk`: the run.
-/

namespace KekPdp11

open StateExcept

namespace Rl02

variable {β : Type}

section Places

/-- A position on the disk. -/
structure OnDisk (c : Rl02) : Prop where
  track_nonneg : 0 ≤ c.track
  track_lt : c.track < rl02TrackCount
  head_lt : c.head < 2
  sector_lt : c.sector < rl02SectorsPerTrack

/-- The sectors of the disk. -/
def sectorCount : Nat :=
  rl02TrackCount * 2 * rl02SectorsPerTrack

/-- The sectors in front of the heads. -/
def place (c : Rl02) : Int :=
  (c.track * 2 + c.head) * rl02SectorsPerTrack + c.sector

/-- A call of a drive is for bytes of the cartridge. -/
def Inside : DiskEvent → Prop
  | .call offset n _ _ =>
      offset < sectorCount * rl02BytesPerSector ∧
        offset + n ≤ sectorCount * rl02BytesPerSector
  | _ => True

/-- The heads are on the disk, and all calls have been for bytes of it. -/
structure OnCartridge (s : Bench Rl02 β) : Prop where
  position : s.controller.OnDisk
  calls : ∀ e ∈ s.trace, Inside e

variable {c : Rl02}

theorem OnDisk.place_nonneg
    (h : OnDisk c) :
    0 ≤ c.place := by
  obtain ⟨hnonneg, -, -, -⟩ := h
  unfold place rl02SectorsPerTrack
  omega

/-- One sector further, in front of the end of the disk. -/
theorem advance_onDisk
    (h : OnDisk c) (hnext : c.place + 1 < sectorCount) :
    OnDisk c.advance ∧ c.advance.place = c.place + 1 := by
  obtain ⟨hnonneg, htrack, hhead, hsector⟩ := h
  unfold place sectorCount rl02TrackCount rl02SectorsPerTrack at *
  unfold advance rl02SectorsPerTrack
  split
  · split
    · refine ⟨⟨?_, ?_, Nat.two_pos, Nat.succ_pos 39⟩, ?_⟩
      · dsimp only
        omega
      · dsimp only [rl02TrackCount]
        omega
      · dsimp only
        omega
    · refine ⟨⟨hnonneg, htrack, ?_, Nat.succ_pos 39⟩, ?_⟩
      · dsimp only
        omega
      · dsimp only
        omega
  · refine ⟨⟨hnonneg, htrack, hhead, ?_⟩, ?_⟩
    · dsimp only [rl02SectorsPerTrack]
      omega
    · dsimp only
      omega

/-- Track, head and sector of a position. -/
def Sits (c c' : Rl02) : Prop :=
  c'.track = c.track ∧ c'.head = c.head ∧ c'.sector = c.sector

theorem Sits.place
    {c' : Rl02} (h : Sits c c') :
    c'.place = c.place := by
  unfold Rl02.place
  rw [h.1, h.2.1, h.2.2]

theorem Sits.onDisk
    {c' : Rl02} (h : Sits c c') (hc : c.OnDisk) :
    c'.OnDisk := by
  obtain ⟨htrack, hhead, hsector⟩ := h
  constructor
  · exact htrack ▸ hc.track_nonneg
  · exact htrack ▸ hc.track_lt
  · exact hhead ▸ hc.head_lt
  · exact hsector ▸ hc.sector_lt

theorem sits_advance_setMpr
    (c : Rl02) (i : Nat) (v : Word) :
    Sits c.advance (c.setMpr i v).advance := by
  unfold advance setMpr
  dsimp only
  split
  · split
    · exact ⟨rfl, rfl, rfl⟩
    · exact ⟨rfl, rfl, rfl⟩
  · exact ⟨rfl, rfl, rfl⟩

theorem calcOffset_place
    (h : OnDisk c) :
    (c.calcOffset.toNat : Int) = c.place * rl02BytesPerSector := by
  obtain ⟨hnonneg, htrack, hhead, hsector⟩ := h
  unfold calcOffset
  rw [BitVec.toNat_ofInt]
  unfold place rl02SectorsPerTrack rl02BytesPerSector rl02TrackCount at *
  omega

end Places

section Transfers

variable {device : Nat} {loaded : Bool} {p : Int}

/-- A transfer is at a place of the disk; the drive that it is for is loaded or
not. -/
structure At (device : Nat) (loaded : Bool) (p : Int) (s : Bench Rl02 β) :
    Prop where
  cartridge : OnCartridge s
  place : s.controller.place = p
  loaded : (s.drive device).isSome = loaded

/-- What keeps position, drives and log. -/
theorem At.frame
    {s t : Bench Rl02 β} (hs : At device loaded p s)
    (hsits : Sits s.controller t.controller) (hfhs : t.fhs = s.fhs)
    (hcalls : ∀ e ∈ t.trace, e ∈ s.trace ∨ Inside e) :
    At device loaded p t := by
  refine ⟨⟨hsits.onDisk hs.cartridge.position, ?_⟩,
    hsits.place.trans hs.place, ?_⟩
  · intro e he
    exact (hcalls e he).elim (hs.cartridge.calls e) id
  · unfold Bench.drive
    rw [hfhs]
    exact hs.loaded

theorem at_modifyController
    {f : Rl02 → Rl02} (hf : ∀ c, Sits c (f c)) :
    Keeps (At device loaded p)
      (modifyController f : Command Rl02 β Unit) :=
  .update fun s hs => hs.frame (hf s.controller) rfl fun _ he => .inl he

theorem at_storeBytes
    (memory : PhysAddr) (buffer : Buffer) (n i : Nat) :
    Keeps (At device loaded p)
      (storeBytes memory buffer n i : Command Rl02 β Unit) := by
  induction n generalizing i with
  | zero =>
      exact .pure fun _ hs => hs
  | succ n ih =>
      refine .bind (Q := fun _ => At device loaded p) ?_ fun _ => ih _
      refine .update fun s hs => hs.frame ⟨rfl, rfl, rfl⟩ rfl fun e he => ?_
      rcases List.mem_cons.mp he with rfl | he
      · exact .inr trivial
      · exact .inl he

theorem at_loadBytes
    (memory : PhysAddr) (n i : Nat) (buffer : Buffer) :
    Keeps (At device loaded p)
      (loadBytes memory n i buffer : Command Rl02 β Buffer) := by
  induction n generalizing i buffer with
  | zero =>
      exact .pure fun _ hs => hs
  | succ n ih =>
      refine .bind (Q := fun _ => At device loaded p) ?_ fun v => ih _ _
      refine .view_bind_any fun v => ?_
      refine .bind (Q := fun _ => At device loaded p) ?_ fun _ =>
        .pure fun _ hs => hs
      refine .update fun s hs => hs.frame ⟨rfl, rfl, rfl⟩ rfl fun e he => ?_
      rcases List.mem_cons.mp he with rfl | he
      · exact .inr trivial
      · exact .inl he

/-- A call of a drive for bytes of the cartridge. -/
theorem at_callDrive
    {α : Type} {call : DiskCall β α} {log : Option α → List DiskEvent}
    (hlog : loaded = true → ∀ answer, ∀ e ∈ log answer, Inside e) :
    Keeps (At device loaded p)
      (callDrive device call log : Command Rl02 β α) := by
  intro s hs
  unfold callDrive
  split
  · exact hs
  · exact hs
  · next b hdrive =>
      have hloaded : loaded = true := by
        rw [← hs.loaded, Bench.drive, hdrive]
        rfl
      have hlt := (List.getElem?_eq_some_iff.mp hdrive).1
      have hend : ∀ answer (b' : β), At device loaded p
          { s with
            fhs := s.fhs.set device (some b')
            trace := log answer ++ s.trace } := by
        intro answer b'
        refine ⟨⟨hs.cartridge.position, ?_⟩, hs.place, ?_⟩
        · intro e he
          rcases List.mem_append.mp he with he | he
          · exact hlog hloaded answer e he
          · exact hs.cartridge.calls e he
        · rw [hloaded, Bench.drive, List.getElem?_set_self hlt]
          rfl
      cases call b with
      | ok a b' =>
          exact hend (some a) b'
      | error e b' =>
          exact hend none b'

theorem at_driveLoaded :
    Triple (At device loaded p)
      (driveLoaded device : Command Rl02 β Bool)
      (fun present s => At device loaded p s ∧ present = loaded)
      (fun _ => At device loaded p) := by
  intro s hs
  have hloaded := hs.loaded
  unfold driveLoaded
  rw [view_bind_apply]
  unfold Bench.drive at hloaded
  cases hdrive : s.fhs[device]? with
  | none =>
      exact hs
  | some drive =>
      rw [hdrive] at hloaded
      exact ⟨hs, hloaded⟩

variable [DiskBackend β] {disk : BitVec 32} {cur left : Nat}

/-- Where a piece of a transfer from this place lies. -/
theorem inside_piece
    (hp : 0 ≤ p) (hnext : p + 1 < sectorCount)
    (hdisk : (disk.toNat : Int) = p * rl02BytesPerSector)
    (hcur : cur ≤ rl02BytesPerSector) :
    disk.toNat < sectorCount * rl02BytesPerSector ∧
      disk.toNat + cur ≤ sectorCount * rl02BytesPerSector := by
  unfold sectorCount rl02TrackCount rl02SectorsPerTrack rl02BytesPerSector at *
  omega

theorem at_readDrive
    {offset : Nat} (target : Buffer)
    (hcall : loaded = true → ∀ answer,
      Inside (.call offset cur rl02BytesPerSector answer)) :
    Keeps (At device loaded p)
      (readDrive device offset cur target rl02BytesPerSector :
        Command Rl02 β (Bool × Buffer)) := by
  refine at_callDrive fun hloaded answer e he => ?_
  rcases answer with _ | ⟨_ | _, t⟩
  · obtain rfl := List.mem_singleton.mp he
    exact hcall hloaded _
  · obtain rfl := List.mem_singleton.mp he
    exact hcall hloaded _
  · rcases List.mem_cons.mp he with rfl | he
    · trivial
    · obtain rfl := List.mem_singleton.mp he
      exact hcall hloaded _

theorem at_writeDrive
    {offset : Nat} (source : Buffer)
    (hcall : loaded = true → ∀ answer,
      Inside (.call offset cur rl02BytesPerSector answer)) :
    Keeps (At device loaded p)
      (writeDrive device offset cur source rl02BytesPerSector :
        Command Rl02 β Bool) := by
  refine at_callDrive fun hloaded answer e he => ?_
  rcases answer with _ | _ | _
  · obtain rfl := List.mem_singleton.mp he
    exact hcall hloaded _
  · obtain rfl := List.mem_singleton.mp he
    exact hcall hloaded _
  · rcases List.mem_cons.mp he with rfl | he
    · trivial
    · obtain rfl := List.mem_singleton.mp he
      exact hcall hloaded _

omit [DiskBackend β] in
/-- A drive that is not loaded lets no call through. -/
theorem at_ifLoaded
    {α : Type} {call : Command Rl02 β α} (a : α) (goesOn : α → Bool)
    (ha : goesOn a = false)
    (hcall : loaded = true → Keeps (At device loaded p) call) :
    Triple (At device loaded p)
      (do
        let present ← driveLoaded device
        if !present then
          pure a
        else
          call)
      (fun r s => At device loaded p s ∧ (goesOn r = true → loaded = true))
      (fun _ => At device loaded p) := by
  refine .bind at_driveLoaded fun present => ?_
  cases present with
  | false =>
      refine .pure fun s hs => ⟨hs.1, fun h => ?_⟩
      rw [ha] at h
      cases h
  | true =>
      intro s hs
      have hloaded : loaded = true := hs.2.symm
      have hrun : Triple (fun t => t = s) call
          (fun _ => At device loaded p) (fun _ => At device loaded p) := by
        rintro t rfl
        exact hcall hloaded t hs.1
      exact hrun.weaken_post (fun r t ht => ⟨ht, fun _ => hloaded⟩) s rfl

/-- What a piece of a transfer leaves: the heads are one sector further, or the
transfer ends. -/
def AfterPiece (device : Nat) (loaded : Bool) (p : Int) (goOn : Bool)
    (s : Bench Rl02 β) : Prop :=
  if goOn then loaded = true ∧ At device loaded (p + 1) s
  else At device loaded p s

omit [DiskBackend β] in
theorem at_advance
    (n : Nat) (hnext : loaded = true → p + 1 < sectorCount) :
    Triple
      (fun s : Bench Rl02 β => At device loaded p s ∧ loaded = true)
      (modifyController fun c =>
        (c.setMpr 0 (c.mpr 0 + BitVec.ofNat 16 n)).advance)
      (fun _ s => loaded = true ∧ At device loaded (p + 1) s)
      (fun _ => At device loaded p) := by
  refine .update fun s hs => ⟨hs.2, ?_⟩
  obtain ⟨⟨hposition, hcalls⟩, hplace, hdrive⟩ := hs.1
  obtain ⟨honDisk, hadvanced⟩ := advance_onDisk hposition
    (by rw [hplace]; exact hnext hs.2)
  have hsits := sits_advance_setMpr s.controller 0
    (s.controller.mpr 0 + BitVec.ofNat 16 n)
  exact ⟨⟨hsits.onDisk honDisk, hcalls⟩,
    hsits.place.trans (by rw [hadvanced, hplace]), hdrive⟩

theorem at_readPiece
    (memory : BitVec 32)
    (hnext : loaded = true → p + 1 < sectorCount)
    (hcall : loaded = true → ∀ answer,
      Inside (.call disk.toNat cur rl02BytesPerSector answer)) :
    Triple (At device loaded p)
      (readPiece device memory disk cur left () :
        Command Rl02 β (Bool × Unit))
      (fun r => AfterPiece device loaded p r.1)
      (fun _ => At device loaded p) := by
  refine .view_bind_any fun buffer => ?_
  refine .bind (at_ifLoaded (false, buffer) Prod.fst rfl fun h =>
    at_readDrive buffer fun _ => hcall h) fun result => ?_
  obtain ⟨ok, buffer⟩ := result
  intro s hs
  have hloaded : ok = true → loaded = true := hs.2
  refine Triple.bind (Q := fun _ => At device loaded p)
    (at_modifyController (f := fun c => { c with xferBuffer := buffer })
      fun c => ⟨rfl, rfl, rfl⟩) (fun _ => ?_) s hs.1
  cases ok with
  | false =>
      exact .pure fun s hs => hs
  | true =>
      refine .bind (at_storeBytes _ _ _ _) fun _ => ?_
      refine .bind (Q := fun _ s => loaded = true ∧ At device loaded (p + 1) s)
        ?_ fun _ => .pure fun s hs => hs
      exact (at_advance (cur / 2) hnext).strengthen_pre fun s hs =>
        ⟨hs, hloaded rfl⟩

theorem at_writePiece
    (memory : BitVec 32)
    (hnext : loaded = true → p + 1 < sectorCount)
    (hcall : loaded = true → ∀ answer,
      Inside (.call disk.toNat cur rl02BytesPerSector answer)) :
    Triple (At device loaded p)
      (writePiece device memory disk cur left () :
        Command Rl02 β (Bool × Unit))
      (fun r => AfterPiece device loaded p r.1)
      (fun _ => At device loaded p) := by
  refine .view_bind_any fun buffer => ?_
  refine .bind (at_loadBytes _ _ _ _) fun buffer => ?_
  refine .bind (at_modifyController fun c => ⟨rfl, rfl, rfl⟩) fun _ => ?_
  refine .bind (at_ifLoaded false id rfl fun h =>
    at_writeDrive buffer fun _ => hcall h) fun ok => ?_
  cases ok with
  | false =>
      exact .pure fun s hs => hs.1
  | true =>
      refine .bind (Q := fun _ s => loaded = true ∧ At device loaded (p + 1) s)
        ?_ fun _ => .pure fun s hs => hs
      exact (at_advance (left / 2) hnext).strengthen_pre fun s hs =>
        ⟨hs.1, hs.2 rfl⟩

omit [DiskBackend β] in
/-- The loop of a transfer that ends in front of the last sector. -/
theorem transferLoop_position
    {piece : (memory disk : BitVec 32) → (cur left : Nat) → Unit →
      Command Rl02 β (Bool × Unit)}
    (hpiece : ∀ (p : Int) memory disk cur left,
      (loaded = true → p + 1 < sectorCount) →
      (loaded = true → ∀ answer,
        Inside (.call disk.toNat cur rl02BytesPerSector answer)) →
      Triple (At device loaded p) (piece memory disk cur left ())
        (fun r => AfterPiece device loaded p r.1)
        (fun _ => At device loaded p))
    (passes : Nat) (memory disk : BitVec 32) (left : Nat) (hp : 0 ≤ p)
    (hdisk : left ≠ 0 → (disk.toNat : Int) = p * rl02BytesPerSector)
    (hend : loaded = true →
      p + ((left + 255) / rl02BytesPerSector : Nat) < sectorCount) :
    Triple (At device loaded p)
      (transferLoop rl02BytesPerSector piece passes memory disk left ())
      (fun _ => OnCartridge) (fun _ => OnCartridge) := by
  induction passes generalizing p memory disk left with
  | zero =>
      exact .pure fun _ hs => hs.cartridge
  | succ passes ih =>
      refine .ite (fun _ => .pure fun _ hs => hs.cartridge) fun hleft => ?_
      have hnext : loaded = true → p + 1 < sectorCount := by
        intro hl
        have := hend hl
        unfold rl02BytesPerSector at this
        omega
      have hcall : loaded = true → ∀ answer, Inside
          (.call disk.toNat (min rl02BytesPerSector left) rl02BytesPerSector
            answer) :=
        fun hl _ => inside_piece hp (hnext hl) (hdisk hleft)
          (Nat.min_le_left _ _)
      refine Triple.bind
        ((hpiece p memory disk _ left hnext hcall).weaken (fun _ hs => hs)
          (fun _ _ hs => hs) fun _ _ hs => hs.cartridge) fun result => ?_
      obtain ⟨goOn, ⟨⟩⟩ := result
      cases goOn with
      | false =>
          exact .pure fun _ hs => hs.cartridge
      | true =>
          intro s hs
          have hlt := hnext hs.1
          have hlast := hend hs.1
          refine ih _ _ _ (by omega) (fun hrest => ?_) (fun _ => ?_) s hs.2
          · have hfull : min rl02BytesPerSector left = rl02BytesPerSector := by
              omega
            have hplace := hdisk hleft
            rw [hfull, BitVec.toNat_add, BitVec.toNat_ofNat]
            unfold sectorCount rl02TrackCount rl02SectorsPerTrack
              rl02BytesPerSector at *
            omega
          · unfold rl02BytesPerSector at *
            omega

end Transfers

section Runs

variable [DiskBackend β]

/-- The number of the sector that the disk address register names. -/
def programmedPlace (c : Rl02) : Nat :=
  let dar := (c.get RL02_DAR).toNat
  (dar / 128 * 2 + dar / 64 % 2) * rl02SectorsPerTrack + dar % 64

/-- A transfer that the word starts begins at a sector of the disk, and if the
drive is loaded the sectors after the transfer are not at the end of the
disk. -/
def StaysOnDisk (v : Word) (s : Bench Rl02 β) : Prop :=
  5 ≤ ((v >>> 1) &&& 7).toNat → selected v < s.fhs.length →
    (s.controller.get RL02_DAR).toNat % 64 < rl02SectorsPerTrack ∧
      ((s.drive (selected v)).isSome = true →
        s.controller.programmedPlace +
          (byteCount (s.controller.get RL02_MPR) + 255) / rl02BytesPerSector <
            sectorCount)

/-- The condition on an access. -/
def Fits (g : GuestAccess) (s : Bench Rl02 β) : Prop :=
  match g with
  | .writeWord a v => a = RL02_CSR → StaysOnDisk v s
  | .writeByte a v =>
      a = RL02_CSR →
        StaysOnDisk (updateWord (s.controller.get a) (isOdd a) v) s
  | _ => True

omit [DiskBackend β] in
theorem position_onDisk
    {c : Rl02}
    (h : (c.get RL02_DAR).toNat % 64 < rl02SectorsPerTrack) :
    (c.position (c.get RL02_DAR)).OnDisk ∧
      (c.position (c.get RL02_DAR)).place = c.programmedPlace := by
  unfold position programmedPlace place
  dsimp only
  generalize c.get RL02_DAR = dar at *
  have hdar := dar.isLt
  have hsector : (dar &&& 63).toNat = dar.toNat % 64 := by
    rw [BitVec.toNat_and]
    exact Nat.and_two_pow_sub_one_eq_mod _ 6
  have hhead : ((dar >>> 6) &&& 1).toNat = dar.toNat / 64 % 2 := by
    rw [BitVec.toNat_and, BitVec.toNat_ushiftRight, Nat.shiftRight_eq_div_pow]
    exact Nat.and_two_pow_sub_one_eq_mod _ 1
  have htrack : (dar >>> 7).toNat = dar.toNat / 128 := by
    rw [BitVec.toNat_ushiftRight, Nat.shiftRight_eq_div_pow]
  rw [hsector, hhead, htrack]
  refine ⟨⟨?_, ?_, ?_, h⟩, ?_⟩
  · dsimp only
    omega
  · dsimp only [rl02TrackCount]
    omega
  · dsimp only
    omega
  · unfold rl02SectorsPerTrack
    omega

omit [DiskBackend β] in
theorem transfer_onCartridge
    {device : Nat} {s : Bench Rl02 β}
    {piece : (memory disk : BitVec 32) → (cur left : Nat) → Unit →
      Command Rl02 β (Bool × Unit)}
    (hpiece : ∀ (p : Int) memory disk cur left,
      ((s.drive device).isSome = true → p + 1 < sectorCount) →
      ((s.drive device).isSome = true → ∀ answer,
        Inside (.call disk.toNat cur rl02BytesPerSector answer)) →
      Triple (At device (s.drive device).isSome p)
        (piece memory disk cur left ())
        (fun r => AfterPiece device (s.drive device).isSome p r.1)
        (fun _ => At device (s.drive device).isSome p))
    (hs : ∀ e ∈ s.trace, Inside e)
    (hsector : (s.controller.get RL02_DAR).toNat % 64 < rl02SectorsPerTrack)
    (hend : (s.drive device).isSome = true →
      s.controller.programmedPlace +
        (byteCount (s.controller.get RL02_MPR) + 255) / rl02BytesPerSector <
          sectorCount) :
    After (fun _ => OnCartridge) (fun _ => OnCartridge) (transfer piece s) := by
  obtain ⟨honDisk, hplace⟩ := position_onDisk hsector
  have hoffset := calcOffset_place honDisk
  exact transferLoop_position hpiece _ _ _ _ honDisk.place_nonneg
    (fun _ => hoffset) (fun hl => by
      rw [hplace]
      exact_mod_cast hend hl)
    { s with
      controller := s.controller.position (s.controller.get RL02_DAR) }
    ⟨⟨honDisk, hs⟩, rfl, rfl⟩

omit [DiskBackend β] in
theorem modifyController_onCartridge
    {α : Type} {f : Rl02 → Rl02} (a : α)
    (hf : ∀ c, OnDisk c → OnDisk (f c)) :
    Keeps (OnCartridge (β := β))
      (do modifyController f; pure a : Command Rl02 β α) :=
  .bind (Q := fun _ => OnCartridge)
    (.update fun s hs => ⟨hf s.controller hs.position, hs.calls⟩) fun _ =>
    .pure fun _ hs => hs

omit [DiskBackend β] in
/-- A seek stops at the ends of the disk. -/
theorem seek_onDisk
    {c : Rl02} (h : OnDisk c) :
    OnDisk c.seek := by
  obtain ⟨hnonneg, htrack, hhead, hsector⟩ := h
  unfold rl02TrackCount at htrack
  refine ⟨?_, ?_, hhead, hsector⟩
  · unfold seek rl02TrackCount
    dsimp only
    split_ifs <;> omega
  · unfold seek rl02TrackCount
    dsimp only
    split_ifs <;> omega

theorem execute_onCartridge
    {device : Nat} (command : Nat) {s : Bench Rl02 β} (hs : OnCartridge s)
    (hfit : 5 ≤ command → device < s.fhs.length →
      (s.controller.get RL02_DAR).toNat % 64 < rl02SectorsPerTrack ∧
        ((s.drive device).isSome = true →
          s.controller.programmedPlace +
            (byteCount (s.controller.get RL02_MPR) + 255) /
              rl02BytesPerSector < sectorCount)) :
    After (fun _ => OnCartridge) (fun _ => OnCartridge)
      (execute device command s) := by
  have htransferred : ∀ {m : Command Rl02 β Unit},
      After (fun _ => OnCartridge) (fun _ => OnCartridge) (m s) →
      After (fun _ => OnCartridge) (fun _ => OnCartridge)
        ((do m; pure true : Command Rl02 β Bool) s) :=
    fun hm => after_bind hm fun _ _ ht => ht
  have hsits : ∀ {f : Rl02 → Rl02}, (∀ c, Sits c (f c)) →
      ∀ c, OnDisk c → OnDisk (f c) :=
    fun hf c hc => (hf c).onDisk hc
  unfold execute driveExists
  rw [view_bind_apply, ite_apply_state]
  split
  · exact modifyController_onCartridge true
      (hsits (f := fun c => c.modify RL02_CSR _) fun c => ⟨rfl, rfl, rfl⟩) s hs
  · next hpresent =>
      have hexists : device < s.fhs.length := by simpa using hpresent
      split
      · exact modifyController_onCartridge false
          (hsits (f := getStatus) fun c => ⟨rfl, rfl, rfl⟩) s hs
      · exact modifyController_onCartridge true (fun c hc => seek_onDisk hc) s
          hs
      · exact modifyController_onCartridge true
          (hsits (f := readHeader) fun c => ⟨rfl, rfl, rfl⟩) s hs
      · obtain ⟨hsector, hend⟩ := hfit (by decide) hexists
        exact htransferred (transfer_onCartridge
          (fun p memory _ _ _ => at_writePiece memory) hs.calls hsector hend)
      · obtain ⟨hsector, hend⟩ := hfit (by decide) hexists
        exact htransferred (transfer_onCartridge
          (fun p memory _ _ _ => at_readPiece memory) hs.calls hsector hend)
      · obtain ⟨hsector, hend⟩ := hfit (by decide) hexists
        exact htransferred (transfer_onCartridge
          (fun p memory _ _ _ => at_readPiece memory) hs.calls hsector hend)
      · exact hs

theorem writeWord_onCartridge
    {a v : Word} {s : Bench Rl02 β} (hs : OnCartridge s)
    (hfit : a = RL02_CSR → StaysOnDisk v s) :
    After (fun _ => OnCartridge) (fun _ => OnCartridge) (writeWord a v s) := by
  have hset : OnCartridge { s with controller := s.controller.set a v } :=
    ⟨Sits.onDisk (show Sits s.controller (s.controller.set a v) from
      ⟨rfl, rfl, rfl⟩) hs.position, hs.calls⟩
  unfold writeWord modifyController
  rw [update_bind_apply, ite_apply_state]
  split
  · next ha =>
      subst ha
      refine after_bind (execute_onCartridge _ hset (hfit rfl))
        fun doInt t ht => ?_
      unfold controllerView
      rw [view_bind_apply, ite_apply_state]
      split
      · exact ⟨ht.position, ht.calls⟩
      · exact ht
  · exact hset

omit [DiskBackend β] in
theorem readWord_onDisk
    (a : Word) {c : Rl02} (h : OnDisk c) :
    OnDisk (readWord a c).2 := by
  have hsits : Sits c (readWord a c).2 := by
    unfold readWord
    dsimp only
    split
    · split
      · exact ⟨rfl, rfl, rfl⟩
      · exact ⟨rfl, rfl, rfl⟩
    · split
      · exact ⟨rfl, rfl, rfl⟩
      · exact ⟨rfl, rfl, rfl⟩
  exact hsits.onDisk h

theorem perform_onCartridge
    (g : GuestAccess) {s : Bench Rl02 β} (hs : OnCartridge s)
    (hfit : Fits g s) :
    After (fun _ => OnCartridge) (fun _ => OnCartridge) (g.perform s) := by
  cases g with
  | readByte a =>
      exact ⟨readWord_onDisk _ hs.position, hs.calls⟩
  | readWord a =>
      exact ⟨readWord_onDisk _ hs.position, hs.calls⟩
  | writeByte a v =>
      exact writeWord_onCartridge hs hfit
  | writeWord a v =>
      exact writeWord_onCartridge hs hfit

/-- reset of class rl02. -/
def reset (c : Rl02) (hard : Bool) : Rl02 where
  registers := if hard then fun _ => 0 else c.registers
  xferBuffer := if hard then fun _ => 0 else c.xferBuffer
  track := 0
  head := 0
  sector := 0
  mpr := if hard then fun _ => 0 else c.mpr

omit [DiskBackend β] in
/-- A header that is read names the sector under the heads. -/
theorem headerWord_sector
    {c : Rl02} (h : OnDisk c) :
    (c.headerWord &&& 63).toNat = c.sector := by
  have hsector := h.sector_lt
  unfold rl02SectorsPerTrack at hsector
  have hlow : c.headerWord &&& 63 = BitVec.ofNat 16 c.sector &&& 63 := by
    unfold headerWord
    ext i hi
    interval_cases i <;> simp
  rw [hlow, BitVec.toNat_and, BitVec.toNat_ofNat]
  exact (Nat.and_two_pow_sub_one_eq_mod _ 6).trans (by omega)

/-- From a reset on, as long as each transfer meets the condition, the heads are
on the disk after each access, a header names an existing sector, and all calls
of the drives have been for bytes of the cartridge. -/
theorem heads_stay_on_disk
    (gs : List GuestAccess) (c : Rl02) (hard : Bool) {s : Bench Rl02 β}
    (hreset : s.controller = c.reset hard) (htrace : s.trace = [])
    (hfit : AllFit Fits gs s) :
    After
      (fun _ t => OnCartridge t ∧
        (t.controller.headerWord &&& 63).toNat < rl02SectorsPerTrack)
      (fun _ => OnCartridge) (performAll gs s) := by
  have hs : OnCartridge s := by
    refine ⟨?_, ?_⟩
    · rw [hreset]
      exact ⟨Int.le_refl 0, Int.ofNat_succ_pos 511, Nat.two_pos,
        Nat.succ_pos 39⟩
    · rw [htrace]
      exact fun e he => absurd he List.not_mem_nil
  have hrun := performAll_after (E := fun _ => OnCartridge)
    (fun g s hs hg => perform_onCartridge g hs hg) hs hfit
  cases hr : performAll gs s with
  | ok a t =>
      rw [hr] at hrun
      refine ⟨hrun, ?_⟩
      rw [headerWord_sector hrun.position]
      exact hrun.position.sector_lt
  | error e t =>
      rw [hr] at hrun
      exact hrun

/-- An RL02 that has been reset, with one drive and no memory. -/
def resetRl02 : Bench Rl02 Healthy where
  controller := reset ⟨fun _ => 0, fun _ => 0, 0, 0, 0, fun _ => 0⟩ true
  fhs := [some .drive]
  ram := { size := 0, m := fun _ => 0 }
  requests := []
  trace := []

/-- The accesses that read from a disk address. -/
def readFrom (dar mpr : Word) : List GuestAccess :=
  [.writeWord RL02_DAR dar, .writeWord RL02_MPR mpr,
    .writeWord RL02_CSR 0o14]

/-- A read of the first sector. -/
theorem heads_stay_on_disk_at_first_sector :
    After
      (fun _ t => OnCartridge t ∧
        (t.controller.headerWord &&& 63).toNat < rl02SectorsPerTrack)
      (fun _ => OnCartridge) (performAll (readFrom 0 0xffff) resetRl02) := by
  refine heads_stay_on_disk _ _ true rfl rfl ?_
  refine ⟨nofun, fun t ht => ⟨nofun, fun u hu => ⟨?_, fun _ _ => trivial⟩⟩⟩
  injection ht with _ ht
  injection hu with _ hu
  subst ht hu
  intro _ _ _
  exact ⟨by decide, fun _ => by decide⟩

/-- A read of two bytes from sector 63 of the last track is a call for bytes
that the cartridge does not have, and leaves the heads on track 512.  A read of
no bytes leaves them at the sector 50 that was asked for. -/
theorem heads_leave_the_disk :
    (∃ t, performAll (readFrom 0xffff 0xffff) resetRl02 = .ok () t ∧
      t.controller.track = 512 ∧
      .call 10491648 2 256 (some true) ∈ t.trace ∧ ¬ OnCartridge t) ∧
      ∃ t, performAll (readFrom 50 0x8000) resetRl02 = .ok () t ∧
        t.controller.sector = 50 ∧ ¬ OnCartridge t := by
  refine ⟨⟨_, rfl, rfl, ?_, ?_⟩, ⟨_, rfl, rfl, ?_⟩⟩
  · exact .tail _ (.tail _ (.tail _ (.head _)))
  · intro h
    exact absurd h.position.track_lt (by decide)
  · intro h
    exact absurd h.position.sector_lt (by decide)

end Runs

end Rl02

end KekPdp11
