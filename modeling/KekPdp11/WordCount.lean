import KekPdp11.DiskTransfers

/-!
# KEK PDP-11: the word count of a disk transfer

The word count registers hold the two's complement of the number of words to
move.  The controllers take it in three ways: the RK05 as the magnitude of a
signed number, the RL02 as the difference to 65536 with one value singled out,
the RP06 as that difference; and the RP06 computes its offsets in 32 bits.
-/

namespace KekPdp11

open StateExcept Slices

/-- The number of bytes that a word count asks for. -/
def wordCountBytes (w : Word) : Nat :=
  (65536 - w.toNat) * 2

theorem wordCountBytes_pos
    (w : Word) :
    0 < wordCountBytes w := by
  have := w.isLt
  unfold wordCountBytes
  omega

/-- An address of 16 bits with an extension of some more bits. -/
theorem extended_toNat
    (low : Word) (ext : BitVec 32) (h : ext.toNat < 2 ^ 16) :
    (low.setWidth 32 ||| (ext <<< 16)).toNat =
      low.toNat + ext.toNat * 2 ^ 16 := by
  have hlow := low.isLt
  rw [BitVec.toNat_or, BitVec.toNat_setWidth, BitVec.toNat_shiftLeft,
    Nat.mod_eq_of_lt (by omega), Nat.shiftLeft_eq,
    Nat.mod_eq_of_lt (by omega), Nat.or_comm, Nat.mul_comm ext.toNat,
    ← Nat.two_pow_add_eq_or_of_lt hlow]
  omega

namespace Rk05

variable {β : Type}

/-- The bus address that the registers hold, with two bits of the command. -/
def programmedBus (v : Word) (c : Rk05) : Nat :=
  (c.get RK05_BA).toNat + v.toNat / 16 % 4 * 65536

/-- The position on the disk that the disk address register names: cylinder
and surface, twelve sectors of 512 bytes each, and sector. -/
def programmedDisk (c : Rk05) : Nat :=
  ((c.get RK05_DA).toNat / 16 % 512 * 12 + (c.get RK05_DA).toNat % 16) * 512

theorem toNat_diskOffset
    (c : Rk05) :
    (diskOffset (c.get RK05_DA)).toNat = c.programmedDisk := by
  unfold diskOffset programmedDisk
  generalize c.get RK05_DA = da
  have hda := da.isLt
  have htrack : ((da >>> 4) &&& 511).toNat = da.toNat / 16 % 512 := by
    rw [BitVec.toNat_and, BitVec.toNat_ushiftRight, Nat.shiftRight_eq_div_pow]
    exact Nat.and_two_pow_sub_one_eq_mod _ 9
  have hsector : (da &&& 15).toNat = da.toNat % 16 := by
    rw [BitVec.toNat_and]
    exact Nat.and_two_pow_sub_one_eq_mod _ 4
  simp only [BitVec.ofNat_eq_ofNat, BitVec.toNat_mul, BitVec.toNat_add,
    BitVec.toNat_setWidth, BitVec.toNat_ofNat] at htrack hsector ⊢
  rw [htrack, hsector]
  omega

theorem toNat_getBusAddress
    (v : Word) (c : Rk05) :
    (c.set RK05_CS v).getBusAddress.toNat = c.programmedBus v := by
  have hext : ((v >>> 4) &&& 3).toNat = v.toNat / 16 % 4 := by
    rw [BitVec.toNat_and, BitVec.toNat_ushiftRight, Nat.shiftRight_eq_div_pow]
    exact Nat.and_two_pow_sub_one_eq_mod _ 2
  have hcs : (c.set RK05_CS v).get RK05_CS = v := by
    simp [set, get]
  have hba : (c.set RK05_CS v).get RK05_BA = c.get RK05_BA := by
    rfl
  unfold getBusAddress programmedBus
  rw [hcs, hba, extended_toNat]
  · rw [BitVec.toNat_setWidth, hext]
    omega
  · rw [BitVec.toNat_setWidth, hext]
    omega

/-- The signed word count has the magnitude that is asked for when it is
negative, and only then. -/
theorem recordLength_eq_iff
    (w : Word) :
    recordLength w = wordCountBytes w ↔ 0x8000 ≤ w.toNat := by
  have hw := w.isLt
  unfold recordLength wordCountBytes
  rw [BitVec.toInt_eq_toNat_cond]
  split <;> split <;> omega

variable [DiskBackend β]

theorem writePiece_moves
    (v : Word) (device : Nat) (memory : PhysAddr) (disk : Nat) :
    MovesPiece false device memory disk
      (writePiece v device : (memory disk : BitVec 32) → (cur left : Nat) →
        Place → Command Rk05 β (Bool × Place)) := by
  intro k offset cur left place hoffset
  refine .view_bind_any fun buffer => ?_
  refine .bind (loadBytes_half buffer) fun buffer => ?_
  refine .bind (modifyController_halfWritten _) fun _ => ?_
  refine .bind (writeDrive_half buffer hoffset) fun ok => ?_
  cases ok with
  | false =>
      exact modifyController_failed _ _ fun _ hs => hs
  | true =>
      exact .bind (modifyController_midway _) fun _ => .pure fun _ hs => hs

theorem readPiece_moves
    (v : Word) (device : Nat) (memory : PhysAddr) (disk : Nat) :
    MovesPiece true device memory disk
      (readPiece v device : (memory disk : BitVec 32) → (cur left : Nat) →
        Place → Command Rk05 β (Bool × Place)) := by
  intro k offset cur left place hoffset
  refine .view_bind_any fun buffer => ?_
  refine .bind (readDrive_half buffer hoffset) fun result => ?_
  obtain ⟨ok, buffer⟩ := result
  cases ok with
  | false =>
      refine .bind (Q := fun _ => Failed) (.update fun _ hs => hs) fun _ => ?_
      exact modifyController_failed _ _ fun _ hs => hs
  | true =>
      refine .bind (modifyController_halfRead _) fun _ => ?_
      refine .bind (storeBytes_half buffer) fun _ => ?_
      exact .bind (modifyController_midway _) fun _ => .pure fun _ hs => hs

omit [DiskBackend β] in
theorem transfer_ended
    {reads : Bool} {device : Nat} {memoff : PhysAddr} {da : Word}
    {piece : Nat → (memory disk : BitVec 32) → (cur left : Nat) → Place →
      Command Rk05 β (Bool × Place)}
    (hpiece : MovesPiece reads device memoff (diskOffset da).toNat
      (piece device))
    {reclen : Nat} (hend : (diskOffset da).toNat + reclen < 2 ^ 32) :
    Triple (Midway reads device memoff (diskOffset da).toNat 0)
      (transfer piece device da reclen memoff : Command Rk05 β Unit)
      (fun _ => Ended reads memoff (diskOffset da).toNat reclen)
      (fun _ => Failed) := by
  refine .view_bind fun present => ?_
  cases present with
  | false =>
      rintro s ⟨hs, hpresent⟩
      rw [decide_eq_false_iff_not] at hpresent
      exact absurd (Bench.lt_of_drive hs.1) hpresent
  | true =>
      refine .bind ?_ fun place => modifyController_ended _
      exact (transferLoop_ended (by decide) hpiece reclen _
        hend).strengthen_pre fun s hs => hs.1

/-- The function of a command word that moves data: 1 writes to the disk and
2 reads from it. -/
def Transfers (v : Word) (reads : Bool) : Prop :=
  v &&& 1 ≠ 0 ∧ (v >>> 1) &&& 7 = if reads then 2 else 1

theorem recordLength_le
    (w : Word) :
    recordLength w ≤ 65536 := by
  have hw := w.isLt
  unfold recordLength
  rw [BitVec.toInt_eq_toNat_cond]
  split <;> split <;> omega

theorem programmedDisk_lt
    (c : Rk05) :
    c.programmedDisk < 2 ^ 24 := by
  unfold programmedDisk
  omega

omit [DiskBackend β] in
theorem finish_ended
    {reads : Bool} {memory : PhysAddr} {disk n : Nat}
    {E : DiskStop → Bench Rk05 β → Prop} (v : Word) (device : Nat) :
    Triple (Ended reads memory disk n) (finish v device)
      (fun _ => Ended reads memory disk n) E := by
  refine .bind (modifyController_ended _) fun _ => ?_
  refine .ite (fun _ => ?_) fun _ => .pure fun _ hs => hs
  exact .bind (modifyController_ended _) fun _ => queueInterrupt_ended _ _

/-- What a command of the RK05 moves. -/
theorem writeWord_ended
    {v : Word} {reads : Bool} (hv : Transfers v reads) {s : Bench Rk05 β}
    (htrace : s.trace = [])
    (hloaded : (s.drive s.controller.selected).isSome = true) :
    After
      (fun _ => Ended reads (BitVec.ofNat 32 (s.controller.programmedBus v))
        s.controller.programmedDisk
        (recordLength (s.controller.get RK05_WC)))
      (fun _ => Failed)
      (writeWord RK05_CS v s : EStateM.Result _ (Bench Rk05 β) Unit) := by
  obtain ⟨hgo, hfunction⟩ := hv
  have hbus : (s.controller.set RK05_CS v).getBusAddress =
      BitVec.ofNat 32 (s.controller.programmedBus v) := by
    rw [← toNat_getBusAddress, BitVec.ofNat_toNat, BitVec.setWidth_eq]
  have hlength := recordLength_le (s.controller.get RK05_WC)
  have hdisk := s.controller.programmedDisk_lt
  rw [← toNat_diskOffset] at hdisk ⊢
  have hexecute : Triple
      (Midway reads s.controller.selected
        (BitVec.ofNat 32 (s.controller.programmedBus v))
        (diskOffset (s.controller.get RK05_DA)).toNat 0)
      (execute v s.controller.selected (s.controller.get RK05_DA)
        (recordLength (s.controller.get RK05_WC))
        (BitVec.ofNat 32 (s.controller.programmedBus v)) :
        Command Rk05 β Unit)
      (fun _ => Ended reads
        (BitVec.ofNat 32 (s.controller.programmedBus v))
        (diskOffset (s.controller.get RK05_DA)).toNat
        (recordLength (s.controller.get RK05_WC)))
      (fun _ => Failed) := by
    unfold execute
    rw [hfunction]
    cases reads with
    | false =>
        exact transfer_ended (writePiece_moves v _ _ _) (by omega)
    | true =>
        exact transfer_ended (readPiece_moves v _ _ _) (by omega)
  have hrun : writeWord RK05_CS v s =
      (execute v s.controller.selected (s.controller.get RK05_DA)
          (recordLength (s.controller.get RK05_WC))
          (s.controller.set RK05_CS v).getBusAddress >>= fun _ =>
        finish v s.controller.selected)
        { s with
          controller := (s.controller.set RK05_CS v).modify RK05_CS
            (· &&& ~~~(1#16 <<< 13)) } := by
    unfold writeWord modifyController
    rw [update_bind_apply, if_pos ⟨rfl, hgo⟩]
    rfl
  rw [hrun, hbus]
  refine (hexecute.bind fun _ => finish_ended v _) _ ⟨hloaded, ?_⟩
  rw [htrace]
  exact Moves.nil

end Rk05

namespace Rl02

variable {β : Type}

/-- The bus address that the registers hold, with two bits of the command. -/
def programmedBus (v : Word) (c : Rl02) : Nat :=
  (c.get RL02_BAR).toNat + v.toNat / 16 % 4 * 65536

/-- The position on the disk that the disk address register names: track and
head, forty sectors of 256 bytes each, and sector. -/
def programmedDisk (c : Rl02) : Nat :=
  let dar := (c.get RL02_DAR).toNat
  ((dar / 128 * 2 + dar / 64 % 2) * 40 + dar % 64) * 256

theorem and_not_one_toNat
    (x : BitVec 32) :
    (x &&& ~~~(1 : BitVec 32)).toNat = x.toNat / 2 * 2 := by
  have hx := x.isLt
  have heq : x &&& ~~~(1 : BitVec 32) = x >>> 1 <<< 1 := by
    ext i hi
    simp only [BitVec.ofNat_eq_ofNat, BitVec.getElem_and, BitVec.getElem_not,
      BitVec.getElem_one, BitVec.getElem_shiftLeft,
      BitVec.getElem_ushiftRight]
    rcases i with _ | i
    · simp
    · simp [Nat.add_comm 1 i, BitVec.getLsbD_eq_getElem hi]
  rw [heq, BitVec.toNat_shiftLeft, BitVec.toNat_ushiftRight,
    Nat.shiftRight_eq_div_pow, Nat.shiftLeft_eq]
  omega

/-- The transfer starts at the even address. -/
theorem toNat_getBusAddress
    (v : Word) (c : Rl02) :
    (c.set RL02_CSR v).getBusAddress.toNat = c.programmedBus v / 2 * 2 := by
  have hext : ((v >>> 4) &&& 3).toNat = v.toNat / 16 % 4 := by
    rw [BitVec.toNat_and, BitVec.toNat_ushiftRight, Nat.shiftRight_eq_div_pow]
    exact Nat.and_two_pow_sub_one_eq_mod _ 2
  have hcsr : (c.set RL02_CSR v).get RL02_CSR = v := by
    simp [set, get]
  have hbar : (c.set RL02_CSR v).get RL02_BAR = c.get RL02_BAR := by
    rfl
  unfold getBusAddress programmedBus
  rw [hcsr, hbar, and_not_one_toNat, extended_toNat]
  · rw [BitVec.toNat_setWidth, hext]
    omega
  · rw [BitVec.toNat_setWidth, hext]
    omega

theorem toNat_calcOffset
    (c : Rl02) :
    (c.position (c.get RL02_DAR)).calcOffset.toNat = c.programmedDisk := by
  unfold calcOffset position programmedDisk
  dsimp only
  generalize c.get RL02_DAR = dar
  have hdar := dar.isLt
  have hsector : (dar &&& 63).toNat = dar.toNat % 64 := by
    rw [BitVec.toNat_and]
    exact Nat.and_two_pow_sub_one_eq_mod _ 6
  have hhead : ((dar >>> 6) &&& 1).toNat = dar.toNat / 64 % 2 := by
    rw [BitVec.toNat_and, BitVec.toNat_ushiftRight, Nat.shiftRight_eq_div_pow]
    exact Nat.and_two_pow_sub_one_eq_mod _ 1
  have htrack : (dar >>> 7).toNat = dar.toNat / 128 := by
    rw [BitVec.toNat_ushiftRight, Nat.shiftRight_eq_div_pow]
  rw [hsector, hhead, htrack, BitVec.toNat_ofInt]
  unfold rl02SectorsPerTrack rl02BytesPerSector
  omega

/-- All word counts but one give the bytes that are asked for. -/
theorem byteCount_eq_iff
    (w : Word) :
    byteCount w = wordCountBytes w ↔ w ≠ 0x8000 := by
  have hw := w.isLt
  have heq : w = 0x8000 ↔ w.toNat = 32768 := by
    rw [← BitVec.toNat_inj]
    rfl
  unfold byteCount wordCountBytes
  dsimp only
  rw [Ne, heq]
  split <;> omega

theorem byteCount_le
    (w : Word) :
    byteCount w ≤ 131072 := by
  unfold byteCount
  dsimp only
  split <;> omega

theorem programmedDisk_lt
    (c : Rl02) :
    c.programmedDisk < 2 ^ 24 := by
  have h := (c.get RL02_DAR).isLt
  unfold programmedDisk
  dsimp only
  omega

theorem driveLoaded_of_loaded
    {device : Nat} {s : Bench Rl02 β} (h : (s.drive device).isSome = true) :
    driveLoaded device s = .ok true s := by
  unfold driveLoaded
  rw [view_bind_apply]
  unfold Bench.drive at h
  cases hfh : s.fhs[device]? with
  | none =>
      rw [hfh] at h
      cases h
  | some drive =>
      rw [hfh] at h
      exact congrArg (fun b => EStateM.Result.ok b s) h

variable [DiskBackend β]

theorem writePiece_moves
    (device : Nat) (memory : PhysAddr) (disk : Nat) :
    MovesPiece false device memory disk
      (writePiece device : (memory disk : BitVec 32) → (cur left : Nat) →
        Unit → Command Rl02 β (Bool × Unit)) := by
  intro k offset cur left place hoffset
  refine .view_bind_any fun buffer => ?_
  refine .bind (loadBytes_half buffer) fun buffer => ?_
  refine .bind (modifyController_halfWritten _) fun _ => ?_
  refine .bind (Q := fun ok s =>
    if ok then Midway false device memory disk (k + cur) s else Failed s)
    ?_ fun ok => ?_
  · intro s hs
    unfold writeLoaded
    rw [bind_of_ok (driveLoaded_of_loaded hs.loaded)]
    exact writeDrive_half buffer hoffset s hs
  · cases ok with
    | false =>
        exact .pure fun _ hs => hs
    | true =>
        exact .bind (modifyController_midway _) fun _ => .pure fun _ hs => hs

theorem readPiece_moves
    (device : Nat) (memory : PhysAddr) (disk : Nat) :
    MovesPiece true device memory disk
      (readPiece device : (memory disk : BitVec 32) → (cur left : Nat) →
        Unit → Command Rl02 β (Bool × Unit)) := by
  intro k offset cur left place hoffset
  refine .view_bind_any fun buffer => ?_
  refine .bind (Q := fun r s =>
    if r.1 then HalfRead device memory disk k cur r.2 s else Failed s)
    ?_ fun result => ?_
  · intro s hs
    unfold readLoaded
    rw [bind_of_ok (driveLoaded_of_loaded hs.1)]
    exact readDrive_half buffer hoffset s hs
  · obtain ⟨ok, buffer⟩ := result
    cases ok with
    | false =>
        exact modifyController_failed _ _ fun _ hs => hs
    | true =>
        refine .bind (modifyController_halfRead _) fun _ => ?_
        refine .bind (storeBytes_half buffer) fun _ => ?_
        exact .bind (modifyController_midway _) fun _ => .pure fun _ hs => hs

/-- The command of a word that moves data: 5 writes to the disk, 6 and 7 read
from it. -/
def Transfers (v : Word) (reads : Bool) : Prop :=
  if reads then (v >>> 1) &&& 7 = 6 ∨ (v >>> 1) &&& 7 = 7
  else (v >>> 1) &&& 7 = 5

/-- The drive that a command word is for. -/
def selected (v : Word) : Nat :=
  ((v >>> 8) &&& 3).toNat

omit [DiskBackend β] in
theorem transfer_ended
    {reads : Bool} {device : Nat} {s : Bench Rl02 β}
    {piece : (memory disk : BitVec 32) → (cur left : Nat) → Unit →
      Command Rl02 β (Bool × Unit)}
    (hpiece : MovesPiece reads device s.controller.getBusAddress
      s.controller.programmedDisk piece)
    (htrace : s.trace = []) (hloaded : (s.drive device).isSome = true) :
    After
      (fun _ => Ended reads s.controller.getBusAddress
        s.controller.programmedDisk
        (byteCount (s.controller.get RL02_MPR)))
      (fun _ => Failed) (transfer piece s) := by
  have hlength := byteCount_le (s.controller.get RL02_MPR)
  have hdisk := s.controller.programmedDisk_lt
  rw [← toNat_calcOffset] at hpiece hdisk ⊢
  refine transferLoop_ended (by decide) hpiece _ () (by omega)
    { s with
      controller := s.controller.position (s.controller.get RL02_DAR) }
    ⟨hloaded, ?_⟩
  rw [htrace]
  exact Moves.nil

/-- What a command of the RL02 moves, once the word is in the register. -/
theorem execute_ended
    {v : Word} {reads : Bool} (hv : Transfers v reads) {s : Bench Rl02 β}
    (htrace : s.trace = [])
    (hloaded : (s.drive (selected v)).isSome = true) :
    After
      (fun _ => Ended reads s.controller.getBusAddress
        s.controller.programmedDisk
        (byteCount (s.controller.get RL02_MPR)))
      (fun _ => Failed)
      (execute (selected v) ((v >>> 1) &&& 7).toNat s :
        EStateM.Result _ (Bench Rl02 β) Bool) := by
  have hexists : decide (selected v < s.fhs.length) = true :=
    decide_eq_true (Bench.lt_of_drive hloaded)
  unfold execute driveExists
  rw [view_bind_apply, hexists]
  cases reads with
  | false =>
      rw [show (v >>> 1) &&& 7 = 5 from hv]
      exact after_bind (m := transfer (writePiece (selected v)))
        (transfer_ended (writePiece_moves _ _ _) htrace hloaded)
        fun _ _ ht => ht
  | true =>
      have hread : After _ _ (transfer (readPiece (selected v)) s) :=
        transfer_ended (readPiece_moves (selected v) _ _) htrace hloaded
      rcases hv with hv | hv
      · rw [hv]
        exact after_bind hread fun _ _ ht => ht
      · rw [hv]
        exact after_bind hread fun _ _ ht => ht

/-- What a command of the RL02 moves. -/
theorem writeWord_ended
    {v : Word} {reads : Bool} (hv : Transfers v reads) {s : Bench Rl02 β}
    (htrace : s.trace = [])
    (hloaded : (s.drive (selected v)).isSome = true) :
    After
      (fun _ => Ended reads
        (BitVec.ofNat 32 (s.controller.programmedBus v / 2 * 2))
        s.controller.programmedDisk
        (byteCount (s.controller.get RL02_MPR)))
      (fun _ => Failed)
      (writeWord RL02_CSR v s : EStateM.Result _ (Bench Rl02 β) Unit) := by
  have hbus : (s.controller.set RL02_CSR v).getBusAddress =
      BitVec.ofNat 32 (s.controller.programmedBus v / 2 * 2) := by
    rw [← toNat_getBusAddress, BitVec.ofNat_toNat, BitVec.setWidth_eq]
  have hdar : (s.controller.set RL02_CSR v).get RL02_DAR =
      s.controller.get RL02_DAR := by
    rfl
  have hmpr : (s.controller.set RL02_CSR v).get RL02_MPR =
      s.controller.get RL02_MPR := by
    rfl
  have hexecute := execute_ended hv
    (s := { s with controller := s.controller.set RL02_CSR v }) htrace hloaded
  have hdisk : (s.controller.set RL02_CSR v).programmedDisk =
      s.controller.programmedDisk := by
    unfold programmedDisk
    rw [hdar]
  dsimp only at hexecute
  rw [hbus, hdisk, hmpr] at hexecute
  unfold writeWord modifyController
  rw [update_bind_apply, if_pos rfl]
  refine after_bind hexecute fun doInt t ht => ?_
  unfold controllerView
  rw [view_bind_apply, ite_apply_state]
  split
  · exact ht
  · exact ht

end Rl02

/-- A bit of a word, as a mask and as a digit. -/
theorem and_bit_ne_zero_iff
    (v : Word) {n : Nat} (hn : n < 16) :
    v &&& BitVec.twoPow 16 n ≠ 0 ↔ v.toNat / 2 ^ n % 2 = 1 := by
  have hpow : BitVec.twoPow 16 n ≠ 0 := by
    rw [Ne, BitVec.toNat_eq, BitVec.toNat_twoPow, Nat.mod_eq_of_lt]
    · exact Nat.ne_of_gt (Nat.two_pow_pos n)
    · exact Nat.pow_lt_pow_right (by decide) hn
  rw [BitVec.and_twoPow, ← BitVec.testBit_toNat,
    Nat.testBit_eq_decide_div_mod_eq]
  split
  · rename_i h
    exact ⟨fun _ => of_decide_eq_true h, fun _ => hpow⟩
  · rename_i h
    exact ⟨fun hzero => absurd rfl hzero,
      fun hbit => absurd (decide_eq_true hbit) h⟩

namespace Rp06

variable {β : Type}

/-- The bus address that the registers hold: the extension register, if it is
not zero, goes before the two bits of the command. -/
def programmedBus (v : Word) (c : Rp06) : Nat :=
  (c.get RP06_UBA).toNat +
    (if c.get RP06_BAE ≠ 0 then (c.get RP06_BAE).toNat % 64
      else v.toNat / 256 % 4) * 65536

/-- The position on the disk that the desired cylinder, track and sector
name. -/
def programmedDisk (c : Rp06) : Nat :=
  let cn := (c.get RP06_DC).toNat
  let tn := (c.get RP06_DA).toNat / 256
  let sn := (c.get RP06_DA).toNat % 256
  (cn * c.nsect.toNat * c.ntrac.toNat + tn * c.nsect.toNat + sn) * 512

/-- The offset is the position cut to 32 bits. -/
theorem toNat_computeOffset
    (c : Rp06) :
    c.computeOffset.toNat = c.programmedDisk % 2 ^ 32 := by
  have hda := (c.get RP06_DA).isLt
  have htrack : ((c.get RP06_DA >>> 8) &&& 0o377).toNat =
      (c.get RP06_DA).toNat / 256 := by
    rw [BitVec.toNat_and, BitVec.toNat_ushiftRight, Nat.shiftRight_eq_div_pow]
    refine (Nat.and_two_pow_sub_one_eq_mod _ 8).trans ?_
    omega
  have hsector : (c.get RP06_DA &&& 0o377).toNat =
      (c.get RP06_DA).toNat % 256 := by
    rw [BitVec.toNat_and]
    exact Nat.and_two_pow_sub_one_eq_mod _ 8
  unfold computeOffset programmedDisk
  dsimp only
  rw [BitVec.toNat_mul, BitVec.toNat_add, BitVec.toNat_add, BitVec.toNat_mul,
    BitVec.toNat_mul, BitVec.toNat_mul, BitVec.toNat_setWidth,
    BitVec.toNat_setWidth, BitVec.toNat_setWidth, htrack, hsector]
  simp only [Nat.mod_mul_mod, Nat.add_mod_mod, Nat.mod_add_mod]
  rfl

/-- The controller when the function starts. -/
def commanded (v : Word) (c : Rp06) : Rp06 :=
  let c := c.set RP06_CS1 v
  let c := if c.get RP06_CS1 &&& cs1Rdy ≠ 0 then c.set RP06_AS 1 else c
  c.modify RP06_CS1 (· &&& ~~~((v &&& 62) ||| cs1Go ||| cs1Tre))

theorem get_set_self
    (c : Rp06) (a v : Word) :
    (c.set a v).get a = v :=
  Function.update_self _ _ _

theorem get_set_of_ne
    (c : Rp06) {a b : Word} (h : regNum a ≠ regNum b) (v : Word) :
    (c.set b v).get a = c.get a := by
  unfold get set
  dsimp only
  rw [Function.update_of_ne h]

theorem commanded_cs1
    (v : Word) (c : Rp06) :
    (commanded v c).get RP06_CS1 =
      v &&& ~~~((v &&& 62) ||| cs1Go ||| cs1Tre) := by
  unfold commanded modify
  dsimp only
  rw [get_set_self]
  split
  · rw [get_set_of_ne _ (by decide), get_set_self]
  · rw [get_set_self]

theorem commanded_get
    (v : Word) (c : Rp06) {a : Word} (hcs1 : regNum a ≠ regNum RP06_CS1)
    (has : regNum a ≠ regNum RP06_AS) :
    (commanded v c).get a = c.get a := by
  unfold commanded modify
  dsimp only
  rw [get_set_of_ne _ hcs1]
  split
  · rw [get_set_of_ne _ has, get_set_of_ne _ hcs1]
  · rw [get_set_of_ne _ hcs1]

/-- Clearing the function and the error bit leaves the address bits. -/
theorem commanded_bit
    (v : Word) {n : Nat} (hn : n = 8 ∨ n = 9) :
    (v &&& ~~~((v &&& 62) ||| cs1Go ||| cs1Tre)) &&& BitVec.twoPow 16 n =
      v &&& BitVec.twoPow 16 n := by
  rw [BitVec.and_twoPow, BitVec.and_twoPow]
  rcases hn with rfl | rfl
  · simp [cs1Go, cs1Tre]
  · simp [cs1Go, cs1Tre]

theorem commanded_geometry
    (v : Word) (c : Rp06) :
    (commanded v c).nsect = c.nsect ∧ (commanded v c).ntrac = c.ntrac := by
  unfold commanded
  dsimp only
  split
  · exact ⟨rfl, rfl⟩
  · exact ⟨rfl, rfl⟩

theorem commanded_computeOffset
    (v : Word) (c : Rp06) :
    (commanded v c).computeOffset = c.computeOffset := by
  obtain ⟨hnsect, hntrac⟩ := commanded_geometry v c
  unfold computeOffset
  rw [commanded_get v c (by decide) (by decide),
    commanded_get v c (by decide) (by decide), hnsect, hntrac]

/-- Two address bits above a word, one by one and together. -/
theorem two_bits_toNat
    (low : Word) (p q : Prop) [Decidable p] [Decidable q] :
    (low.setWidth 32 ||| ((if p then 1#32 else 0) <<< 16) |||
        ((if q then 1#32 else 0) <<< 17)).toNat =
      low.toNat + ((if p then 1 else 0) + (if q then 2 else 0)) * 65536 := by
  have hext : ((if p then 1#32 else 0) <<< 16) |||
      ((if q then 1#32 else 0) <<< 17) =
        BitVec.ofNat 32 ((if p then 1 else 0) + (if q then 2 else 0)) <<<
          16 := by
    split
    · split
      · decide
      · decide
    · split
      · decide
      · decide
  have hsmall : (if p then 1 else 0) + (if q then 2 else 0) < 4 := by
    split
    · split <;> decide
    · split <;> decide
  rw [BitVec.or_assoc, hext, extended_toNat]
  · rw [BitVec.toNat_ofNat, Nat.mod_eq_of_lt (by omega),
      show 2 ^ 16 = 65536 from rfl]
  · rw [BitVec.toNat_ofNat]
    omega

theorem getphysaddr_commanded
    (v : Word) (c : Rp06) :
    (commanded v c).getphysaddr = BitVec.ofNat 32 (c.programmedBus v) := by
  have huba := (c.get RP06_UBA).isLt
  have hbae : (c.get RP06_BAE &&& 0o77).toNat =
      (c.get RP06_BAE).toNat % 64 := by
    rw [BitVec.toNat_and]
    exact Nat.and_two_pow_sub_one_eq_mod _ 6
  apply BitVec.eq_of_toNat_eq
  unfold getphysaddr programmedBus
  dsimp only
  rw [commanded_get v c (by decide) (by decide),
    commanded_get v c (by decide) (by decide), commanded_cs1]
  split
  · rw [extended_toNat, BitVec.toNat_setWidth, hbae, BitVec.toNat_ofNat]
    · omega
    · rw [BitVec.toNat_setWidth, hbae]
      omega
  · have h16 := commanded_bit v (n := 8) (Or.inl rfl)
    have h17 := commanded_bit v (n := 9) (Or.inr rfl)
    rw [two_bits_toNat, show cs1A16 = BitVec.twoPow 16 8 from rfl,
      show cs1A17 = BitVec.twoPow 16 9 from rfl, h16, h17]
    simp only [and_bit_ne_zero_iff v (show 8 < 16 by decide),
      and_bit_ne_zero_iff v (show 9 < 16 by decide), BitVec.toNat_ofNat]
    split
    · split <;> omega
    · split <;> omega

/-- The bytes of the sectors that a transfer touches. -/
def roundUp (n : Nat) : Nat :=
  (n + 511) / 512 * 512

section Loop

variable [DiskBackend β] {reads : Bool} {memory : PhysAddr} {disk : Nat}

theorem piece_moves
    (k cur : Nat) (offset : BitVec 32) (buffer : Buffer)
    (hoffset : offset.toNat = disk + k) :
    Triple (Midway reads 0 memory disk k)
      (piece reads (memory + BitVec.ofNat 32 k) offset cur buffer :
        Command Rp06 β (Bool × Buffer))
      (fun r s =>
        if r.1 then Midway reads 0 memory disk (k + cur) s else Failed s)
      (fun _ => Failed) := by
  cases reads with
  | true =>
      refine .bind (readDrive_half buffer hoffset) fun result => ?_
      obtain ⟨ok, buffer⟩ := result
      cases ok with
      | false =>
          exact .pure fun _ hs => hs
      | true =>
          exact .bind (storeBytes_half buffer) fun _ => .pure fun _ hs => hs
  | false =>
      refine .bind (loadBytes_half buffer) fun buffer => ?_
      exact .bind (writeDrive_half buffer hoffset) fun ok =>
        .pure fun _ hs => hs

/-- The loop from the `j`th sector on, when its offsets fit in 32 bits. -/
theorem transferLoop_moves
    {n : Nat} {endOffset : BitVec 32} (hend : endOffset.toNat = disk + n)
    (hfits : disk + roundUp n < 2 ^ 32)
    (passes j : Nat) (curOffset : BitVec 32) (buffer : Buffer)
    (hcur : curOffset.toNat = disk + 512 * j) (hj : 512 * j < n + 512)
    (hpasses : n + 512 ≤ 512 * (j + passes)) :
    Triple (Midway reads 0 memory disk (min (512 * j) n))
      (transferLoop reads endOffset passes
        (memory + BitVec.ofNat 32 (min (512 * j) n)) curOffset buffer :
        Command Rp06 β Unit)
      (fun _ => Ended reads memory disk n)
      (fun _ => Failed) := by
  induction passes generalizing j curOffset buffer with
  | zero =>
      omega
  | succ passes ih =>
      unfold roundUp at hfits
      have hlt : curOffset < endOffset ↔ 512 * j < n := by
        rw [BitVec.lt_def, hcur, hend]
        omega
      refine .ite (fun hmore => ?_) fun hdone => ?_
      · rw [hlt] at hmore
        have hsub : min (endOffset - curOffset).toNat sectorSize =
            min (512 * (j + 1)) n - 512 * j := by
          rw [BitVec.toNat_sub, hcur, hend]
          unfold sectorSize
          omega
        have hnext := ih (j + 1)
          (curOffset + BitVec.ofNat 32 sectorSize)
        rw [Nat.min_eq_left (by omega)]
        refine .bind (piece_moves (512 * j) _ curOffset buffer hcur)
          fun result => ?_
        obtain ⟨goOn, buffer⟩ := result
        refine .ite (fun hgo => ?_) fun hstop => ?_
        · rw [hgo]
          have hmemory : memory + BitVec.ofNat 32 (512 * j) +
              BitVec.ofNat 32 (min (endOffset - curOffset).toNat sectorSize) =
                memory + BitVec.ofNat 32 (min (512 * (j + 1)) n) := by
            rw [BitVec.add_assoc, ← BitVec.ofNat_add, hsub]
            congr 2
            omega
          rw [hmemory]
          refine (hnext buffer ?_ (by omega) (by omega)).strengthen_pre ?_
          · rw [BitVec.toNat_add, BitVec.toNat_ofNat, hcur]
            unfold sectorSize
            omega
          · intro s hs
            rw [if_pos rfl, hsub] at hs
            rwa [show 512 * j + (min (512 * (j + 1)) n - 512 * j) =
              min (512 * (j + 1)) n by omega] at hs
        · exact .pure fun s hs => Or.inr (by
            rw [if_neg hstop] at hs
            exact hs)
      · rw [hlt] at hdone
        rw [Nat.min_eq_right (by omega)]
        exact .pure fun s hs => Or.inl hs.2

/-- A pass of the loop leaves the drive loaded or fails. -/
theorem piece_loaded
    (offset : BitVec 32) (cur : Nat) (buffer : Buffer) (a : PhysAddr) :
    Triple (Loaded 0)
      (piece reads a offset cur buffer : Command Rp06 β (Bool × Buffer))
      (fun r s => if r.1 then Loaded 0 s else Failed s)
      (fun _ _ => True) := by
  cases reads with
  | true =>
      refine .bind (readDrive_loaded _ _ _ buffer) fun result => ?_
      obtain ⟨ok, buffer⟩ := result
      cases ok with
      | false =>
          exact .pure fun _ hs => hs
      | true =>
          exact .bind (storeBytes_loaded _ _ _ _) fun _ => .pure fun _ hs => hs
  | false =>
      refine .bind (loadBytes_loaded _ _ _ _) fun buffer => ?_
      exact .bind (writeDrive_loaded _ _ _ _) fun ok => .pure fun _ hs => hs

/-- A loop up to the last partial sector that 32 bits can name comes to no
end, unless a call fails. -/
theorem transferLoop_endless
    {endOffset : BitVec 32} (hend : 2 ^ 32 - 512 < endOffset.toNat)
    (passes : Nat) (a : PhysAddr) (curOffset : BitVec 32) (buffer : Buffer)
    (hcur : 512 ∣ curOffset.toNat) :
    Triple (Loaded 0)
      (transferLoop reads endOffset passes a curOffset buffer :
        Command Rp06 β Unit)
      (fun _ => Failed) (fun _ _ => True) := by
  induction passes generalizing a curOffset buffer with
  | zero =>
      exact .raise fun _ _ => trivial
  | succ passes ih =>
      have hlt : curOffset < endOffset := by
        have hbound := curOffset.isLt
        rw [BitVec.lt_def]
        omega
      refine .ite (fun _ => ?_) fun hdone => absurd hlt hdone
      refine .bind (piece_loaded curOffset _ buffer a) fun result => ?_
      obtain ⟨goOn, buffer⟩ := result
      refine .ite (fun hgo => ?_) fun hstop => ?_
      · rw [hgo]
        exact ih _ _ _ (dvd_toNat_add (by decide) hcur (Nat.dvd_refl _))
      · exact .pure fun s hs => by
          rw [if_neg hstop] at hs
          exact hs

end Loop

section Run

variable [DiskBackend β]

/-- The function of a command word that moves data: 060 writes to the disk and
070 reads from it. -/
def Transfers (v : Word) (reads : Bool) : Prop :=
  v &&& 1 ≠ 0 ∧ v &&& 62 = if reads then 0o70 else 0o60

/-- What the loop of a transfer leaves in the log, the command leaves. -/
theorem writeWord_after
    {v : Word} {reads : Bool} (hv : Transfers v reads) {s : Bench Rp06 β}
    {P : List DiskEvent → Prop} {E : DiskStop → Bench Rp06 β → Prop}
    (hloop : After (fun _ t => P t.trace) E
      (transferLoop reads
        (s.controller.computeOffset +
          BitVec.ofNat 32 (wordCountBytes (s.controller.get RP06_WC)))
        allPasses (BitVec.ofNat 32 (s.controller.programmedBus v))
        s.controller.computeOffset (fun _ => 0)
        { s with controller := commanded v s.controller })) :
    After (fun _ t => P t.trace) E
      (writeWord RP06_CS1 v s : EStateM.Result _ (Bench Rp06 β) Unit) := by
  have htransfer : After (fun _ t => P t.trace) E
      (transfer reads { s with controller := commanded v s.controller }) := by
    unfold transfer controllerView
    rw [view_bind_apply, view_bind_apply, view_bind_apply]
    dsimp only
    rw [commanded_computeOffset, getphysaddr_commanded,
      commanded_get v _ (by decide) (by decide)]
    exact after_bind hloop fun _ _ ht => ht
  have hexecute : After (fun _ t => P t.trace) E
      (execute (v &&& 62).toNat
        { s with controller := commanded v s.controller }) := by
    rw [hv.2]
    cases reads with
    | false =>
        exact after_bind htransfer fun _ _ ht => ht
    | true =>
        exact after_bind htransfer fun _ _ ht => ht
  unfold writeWord modifyController
  rw [update_bind_apply, if_pos rfl, update_bind_apply, if_pos hv.1]
  unfold go modifyController
  rw [update_bind_apply]
  refine after_bind hexecute fun doInt t ht => ?_
  unfold controllerView
  rw [view_bind_apply, ite_apply_state]
  split
  · exact ht
  · exact ht

/-- A transfer whose sectors end before 2^32. -/
theorem writeWord_ended
    {v : Word} {reads : Bool} (hv : Transfers v reads) {s : Bench Rp06 β}
    (htrace : s.trace = []) (hloaded : (s.drive 0).isSome = true)
    (hfits : s.controller.computeOffset.toNat +
      roundUp (wordCountBytes (s.controller.get RP06_WC)) < 2 ^ 32) :
    After
      (fun _ => Ended reads (BitVec.ofNat 32 (s.controller.programmedBus v))
        s.controller.computeOffset.toNat
        (wordCountBytes (s.controller.get RP06_WC)))
      (fun _ => Failed)
      (writeWord RP06_CS1 v s : EStateM.Result _ (Bench Rp06 β) Unit) := by
  have hbytes : wordCountBytes (s.controller.get RP06_WC) ≤ 131072 := by
    unfold wordCountBytes
    omega
  have hround : wordCountBytes (s.controller.get RP06_WC) ≤
      roundUp (wordCountBytes (s.controller.get RP06_WC)) := by
    unfold roundUp
    omega
  refine writeWord_after hv
    (P := fun log => Moves reads _ _ _ log ∨ ¬ AccessesSucceed log) ?_
  have hend : (s.controller.computeOffset + BitVec.ofNat 32
      (wordCountBytes (s.controller.get RP06_WC))).toNat =
        s.controller.computeOffset.toNat +
          wordCountBytes (s.controller.get RP06_WC) := by
    rw [BitVec.toNat_add, BitVec.toNat_ofNat]
    omega
  have hpasses : wordCountBytes (s.controller.get RP06_WC) + 512 ≤
      512 * (0 + allPasses) := by
    unfold allPasses
    omega
  have hloop : Triple
      (Midway reads 0 (BitVec.ofNat 32 (s.controller.programmedBus v))
        s.controller.computeOffset.toNat _)
      (transferLoop reads _ allPasses _ _ fun _ => 0 : Command Rp06 β Unit)
      _ _ :=
    transferLoop_moves hend hfits allPasses 0 s.controller.computeOffset
      (fun _ => 0) rfl (by omega) hpasses
  rw [Nat.mul_zero, Nat.zero_min, BitVec.add_zero] at hloop
  refine hloop { s with controller := commanded v s.controller }
    ⟨hloaded, ?_⟩
  rw [htrace]
  exact Moves.nil

/-- A transfer whose sectors do not end before 2^32 moves something else. -/
theorem writeWord_beyond
    {v : Word} {reads : Bool} (hv : Transfers v reads) {s : Bench Rp06 β}
    (htrace : s.trace = []) (hloaded : (s.drive 0).isSome = true)
    (hbeyond : 2 ^ 32 ≤ s.controller.computeOffset.toNat +
      roundUp (wordCountBytes (s.controller.get RP06_WC))) :
    After (fun _ t => t.trace = [] ∨ Failed t) (fun _ _ => True)
      (writeWord RP06_CS1 v s : EStateM.Result _ (Bench Rp06 β) Unit) := by
  have hpos := wordCountBytes_pos (s.controller.get RP06_WC)
  have hbytes : wordCountBytes (s.controller.get RP06_WC) ≤ 131072 := by
    unfold wordCountBytes
    omega
  have hoffset := s.controller.computeOffset.isLt
  have haligned := computeOffset_dvd s.controller
  unfold roundUp at hbeyond
  refine writeWord_after hv
    (P := fun log => log = [] ∨ ¬ AccessesSucceed log) ?_
  by_cases hwraps : 2 ^ 32 ≤ s.controller.computeOffset.toNat +
      wordCountBytes (s.controller.get RP06_WC)
  · have hnone : ¬ s.controller.computeOffset <
        s.controller.computeOffset +
          BitVec.ofNat 32 (wordCountBytes (s.controller.get RP06_WC)) := by
      rw [BitVec.lt_def, BitVec.toNat_add, BitVec.toNat_ofNat]
      omega
    unfold allPasses transferLoop
    rw [if_neg hnone]
    exact Or.inl htrace
  · have hend : 2 ^ 32 - 512 < (s.controller.computeOffset + BitVec.ofNat 32
        (wordCountBytes (s.controller.get RP06_WC))).toNat := by
      rw [BitVec.toNat_add, BitVec.toNat_ofNat]
      omega
    exact (transferLoop_endless hend _ _ _ _ haligned).weaken_post
      (fun _ _ h => Or.inr h) _ hloaded

end Run

end Rp06

section WordCount

variable {β : Type} [DiskBackend β] {v : Word} {reads : Bool}

/-- The command returns and has moved the bytes between the two places. -/
def MovesExactly {ρ : Type} (reads : Bool) (memory disk n : Nat)
    (r : EStateM.Result DiskStop (Bench ρ β) Unit) : Prop :=
  ∃ t, r = .ok () t ∧ Moves reads (BitVec.ofNat 32 memory) disk n t.trace

theorem rk05_moves_iff
    (hv : Rk05.Transfers v reads) {s : Bench Rk05 β} (htrace : s.trace = [])
    (hloaded : (s.drive s.controller.selected).isSome = true)
    (hsucceed : AccessesSucceed
      (final (Rk05.writeWord Rk05.RK05_CS v s)).trace) :
    MovesExactly reads (s.controller.programmedBus v)
        s.controller.programmedDisk
        (wordCountBytes (s.controller.get Rk05.RK05_WC))
        (Rk05.writeWord Rk05.RK05_CS v s) ↔
      0x8000 ≤ (s.controller.get Rk05.RK05_WC).toNat := by
  unfold MovesExactly
  rw [moves_iff (Rk05.writeWord_ended hv htrace hloaded) hsucceed
    (wordCountBytes_pos _), Rk05.recordLength_eq_iff]
  simp

theorem rl02_moves_iff
    (hv : Rl02.Transfers v reads) {s : Bench Rl02 β} (htrace : s.trace = [])
    (hloaded : (s.drive (Rl02.selected v)).isSome = true)
    (hsucceed : AccessesSucceed
      (final (Rl02.writeWord Rl02.RL02_CSR v s)).trace) :
    MovesExactly reads (s.controller.programmedBus v)
        s.controller.programmedDisk
        (wordCountBytes (s.controller.get Rl02.RL02_MPR))
        (Rl02.writeWord Rl02.RL02_CSR v s) ↔
      s.controller.get Rl02.RL02_MPR ≠ 0x8000 ∧
        (s.controller.get Rl02.RL02_BAR).toNat % 2 = 0 := by
  have hbar := (s.controller.get Rl02.RL02_BAR).isLt
  have hbus : BitVec.ofNat 32 (s.controller.programmedBus v / 2 * 2) =
      BitVec.ofNat 32 (s.controller.programmedBus v) ↔
        (s.controller.get Rl02.RL02_BAR).toNat % 2 = 0 := by
    unfold Rl02.programmedBus
    rw [← BitVec.toNat_inj, BitVec.toNat_ofNat, BitVec.toNat_ofNat]
    omega
  unfold MovesExactly
  rw [moves_iff (Rl02.writeWord_ended hv htrace hloaded) hsucceed
    (wordCountBytes_pos _), Rl02.byteCount_eq_iff, hbus]
  simp

theorem rp06_moves_iff
    (hv : Rp06.Transfers v reads) {s : Bench Rp06 β} (htrace : s.trace = [])
    (hloaded : (s.drive 0).isSome = true)
    (hsucceed : AccessesSucceed
      (final (Rp06.writeWord Rp06.RP06_CS1 v s)).trace) :
    MovesExactly reads (s.controller.programmedBus v)
        s.controller.programmedDisk
        (wordCountBytes (s.controller.get Rp06.RP06_WC))
        (Rp06.writeWord Rp06.RP06_CS1 v s) ↔
      s.controller.programmedDisk +
        Rp06.roundUp (wordCountBytes (s.controller.get Rp06.RP06_WC)) <
          2 ^ 32 := by
  have hpos := wordCountBytes_pos (s.controller.get Rp06.RP06_WC)
  have hoffset := Rp06.toNat_computeOffset s.controller
  unfold MovesExactly
  by_cases hfits : s.controller.computeOffset.toNat +
      Rp06.roundUp (wordCountBytes (s.controller.get Rp06.RP06_WC)) < 2 ^ 32
  · rw [moves_iff (Rp06.writeWord_ended hv htrace hloaded hfits) hsucceed hpos]
    constructor
    · rintro ⟨-, -, hdisk⟩
      omega
    · intro hend
      exact ⟨rfl, rfl, by omega⟩
  · have hbeyond := Rp06.writeWord_beyond hv htrace hloaded
      (Nat.le_of_not_lt hfits)
    constructor
    · rintro ⟨t, ht, hmoves⟩
      rw [ht] at hbeyond hsucceed
      rcases hbeyond with hnil | hfailed
      · rw [hnil] at hmoves
        exact absurd hmoves.eq_zero (Nat.ne_of_gt hpos)
      · exact absurd hsucceed hfailed
    · intro hend
      have := Nat.mod_le s.controller.programmedDisk (2 ^ 32)
      omega

/-- When the accesses to the drive succeed, a transfer moves the words that
the word count asks for, from the programmed places on, if and only if: on the
RK05, the count is negative as a signed number; on the RL02, it is not 0100000
and the bus address is even; on the RP06, the sectors of the transfer end
before 2^32. -/
theorem word_count_is_moved_iff
    (v : Word) (reads : Bool) :
    (∀ s : Bench Rk05 β, Rk05.Transfers v reads → s.trace = [] →
      (s.drive s.controller.selected).isSome = true →
      AccessesSucceed (final (Rk05.writeWord Rk05.RK05_CS v s)).trace →
      (MovesExactly reads (s.controller.programmedBus v)
          s.controller.programmedDisk
          (wordCountBytes (s.controller.get Rk05.RK05_WC))
          (Rk05.writeWord Rk05.RK05_CS v s) ↔
        0x8000 ≤ (s.controller.get Rk05.RK05_WC).toNat)) ∧
    (∀ s : Bench Rl02 β, Rl02.Transfers v reads → s.trace = [] →
      (s.drive (Rl02.selected v)).isSome = true →
      AccessesSucceed (final (Rl02.writeWord Rl02.RL02_CSR v s)).trace →
      (MovesExactly reads (s.controller.programmedBus v)
          s.controller.programmedDisk
          (wordCountBytes (s.controller.get Rl02.RL02_MPR))
          (Rl02.writeWord Rl02.RL02_CSR v s) ↔
        s.controller.get Rl02.RL02_MPR ≠ 0x8000 ∧
          (s.controller.get Rl02.RL02_BAR).toNat % 2 = 0)) ∧
    (∀ s : Bench Rp06 β, Rp06.Transfers v reads → s.trace = [] →
      (s.drive 0).isSome = true →
      AccessesSucceed (final (Rp06.writeWord Rp06.RP06_CS1 v s)).trace →
      (MovesExactly reads (s.controller.programmedBus v)
          s.controller.programmedDisk
          (wordCountBytes (s.controller.get Rp06.RP06_WC))
          (Rp06.writeWord Rp06.RP06_CS1 v s) ↔
        s.controller.programmedDisk +
          Rp06.roundUp (wordCountBytes (s.controller.get Rp06.RP06_WC)) <
            2 ^ 32)) := by
  refine ⟨fun s hv htrace hloaded hsucceed => ?_,
    fun s hv htrace hloaded hsucceed => ?_,
    fun s hv htrace hloaded hsucceed => ?_⟩
  · exact rk05_moves_iff hv htrace hloaded hsucceed
  · exact rl02_moves_iff hv htrace hloaded hsucceed
  · exact rp06_moves_iff hv htrace hloaded hsucceed

end WordCount

section Examples

instance : DecidablePred DiskEvent.Succeeds
  | .call _ _ _ answer => inferInstanceAs (Decidable (answer = some true))
  | .diskRead _ _ => isTrue trivial
  | .diskWritten _ _ => isTrue trivial
  | .memoryRead _ _ => isTrue trivial
  | .memoryWritten _ _ => isTrue trivial

/-- An RL02 with one drive and a word count; the command READ DATA is 014. -/
def oneDriveRl02 (count : Word) (b : Backend) : Bench Rl02 Backend where
  controller :=
    { registers := Function.update (fun _ => 0) 3 count
      xferBuffer := fun _ => 0
      track := 0
      head := 0
      sector := 0
      mpr := fun _ => 0 }
  fhs := [some b]
  ram := { size := 0o20000, m := fun _ => 0 }
  requests := []
  trace := []

/-- A count of minus 128 moves one sector. -/
theorem word_count_is_moved_one_sector :
    MovesExactly true 0 0 256
      (Rl02.writeWord Rl02.RL02_CSR 0o14
        (oneDriveRl02 (-128) (threeSectors false))) := by
  have hsucceed : AccessesSucceed (final (Rl02.writeWord Rl02.RL02_CSR 0o14
      (oneDriveRl02 (-128) (threeSectors false)))).trace := by
    unfold AccessesSucceed
    decide +kernel
  exact ((word_count_is_moved_iff 0o14 true).2.1 _ (Or.inl rfl) rfl rfl
    hsucceed).mpr (by decide)

/-- A count of 0100000 moves nothing instead of 32768 words. -/
theorem smallest_count_moves_nothing :
    AccessesSucceed (final (Rl02.writeWord Rl02.RL02_CSR 0o14
        (oneDriveRl02 0x8000 (threeSectors false)))).trace ∧
      ¬ MovesExactly true 0 0 (wordCountBytes 0x8000)
        (Rl02.writeWord Rl02.RL02_CSR 0o14
          (oneDriveRl02 0x8000 (threeSectors false))) := by
  have htrace : (final (Rl02.writeWord Rl02.RL02_CSR 0o14
      (oneDriveRl02 0x8000 (threeSectors false)))).trace = [] := by
    rfl
  rw [htrace]
  refine ⟨nofun, ?_⟩
  rintro ⟨t, ht, hmoves⟩
  rw [ht] at htrace
  rw [show t.trace = [] from htrace] at hmoves
  exact absurd hmoves.eq_zero (by decide)

end Examples

end KekPdp11
