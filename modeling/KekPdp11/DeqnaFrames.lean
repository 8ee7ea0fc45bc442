import KekPdp11.DeqnaWalks
import KekPdp11.Lib.Slices

/-!
# KEK PDP-11: frames in DEQNA buffers

What memory is after a frame has been delivered to a descriptor, and when the
frame has reached the guest unaltered: the buffer must take the padded frame,
have zeros where the padding belongs, for these are not written, and lie in
memory and beside the words that the device writes to the descriptor.
-/

namespace KekPdp11

open Walks Slices

section Padding

/-- A frame with the zeros that pad it to 60 bytes. -/
def padded (frame : List Byte) : List Byte :=
  frame ++ List.replicate (60 - frame.length) 0

theorem length_padded
    (frame : List Byte) :
    (padded frame).length = max frame.length 60 := by
  rw [padded, List.length_append, List.length_replicate]
  omega

theorem padded_of_lt
    {frame : List Byte} {i : Nat} (hlt : i < frame.length)
    (hi : i < (padded frame).length) :
    (padded frame)[i] = frame[i] := by
  simp only [padded]
  exact List.getElem_append_left hlt

theorem padded_of_le
    {frame : List Byte} {i : Nat} (hle : frame.length ≤ i)
    (hi : i < (padded frame).length) :
    (padded frame)[i] = 0 := by
  simp only [padded]
  rw [List.getElem_append_right hle, List.getElem_replicate]

/-- What the guest makes of the status words. -/
def decodedLength (status1 status2 : Word) : Nat :=
  (status1 &&& 0x0700 ||| status2 &&& 0x00ff).toNat + 60

theorem status_bits
    (x : Word) :
    (x &&& (0x0700 : Word) ||| (0x00f8 : Word)) &&& (0x0700 : Word) |||
      ((x &&& 0xff) <<< 8 ||| x &&& 0xff) &&& (0x00ff : Word) =
        x &&& 0x07ff := by
  ext i hi
  interval_cases i <;> simp

theorem rxStatus1_eq
    (byteCnt : Nat) :
    rxStatus1 byteCnt =
      BitVec.ofNat 16 (statusLength byteCnt) &&& 0x0700 ||| 0x00f8 := by
  rw [rxStatus1, BitVec.ofNat_or, BitVec.ofNat_and]
  rfl

theorem rxStatus2_eq
    (byteCnt : Nat) :
    rxStatus2 byteCnt =
      (BitVec.ofNat 16 (statusLength byteCnt) &&& 0xff) <<< 8 |||
        (BitVec.ofNat 16 (statusLength byteCnt) &&& 0xff) := by
  have hshift : BitVec.ofNat 16 ((statusLength byteCnt &&& 0xff) <<< 8) =
      BitVec.ofNat 16 (statusLength byteCnt &&& 0xff) <<< 8 := by
    apply BitVec.eq_of_toNat_eq
    rw [BitVec.toNat_shiftLeft, BitVec.toNat_ofNat, BitVec.toNat_ofNat,
      Nat.shiftLeft_eq, Nat.shiftLeft_eq, Nat.mod_mul_mod]
  rw [rxStatus2, BitVec.ofNat_or, hshift, BitVec.ofNat_and]
  rfl

theorem decodedLength_status
    {byteCnt : Nat} (h : byteCnt ≤ 1514) :
    decodedLength (rxStatus1 byteCnt) (rxStatus2 byteCnt) =
      max byteCnt 60 := by
  have hlength : (BitVec.ofNat 16 (statusLength byteCnt) &&& 0x07ff).toNat =
      statusLength byteCnt := by
    have hmask := Nat.and_two_pow_sub_one_of_lt_two_pow
      (show statusLength byteCnt < 2 ^ 11 by unfold statusLength; omega)
    rw [BitVec.toNat_and, BitVec.toNat_ofNat, Nat.mod_eq_of_lt (by
      unfold statusLength
      omega)]
    exact hmask
  rw [decodedLength, rxStatus1_eq, rxStatus2_eq, status_bits, hlength,
    statusLength]
  omega

/-- The bytes that the device leaves in a descriptor, by their offsets. -/
def descriptorByte (byteCnt : Nat) : Nat → Option Byte
  | 0 => some 0x00
  | 1 => some 0x03
  | 2 => some 0
  | 3 => some 0
  | 8 => some ((rxStatus1 byteCnt).setWidth 8)
  | 9 => some ((rxStatus1 byteCnt >>> 8).setWidth 8)
  | 10 => some ((rxStatus2 byteCnt).setWidth 8)
  | 11 => some ((rxStatus2 byteCnt >>> 8).setWidth 8)
  | _ => none

/-- The byte that the device writes to the descriptor at `p`, at a memory
address. -/
def writtenByte (p : PhysAddr) (byteCnt i : Nat) : Option Byte :=
  if p.toNat ≤ i then descriptorByte byteCnt (i - p.toNat) else none

end Padding

section Memory

variable {r : Ram} {a : PhysAddr}

theorem Ram.writeUnibusWord_m
    (v : Word) (h : a < r.size) :
    (r.writeUnibusWord a v).m =
      overwrite r.m a.toNat [v.setWidth 8, (v >>> 8).setWidth 8] := by
  unfold writeUnibusWord
  rw [if_pos h]
  funext i
  change Function.update (Function.update r.m a.toNat (v.setWidth 8))
    (a.toNat + 1) ((v >>> 8).setWidth 8) i = _
  rcases Nat.lt_trichotomy i a.toNat with hlt | rfl | hgt
  · rw [overwrite_before hlt, Function.update_of_ne (by omega),
      Function.update_of_ne (by omega)]
  · rw [overwrite_inside_of_le le_rfl (by simp),
      Function.update_of_ne (by omega), Function.update_self]
    simp
  · by_cases hnext : i = a.toNat + 1
    · subst hnext
      rw [Function.update_self, overwrite_inside_of_le (by omega) (by simp)]
      simp
    · rw [Function.update_of_ne hnext, Function.update_of_ne (by omega),
        overwrite_after (by simp; omega)]

@[simp] theorem Ram.writeUnibusWord_size
    (v : Word) :
    (r.writeUnibusWord a v).size = r.size := by
  unfold writeUnibusWord
  split <;> rfl

@[simp] theorem Ram.writeUnibusByte_size
    (v : Byte) :
    (r.writeUnibusByte a v).size = r.size := by
  unfold writeUnibusByte
  split <;> rfl

@[simp] theorem Ram.storeBytes_size
    (data : List Byte) :
    (r.storeBytes a data).size = r.size := by
  induction data generalizing r a with
  | nil =>
      rfl
  | cons v data ih =>
      rw [storeBytes, ih, writeUnibusByte_size]

theorem Ram.writeUnibusByte_m
    (v : Byte) :
    (r.writeUnibusByte a v).m =
      overwrite r.m a.toNat ([v].take (r.size.toNat - a.toNat)) := by
  unfold writeUnibusByte
  by_cases h : a < r.size
  · have hlt : a.toNat < r.size.toNat := h
    rw [if_pos h, List.take_of_length_le (by simp; omega)]
    funext i
    change Function.update r.m a.toNat v i = _
    by_cases hi : i = a.toNat
    · subst hi
      rw [Function.update_self, overwrite_inside_of_le le_rfl (by simp)]
      simp
    · rw [Function.update_of_ne hi, overwrite_outside (by simp; omega)]
  · have hle : r.size.toNat ≤ a.toNat := Nat.le_of_not_lt h
    rw [if_neg h, Nat.sub_eq_zero_of_le hle, List.take_zero, overwrite_nil]

/-- Bytes are stored as far as memory goes. -/
theorem Ram.storeBytes_m
    (data : List Byte) (h : a.toNat + data.length ≤ 2 ^ 32) :
    (r.storeBytes a data).m =
      overwrite r.m a.toNat (data.take (r.size.toNat - a.toNat)) := by
  induction data generalizing r a with
  | nil =>
      rw [List.take_nil, overwrite_nil]
      rfl
  | cons v data ih =>
      rw [List.length_cons] at h
      cases data with
      | nil =>
          exact writeUnibusByte_m v
      | cons w data =>
          rw [List.length_cons] at h
          have hnext : (a + 1).toNat = a.toNat + 1 := by
            bv_omega
          rw [storeBytes, ih (by rw [hnext, List.length_cons]; omega),
            writeUnibusByte_m, writeUnibusByte_size, hnext]
          rcases Nat.lt_or_ge a.toNat r.size.toNat with hlt | hge
          · have hone : [v].take (r.size.toNat - a.toNat) = [v] :=
              List.take_of_length_le (by simp; omega)
            have hstart : a.toNat + 1 = a.toNat + [v].length := rfl
            rw [hone, hstart, overwrite_append]
            congr 1
            rw [show r.size.toNat - a.toNat =
              (r.size.toNat - (a.toNat + [v].length)) + 1 by
                simp; omega]
            simp
          · rw [Nat.sub_eq_zero_of_le hge,
              Nat.sub_eq_zero_of_le (by omega : r.size.toNat ≤ a.toNat + 1)]
            simp

end Memory

section Delivery

variable {r : Ram} {p : PhysAddr} {frame : List Byte}

theorem low_address_lt
    (high low : Word) :
    (((high &&& 63).setWidth 32 <<< 16) ||| low.setWidth 32 :
      PhysAddr).toNat < 2 ^ 22 := by
  have hhigh : (high &&& 63).toNat < 64 := by
    rw [BitVec.toNat_and]
    exact Nat.and_lt_two_pow (n := 6) _ (by decide)
  rw [BitVec.toNat_or]
  apply Nat.or_lt_two_pow
  · rw [BitVec.toNat_shiftLeft, BitVec.toNat_setWidth, Nat.shiftLeft_eq]
    omega
  · rw [BitVec.toNat_setWidth]
    omega

/-- The walk of the receiver stays in 22 bits. -/
theorem reaches_lt
    {q : Deqna} (hreach : Walks.Reaches (rxNext r) (q.listAddress 2) p) :
    p.toNat < 2 ^ 22 := by
  obtain ⟨n, hn⟩ := hreach
  cases n with
  | zero =>
      cases hn
      exact low_address_lt _ _
  | succ n =>
      obtain ⟨b, -, hb⟩ := Option.bind_eq_some_iff.mp hn
      unfold rxNext at hb
      split at hb
      · cases hb
        exact low_address_lt _ _
      · cases hb

/-- The bytes of a frame that are stored in the buffer. -/
def Ram.stored (r : Ram) (p : PhysAddr) (frame : List Byte) : List Byte :=
  (frame.take (r.descriptor p).length).take
    (r.size.toNat - (r.descriptor p).chain.toNat)

/-- The words that the device writes to a descriptor when it is done. -/
theorem overwrite_descriptor
    {f g : Nat → Byte} (byteCnt : Nat) {i : Nat}
    (h : i ≠ p.toNat → i ≠ p.toNat + 1 → f i = g i) :
    overwrite (overwrite (overwrite (overwrite f
      (p.toNat + 8) [(rxStatus1 byteCnt).setWidth 8,
        (rxStatus1 byteCnt >>> 8).setWidth 8])
      (p.toNat + 10) [(rxStatus2 byteCnt).setWidth 8,
        (rxStatus2 byteCnt >>> 8).setWidth 8])
      p.toNat [((0x0200 ||| 0x0100 : Word)).setWidth 8,
        ((0x0200 ||| 0x0100 : Word) >>> 8).setWidth 8])
      (p.toNat + 2) [(0 : Word).setWidth 8, ((0 : Word) >>> 8).setWidth 8] i =
      (writtenByte p byteCnt i).getD (g i) := by
  rcases Nat.lt_or_ge i p.toNat with hlt | hge
  · rw [overwrite_before (by omega), overwrite_before hlt,
      overwrite_before (by omega), overwrite_before (by omega),
      h (by omega) (by omega), writtenByte, if_neg (by omega)]
    rfl
  · obtain ⟨k, rfl⟩ := Nat.exists_eq_add_of_le hge
    rw [writtenByte, if_pos hge, Nat.add_sub_cancel_left]
    simp only [overwrite_pair]
    by_cases hk : k < 12
    · interval_cases k <;> simp [descriptorByte]
      all_goals exact h (by omega) (by omega)
    · have hnone : descriptorByte byteCnt k = none := by
        obtain ⟨j, rfl⟩ := Nat.exists_eq_add_of_le (Nat.le_of_not_lt hk)
        rw [Nat.add_comm]
        rfl
      rw [hnone, if_neg (by omega), if_neg (by omega), if_neg (by omega),
        if_neg (by omega), if_neg (by omega), if_neg (by omega),
        if_neg (by omega), if_neg (by omega), h (by omega) (by omega)]
      rfl

/-- Memory after a delivery: the bytes of the frame in the buffer and then the
bytes of the descriptor. -/
theorem Ram.deliver_m
    (hp : p.toNat + 12 ≤ r.size.toNat) (hlen : frame.length ≤ 1514) (i : Nat) :
    (r.deliver p frame).m i =
      (writtenByte p frame.length i).getD
        (overwrite r.m (r.descriptor p).chain.toNat (r.stored p frame) i) := by
  have hchain : (r.descriptor p).chain.toNat < 2 ^ 22 :=
    low_address_lt _ _
  have hstored : (frame.take (r.descriptor p).length).length ≤ 1514 :=
    (List.length_take_le' _ _).trans hlen
  have hstart : ∀ k < 12, (p + BitVec.ofNat 32 k).toNat = p.toNat + k := by
    intro k hk
    have hsize := r.size.isLt
    rw [BitVec.toNat_add, BitVec.toNat_ofNat]
    omega
  have hlt : ∀ k < 12, p + BitVec.ofNat 32 k < r.size := by
    intro k hk
    rw [BitVec.lt_def, hstart k hk]
    omega
  have h2 : (p + 2).toNat = p.toNat + 2 := hstart 2 (by omega)
  have h8 : (p + 8).toNat = p.toNat + 8 := hstart 8 (by omega)
  have h10 : (p + 10).toNat = p.toNat + 10 := hstart 10 (by omega)
  unfold deliver
  dsimp only
  rw [writeUnibusWord_m _ (by simpa using hlt 2 (by omega)),
    writeUnibusWord_m _ (by simpa using hlt 0 (by omega)),
    writeUnibusWord_m _ (by simpa using hlt 10 (by omega)),
    writeUnibusWord_m _ (by simpa using hlt 8 (by omega)),
    storeBytes_m _ (by omega),
    writeUnibusWord_m _ (by simpa using hlt 0 (by omega)),
    writeUnibusWord_size]
  rw [h2, h8, h10]
  refine overwrite_descriptor frame.length fun hlow hhigh => ?_
  exact overwrite_congr (overwrite_outside (by simp; omega))

@[simp] theorem Ram.deliver_size :
    (r.deliver p frame).size = r.size := by
  simp [deliver]

theorem Ram.readWord_of_bytes
    {r : Ram} {a : PhysAddr} {v : Word}
    (hlow : r.m a.toNat = v.setWidth 8)
    (hhigh : r.m (a.toNat + 1) = (v >>> 8).setWidth 8) :
    r.readWord a = v := by
  rw [readWord, hlow, hhigh]
  grind

/-- After a delivery the device's bytes are in the descriptor. -/
theorem Ram.deliver_written
    (hp : p.toNat + 12 ≤ r.size.toNat) (hlen : frame.length ≤ 1514)
    {i : Nat} {v : Byte} (h : writtenByte p frame.length i = some v) :
    (r.deliver p frame).m i = v := by
  rw [deliver_m hp hlen, h]
  rfl

/-- The other bytes are those of the frame in the buffer. -/
theorem Ram.deliver_unwritten
    (hp : p.toNat + 12 ≤ r.size.toNat) (hlen : frame.length ≤ 1514)
    {i : Nat} (h : writtenByte p frame.length i = none) :
    (r.deliver p frame).m i =
      overwrite r.m (r.descriptor p).chain.toNat (r.stored p frame) i := by
  rw [deliver_m hp hlen, h]
  rfl

theorem writtenByte_offset
    (p : PhysAddr) (byteCnt k : Nat) :
    writtenByte p byteCnt (p.toNat + k) = descriptorByte byteCnt k := by
  rw [writtenByte, if_pos (Nat.le_add_right _ _), Nat.add_sub_cancel_left]

/-- The status words of a delivered frame give its padded length. -/
theorem Ram.deliver_decodedLength
    (hp : p.toNat + 12 ≤ r.size.toNat) (hlen : frame.length ≤ 1514) :
    decodedLength ((r.deliver p frame).readWord (p + 8))
      ((r.deliver p frame).readWord (p + 10)) = max frame.length 60 := by
  have h8 : (p + 8).toNat = p.toNat + 8 := by
    bv_omega
  have h10 : (p + 10).toNat = p.toNat + 10 := by
    bv_omega
  have hbyte : ∀ i k v, i = p.toNat + k → descriptorByte frame.length k =
      some v → (r.deliver p frame).m i = v := by
    rintro _ k v rfl h
    exact deliver_written hp hlen ((writtenByte_offset p _ _).trans h)
  have hstatus1 : (r.deliver p frame).readWord (p + 8) =
      rxStatus1 frame.length :=
    readWord_of_bytes (hbyte _ 8 _ h8 (descriptorByte.eq_5 _))
      (hbyte _ 9 _ (by rw [h8]) (descriptorByte.eq_6 _))
  have hstatus2 : (r.deliver p frame).readWord (p + 10) =
      rxStatus2 frame.length :=
    readWord_of_bytes (hbyte _ 10 _ h10 (descriptorByte.eq_7 _))
      (hbyte _ 11 _ (by rw [h10]) (descriptorByte.eq_8 _))
  rw [hstatus1, hstatus2, decodedLength_status hlen]

/-- What the guest finds in memory after a delivery is the frame. -/
structure Unaltered (r : Ram) (p : PhysAddr) (frame : List Byte) (r' : Ram) :
    Prop where
  /-- In a large enough buffer the padded frame, with its length. -/
  whole : max frame.length 60 ≤ (r.descriptor p).length →
    decodedLength (r'.readWord (p + 8)) (r'.readWord (p + 10)) =
      max frame.length 60 ∧
    ∀ i (h : i < (padded frame).length),
      (r.descriptor p).chain.toNat + i < r.size.toNat ∧
      r'.m ((r.descriptor p).chain.toNat + i) = (padded frame)[i]
  /-- In a smaller one no more than is stored. -/
  part : (r.descriptor p).length < max frame.length 60 →
    decodedLength (r'.readWord (p + 8)) (r'.readWord (p + 10)) ≤
      (r.stored p frame).length
  /-- Nothing outside the buffer and the words 0, 1, 4 and 5 changes. -/
  beside : ∀ i,
    (i < (r.descriptor p).chain.toNat ∨
      (r.descriptor p).chain.toNat + (r.descriptor p).length ≤ i) →
    writtenByte p frame.length i = none → r'.m i = r.m i

/-- The buffer of a descriptor has room for a padded frame and already has
what the device does not write. -/
structure Suits (r : Ram) (p : PhysAddr) (frame : List Byte) : Prop where
  room : max frame.length 60 ≤ (r.descriptor p).length
  inside : (r.descriptor p).chain.toNat + max frame.length 60 ≤ r.size.toNat
  /-- Where the buffer overlaps the descriptor the bytes agree. -/
  overlap : ∀ i (h : i < (padded frame).length) v,
    writtenByte p frame.length ((r.descriptor p).chain.toNat + i) = some v →
    v = (padded frame)[i]
  /-- Where the padding belongs memory is zero. -/
  zeros : ∀ i, frame.length ≤ i → i < 60 →
    writtenByte p frame.length ((r.descriptor p).chain.toNat + i) = none →
    r.m ((r.descriptor p).chain.toNat + i) = 0

theorem Ram.length_stored_le
    (r : Ram) (p : PhysAddr) (frame : List Byte) :
    (r.stored p frame).length ≤ (r.descriptor p).length := by
  unfold stored
  rw [List.length_take, List.length_take]
  omega

theorem Ram.length_stored_le_frame
    (r : Ram) (p : PhysAddr) (frame : List Byte) :
    (r.stored p frame).length ≤ frame.length := by
  unfold stored
  rw [List.length_take, List.length_take]
  omega

/-- A frame that there is room for is stored whole. -/
theorem Suits.stored
    (h : Suits r p frame) :
    r.stored p frame = frame := by
  have hroom := h.room
  have hinside := h.inside
  unfold Ram.stored
  rw [List.take_of_length_le (l := frame) (by omega),
    List.take_of_length_le (by omega)]

/-- A delivered frame is unaltered if and only if the buffer suits it. -/
theorem deliver_unaltered_iff
    (hp : p.toNat + 12 ≤ r.size.toNat) (hlen : frame.length ≤ 1514) :
    Unaltered r p frame (r.deliver p frame) ↔ Suits r p frame := by
  have hdecoded := Ram.deliver_decodedLength hp hlen
  constructor
  · intro h
    have hroom : max frame.length 60 ≤ (r.descriptor p).length := by
      by_contra hsmall
      have hpart := h.part (by omega)
      have hstored := r.length_stored_le p frame
      omega
    obtain ⟨-, hbytes⟩ := h.whole hroom
    refine ⟨hroom, ?_, ?_, ?_⟩
    · have hlast := (hbytes (max frame.length 60 - 1)
        (by rw [length_padded]; omega)).1
      omega
    · intro i hi v hv
      exact (Ram.deliver_written hp hlen hv).symm.trans (hbytes i hi).2
    · intro i hframe hi hnone
      have hpad : i < (padded frame).length := by
        rw [length_padded]
        omega
      have hstored : (r.stored p frame).length ≤ i :=
        (r.length_stored_le_frame p frame).trans hframe
      have hbyte := (hbytes i hpad).2
      rw [Ram.deliver_unwritten hp hlen hnone, overwrite_after (by omega),
        padded_of_le hframe hpad] at hbyte
      exact hbyte
  · intro h
    have hroom := h.room
    have hinside := h.inside
    have hstored := h.stored
    refine ⟨fun _ => ⟨hdecoded, fun i hi => ?_⟩, fun hsmall => ?_,
      fun i hbeside hnone => ?_⟩
    · have hpad := hi
      rw [length_padded] at hpad
      refine ⟨by omega, ?_⟩
      cases hw : writtenByte p frame.length
          ((r.descriptor p).chain.toNat + i) with
      | some v =>
          rw [Ram.deliver_written hp hlen hw]
          exact h.overlap i hi v hw
      | none =>
          rw [Ram.deliver_unwritten hp hlen hw, hstored]
          rcases Nat.lt_or_ge i frame.length with hlt | hge
          · rw [overwrite_inside hlt, padded_of_lt hlt hi]
          · rw [overwrite_after (by omega), padded_of_le hge hi,
              h.zeros i hge (by omega) hw]
    · omega
    · rw [Ram.deliver_unwritten hp hlen hnone, hstored,
        overwrite_outside (by omega)]

/-- The outcome of receiver_high where its walk comes to a buffer. -/
theorem receiverHigh_delivers
    {q : Deqna} {P : Ram → Prop}
    (hreach : Walks.Reaches (rxNext r) (q.listAddress 2) p)
    (hroom : p + 12 ≤ r.size) (hvalid : (r.descriptor p).isValid = true)
    (hchain : (r.descriptor p).isChain = false) :
    (∃ passes e, receiverHigh passes q r frame = some e ∧ P e.ram) ↔
      P (r.deliver p frame) := by
  have hnext : rxNext r p = none :=
    if_neg fun h => Bool.false_ne_true (hchain.symm.trans h.2.2)
  have hstop : rxStop r frame p = (r.deliver p frame, true) :=
    if_pos ⟨hroom, hvalid⟩
  generalize r.deliver p frame = r' at hstop ⊢
  obtain ⟨passes, hpasses⟩ := loop_of_reaches hreach hnext
  unfold receiverHigh
  constructor
  · rintro ⟨passes', e, he, h⟩
    rw [rxLoop_eq] at he
    cases hloop : loop (rxNext r) passes' (q.listAddress 2) with
    | none =>
        rw [hloop] at he
        cases he
    | some p' =>
        obtain rfl := loop_unique hloop hpasses
        rw [hloop, Option.map_some, hstop] at he
        cases he
        exact h
  · intro h
    refine ⟨passes, ?_⟩
    rw [rxLoop_eq, hpasses, Option.map_some, hstop]
    exact ⟨_, rfl, h⟩

/-- For every frame and every receive descriptor list whose walk reaches a
valid descriptor that is no chain descriptor, the frame is delivered unaltered
if and only if the buffer suits it. -/
theorem frame_unaltered_iff
    (q : Deqna) (r : Ram) (frame : List Byte) {p : PhysAddr}
    (hlen : 14 ≤ frame.length ∧ frame.length ≤ 1514)
    (hreach : Walks.Reaches (rxNext r) (q.listAddress 2) p)
    (hroom : p + 12 ≤ r.size) (hvalid : (r.descriptor p).isValid = true)
    (hchain : (r.descriptor p).isChain = false) :
    (∃ passes e, receiverHigh passes q r frame = some e ∧
      Unaltered r p frame e.ram) ↔ Suits r p frame := by
  have hp : p.toNat + 12 ≤ r.size.toNat := by
    have hlow := reaches_lt hreach
    bv_omega
  rw [receiverHigh_delivers hreach hroom hvalid hchain]
  exact deliver_unaltered_iff hp hlen.2

/-- A memory with a valid descriptor at 0, whose buffer of 60 bytes is at 256
and has a byte where the padding of a frame of 14 bytes belongs. -/
def paddingRam (stale : Byte) : Ram where
  size := 0o20000
  m
    | 3 => 0x80
    | 5 => 0x01
    | 6 => 0xe2
    | 7 => 0xff
    | 270 => stale
    | _ => 0

def headerFrame : List Byte := List.replicate 14 1

/-- A buffer of zeros suits the frame. -/
theorem frame_unaltered_iff_zeros :
    ∃ passes e, receiverHigh passes idleDeqna (paddingRam 0) headerFrame =
      some e ∧ Unaltered (paddingRam 0) 0 headerFrame e.ram := by
  refine (frame_unaltered_iff idleDeqna (paddingRam 0) headerFrame
    (p := 0) (by decide) ⟨0, rfl⟩ (by decide) (by decide) (by decide)).mpr ?_
  have hchain : ((paddingRam 0).descriptor 0).chain.toNat = 256 := by
    decide
  have hzeros : ∀ i < 60, (paddingRam 0).m (256 + i) = 0 := by
    decide
  refine ⟨by decide, by decide, fun i hi v hv => ?_, fun i hlow hi hnone => ?_⟩
  · have hnone : writtenByte 0 headerFrame.length (256 + i) = none := by
      rw [Nat.add_comm]
      rfl
    rw [hchain, hnone] at hv
    cases hv
  · rw [hchain]
    exact hzeros i hi

/-- A byte that was in the buffer before is taken for padding. -/
theorem stale_byte_in_frame :
    Walks.Reaches (rxNext (paddingRam 0xff)) (idleDeqna.listAddress 2) 0 ∧
      ((paddingRam 0xff).descriptor 0).isValid = true ∧
      ((paddingRam 0xff).descriptor 0).isChain = false ∧
      ¬ ∃ passes e, receiverHigh passes idleDeqna (paddingRam 0xff)
        headerFrame = some e ∧
        Unaltered (paddingRam 0xff) 0 headerFrame e.ram := by
  have hreach : Walks.Reaches (rxNext (paddingRam 0xff))
      (idleDeqna.listAddress 2) 0 :=
    ⟨0, rfl⟩
  refine ⟨hreach, by decide, by decide, fun h => ?_⟩
  rw [receiverHigh_delivers hreach (by decide) (by decide) (by decide),
    deliver_unaltered_iff (by decide) (by decide)] at h
  exact absurd (h.zeros 14 (by decide) (by decide) rfl) (by decide)

end Delivery

end KekPdp11
