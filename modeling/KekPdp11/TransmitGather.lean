import KekPdp11.DeqnaFrames
import KekPdp11.Lib.Gather

/-!
# KEK PDP-11: frames that the DEQNA transmits

The transmitter joins the buffers of descriptors up to one with the END bit to
a frame and hands it on.  As it goes it writes the flags of each descriptor and
the status words of those with the END bit.

`Meets` is the list as the transmitter meets it, where what it writes to one
descriptor may change another one or a buffer; `IsList` is the list as memory
stands before, and `Apart` says that what is written lies beside the buffers
and beside what is read of the descriptors.

* `txLoop_meets`: the loop over a list as it is met.
* `IsList.meets`: lists that lie apart are met as they stand.
* `transmitter_gathers`: the transmitter.
-/

namespace KekPdp11

open Gather

section Lists

/-- The buffer of a descriptor; a chain descriptor has none. -/
def Descriptor.piece (d : Descriptor) (r : Ram) : List Byte :=
  if d.isChain then
    []
  else
    (List.range d.length).map fun i =>
      r.readUnibusByte (d.chain + BitVec.ofNat 32 i)

/-- A valid descriptor in memory, and its buffer if it has one. -/
structure Ram.Offers (r : Ram) (p : PhysAddr) : Prop where
  inside : p.toNat + 12 ≤ r.size.toNat
  valid : (r.descriptor p).isValid = true
  buffer : (r.descriptor p).isChain = false →
    (r.descriptor p).length ≤ 2048 ∧
      (r.descriptor p).chain.toNat + (r.descriptor p).length ≤ r.size.toNat

/-- An invalid descriptor in memory. -/
structure Ram.EndsAt (r : Ram) (p : PhysAddr) : Prop where
  inside : p.toNat + 12 ≤ r.size.toNat
  invalid : (r.descriptor p).isValid = false

/-- The descriptors that the transmitter meets from `p` on, up to an invalid
one. -/
inductive Meets : Ram → PhysAddr → List PhysAddr → Prop
  | last {r : Ram} {p : PhysAddr} (ends : r.EndsAt p) :
      Meets r p []
  | next {r : Ram} {p : PhysAddr} {ps : List PhysAddr} (offers : r.Offers p)
      (rest : Meets (r.taken p) ((r.descriptor p).after p) ps) :
      Meets r p (p :: ps)

/-- Their buffers as the transmitter reads them, and their END bits. -/
def Ram.pieces (r : Ram) : List PhysAddr → List (List Byte × Bool)
  | [] => []
  | p :: ps =>
      ((r.descriptor p).piece (r.writeUnibusWord p 0xffff),
        (r.descriptor p).isEnd) :: (r.taken p).pieces ps

/-- The descriptors from `p` on, up to an invalid one at `e`, as memory
stands. -/
inductive IsList (r : Ram) (e : PhysAddr) : PhysAddr → List PhysAddr → Prop
  | last (ends : r.EndsAt e) :
      IsList r e e []
  | next {p : PhysAddr} {ps : List PhysAddr} (offers : r.Offers p)
      (rest : IsList r e ((r.descriptor p).after p) ps) :
      IsList r e p (p :: ps)

/-- Their buffers and END bits as memory stands. -/
def Ram.listed (r : Ram) (ps : List PhysAddr) : List (List Byte × Bool) :=
  ps.map fun p => ((r.descriptor p).piece r, (r.descriptor p).isEnd)

/-- The addresses of the flags and, if they are written, of the status words of
the descriptor at `p`. -/
def marks (p : PhysAddr) (status : Bool) : Set Nat :=
  {i | i = p.toNat ∨ i = p.toNat + 1 ∨
    (status = true ∧ p.toNat + 8 ≤ i ∧ i < p.toNat + 12)}

/-- What is written to the descriptors of a list. -/
def Ram.marked (r : Ram) (ps : List PhysAddr) : Set Nat :=
  {i | ∃ p ∈ ps, i ∈ marks p (r.descriptor p).isEnd}

/-- What is written lies beside what is read, and no status word is written
over. -/
structure Apart (r : Ram) (e : PhysAddr) (ps : List PhysAddr) : Prop where
  buffers : ∀ p ∈ ps, (r.descriptor p).isChain = false →
    ∀ i < (r.descriptor p).length,
      (r.descriptor p).chain.toNat + i ∉ r.marked ps
  descriptors : ∀ p ∈ e :: ps, ∀ k, 2 ≤ k → k < 8 →
    p.toNat + k ∉ r.marked ps
  statuses : ∀ p ∈ ps, (r.descriptor p).isEnd = true →
    ∀ p' ∈ ps, p' ≠ p → ∀ k, 8 ≤ k → k < 12 →
      p.toNat + k ∉ marks p' (r.descriptor p').isEnd

/-- A frame has a byte at least, and fits in the transmitter's buffer. -/
def SizesFit (frames : List (List Byte)) : Prop :=
  ∀ frame ∈ frames, 1 ≤ frame.length ∧ frame.length ≤ txBufferSize

end Lists

section Handing

/-- The queue of the receiver after a frame is handed to it: it is queued if
there is room, and dropped if not. -/
def queued (received : List (List Byte)) (frame : List Byte) :
    List (List Byte) :=
  if received.length < 1 then received ++ [frame] else received

/-- The transmitter has handed on frames: to the network or, in loopback mode,
one after the other to the queue of the receiver. -/
structure Hands (s : TxState) (frames : List (List Byte)) (t : TxState) :
    Prop where
  network : s.deqna.registers 7 &&& 256 ≠ 0 →
    t.sent = s.sent ++ frames ∧ t.deqna.received = s.deqna.received
  loopback : s.deqna.registers 7 &&& 256 = 0 →
    t.sent = s.sent ∧
      t.deqna.received = frames.foldl queued s.deqna.received
  transmitted : t.deqna.registers 7 =
    s.deqna.registers 7 ||| (if frames = [] then 0 else 128)

/-- No frame has been handed on where the device and the network are as
before. -/
theorem Hands.none
    {s t : TxState} (hdeqna : t.deqna = s.deqna) (hsent : t.sent = s.sent) :
    Hands s [] t := by
  refine ⟨fun _ => ⟨?_, ?_⟩, fun _ => ⟨hsent, ?_⟩, ?_⟩
  · rw [hsent, List.append_nil]
  · rw [hdeqna]
  · rw [hdeqna]
    rfl
  · rw [hdeqna, if_pos rfl]
    exact (BitVec.or_zero).symm

theorem loopback_of_transmitted
    (csr : Word) :
    (csr ||| 128) &&& 256 = csr &&& 256 := by
  ext i hi
  interval_cases i <;> simp

/-- One frame and then others. -/
theorem Hands.cons
    {s t u : TxState} {frame : List Byte} {frames : List (List Byte)}
    (hfirst : Hands s [frame] t) (hrest : Hands t frames u) :
    Hands s (frame :: frames) u := by
  have hcsr : t.deqna.registers 7 = s.deqna.registers 7 ||| 128 :=
    hfirst.transmitted
  have hmode : t.deqna.registers 7 &&& 256 = s.deqna.registers 7 &&& 256 := by
    rw [hcsr, loopback_of_transmitted]
  refine ⟨fun h => ?_, fun h => ?_, ?_⟩
  · obtain ⟨hsent, hreceived⟩ := hfirst.network h
    obtain ⟨hsent', hreceived'⟩ := hrest.network (hmode ▸ h)
    exact ⟨by rw [hsent', hsent]; simp, hreceived'.trans hreceived⟩
  · obtain ⟨hsent, hreceived⟩ := hfirst.loopback h
    obtain ⟨hsent', hreceived'⟩ := hrest.loopback (hmode.trans h)
    refine ⟨hsent'.trans hsent, ?_⟩
    rw [hreceived', hreceived]
    rfl
  · rw [hrest.transmitted, hcsr, if_neg (List.cons_ne_nil _ _)]
    split
    · exact BitVec.or_zero
    · rw [BitVec.or_assoc, BitVec.or_self]

/-- A packet that is not empty is handed on. -/
theorem TxState.push_hands
    {s : TxState} (h : s.buffer ≠ []) :
    (s.deqna.registers 7 &&& 256 ≠ 0 →
      s.push.sent = s.sent ++ [s.buffer] ∧ s.push.deqna = s.deqna) ∧
    (s.deqna.registers 7 &&& 256 = 0 →
      s.push.sent = s.sent ∧
        s.push.deqna = s.deqna.queueRxPacket s.buffer) ∧
    s.push.buffer = [] := by
  unfold push
  rw [if_neg h]
  split
  · next hloop =>
      exact ⟨fun hne => absurd hloop hne, fun _ => ⟨rfl, rfl⟩, rfl⟩
  · next hwire =>
      exact ⟨fun _ => ⟨rfl, rfl⟩, fun hloop => absurd hloop hwire, rfl⟩

theorem Deqna.queueRxPacket_received
    (q : Deqna) (frame : List Byte) :
    (q.queueRxPacket frame).received = queued q.received frame := by
  unfold queueRxPacket queued
  split <;> rfl

@[simp] theorem Deqna.queueRxPacket_registers
    (q : Deqna) (frame : List Byte) :
    (q.queueRxPacket frame).registers = q.registers := by
  unfold queueRxPacket
  split <;> rfl

theorem TxState.push_registers
    (s : TxState) :
    s.push.deqna.registers = s.deqna.registers := by
  unfold push
  split_ifs <;> simp

/-- The end of a packet that is not empty hands it on. -/
theorem TxState.finish_hands
    {s : TxState} (h : s.buffer ≠ []) (p : PhysAddr) :
    Hands s [s.buffer] (s.finish p) ∧ (s.finish p).buffer = [] := by
  obtain ⟨hnetwork, hloopback, hbuffer⟩ := push_hands h
  refine ⟨⟨fun hne => ?_, fun hzero => ?_, ?_⟩, hbuffer⟩
  · obtain ⟨hsent, hdeqna⟩ := hnetwork hne
    refine ⟨hsent, ?_⟩
    change s.push.deqna.received = _
    rw [hdeqna]
  · obtain ⟨hsent, hdeqna⟩ := hloopback hzero
    refine ⟨hsent, ?_⟩
    change s.push.deqna.received = _
    rw [hdeqna]
    exact Deqna.queueRxPacket_received _ _
  · change Function.update s.push.deqna.registers 7
      (s.push.deqna.registers 7 ||| 128) 7 = _
    rw [Function.update_self, push_registers, if_neg (List.cons_ne_nil _ _)]

end Handing

section Loop

variable {s : TxState} {p : PhysAddr} {before : List Byte}

theorem TxState.collect_eq
    {d : Descriptor} (hchain : d.isChain = false) (buffer : List Byte)
    (r : Ram) :
    collect d buffer r = (d.piece r).take (txBufferSize - buffer.length) := by
  have hpiece : d.piece r = (List.range d.length).map fun i =>
      r.readUnibusByte (d.chain + BitVec.ofNat 32 i) :=
    if_neg (by rw [hchain]; exact Bool.false_ne_true)
  rw [collect, hpiece, ← List.map_take, List.take_range, min_comm]

/-- The packet with the buffer of a descriptor. -/
theorem TxState.gathered_buffer
    (d : Descriptor) (r : Ram)
    (hbuffer : s.buffer = before.take txBufferSize) :
    (if d.isChain then s.buffer else s.buffer ++ collect d s.buffer r) =
      (before ++ d.piece r).take txBufferSize := by
  cases hchain : d.isChain with
  | true =>
      have hpiece : d.piece r = [] :=
        if_pos hchain
      rw [hpiece, List.append_nil, ← hbuffer]
      rfl
  | false =>
      rw [collect_eq hchain, hbuffer, ← take_gathered]
      rfl

/-- A descriptor without the END bit adds its buffer. -/
theorem TxState.take_gathers
    (hend : (s.ram.descriptor p).isEnd = false)
    (hbuffer : s.buffer = before.take txBufferSize) :
    (s.take p).deqna = s.deqna ∧ (s.take p).sent = s.sent ∧
      (s.take p).buffer = (before ++ (s.ram.descriptor p).piece
        (s.ram.writeUnibusWord p 0xffff)).take txBufferSize := by
  have hgathered := gathered_buffer (s.ram.descriptor p)
    (s.ram.writeUnibusWord p 0xffff) hbuffer
  unfold take
  dsimp only
  rw [if_neg (by rw [hend]; exact Bool.false_ne_true)]
  exact ⟨rfl, rfl, hgathered⟩

/-- One with the END bit hands on the frame that its buffer completes. -/
theorem TxState.take_hands
    {frame : List Byte}
    (hend : (s.ram.descriptor p).isEnd = true)
    (hbuffer : s.buffer = before.take txBufferSize)
    (hframe : frame = before ++ (s.ram.descriptor p).piece
      (s.ram.writeUnibusWord p 0xffff))
    (hsize : 1 ≤ frame.length ∧ frame.length ≤ txBufferSize) :
    Hands s [frame] (s.take p) ∧ (s.take p).buffer = [] := by
  have hgathered := gathered_buffer (s.ram.descriptor p)
    (s.ram.writeUnibusWord p 0xffff) hbuffer
  rw [← hframe, List.take_of_length_le hsize.2] at hgathered
  have hne : frame ≠ [] := fun h => by
    rw [h] at hsize
    exact absurd hsize.1 (by decide)
  unfold take
  dsimp only
  rw [if_pos hend, hgathered]
  obtain ⟨⟨hnetwork, hloopback, htransmitted⟩, hempty⟩ :=
    finish_hands (s := ⟨s.deqna,
      (s.ram.writeUnibusWord p 0xffff).writeUnibusWord p
        ((s.ram.descriptor p).flags &&& ~~~0x4000),
      frame, s.sent, s.requests⟩) hne p
  exact ⟨⟨hnetwork, hloopback, htransmitted⟩, hempty⟩

/-- A descriptor in memory with a buffer that fits is taken. -/
theorem Ram.Offers.takes
    {r : Ram} (h : r.Offers p) :
    r.Takes p := by
  have hinside := h.inside
  refine ⟨by bv_omega, h.valid, ?_⟩
  cases hchain : (r.descriptor p).isChain with
  | true =>
      exact .inl rfl
  | false =>
      obtain ⟨hlength, hroom⟩ := h.buffer hchain
      refine .inr ?_
      simp [TxState.fits, hlength, hroom]

/-- The loop stops at an invalid descriptor. -/
theorem txLoop_ends
    (h : s.ram.EndsAt p) (passes : Nat) :
    txLoop (passes + 1) p s = some s := by
  have hinside := h.inside
  have hroom : p + 12 ≤ s.ram.size := by
    bv_omega
  rw [txLoop, if_pos hroom]
  dsimp only
  rw [h.invalid]
  rfl

/-- The loop over a list as it is met: a frame is handed on for each END bit,
and memory is written for each descriptor. -/
theorem txLoop_meets
    {r : Ram} {ps : List PhysAddr} (h : Meets r p ps) (hram : s.ram = r)
    (hbuffer : s.buffer = before.take txBufferSize)
    (hsizes : SizesFit (groups before (r.pieces ps)))
    {passes : Nat} (hpasses : ps.length < passes) :
    ∃ t, txLoop passes p s = some t ∧ t.ram = ps.foldl Ram.taken r ∧
      Hands s (groups before (r.pieces ps)) t := by
  induction h generalizing s before passes with
  | last ends =>
      obtain ⟨passes, rfl⟩ : ∃ n, passes = n + 1 :=
        ⟨passes - 1, by omega⟩
      subst hram
      exact ⟨s, txLoop_ends ends passes, rfl, .none rfl rfl⟩
  | @next r p ps offers rest ih =>
      obtain ⟨passes, rfl⟩ : ∃ n, passes = n + 1 :=
        ⟨passes - 1, by omega⟩
      subst hram
      have hram : (s.take p).ram = s.ram.taken p :=
        s.take_ram p
      have hpasses' : ps.length < passes := by
        rw [List.length_cons] at hpasses
        omega
      rw [txLoop_take offers.takes]
      rw [Ram.pieces] at hsizes ⊢
      cases hend : (s.ram.descriptor p).isEnd with
      | false =>
          rw [hend] at hsizes
          obtain ⟨hdeqna, hsent, hgathered⟩ :=
            TxState.take_gathers hend hbuffer
          obtain ⟨t, hloop, htram, hhands⟩ :=
            ih hram hgathered hsizes hpasses'
          refine ⟨t, hloop, htram, ?_⟩
          obtain ⟨hnetwork, hloopback, htransmitted⟩ := hhands
          rw [hdeqna, hsent] at hnetwork hloopback
          rw [hdeqna] at htransmitted
          exact ⟨hnetwork, hloopback, htransmitted⟩
      | true =>
          rw [hend, groups] at hsizes
          obtain ⟨hframe, hrest⟩ := List.forall_mem_cons.mp hsizes
          obtain ⟨hfirst, hempty⟩ :=
            TxState.take_hands hend hbuffer rfl hframe
          have hbuffer' : (s.take p).buffer =
              ([] : List Byte).take txBufferSize :=
            hempty
          obtain ⟨t, hloop, htram, hhands⟩ :=
            ih hram hbuffer' hrest hpasses'
          exact ⟨t, hloop, htram, hfirst.cons hhands⟩

end Loop

section Memory

variable {r r' : Ram} {p e : PhysAddr} {ps : List PhysAddr}

theorem Ram.writeUnibusWord_beside
    (r : Ram) {a : PhysAddr} (v : Word) {i : Nat} (hlow : i ≠ a.toNat)
    (hhigh : i ≠ a.toNat + 1) :
    (r.writeUnibusWord a v).m i = r.m i := by
  unfold writeUnibusWord
  split
  · exact (Function.update_of_ne hhigh _ _).trans
      (Function.update_of_ne hlow _ _)
  · rfl

@[simp] theorem Ram.taken_size
    (r : Ram) (p : PhysAddr) :
    (r.taken p).size = r.size :=
  (r.within_taken p).size

theorem status_addresses
    (hinside : p.toNat + 12 ≤ r.size.toNat) :
    (p + 8).toNat = p.toNat + 8 ∧ (p + 10).toNat = p.toNat + 10 := by
  constructor <;> bv_omega

/-- Nothing beside its flags and status words changes when a descriptor is
taken. -/
theorem Ram.taken_beside
    (hinside : p.toNat + 12 ≤ r.size.toNat) {i : Nat}
    (hi : i ∉ marks p (r.descriptor p).isEnd) :
    (r.taken p).m i = r.m i := by
  obtain ⟨h8, h10⟩ := status_addresses hinside
  have hlow : i ≠ p.toNat := fun h => hi (.inl h)
  have hhigh : i ≠ p.toNat + 1 := fun h => hi (.inr (.inl h))
  have hflags : ∀ v w, ((r.writeUnibusWord p v).writeUnibusWord p w).m i =
      r.m i := fun v w =>
    (writeUnibusWord_beside _ w hlow hhigh).trans
      (r.writeUnibusWord_beside v hlow hhigh)
  unfold taken
  dsimp only
  split
  · next hend =>
      have hstatus : ¬ (p.toNat + 8 ≤ i ∧ i < p.toNat + 12) := fun h =>
        hi (.inr (.inr ⟨hend, h⟩))
      rw [writeUnibusWord_beside _ _ (by omega) (by omega),
        writeUnibusWord_beside _ _ (by omega) (by omega)]
      exact hflags _ _
  · exact hflags _ _

/-- The status words of a descriptor that ends a packet. -/
def Ram.StatusSet (r : Ram) (p : PhysAddr) : Prop :=
  r.readUnibusWord (p + 8) = 0x2000 ∧ r.readUnibusWord (p + 10) = 0

theorem marks_subset
    (p : PhysAddr) (status : Bool) :
    marks p status ⊆ marks p true := by
  rintro i (h | h | ⟨-, h⟩)
  · exact .inl h
  · exact .inr (.inl h)
  · exact .inr (.inr ⟨rfl, h⟩)

/-- Nothing beside the flags and status words changes on a list as it is
met. -/
theorem Meets.beside
    (h : Meets r p ps) {i : Nat} (hi : ∀ p ∈ ps, i ∉ marks p true) :
    (ps.foldl Ram.taken r).m i = r.m i := by
  induction h with
  | last ends =>
      rfl
  | @next r p ps offers rest ih =>
      obtain ⟨hhead, htail⟩ := List.forall_mem_cons.mp hi
      rw [List.foldl_cons, ih htail]
      exact Ram.taken_beside offers.inside fun hmark =>
        hhead (marks_subset p _ hmark)

/-- Two memories of one size have the same bytes outside a set of
addresses. -/
structure Ram.AgreesOutside (S : Set Nat) (r r' : Ram) : Prop where
  size : r'.size = r.size
  outside : ∀ i ∉ S, r'.m i = r.m i

theorem Ram.AgreesOutside.readUnibusWord_eq
    {S : Set Nat} (h : Ram.AgreesOutside S r r') {a : PhysAddr}
    (hlow : a.toNat ∉ S) (hhigh : a.toNat + 1 ∉ S) :
    r'.readUnibusWord a = r.readUnibusWord a := by
  unfold Ram.readUnibusWord Ram.readWord
  rw [h.size, h.outside _ hlow, h.outside _ hhigh]

/-- All but the flags of a descriptor is the same where memories agree on its
words. -/
theorem Ram.AgreesOutside.descriptor_eq
    {S : Set Nat} (h : Ram.AgreesOutside S r r')
    (hinside : p.toNat + 12 ≤ r.size.toNat)
    (hwords : ∀ k, 2 ≤ k → k < 8 → p.toNat + k ∉ S) :
    ∃ flags, r'.descriptor p = { r.descriptor p with flags := flags } := by
  have h2 : (p + 2).toNat = p.toNat + 2 := by
    bv_omega
  have h4 : (p + 4).toNat = p.toNat + 4 := by
    bv_omega
  have h6 : (p + 6).toNat = p.toNat + 6 := by
    bv_omega
  refine ⟨r'.readUnibusWord p, ?_⟩
  unfold Ram.descriptor
  dsimp only
  have hph : r'.readUnibusWord (p + 2) = r.readUnibusWord (p + 2) :=
    h.readUnibusWord_eq (h2 ▸ hwords 2 (by omega) (by omega))
      (h2 ▸ hwords 3 (by omega) (by omega))
  have hpl : r'.readUnibusWord (p + 4) = r.readUnibusWord (p + 4) :=
    h.readUnibusWord_eq (h4 ▸ hwords 4 (by omega) (by omega))
      (h4 ▸ hwords 5 (by omega) (by omega))
  have hlen : r'.readUnibusWord (p + 6) = r.readUnibusWord (p + 6) :=
    h.readUnibusWord_eq (h6 ▸ hwords 6 (by omega) (by omega))
      (h6 ▸ hwords 7 (by omega) (by omega))
  rw [hph, hpl, hlen]

theorem Ram.AgreesOutside.readUnibusByte_eq
    {S : Set Nat} (h : Ram.AgreesOutside S r r') {a : PhysAddr}
    (ha : a.toNat ∉ S) :
    r'.readUnibusByte a = r.readUnibusByte a := by
  unfold Ram.readUnibusByte Ram.readByte
  rw [h.size, h.outside _ ha]

/-- The buffer of a descriptor is the same where memories agree on it. -/
theorem Ram.AgreesOutside.piece_eq
    {S : Set Nat} (h : Ram.AgreesOutside S r r') (hoffers : r.Offers p)
    (hbytes : (r.descriptor p).isChain = false →
      ∀ i < (r.descriptor p).length, (r.descriptor p).chain.toNat + i ∉ S) :
    (r.descriptor p).piece r' = (r.descriptor p).piece r := by
  cases hchain : (r.descriptor p).isChain with
  | true =>
      exact (if_pos hchain).trans (if_pos hchain).symm
  | false =>
      obtain ⟨hlength, -⟩ := hoffers.buffer hchain
      have hnot : ¬ (r.descriptor p).isChain = true := by
        rw [hchain]
        exact Bool.false_ne_true
      rw [Descriptor.piece, Descriptor.piece, if_neg hnot, if_neg hnot]
      refine List.map_congr_left fun i hi => ?_
      rw [List.mem_range] at hi
      have hlow : (r.descriptor p).chain.toNat < 2 ^ 22 :=
        low_address_lt _ _
      have haddr : ((r.descriptor p).chain + BitVec.ofNat 32 i).toNat =
          (r.descriptor p).chain.toNat + i := by
        rw [BitVec.toNat_add, BitVec.toNat_ofNat]
        omega
      exact h.readUnibusByte_eq (by rw [haddr]; exact hbytes hchain i hi)

end Memory

section Standing

variable {r r' : Ram} {p e : PhysAddr} {all ps : List PhysAddr}

theorem Apart.words
    (h : Apart r e all) (hp : p ∈ all) :
    ∀ k, 2 ≤ k → k < 8 → p.toNat + k ∉ r.marked all :=
  h.descriptors p (List.mem_cons_of_mem e hp)

/-- What was written to other descriptors has not changed one that is still to
come. -/
theorem Apart.descriptor_eq
    (h : Apart r e all) (hagree : Ram.AgreesOutside (r.marked all) r r')
    (hp : p ∈ all) (hoffers : r.Offers p) :
    ∃ flags, r'.descriptor p = { r.descriptor p with flags := flags } :=
  hagree.descriptor_eq hoffers.inside (h.words hp)

theorem Apart.isEnd_eq
    (h : Apart r e all) (hagree : Ram.AgreesOutside (r.marked all) r r')
    (hp : p ∈ all) (hoffers : r.Offers p) :
    (r'.descriptor p).isEnd = (r.descriptor p).isEnd := by
  obtain ⟨flags, hflags⟩ := h.descriptor_eq hagree hp hoffers
  rw [hflags]
  rfl

theorem Apart.offers
    (h : Apart r e all) (hagree : Ram.AgreesOutside (r.marked all) r r')
    (hp : p ∈ all) (hoffers : r.Offers p) :
    r'.Offers p := by
  obtain ⟨flags, hflags⟩ := h.descriptor_eq hagree hp hoffers
  have hinside := hoffers.inside
  have hbuffer := hoffers.buffer
  rw [← hagree.size] at hinside hbuffer
  refine ⟨hinside, ?_, ?_⟩
  · rw [hflags]
    exact hoffers.valid
  · rw [hflags]
    exact hbuffer

/-- The buffer is read as it stood. -/
theorem Apart.piece_eq
    (h : Apart r e all) (hagree : Ram.AgreesOutside (r.marked all) r r')
    (hp : p ∈ all) (hoffers : r.Offers p) :
    (r'.descriptor p).piece (r'.writeUnibusWord p 0xffff) =
      (r.descriptor p).piece r := by
  obtain ⟨flags, hflags⟩ := h.descriptor_eq hagree hp hoffers
  have hbusy : Ram.AgreesOutside (r.marked all) r
      (r'.writeUnibusWord p 0xffff) := by
    refine ⟨(Ram.writeUnibusWord_size _).trans hagree.size, fun i hi => ?_⟩
    have hlow : i ≠ p.toNat := fun heq => hi ⟨p, hp, .inl heq⟩
    have hhigh : i ≠ p.toNat + 1 := fun heq => hi ⟨p, hp, .inr (.inl heq)⟩
    exact (r'.writeUnibusWord_beside _ hlow hhigh).trans
      (hagree.outside i hi)
  rw [hflags]
  exact hbusy.piece_eq hoffers (h.buffers p hp)

/-- Memory after a descriptor has been taken agrees as memory before. -/
theorem Apart.taken_agrees
    (h : Apart r e all) (hagree : Ram.AgreesOutside (r.marked all) r r')
    (hp : p ∈ all) (hoffers : r.Offers p) :
    Ram.AgreesOutside (r.marked all) r (r'.taken p) := by
  have hinside : p.toNat + 12 ≤ r'.size.toNat :=
    (h.offers hagree hp hoffers).inside
  refine ⟨(r'.taken_size p).trans hagree.size, fun i hi => ?_⟩
  rw [Ram.taken_beside hinside, hagree.outside i hi]
  rw [h.isEnd_eq hagree hp hoffers]
  exact fun hmark => hi ⟨p, hp, hmark⟩

theorem IsList.offers
    (h : IsList r e p ps) :
    ∀ q ∈ ps, r.Offers q := by
  induction h with
  | last ends =>
      exact fun q hq => absurd hq List.not_mem_nil
  | next offers rest ih =>
      exact List.forall_mem_cons.mpr ⟨offers, ih⟩

/-- A list that lies apart is met as it stands. -/
theorem IsList.meets
    (hlist : IsList r e p ps) (h : Apart r e all) (hsub : ∀ q ∈ ps, q ∈ all)
    (hagree : Ram.AgreesOutside (r.marked all) r r') :
    Meets r' p ps ∧ r'.pieces ps = r.listed ps := by
  induction hlist generalizing r' with
  | last ends =>
      have hinside := ends.inside
      obtain ⟨flags, hflags⟩ := hagree.descriptor_eq hinside
        (h.descriptors e List.mem_cons_self)
      rw [← hagree.size] at hinside
      refine ⟨.last ⟨hinside, ?_⟩, rfl⟩
      rw [hflags]
      exact ends.invalid
  | @next p ps offers rest ih =>
      obtain ⟨hp, hsub'⟩ := List.forall_mem_cons.mp hsub
      obtain ⟨hmeets, hpieces⟩ :=
        ih hsub' (h.taken_agrees hagree hp offers)
      obtain ⟨flags, hflags⟩ := h.descriptor_eq hagree hp offers
      have hafter : (r'.descriptor p).after p = (r.descriptor p).after p := by
        rw [hflags]
        rfl
      refine ⟨.next (h.offers hagree hp offers) (hafter ▸ hmeets), ?_⟩
      rw [Ram.pieces, hpieces, h.piece_eq hagree hp offers,
        h.isEnd_eq hagree hp offers]
      rfl

/-- Nothing changes beside what is written to the descriptors that are
taken. -/
theorem Apart.foldl_beside
    (h : Apart r e all) (hoffers : ∀ q ∈ ps, r.Offers q)
    (hsub : ∀ q ∈ ps, q ∈ all)
    (hagree : Ram.AgreesOutside (r.marked all) r r') {i : Nat}
    (hi : i ∉ r.marked ps) :
    (ps.foldl Ram.taken r').m i = r'.m i := by
  induction ps generalizing r' with
  | nil =>
      rfl
  | cons p ps ih =>
      obtain ⟨hp, hsub'⟩ := List.forall_mem_cons.mp hsub
      obtain ⟨hhead, htail⟩ := List.forall_mem_cons.mp hoffers
      have hrest : i ∉ r.marked ps := fun ⟨q, hq, hmark⟩ =>
        hi ⟨q, List.mem_cons_of_mem p hq, hmark⟩
      rw [List.foldl_cons,
        ih htail hsub' (h.taken_agrees hagree hp hhead) hrest]
      refine Ram.taken_beside (h.offers hagree hp hhead).inside ?_
      rw [h.isEnd_eq hagree hp hhead]
      exact fun hmark => hi ⟨p, List.mem_cons_self, hmark⟩

end Standing

section Statuses

variable {r r' : Ram} {p e : PhysAddr} {all ps : List PhysAddr}

theorem Ram.readUnibusWord_written
    (r : Ram) {a : PhysAddr} (v : Word) (h : a < r.size) :
    (r.writeUnibusWord a v).readUnibusWord a = v := by
  have hm := r.writeUnibusWord_m v h
  rw [readUnibusWord, if_pos (by rw [writeUnibusWord_size]; exact h)]
  refine readWord_of_bytes ?_ ?_
  · rw [hm, Slices.overwrite_inside_of_le le_rfl (by simp)]
    simp
  · rw [hm, Slices.overwrite_inside_of_le (by omega) (by simp)]
    simp

/-- The status words are set when the end of a packet is taken. -/
theorem Ram.taken_status
    (hinside : p.toNat + 12 ≤ r.size.toNat)
    (hend : (r.descriptor p).isEnd = true) :
    (r.taken p).StatusSet p := by
  obtain ⟨h8, h10⟩ := status_addresses hinside
  unfold taken StatusSet
  dsimp only
  rw [if_pos hend]
  generalize hbusy : (r.writeUnibusWord p 0xffff).writeUnibusWord p
    ((r.descriptor p).flags &&& ~~~0x4000) = busy
  have hsize : busy.size = r.size := by
    rw [← hbusy, writeUnibusWord_size, writeUnibusWord_size]
  have hlt8 : p + 8 < busy.size := by
    rw [hsize, BitVec.lt_def, h8]
    omega
  have hlt10 : p + 10 < (busy.writeUnibusWord (p + 8) 0x2000).size := by
    rw [writeUnibusWord_size, hsize, BitVec.lt_def, h10]
    omega
  refine ⟨?_, readUnibusWord_written _ _ hlt10⟩
  have hagree : AgreesOutside {i | i = p.toNat + 10 ∨ i = p.toNat + 11}
      (busy.writeUnibusWord (p + 8) 0x2000)
      ((busy.writeUnibusWord (p + 8) 0x2000).writeUnibusWord (p + 10) 0) := by
    refine ⟨writeUnibusWord_size _, fun i hi => ?_⟩
    obtain ⟨hlow, hhigh⟩ := not_or.mp hi
    exact writeUnibusWord_beside _ _ (by omega) (by omega)
  rw [hagree.readUnibusWord_eq (by simp only [Set.mem_ofPred_eq]; omega)
    (by simp only [Set.mem_ofPred_eq]; omega)]
  exact readUnibusWord_written _ _ hlt8

/-- They stay where their bytes do. -/
theorem Ram.StatusSet.kept
    (h : r.StatusSet p) (hinside : p.toNat + 12 ≤ r.size.toNat)
    (hsize : r'.size = r.size)
    (hbytes : ∀ k, 8 ≤ k → k < 12 → r'.m (p.toNat + k) = r.m (p.toNat + k)) :
    r'.StatusSet p := by
  obtain ⟨h8, h10⟩ := status_addresses hinside
  have hagree : AgreesOutside {i | i < p.toNat + 8 ∨ p.toNat + 12 ≤ i} r r' := by
    refine ⟨hsize, fun i hi => ?_⟩
    obtain ⟨hlow, hhigh⟩ := not_or.mp hi
    obtain ⟨k, rfl⟩ : ∃ k, i = p.toNat + k :=
      ⟨i - p.toNat, by omega⟩
    exact hbytes k (by omega) (by omega)
  refine ⟨?_, ?_⟩
  · rw [hagree.readUnibusWord_eq (by simp only [Set.mem_ofPred_eq]; omega)
      (by simp only [Set.mem_ofPred_eq]; omega)]
    exact h.1
  · rw [hagree.readUnibusWord_eq (by simp only [Set.mem_ofPred_eq]; omega)
      (by simp only [Set.mem_ofPred_eq]; omega)]
    exact h.2

@[simp] theorem Ram.foldl_taken_size
    (r : Ram) (ps : List PhysAddr) :
    (ps.foldl Ram.taken r).size = r.size := by
  induction ps generalizing r with
  | nil =>
      rfl
  | cons p ps ih =>
      rw [List.foldl_cons, ih, taken_size]

/-- Where the list lies apart, the status words of every descriptor with the
END bit are set in the end. -/
theorem Apart.foldl_status
    (h : Apart r e all) (hoffers : ∀ q ∈ ps, r.Offers q)
    (hsub : ∀ q ∈ ps, q ∈ all)
    (hagree : Ram.AgreesOutside (r.marked all) r r') (hp : p ∈ ps)
    (hend : (r.descriptor p).isEnd = true) :
    (ps.foldl Ram.taken r').StatusSet p := by
  induction ps generalizing r' with
  | nil =>
      exact absurd hp List.not_mem_nil
  | cons q ps ih =>
      obtain ⟨hq, hsub'⟩ := List.forall_mem_cons.mp hsub
      obtain ⟨hhead, htail⟩ := List.forall_mem_cons.mp hoffers
      have hagree' := h.taken_agrees hagree hq hhead
      rw [List.foldl_cons]
      by_cases hlater : p ∈ ps
      · exact ih htail hsub' hagree' hlater
      · -- the descriptor is the head and does not come again
        obtain rfl : p = q :=
          (List.mem_cons.mp hp).resolve_right hlater
        have hinside : p.toNat + 12 ≤ r'.size.toNat :=
          (h.offers hagree hq hhead).inside
        have hend' : (r'.descriptor p).isEnd = true :=
          (h.isEnd_eq hagree hq hhead).trans hend
        refine (Ram.taken_status hinside hend').kept
          (by rw [Ram.taken_size]; exact hinside)
          (Ram.foldl_taken_size _ ps) fun k hlow hhigh => ?_
        refine h.foldl_beside htail hsub' hagree' ?_
        rintro ⟨p', hp', hmark⟩
        have hne : p' ≠ p := fun heq => hlater (heq ▸ hp')
        exact h.statuses p hq hend p' (hsub' p' hp') hne k hlow hhigh hmark

end Statuses

section Transmission

/-- What transmitter does with the pieces of a list: one frame for each END
bit, in order, is handed to the network or, in loopback mode, to the queue of
the receiver. -/
structure Transmits (q : Deqna) (pieces : List (List Byte × Bool))
    (t : TxState) : Prop where
  each : (groups [] pieces).length = pieces.countP (·.2)
  network : q.registers 7 &&& 256 ≠ 0 →
    t.sent = groups [] pieces ∧ t.deqna.received = q.received
  loopback : q.registers 7 &&& 256 = 0 →
    t.sent = [] ∧
      t.deqna.received = (groups [] pieces).foldl queued q.received
  /-- XI is set if there was an END bit, XL at the end of the list. -/
  control : t.deqna.registers 7 =
    q.registers 7 ||| (if pieces.any (·.2) then 128 else 0) ||| 16

/-- What it leaves in memory. -/
structure Leaves (r : Ram) (ps : List PhysAddr) (r' : Ram) : Prop where
  size : r'.size = r.size
  statuses : ∀ p ∈ ps, (r.descriptor p).isEnd = true → r'.StatusSet p
  beside : ∀ i ∉ r.marked ps, r'.m i = r.m i

/-- The transmitter on a list as it is met. -/
theorem Meets.transmits
    {q : Deqna} {r : Ram} {ps : List PhysAddr}
    (hvalid : q.registers 7 &&& 16 = 0)
    (h : Meets r (q.listAddress 4) ps)
    (hsizes : SizesFit (groups [] (r.pieces ps))) {passes : Nat}
    (hpasses : ps.length < passes) :
    ∃ t, transmitter passes q r = some t ∧ Transmits q (r.pieces ps) t ∧
      t.ram = ps.foldl Ram.taken r := by
  have hbuffer : (⟨q, r, [], [], []⟩ : TxState).buffer =
      ([] : List Byte).take txBufferSize :=
    rfl
  obtain ⟨t, hloop, hram, hhands⟩ :=
    txLoop_meets h rfl hbuffer hsizes hpasses
  refine ⟨{ t with deqna := t.deqna.orCsr 16 }, ?_, ?_, hram⟩
  · rw [transmitter, if_neg (not_not_intro hvalid), hloop]
    rfl
  · refine ⟨length_groups _ _, fun hwire => hhands.network hwire,
      fun hloopback => hhands.loopback hloopback, ?_⟩
    change Function.update t.deqna.registers 7
      (t.deqna.registers 7 ||| 16) 7 = _
    rw [Function.update_self, hhands.transmitted]
    congr 2
    cases hany : (r.pieces ps).any (·.2) with
    | false =>
        exact if_pos ((groups_eq_nil_iff _ _).mpr hany)
    | true =>
        refine if_neg fun hnil => ?_
        rw [(groups_eq_nil_iff _ _).mp hnil] at hany
        exact Bool.false_ne_true hany

/-- For every transmit list that ends in an invalid descriptor, with buffers of
at most 2048 bytes in memory and frames of 1 to 1514 bytes: the transmitter
gathers the frames from the buffers as it meets them, and writes to the flags
and status words of the descriptors only; where these lie apart from what it
reads, the frames are those of memory as it stood before, and the status words
of exactly the descriptors with the END bit are set. -/
theorem transmitter_gathers
    (q : Deqna) (r : Ram) (ps : List PhysAddr)
    (hvalid : q.registers 7 &&& 16 = 0) :
    (Meets r (q.listAddress 4) ps → SizesFit (groups [] (r.pieces ps)) →
      ∀ passes > ps.length, ∃ t, transmitter passes q r = some t ∧
        Transmits q (r.pieces ps) t ∧
        ∀ i, (∀ p ∈ ps, i ∉ marks p true) → t.ram.m i = r.m i) ∧
    ∀ e, IsList r e (q.listAddress 4) ps → Apart r e ps →
      SizesFit (groups [] (r.listed ps)) →
      ∀ passes > ps.length, ∃ t, transmitter passes q r = some t ∧
        Transmits q (r.listed ps) t ∧ Leaves r ps t.ram := by
  constructor
  · intro hmeets hsizes passes hpasses
    obtain ⟨t, hrun, htransmits, hram⟩ :=
      hmeets.transmits hvalid hsizes hpasses
    refine ⟨t, hrun, htransmits, fun i hi => ?_⟩
    rw [hram]
    exact hmeets.beside hi
  · intro e hlist hapart hsizes passes hpasses
    have hagree : Ram.AgreesOutside (r.marked ps) r r :=
      ⟨rfl, fun i _ => rfl⟩
    have hself : ∀ p ∈ ps, p ∈ ps := fun p hp => hp
    obtain ⟨hmeets, hpieces⟩ := hlist.meets hapart hself hagree
    rw [← hpieces] at hsizes ⊢
    obtain ⟨t, hrun, htransmits, hram⟩ :=
      hmeets.transmits hvalid hsizes hpasses
    refine ⟨t, hrun, htransmits, ?_, fun p hp hend => ?_, fun i hi => ?_⟩
    · rw [hram, Ram.foldl_taken_size]
    · rw [hram]
      exact hapart.foldl_status hlist.offers hself hagree hp hend
    · rw [hram]
      exact hapart.foldl_beside hlist.offers hself hagree hi

/-- Memory with a list at 0 of two buffers that make one frame. -/
def fragmented : Ram where
  size := 0o20000
  m
    | 3 => 0x80
    | 4 => 64
    | 6 | 7 => 0xff
    | 15 => 0xa0
    | 16 => 66
    | 18 | 19 => 0xff
    | 64 => 1
    | 65 => 2
    | 66 => 3
    | 67 => 4
    | _ => 0

/-- A device that is not in loopback mode. -/
def wiredDeqna : Deqna :=
  idleDeqna.setRegister 7 256

/-- The flags of both descriptors and the status words of the second. -/
theorem fragmented_marked
    {i : Nat} (h : i ∈ fragmented.marked [0, 12]) :
    i < 2 ∨ 12 ≤ i ∧ i < 14 ∨ 20 ≤ i ∧ i < 24 := by
  have h12 : (12 : PhysAddr).toNat = 12 := rfl
  obtain ⟨p, hp, hmark⟩ := h
  rcases List.mem_pair.mp hp with rfl | rfl
  · rcases hmark with rfl | rfl | ⟨hend, -⟩
    · exact .inl (by decide)
    · exact .inl (by decide)
    · exact absurd hend (by decide)
  · rcases hmark with rfl | rfl | ⟨-, hstatus⟩
    · exact .inr (.inl (by decide))
    · exact .inr (.inl (by decide))
    · rw [h12] at hstatus
      exact .inr (.inr hstatus)

theorem fragmented_apart :
    Apart fragmented 24 [0, 12] := by
  refine ⟨fun p hp _ i _ hmark => ?_, fun p hp k hlow hhigh hmark => ?_,
    fun p hp hend p' hp' hne k hlow hhigh hmark => ?_⟩
  · have hwritten := fragmented_marked hmark
    have hchain : 64 ≤ (fragmented.descriptor p).chain.toNat := by
      rcases List.mem_pair.mp hp with rfl | rfl <;> decide
    omega
  · have hwritten := fragmented_marked hmark
    have hp' : p.toNat = 24 ∨ p.toNat = 0 ∨ p.toNat = 12 := by
      simp only [List.mem_cons, List.not_mem_nil, or_false] at hp
      rcases hp with rfl | rfl | rfl <;> decide
    omega
  · rcases List.mem_pair.mp hp with rfl | rfl
    · exact absurd hend (by decide)
    · obtain rfl : p' = 0 :=
        (List.mem_pair.mp hp').resolve_right hne
      have h0 : (0 : PhysAddr).toNat = 0 := rfl
      rcases hmark with h | h | ⟨hend', -⟩
      · omega
      · omega
      · exact absurd hend' (by decide)

/-- The two buffers go to the network as one frame. -/
theorem transmitter_gathers_fragments :
    ∃ t, transmitter 3 wiredDeqna fragmented = some t ∧
      t.sent = [[1, 2, 3, 4]] ∧ Leaves fragmented [0, 12] t.ram := by
  have hlist : IsList fragmented 24 0 [0, 12] :=
    .next ⟨by decide, by decide, by decide⟩
      (.next ⟨by decide, by decide, by decide⟩
        (.last ⟨by decide, by decide⟩))
  have hframes : groups [] (fragmented.listed [0, 12]) = [[1, 2, 3, 4]] := by
    decide
  have hsizes : SizesFit (groups [] (fragmented.listed [0, 12])) := by
    rw [hframes]
    exact List.forall_mem_singleton.mpr (by decide)
  obtain ⟨t, hrun, htransmits, hleaves⟩ :=
    (transmitter_gathers wiredDeqna fragmented [0, 12] (by decide)).2
      24 hlist fragmented_apart hsizes 3 (by decide)
  have hsent := (htransmits.network (by decide)).1
  rw [hframes] at hsent
  exact ⟨t, hrun, hsent, hleaves⟩

/-- Memory with a list of two frames at 0. -/
def twoFrames : Ram where
  size := 0o20000
  m
    | 3 | 15 => 0xa0
    | 4 => 64
    | 16 => 66
    | 6 | 7 | 18 | 19 => 0xff
    | 64 => 1
    | 65 => 2
    | 66 => 3
    | 67 => 4
    | _ => 0

/-- Memory with a descriptor at 0 whose buffer is its own flags. -/
def ownFlags : Ram where
  size := 0o20000
  m
    | 3 => 0xa0
    | 6 | 7 => 0xff
    | _ => 0

/-- In loopback mode the second of two frames is dropped; an empty list does
not set XI; a buffer that the transmitter has written to is not sent as it
stood. -/
theorem frames_not_as_listed :
    (IsList twoFrames 24 0 [0, 12] ∧
      groups [] (twoFrames.listed [0, 12]) = [[1, 2], [3, 4]] ∧
      ∃ t, transmitter 3 idleDeqna twoFrames = some t ∧
        t.deqna.received = [[1, 2]]) ∧
    (IsList twoFrames 24 24 [] ∧
      ∃ t, transmitter 1 (idleDeqna.setRegister 4 24) twoFrames = some t ∧
        t.deqna.registers 7 &&& 128 = 0) ∧
    (IsList ownFlags 12 0 [0] ∧
      groups [] (ownFlags.listed [0]) = [[0, 0]] ∧
      ∃ t, transmitter 2 wiredDeqna ownFlags = some t ∧
        t.sent = [[0xff, 0xff]]) := by
  refine ⟨⟨?_, by decide, _, rfl, by decide⟩, ⟨?_, _, rfl, by decide⟩,
    ?_, by decide, _, rfl, by decide⟩
  · exact .next ⟨by decide, by decide, by decide⟩
      (.next ⟨by decide, by decide, by decide⟩
        (.last ⟨by decide, by decide⟩))
  · exact .last ⟨by decide, by decide⟩
  · exact .next ⟨by decide, by decide, by decide⟩
      (.last ⟨by decide, by decide⟩)

end Transmission

end KekPdp11
