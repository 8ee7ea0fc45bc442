import KekPdp11.Deqna
import KekPdp11.Lib.Walks
import Mathlib.Data.Fintype.BigOperators

/-!
# KEK PDP-11: the walks over DEQNA descriptors

The loops of the transmitter and of receiver_high go from descriptor to
descriptor.  Where they go next is a function of the place: for the receiver
the address, as memory does not change before the walk ends, for the
transmitter the address and memory, of which it writes words as it goes.  The
walks end if and only if they do not come back to a place.
-/

namespace KekPdp11

open Walks

section Receiver

/-- Where the receiver goes from a descriptor: on from a valid chain
descriptor in memory. -/
def rxNext (r : Ram) (p : PhysAddr) : Option PhysAddr :=
  if p + 12 ≤ r.size ∧ (r.descriptor p).isValid = true ∧
      (r.descriptor p).isChain = true then
    some (r.descriptor p).chain
  else
    none

/-- What the receiver does where it stops. -/
def rxStop (r : Ram) (frame : List Byte) (p : PhysAddr) : Ram × Bool :=
  if p + 12 ≤ r.size ∧ (r.descriptor p).isValid = true then
    (r.deliver p frame, true)
  else
    (r, false)

/-- The loop of the receiver is the walk and then the stop. -/
theorem rxLoop_eq
    (frame : List Byte) (passes : Nat) (p : PhysAddr) (r : Ram) :
    rxLoop frame passes p r =
      (loop (rxNext r) passes p).map (rxStop r frame) := by
  induction passes generalizing p with
  | zero =>
      rfl
  | succ passes ih =>
      by_cases hroom : p + 12 ≤ r.size
      · cases hvalid : (r.descriptor p).isValid with
        | false =>
            have hnext : rxNext r p = none :=
              if_neg fun h => Bool.false_ne_true (hvalid.symm.trans h.2.1)
            have hstop : rxStop r frame p = (r, false) :=
              if_neg fun h => Bool.false_ne_true (hvalid.symm.trans h.2)
            rw [rxLoop, if_pos hroom, hvalid, loop, hnext]
            exact congrArg some hstop.symm
        | true =>
            cases hchain : (r.descriptor p).isChain with
            | false =>
                have hnext : rxNext r p = none :=
                  if_neg fun h => Bool.false_ne_true (hchain.symm.trans h.2.2)
                have hstop : rxStop r frame p = (r.deliver p frame, true) :=
                  if_pos ⟨hroom, hvalid⟩
                rw [rxLoop, if_pos hroom, hvalid, hchain, loop, hnext]
                exact congrArg some hstop.symm
            | true =>
                have hnext : rxNext r p = some (r.descriptor p).chain :=
                  if_pos ⟨hroom, hvalid, hchain⟩
                rw [rxLoop, if_pos hroom, hvalid, hchain, loop, hnext]
                exact ih _
      · have hnext : rxNext r p = none :=
          if_neg fun h => hroom h.1
        have hstop : rxStop r frame p = (r, false) :=
          if_neg fun h => hroom h.1
        rw [rxLoop, if_neg hroom, loop, hnext]
        exact congrArg some hstop.symm

theorem finite_addresses :
    (Set.univ : Set PhysAddr).Finite := by
  have : Finite PhysAddr :=
    Finite.of_injective BitVec.toFin fun _ _ h => BitVec.toFin_inj.mp h
  exact Set.finite_univ

/-- The receiver is done with a frame unless its walk comes back to a
descriptor. -/
theorem receiverHigh_ends_iff
    (q : Deqna) (r : Ram) (frame : List Byte) :
    (∃ passes e, receiverHigh passes q r frame = some e) ↔
      ¬ Repeats (rxNext r) (q.listAddress 2) := by
  rw [← ends_iff_not_repeats finite_addresses (Set.mem_univ _)
    (fun _ _ _ _ => Set.mem_univ _), ← loop_stops_iff]
  unfold receiverHigh
  constructor
  · rintro ⟨passes, e, h⟩
    rw [rxLoop_eq] at h
    cases hloop : loop (rxNext r) passes (q.listAddress 2) with
    | none =>
        rw [hloop] at h
        cases h
    | some p =>
        exact ⟨passes, p, hloop⟩
  · rintro ⟨passes, p, h⟩
    refine ⟨passes, ?_⟩
    rw [rxLoop_eq, h]
    exact ⟨_, rfl⟩

end Receiver

section Transmitter

/-- Memory after the transmitter has taken the descriptor at `p`. -/
def Ram.taken (r : Ram) (p : PhysAddr) : Ram :=
  let d := r.descriptor p
  let r := (r.writeUnibusWord p 0xffff).writeUnibusWord p
    (d.flags &&& ~~~0x4000)
  if d.isEnd then
    (r.writeUnibusWord (p + 8) 0x2000).writeUnibusWord (p + 10) 0
  else
    r

/-- The transmitter takes the descriptor at `p`. -/
def Ram.Takes (r : Ram) (p : PhysAddr) : Prop :=
  p + 12 ≤ r.size ∧ (r.descriptor p).isValid = true ∧
    ((r.descriptor p).isChain = true ∨
      TxState.fits (r.descriptor p) r.size = true)

instance (r : Ram) (p : PhysAddr) : Decidable (r.Takes p) :=
  inferInstanceAs (Decidable (_ ∧ _ ∧ (_ ∨ _)))

/-- Where the transmitter goes from a descriptor, and what memory is then. -/
def txNext (x : PhysAddr × Ram) : Option (PhysAddr × Ram) :=
  if x.2.Takes x.1 then
    some ((x.2.descriptor x.1).after x.1, x.2.taken x.1)
  else
    none

theorem TxState.push_ram
    (s : TxState) :
    s.push.ram = s.ram := by
  unfold push
  split_ifs <;> rfl

theorem TxState.take_ram
    (s : TxState) (p : PhysAddr) :
    (s.take p).ram = s.ram.taken p := by
  unfold take Ram.taken
  dsimp only
  split
  · unfold finish
    dsimp only
    rw [push_ram]
  · rfl

/-- A pass of the transmitter that takes a descriptor. -/
theorem txLoop_take
    {s : TxState} {p : PhysAddr} (h : s.ram.Takes p) (passes : Nat) :
    txLoop (passes + 1) p s =
      txLoop passes ((s.ram.descriptor p).after p) (s.take p) := by
  obtain ⟨hroom, hvalid, hfits⟩ := h
  rw [txLoop, if_pos hroom]
  dsimp only
  rw [hvalid]
  rcases hfits with hchain | hfits
  · simp [hchain]
  · simp [hfits]

/-- A pass that takes none is the last. -/
theorem txLoop_stop
    {s : TxState} {p : PhysAddr} (h : ¬ s.ram.Takes p) (passes : Nat) :
    ∃ s', txLoop (passes + 1) p s = some s' := by
  rw [txLoop]
  split
  · next hroom =>
      dsimp only
      split
      · exact ⟨_, rfl⟩
      · next hvalid =>
          split
          · exact ⟨_, rfl⟩
          · next hfits =>
              refine absurd ⟨hroom, ?_, ?_⟩ h
              · simpa using hvalid
              · simp only [Bool.and_eq_true, Bool.not_eq_true', not_and,
                  Bool.not_eq_false] at hfits
                cases hchain : (s.ram.descriptor p).isChain with
                | false =>
                    exact .inr (hfits hchain)
                | true =>
                    exact .inl rfl
  · exact ⟨_, rfl⟩

/-- The loop of the transmitter ends when the walk does. -/
theorem txLoop_ends_iff
    (p : PhysAddr) (s : TxState) :
    (∃ passes s', txLoop passes p s = some s') ↔ Walks.Ends txNext (p, s.ram) := by
  rw [← loop_stops_iff]
  constructor
  · rintro ⟨passes, s', h⟩
    refine ⟨passes, ?_⟩
    induction passes generalizing p s with
    | zero =>
        cases h
    | succ passes ih =>
        unfold loop txNext
        by_cases htakes : s.ram.Takes p
        · rw [txLoop_take htakes] at h
          rw [if_pos htakes]
          have hrest := ih _ _ h
          rwa [TxState.take_ram] at hrest
        · rw [if_neg htakes]
          exact ⟨_, rfl⟩
  · rintro ⟨passes, x, h⟩
    refine ⟨passes, ?_⟩
    induction passes generalizing p s with
    | zero =>
        cases h
    | succ passes ih =>
        unfold loop txNext at h
        by_cases htakes : s.ram.Takes p
        · rw [if_pos htakes] at h
          rw [txLoop_take htakes]
          refine ih _ _ ?_
          rw [TxState.take_ram]
          exact h
        · exact txLoop_stop htakes passes

/-- What the memory functions can change: the bytes up to the size. -/
structure Ram.Within (r r' : Ram) : Prop where
  size : r'.size = r.size
  outside : ∀ i, r.size.toNat < i → r'.m i = r.m i

theorem Ram.Within.refl
    (r : Ram) :
    r.Within r :=
  ⟨rfl, fun _ _ => rfl⟩

theorem Ram.Within.trans
    {r s t : Ram} (hrs : r.Within s) (hst : s.Within t) :
    r.Within t :=
  ⟨hst.size.trans hrs.size, fun i hi =>
    (hst.outside i (hrs.size ▸ hi)).trans (hrs.outside i hi)⟩

theorem Ram.within_writeUnibusWord
    (r : Ram) (a : PhysAddr) (v : Word) :
    r.Within (r.writeUnibusWord a v) := by
  unfold writeUnibusWord
  split
  · next hlt =>
      have hlt' : a.toNat < r.size.toNat := hlt
      refine ⟨rfl, fun i hi => ?_⟩
      exact (Function.update_of_ne (by omega) _ _).trans
        (Function.update_of_ne (by omega) _ _)
  · exact .refl r

theorem Ram.within_taken
    (r : Ram) (p : PhysAddr) :
    r.Within (r.taken p) := by
  have hflags := (r.within_writeUnibusWord p 0xffff).trans
    ((r.writeUnibusWord p 0xffff).within_writeUnibusWord p
      ((r.descriptor p).flags &&& ~~~0x4000))
  unfold taken
  dsimp only
  split
  · exact hflags.trans ((within_writeUnibusWord _ (p + 8) 0x2000).trans
      (within_writeUnibusWord _ (p + 10) 0))
  · exact hflags

/-- There are finitely many memories that differ only there. -/
theorem finite_within
    (r : Ram) :
    {x : PhysAddr × Ram | r.Within x.2}.Finite := by
  have : Finite PhysAddr :=
    Finite.of_injective BitVec.toFin fun _ _ h => BitVec.toFin_inj.mp h
  have : Finite Byte :=
    Finite.of_injective BitVec.toFin fun _ _ h => BitVec.toFin_inj.mp h
  refine Set.Finite.of_finite_image
    (f := fun x : PhysAddr × Ram =>
      (x.1, fun i : Fin (r.size.toNat + 1) => x.2.m i))
    (Set.toFinite _) ?_
  rintro ⟨p, s⟩ hs ⟨p', s'⟩ hs' heq
  injection heq with hp hm
  refine Prod.ext hp ?_
  obtain ⟨size, m⟩ := s
  obtain ⟨size', m'⟩ := s'
  have hsize : size = size' := hs.size.trans hs'.size.symm
  have hbytes : m = m' := by
    funext i
    rcases Nat.lt_or_ge r.size.toNat i with hi | hi
    · exact (hs.outside i hi).trans (hs'.outside i hi).symm
    · exact congrFun hm ⟨i, Nat.lt_succ_of_le hi⟩
  rw [hsize, hbytes]

/-- The transmitter returns if its list is invalid, or unless its walk comes
back to a descriptor with memory as it was there before. -/
theorem transmitter_ends_iff
    (q : Deqna) (r : Ram) :
    (∃ passes s, transmitter passes q r = some s) ↔
      q.registers 7 &&& 16 ≠ 0 ∨ ¬ Repeats txNext (q.listAddress 4, r) := by
  have hclosed : ∀ x ∈ {x : PhysAddr × Ram | r.Within x.2}, ∀ y,
      txNext x = some y → y ∈ {x : PhysAddr × Ram | r.Within x.2} := by
    rintro ⟨p, s⟩ hs y hy
    unfold txNext at hy
    split at hy
    · cases hy
      exact Ram.Within.trans hs (s.within_taken p)
    · cases hy
  have hends : Walks.Ends txNext (q.listAddress 4, r) ↔
      ¬ Repeats txNext (q.listAddress 4, r) :=
    ends_iff_not_repeats (finite_within r) (Ram.Within.refl r) hclosed
  unfold transmitter
  dsimp only
  by_cases hinvalid : q.registers 7 &&& 16 ≠ 0
  · exact iff_of_true ⟨0, by rw [if_pos hinvalid]; exact ⟨_, rfl⟩⟩
      (.inl hinvalid)
  · simp only [if_neg hinvalid, Option.map_eq_some_iff]
    rw [or_iff_right hinvalid, ← hends,
      ← txLoop_ends_iff (q.listAddress 4) ⟨q, r, [], [], []⟩]
    constructor
    · rintro ⟨passes, s, s', h, -⟩
      exact ⟨passes, s', h⟩
    · rintro ⟨passes, s', h⟩
      exact ⟨passes, _, s', h, rfl⟩

end Transmitter

/-- For every memory and every list address, the walk of the receiver over the
descriptors for a frame ends unless it comes back to a descriptor, and the walk
of the transmitter unless it comes back to one with memory as it was. -/
theorem descriptor_walks_end_iff
    (q : Deqna) (r : Ram) (frame : List Byte) :
    ((∃ passes e, receiverHigh passes q r frame = some e) ↔
      ¬ Repeats (rxNext r) (q.listAddress 2)) ∧
    ((∃ passes s, transmitter passes q r = some s) ↔
      q.registers 7 &&& 16 ≠ 0 ∨ ¬ Repeats txNext (q.listAddress 4, r)) :=
  ⟨receiverHigh_ends_iff q r frame, transmitter_ends_iff q r⟩

/-- A memory with a valid chain descriptor at 0 that chains to itself. -/
def selfChain : Ram where
  size := 0o20000
  m := fun i => if i = 3 then 0xc0 else 0

def idleDeqna : Deqna where
  registers _ := 0
  received := []

/-- The receiver does not return from it. -/
theorem self_chain_does_not_end :
    ¬ ∃ passes e, receiverHigh passes idleDeqna selfChain [] = some e := by
  rw [receiverHigh_ends_iff]
  exact not_not_intro ⟨0, 1, 0, by decide, by decide, by decide⟩

end KekPdp11
