import Mathlib

/-!
# Operations that share an array

An operation on an array has a result and leaves the array changed; its
footprint is where it reads and where it writes.  Parties take turns with their
operations in any order.

**Independence.**  When no party writes where another one reads or writes, each
party gets the results that it gets alone, and finds in the end what it leaves
alone.
-/

namespace Footprints

variable {κ ι β ρ : Type}

/-- An operation together with its footprint. -/
structure Op (ι β ρ : Type) where
  reads : Set ι
  writes : Set ι
  result : (ι → β) → ρ
  apply : (ι → β) → ι → β
  /-- It writes nowhere else. -/
  frame : ∀ f i, i ∉ writes → apply f i = f i
  /-- Its result only depends on what it reads. -/
  result_congr : ∀ f g, (∀ i ∈ reads, f i = g i) → result f = result g
  /-- So does what it writes. -/
  apply_congr : ∀ f g, (∀ i ∈ reads, f i = g i) → ∀ i ∈ writes,
    apply f i = apply g i

/-- All that an operation reads or writes. -/
def Op.touches (op : Op ι β ρ) : Set ι :=
  {i | i ∈ op.reads ∨ i ∈ op.writes}

/-- The operations of the parties, each with its party. -/
abbrev Turns (κ ι β ρ : Type) := List (κ × Op ι β ρ)

/-- The results, each with its party, and the array at the end. -/
def run : Turns κ ι β ρ → (ι → β) → List (κ × ρ) × (ι → β)
  | [], f => ([], f)
  | (k, op) :: turns, f =>
      let rest := run turns (op.apply f)
      ((k, op.result f) :: rest.1, rest.2)

/-- No party writes where another one reads or writes. -/
def Independent (turns : Turns κ ι β ρ) : Prop :=
  ∀ x ∈ turns, ∀ y ∈ turns, x.1 ≠ y.1 → Disjoint x.2.writes y.2.touches

variable [DecidableEq κ]

/-- What belongs to one party. -/
def only {α : Type} (k : κ) (xs : List (κ × α)) : List (κ × α) :=
  xs.filter fun x => decide (x.1 = k)

theorem only_cons_self
    {α : Type} (k : κ) (a : α) (xs : List (κ × α)) :
    only k ((k, a) :: xs) = (k, a) :: only k xs := by
  simp [only]

theorem only_cons_of_ne
    {α : Type} {k k' : κ} (h : k' ≠ k) (a : α) (xs : List (κ × α)) :
    only k ((k', a) :: xs) = only k xs := by
  simp [only, h]

/-- Where a party reads or writes. -/
def territory (k : κ) (turns : Turns κ ι β ρ) : Set ι :=
  {i | ∃ x ∈ only k turns, i ∈ x.2.touches}

theorem territory_cons
    (k : κ) (x : κ × Op ι β ρ) (turns : Turns κ ι β ρ) {i : ι}
    (h : i ∈ territory k turns) :
    i ∈ territory k (x :: turns) := by
  obtain ⟨y, hy, hi⟩ := h
  obtain ⟨hmem, hk⟩ := List.mem_filter.mp hy
  exact ⟨y, List.mem_filter.mpr ⟨List.mem_cons_of_mem x hmem, hk⟩, hi⟩

/-- A party among others gets the results that it gets alone from an array that
agrees where it reads and writes, and leaves the same there. -/
theorem run_only
    (k : κ) {turns : Turns κ ι β ρ} {f g : ι → β} {s : Set ι}
    (hs : ∀ i ∈ territory k turns, i ∈ s)
    (hother : ∀ x ∈ turns, x.1 ≠ k → Disjoint x.2.writes s)
    (hagree : ∀ i ∈ s, f i = g i) :
    only k (run turns f).1 = (run (only k turns) g).1 ∧
      ∀ i ∈ s, (run turns f).2 i = (run (only k turns) g).2 i := by
  induction turns generalizing f g with
  | nil =>
      exact ⟨rfl, hagree⟩
  | cons x turns ih =>
      obtain ⟨k', op⟩ := x
      have hs' : ∀ i ∈ territory k turns, i ∈ s := fun i hi =>
        hs i (territory_cons k _ turns hi)
      have hother' : ∀ x ∈ turns, x.1 ≠ k → Disjoint x.2.writes s :=
        fun x hx => hother x (List.mem_cons_of_mem _ hx)
      by_cases hk : k' = k
      · -- it is the party's turn
        subst hk
        have htouches : ∀ i ∈ op.touches, i ∈ s := by
          intro i hi
          refine hs i ⟨(k', op), ?_, hi⟩
          rw [only_cons_self]
          exact List.mem_cons_self
        have hreads : ∀ i ∈ op.reads, f i = g i := fun i hi =>
          hagree i (htouches i (.inl hi))
        have hagree' : ∀ i ∈ s, op.apply f i = op.apply g i := by
          intro i hi
          by_cases hw : i ∈ op.writes
          · exact op.apply_congr f g hreads i hw
          · rw [op.frame f i hw, op.frame g i hw, hagree i hi]
        obtain ⟨hresults, harray⟩ := ih hs' hother' hagree'
        rw [only_cons_self]
        refine ⟨?_, harray⟩
        change only k' ((k', op.result f) :: _) = (k', op.result g) :: _
        rw [only_cons_self, hresults, op.result_congr f g hreads]
      · -- another one writes elsewhere
        have hagree' : ∀ i ∈ s, op.apply f i = g i := by
          intro i hi
          have haway := hother (k', op) List.mem_cons_self hk
          have hw : i ∉ op.writes := fun hw =>
            Set.disjoint_left.mp haway hw hi
          rw [op.frame f i hw, hagree i hi]
        obtain ⟨hresults, harray⟩ := ih hs' hother' hagree'
        rw [only_cons_of_ne hk]
        refine ⟨?_, harray⟩
        change only k ((k', op.result f) :: _) = _
        rw [only_cons_of_ne hk, hresults]

/-- Independent parties get the results that they get alone. -/
theorem independent_parties
    (k : κ) {turns : Turns κ ι β ρ} (h : Independent turns) (f : ι → β) :
    only k (run turns f).1 = (run (only k turns) f).1 ∧
      ∀ i ∈ territory k turns,
        (run turns f).2 i = (run (only k turns) f).2 i := by
  refine run_only k (fun _ hi => hi) ?_ fun _ _ => rfl
  intro x hx hk
  refine Set.disjoint_left.mpr fun i hw hi => ?_
  obtain ⟨y, hy, htouches⟩ := hi
  obtain ⟨hmem, hyk⟩ := List.mem_filter.mp hy
  have hne : x.1 ≠ y.1 := by
    rw [of_decide_eq_true hyk]
    exact hk
  exact Set.disjoint_left.mp (h x hx y hmem hne) hw htouches

end Footprints
