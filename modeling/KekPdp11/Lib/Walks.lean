import Mathlib.Data.Fintype.EquivFin
import Mathlib.Data.Fintype.Pigeonhole
import Mathlib.Data.Set.Finite.Basic

/-!
# Walks of a partial function

A partial function on places says where to go next.  From a place it gives a
walk, which ends when there is nowhere to go.

* `walk f a n`: the place after `n` steps.
* `loop f passes a`: the loop that goes on as long as it can, for at most so
  many passes; its result is the place where it stops.
* `ends_iff_not_repeats`: where only finitely many places can be reached, a
  walk ends if and only if it never comes back to a place.
-/

namespace Walks

variable {α : Type*} (f : α → Option α)

/-- The place after a number of steps. -/
def walk (a : α) : Nat → Option α
  | 0 => some a
  | n + 1 => (walk a n).bind f

/-- The loop that goes on as long as it can. -/
def loop : (passes : Nat) → α → Option α
  | 0, _ => none
  | passes + 1, a =>
      match f a with
      | none => some a
      | some b => loop passes b

def Ends (a : α) : Prop :=
  ∃ n, walk f a n = none

/-- The walk comes back to a place where it has been. -/
def Repeats (a : α) : Prop :=
  ∃ i j b, i < j ∧ walk f a i = some b ∧ walk f a j = some b

/-- The walk comes to a place. -/
def Reaches (a b : α) : Prop :=
  ∃ n, walk f a n = some b

variable {f} {a b : α}

theorem walk_add
    {i : Nat} (h : walk f a i = some b) (n : Nat) :
    walk f a (i + n) = walk f b n := by
  induction n with
  | zero =>
      exact h
  | succ n ih =>
      rw [← Nat.add_assoc, walk, ih, walk]

theorem walk_none
    {i : Nat} (h : walk f a i = none) (n : Nat) :
    walk f a (i + n) = none := by
  induction n with
  | zero =>
      exact h
  | succ n ih =>
      rw [← Nat.add_assoc, walk, ih, Option.bind_none]

/-- A step first, and then the rest of the walk. -/
theorem walk_succ_of_some
    (h : f a = some b) (n : Nat) :
    walk f a (n + 1) = walk f b n := by
  rw [Nat.add_comm]
  exact walk_add (i := 1) h n

theorem Ends.step
    (h : f a = some b) :
    Ends f a ↔ Ends f b := by
  constructor
  · rintro ⟨n, hn⟩
    cases n with
    | zero =>
        cases hn
    | succ n =>
        exact ⟨n, (walk_succ_of_some h n).symm.trans hn⟩
  · rintro ⟨n, hn⟩
    exact ⟨n + 1, (walk_succ_of_some h n).trans hn⟩

/-- A loop stops if and only if the walk ends. -/
theorem loop_stops_iff :
    (∃ passes r, loop f passes a = some r) ↔ Ends f a := by
  constructor
  · rintro ⟨passes, r, h⟩
    induction passes generalizing a with
    | zero =>
        cases h
    | succ passes ih =>
        rw [loop] at h
        cases hnext : f a with
        | none =>
            exact ⟨1, hnext⟩
        | some b =>
            rw [hnext] at h
            exact (Ends.step hnext).mpr (ih h)
  · rintro ⟨n, h⟩
    induction n generalizing a with
    | zero =>
        cases h
    | succ n ih =>
        cases hnext : f a with
        | none =>
            exact ⟨1, a, by rw [loop, hnext]⟩
        | some b =>
            obtain ⟨passes, r, hr⟩ :=
              ih ((walk_succ_of_some hnext n).symm.trans h)
            exact ⟨passes + 1, r, by rw [loop, hnext]; exact hr⟩

/-- The loop stops at the place the walk comes to and cannot leave. -/
theorem loop_of_reaches
    (h : Reaches f a b) (hstop : f b = none) :
    ∃ passes, loop f passes a = some b := by
  obtain ⟨n, hn⟩ := h
  refine ⟨n + 1, ?_⟩
  induction n generalizing a with
  | zero =>
      cases hn
      rw [loop, hstop]
  | succ n ih =>
      cases hnext : f a with
      | none =>
          have hnone : walk f a (1 + n) = none := walk_none (i := 1) hnext n
          rw [Nat.add_comm] at hnone
          rw [hnone] at hn
          cases hn
      | some c =>
          rw [loop, hnext]
          exact ih ((walk_succ_of_some hnext n).symm.trans hn)

/-- The place where a loop stops does not depend on the number of passes. -/
theorem loop_unique
    {i j : Nat} {c : α} (hb : loop f i a = some b) (hc : loop f j a = some c) :
    b = c := by
  induction i generalizing a j with
  | zero =>
      cases hb
  | succ i ih =>
      cases j with
      | zero =>
          cases hc
      | succ j =>
          rw [loop] at hb hc
          cases hnext : f a with
          | none =>
              rw [hnext] at hb hc
              exact Option.some.inj (hb.symm.trans hc)
          | some d =>
              rw [hnext] at hb hc
              exact ih hb hc

/-- A walk that comes back goes round for ever. -/
theorem not_ends_of_repeats
    (h : Repeats f a) :
    ¬ Ends f a := by
  obtain ⟨i, j, b, hij, hi, hj⟩ := h
  rintro ⟨n, hn⟩
  have hround : walk f b (j - i) = some b := by
    rw [← walk_add hi, Nat.add_sub_cancel' hij.le]
    exact hj
  have hrounds : ∀ m, walk f b (m * (j - i)) = some b := by
    intro m
    induction m with
    | zero =>
        rw [Nat.zero_mul]
        rfl
    | succ m ih =>
        rw [Nat.succ_mul, walk_add ih]
        exact hround
  have hlong : n ≤ i + n * (j - i) := by
    have := Nat.le_mul_of_pos_right n (Nat.sub_pos_of_lt hij)
    omega
  have hnone : walk f a (i + n * (j - i)) = none := by
    rw [← Nat.add_sub_cancel' hlong]
    exact walk_none hn _
  rw [walk_add hi, hrounds] at hnone
  cases hnone

/-- Where finitely many places can be reached, a walk ends if and only if it
does not come back to a place. -/
theorem ends_iff_not_repeats
    {S : Set α} (hfinite : S.Finite) (ha : a ∈ S)
    (hclosed : ∀ b ∈ S, ∀ c, f b = some c → c ∈ S) :
    Ends f a ↔ ¬ Repeats f a := by
  constructor
  · intro hends hrepeats
    exact not_ends_of_repeats hrepeats hends
  · intro hrepeats
    by_contra hends
    have hsome : ∀ n, ∃ b, walk f a n = some b := by
      intro n
      cases hn : walk f a n with
      | none =>
          exact absurd ⟨n, hn⟩ hends
      | some b =>
          exact ⟨b, rfl⟩
    choose place hplace using hsome
    have hmem : ∀ n, place n ∈ S := by
      intro n
      induction n with
      | zero =>
          have h0 := hplace 0
          injection h0 with h0
          exact h0 ▸ ha
      | succ n ih =>
          refine hclosed _ ih _ ?_
          have hstep := hplace (n + 1)
          rw [walk, hplace n] at hstep
          exact hstep
    have : Finite S := hfinite
    obtain ⟨i, j, hne, heq⟩ :=
      Finite.exists_ne_map_eq_of_infinite fun n => (⟨place n, hmem n⟩ : S)
    have hsame : place i = place j := congrArg Subtype.val heq
    rcases Nat.lt_or_gt_of_ne hne with hij | hji
    · exact hrepeats ⟨i, j, _, hij, hplace i, hsame ▸ hplace j⟩
    · exact hrepeats ⟨j, i, _, hji, hplace j, hsame ▸ hplace i⟩

end Walks
