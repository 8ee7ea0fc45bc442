import Mathlib.Data.List.Basic
import Mathlib.Data.List.Range

/-!
# Slices of an unbounded array

An array without an end is a function on the natural numbers.  `slice f a n`
is the list of the `n` elements from position `a`, and `overwrite f a xs` the
array after the list `xs` has been stored at `a`.

The lemmas say what a position holds after an overwrite, how the two
operations compose, and that consecutive slices join.
-/

namespace Slices

variable {α : Type}

/-- The `n` elements from position `start`. -/
def slice (f : Nat → α) (start n : Nat) : List α :=
  (List.range n).map fun i => f (start + i)

/-- The array with the list stored from position `start`. -/
def overwrite (f : Nat → α) (start : Nat) (xs : List α) : Nat → α :=
  fun i => if i < start then f i else (xs[i - start]?).getD (f i)

@[simp] theorem length_slice
    (f : Nat → α) (start n : Nat) :
    (slice f start n).length = n := by
  simp [slice]

@[simp] theorem slice_zero
    (f : Nat → α) (start : Nat) :
    slice f start 0 = [] := by
  rfl

theorem getElem?_slice
    {f : Nat → α} {start n i : Nat} (h : i < n) :
    (slice f start n)[i]? = some (f (start + i)) := by
  simp [slice, h]

theorem slice_eq_iff
    {f g : Nat → α} {a b n : Nat} :
    slice f a n = slice g b n ↔ ∀ i, i < n → f (a + i) = g (b + i) := by
  simp [slice, List.map_inj_left]

/-- Consecutive slices join. -/
theorem slice_add
    (f : Nat → α) (start m n : Nat) :
    slice f start (m + n) = slice f start m ++ slice f (start + m) n := by
  simp [slice, List.range_add, Nat.add_assoc]

section Overwrite

variable (f : Nat → α) (start : Nat) (xs : List α)

@[simp] theorem overwrite_nil :
    overwrite f start [] = f := by
  funext i
  simp [overwrite]

variable {f start xs}

theorem overwrite_before
    {i : Nat} (h : i < start) :
    overwrite f start xs i = f i := by
  simp [overwrite, h]

theorem overwrite_after
    {i : Nat} (h : start + xs.length ≤ i) :
    overwrite f start xs i = f i := by
  unfold overwrite
  split
  · rfl
  · rw [List.getElem?_eq_none (by omega)]
    rfl

theorem overwrite_inside
    {i : Nat} (h : i < xs.length) :
    overwrite f start xs (start + i) = xs[i] := by
  simp [overwrite, h]

theorem overwrite_inside_of_le
    {i : Nat} (hle : start ≤ i) (h : i < start + xs.length) :
    overwrite f start xs i = xs[i - start] := by
  obtain ⟨k, rfl⟩ := Nat.exists_eq_add_of_le hle
  have hk : k < xs.length := by omega
  rw [overwrite_inside hk]
  simp

/-- What lies beside a stored list stays. -/
theorem overwrite_outside
    {i : Nat} (h : i < start ∨ start + xs.length ≤ i) :
    overwrite f start xs i = f i :=
  h.elim overwrite_before overwrite_after

/-- Below a stored list only its own place matters. -/
theorem overwrite_congr
    {g : Nat → α} {i : Nat} (h : f i = g i) :
    overwrite f start xs i = overwrite g start xs i := by
  simp [overwrite, h]

/-- A list of one stored. -/
theorem overwrite_singleton
    (f : Nat → α) (start : Nat) (x : α) :
    overwrite f start [x] = Function.update f start x := by
  funext i
  by_cases h : i = start
  · subst h
    rw [Function.update_self]
    exact overwrite_inside (i := 0) (show 0 < [x].length from Nat.one_pos)
  · rw [Function.update_of_ne h]
    refine overwrite_outside ?_
    rw [List.length_singleton]
    omega

/-- A list of two stored. -/
theorem overwrite_pair
    (f : Nat → α) (start : Nat) (x y : α) (i : Nat) :
    overwrite f start [x, y] i =
      if i = start then x else if i = start + 1 then y else f i := by
  split_ifs with h h'
  · subst h
    exact overwrite_inside (i := 0) (show 0 < [x, y].length by simp)
  · subst h'
    exact overwrite_inside (i := 1) (show 1 < [x, y].length by simp)
  · exact overwrite_outside (by simp; omega)

/-- Storing a list again changes nothing. -/
theorem overwrite_idem
    (f : Nat → α) (start : Nat) (xs : List α) :
    overwrite (overwrite f start xs) start xs = overwrite f start xs := by
  funext i
  by_cases h : start ≤ i ∧ i < start + xs.length
  · rw [overwrite_inside_of_le h.1 h.2, overwrite_inside_of_le h.1 h.2]
  · rw [overwrite_outside (by omega)]

/-- A list stored over its beginning. -/
theorem overwrite_take
    (f : Nat → α) (start n : Nat) (xs : List α) :
    overwrite (overwrite f start (xs.take n)) start xs =
      overwrite f start xs := by
  funext i
  by_cases h : start ≤ i ∧ i < start + xs.length
  · rw [overwrite_inside_of_le h.1 h.2, overwrite_inside_of_le h.1 h.2]
  · have hlength := List.length_take_le' n xs
    have houtside : i < start ∨ start + xs.length ≤ i := by omega
    have hbegin : i < start ∨ start + (xs.take n).length ≤ i := by omega
    rw [overwrite_outside houtside, overwrite_outside houtside,
      overwrite_outside hbegin]

/-- Storing two adjoining lists stores their concatenation. -/
theorem overwrite_append
    (f : Nat → α) (start : Nat) (xs ys : List α) :
    overwrite (overwrite f start xs) (start + xs.length) ys =
      overwrite f start (xs ++ ys) := by
  funext i
  rcases Nat.lt_or_ge i start with hlt | hle
  · rw [overwrite_before (by omega), overwrite_before hlt,
      overwrite_before hlt]
  · obtain ⟨k, rfl⟩ := Nat.exists_eq_add_of_le hle
    rcases Nat.lt_or_ge k xs.length with hk | hk
    · rw [overwrite_before (by omega), overwrite_inside hk,
        overwrite_inside (by simp; omega)]
      simp [hk]
    · obtain ⟨j, rfl⟩ := Nat.exists_eq_add_of_le hk
      rcases Nat.lt_or_ge j ys.length with hj | hj
      · rw [← Nat.add_assoc, overwrite_inside hj, Nat.add_assoc,
          overwrite_inside (by simp; omega)]
        simp
      · rw [overwrite_after (by omega), overwrite_after (by omega),
          overwrite_after (by simp; omega)]

/-- Storing two consecutive slices of one array stores the joined slice. -/
theorem overwrite_slices
    (f g : Nat → α) (start a m n : Nat) :
    overwrite (overwrite f start (slice g a m)) (start + m)
        (slice g (a + m) n) =
      overwrite f start (slice g a (m + n)) := by
  have h := overwrite_append f start (slice g a m) (slice g (a + m) n)
  rwa [length_slice, ← slice_add] at h

/-- What is read back from a stored list. -/
theorem slice_overwrite_inside
    (f : Nat → α) (start : Nat) (xs : List α) {a n : Nat}
    (h : a + n ≤ xs.length) :
    slice (overwrite f start xs) (start + a) n = (xs.drop a).take n := by
  apply List.ext_getElem
  · simp
    omega
  · intro i hi hi'
    rw [length_slice] at hi
    have hget : slice (overwrite f start xs) (start + a) n =
        (List.range n).map fun i => overwrite f start xs (start + a + i) := rfl
    simp only [hget, List.getElem_map, List.getElem_range, Nat.add_assoc]
    rw [overwrite_inside (by omega)]
    simp

theorem slice_overwrite
    (f : Nat → α) (start : Nat) (xs : List α) :
    slice (overwrite f start xs) start xs.length = xs := by
  have h := slice_overwrite_inside f start xs (a := 0) (n := xs.length) (by simp)
  rwa [Nat.add_zero, List.drop_zero, List.take_length] at h

end Overwrite

end Slices
