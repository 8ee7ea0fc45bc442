import Mathlib.Data.List.Basic

/-!
# Pieces that are gathered into groups

Pieces come one after the other and some of them are marked as the last of
their group.  `groups` joins the pieces of each group; pieces after the last
mark belong to none.

* `length_groups`: there is one group for each mark.
* `take_gathered`: what a buffer with a limit holds of the pieces so far.
-/

namespace Gather

variable {α : Type}

/-- The groups of the pieces; the first one begins with what has been gathered
before. -/
def groups (before : List α) : List (List α × Bool) → List (List α)
  | [] => []
  | (piece, true) :: rest => (before ++ piece) :: groups [] rest
  | (piece, false) :: rest => groups (before ++ piece) rest

theorem length_groups
    (before : List α) (pieces : List (List α × Bool)) :
    (groups before pieces).length = pieces.countP (·.2) := by
  induction pieces generalizing before with
  | nil =>
      rfl
  | cons head rest ih =>
      obtain ⟨piece, last⟩ := head
      cases last with
      | false =>
          rw [groups, ih]
          simp
      | true =>
          rw [groups, List.length_cons, ih]
          simp

/-- There are no groups when no piece is marked. -/
theorem groups_eq_nil_iff
    (before : List α) (pieces : List (List α × Bool)) :
    groups before pieces = [] ↔ pieces.any (·.2) = false := by
  rw [← List.length_eq_zero_iff, length_groups, List.countP_eq_zero,
    List.any_eq_false]

/-- A buffer that takes no more than its limit holds the beginning of what has
been gathered. -/
theorem take_gathered
    (limit : Nat) (before piece : List α) :
    before.take limit ++ piece.take (limit - (before.take limit).length) =
      (before ++ piece).take limit := by
  rw [List.take_append, List.length_take]
  congr 2
  omega

end Gather
