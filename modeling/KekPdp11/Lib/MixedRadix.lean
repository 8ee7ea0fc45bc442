import Mathlib.Data.Nat.Basic

/-!
# Two digits

`pair n a b` is the number with the digits `a` and `b`, the second one of which
is below `n`.  It is below `m * n` when the first one is below `m`, it
determines its digits, and it grows with them, the first one first.  Longer
numbers are pairs of pairs.
-/

namespace MixedRadix

/-- The number with two digits. -/
def pair (n a b : Nat) : Nat :=
  a * n + b

variable {m n a b a' b' : Nat}

theorem pair_lt
    (ha : a < m) (hb : b < n) :
    pair n a b < m * n := by
  have hrow : (a + 1) * n ≤ m * n := Nat.mul_le_mul_right n ha
  rw [Nat.succ_mul] at hrow
  unfold pair
  omega

theorem pair_lt_of_first
    (hb : b < n) (h : a < a') :
    pair n a b < pair n a' b' := by
  have hrow : (a + 1) * n ≤ a' * n := Nat.mul_le_mul_right n h
  rw [Nat.succ_mul] at hrow
  unfold pair
  omega

theorem pair_lt_of_second
    (h : b < b') :
    pair n a b < pair n a b' :=
  Nat.add_lt_add_left h _

theorem pair_inj
    (hb : b < n) (hb' : b' < n) (h : pair n a b = pair n a' b') :
    a = a' ∧ b = b' := by
  rcases Nat.lt_trichotomy a a' with hlt | heq | hgt
  · exact absurd h (Nat.ne_of_lt (pair_lt_of_first hb hlt))
  · subst heq
    exact ⟨rfl, Nat.add_left_cancel h⟩
  · exact absurd h.symm (Nat.ne_of_lt (pair_lt_of_first hb' hgt))

/-- Every number below `m * n` has two digits. -/
theorem exists_pair
    {k : Nat} (h : k < m * n) :
    ∃ a b, a < m ∧ b < n ∧ pair n a b = k := by
  have hn : 0 < n := Nat.pos_of_mul_pos_left (Nat.zero_lt_of_lt h)
  exact ⟨k / n, k % n, Nat.div_lt_of_lt_mul (Nat.mul_comm m n ▸ h),
    Nat.mod_lt k hn, Nat.div_add_mod' k n⟩

end MixedRadix
