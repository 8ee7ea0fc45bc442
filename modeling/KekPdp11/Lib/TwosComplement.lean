import Mathlib.Data.Nat.Basic
import Mathlib.Tactic.SplitIfs

/-!
# Two's complement

Numbers below 2H, read as signed numbers from -H to H - 1.  Such a number is
negative when it is at least H.

**Overflow.**  Whether an exact signed result fits can be told from the signs
of the operands and of the result modulo 2H; whether an exact unsigned result
fits, from a comparison with an operand.  After a subtraction the sign of the
result, corrected by the overflow, is the signed comparison.
-/

namespace TwosComplement

variable {H x y r : Nat}

/-- The signed reading of a number below 2H. -/
def signed (H x : Nat) : Int :=
  if x < H then x else (x : Int) - 2 * H

/-- An exact result that has a signed representation. -/
def FitsSigned (H : Nat) (z : Int) : Prop :=
  -(H : Int) ≤ z ∧ z < H

/-- An exact result that has an unsigned representation. -/
def FitsUnsigned (H : Nat) (z : Int) : Prop :=
  0 ≤ z ∧ z < 2 * H

instance (H : Nat) (z : Int) : Decidable (FitsSigned H z) :=
  inferInstanceAs (Decidable (_ ∧ _))

instance (H : Nat) (z : Int) : Decidable (FitsUnsigned H z) :=
  inferInstanceAs (Decidable (_ ∧ _))

section Sums

/-- The sum of x and y modulo 2H is r. -/
def IsSum (H x y r : Nat) : Prop :=
  r = if x + y < 2 * H then x + y else x + y - 2 * H

variable (hx : x < 2 * H) (hy : y < 2 * H)

include hx hy

theorem isSum_mod :
    IsSum H x y ((x + y) % (2 * H)) := by
  unfold IsSum
  split
  · next h =>
      exact Nat.mod_eq_of_lt h
  · next h =>
      rw [Nat.mod_eq_sub_mod (by omega), Nat.mod_eq_of_lt (by omega)]

/-- A sum overflows when its operands have one sign and it has the other. -/
theorem sum_overflow_iff
    (hr : IsSum H x y r) :
    ¬ FitsSigned H (signed H x + signed H y) ↔
      (H ≤ x ↔ H ≤ y) ∧ ¬ (H ≤ y ↔ H ≤ r) := by
  unfold IsSum at hr
  unfold FitsSigned signed
  split_ifs at hr ⊢ <;> omega

omit hy in
/-- A sum carries when it is below an operand. -/
theorem sum_carry_iff
    (hr : IsSum H x y r) :
    ¬ FitsUnsigned H (x + y) ↔ r < y := by
  unfold IsSum at hr
  unfold FitsUnsigned
  split_ifs at hr <;> omega

end Sums

section Differences

/-- The difference of x and y modulo 2H is r. -/
def IsDifference (H x y r : Nat) : Prop :=
  r = if y ≤ x then x - y else x + 2 * H - y

variable (hx : x < 2 * H) (hy : y < 2 * H)

include hx hy

theorem isDifference_mod :
    IsDifference H x y ((2 * H - y + x) % (2 * H)) := by
  unfold IsDifference
  split
  · next h =>
      rw [Nat.mod_eq_sub_mod (by omega), Nat.mod_eq_of_lt (by omega)]
      omega
  · next h =>
      rw [Nat.mod_eq_of_lt (by omega)]
      omega

/-- A difference overflows when its operands have different signs and it has
the sign of the one that is subtracted. -/
theorem difference_overflow_iff
    (hr : IsDifference H x y r) :
    ¬ FitsSigned H (signed H x - signed H y) ↔
      ¬ (H ≤ x ↔ H ≤ y) ∧ (H ≤ y ↔ H ≤ r) := by
  unfold IsDifference at hr
  unfold FitsSigned signed
  split_ifs at hr ⊢ <;> omega

omit hy in
/-- A difference borrows when x is below y. -/
theorem difference_borrow_iff :
    ¬ FitsUnsigned H ((x : Int) - y) ↔ x < y := by
  unfold FitsUnsigned
  omega

omit hx in
theorem difference_zero_iff
    (hr : IsDifference H x y r) :
    r = 0 ↔ x = y := by
  unfold IsDifference at hr
  split_ifs at hr <;> omega

/-- The sign of a difference is the signed comparison, unless it overflows. -/
theorem difference_negative_iff
    (hr : IsDifference H x y r) :
    signed H x < signed H y ↔
      ¬ (H ≤ r ↔ ¬ FitsSigned H (signed H x - signed H y)) := by
  rw [difference_overflow_iff hx hy hr]
  unfold IsDifference at hr
  unfold signed
  split_ifs at hr ⊢ <;> omega

theorem signed_inj :
    signed H x = signed H y ↔ x = y := by
  unfold signed
  split_ifs <;> omega

end Differences

section Constants

variable (hx : x < 2 * H)

include hx

theorem fitsSigned_signed :
    FitsSigned H (signed H x) := by
  unfold FitsSigned signed
  split_ifs <;> omega

theorem fitsUnsigned_self :
    FitsUnsigned H (x : Int) := by
  unfold FitsUnsigned
  omega

theorem increment_overflow_iff :
    ¬ FitsSigned H (signed H x + 1) ↔ x + 1 = H := by
  unfold FitsSigned signed
  split_ifs <;> omega

theorem increment_carry_iff :
    ¬ FitsUnsigned H ((x : Int) + 1) ↔ x + 1 = 2 * H := by
  unfold FitsUnsigned
  omega

/-- The increment that overflows has the first negative number as result. -/
theorem increment_half_iff
    (hr : IsSum H x 1 r) :
    r = H ↔ ¬ FitsSigned H (signed H x + 1) := by
  rw [increment_overflow_iff hx]
  unfold IsSum at hr
  split_ifs at hr <;> omega

theorem decrement_overflow_iff :
    ¬ FitsSigned H (signed H x - 1) ↔ x = H := by
  unfold FitsSigned signed
  split_ifs <;> omega

theorem decrement_borrow_iff :
    ¬ FitsUnsigned H ((x : Int) - 1) ↔ x = 0 := by
  unfold FitsUnsigned
  omega

/-- The decrement that overflows has the last positive number as result. -/
theorem decrement_below_half_iff
    (hr : IsDifference H x 1 r) :
    r + 1 = H ↔ ¬ FitsSigned H (signed H x - 1) := by
  rw [decrement_overflow_iff hx]
  unfold IsDifference at hr
  split_ifs at hr <;> omega

theorem negation_overflow_iff :
    ¬ FitsSigned H (-signed H x) ↔ x = H := by
  unfold FitsSigned signed
  split_ifs <;> omega

/-- The negation that overflows has its operand as result. -/
theorem negation_half_iff
    (hr : IsDifference H 0 x r) :
    r = H ↔ ¬ FitsSigned H (-signed H x) := by
  rw [negation_overflow_iff hx]
  unfold IsDifference at hr
  split_ifs at hr <;> omega

theorem negation_borrow_iff :
    ¬ FitsUnsigned H (-(x : Int)) ↔ x ≠ 0 := by
  unfold FitsUnsigned
  omega

end Constants

end TwosComplement
