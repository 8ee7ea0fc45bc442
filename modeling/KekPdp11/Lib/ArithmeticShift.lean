import Mathlib.Tactic.Positivity

/-!
# Arithmetic shifts by a signed count

A two's complement number is shifted to the left by a count that is not
negative, and to the right otherwise.  `shifted` says so in terms of exact
products and quotients, `lastOut` is the last bit that leaves the number, and
`SignChanges` says that a change of sign is seen on the way.

**Bits.**  A left shift is `<<<` and a right shift is `sshiftRight`.
-/

namespace ArithmeticShift

variable {w : Nat}

/-- The product with a power of two modulo the width, or the quotient rounded
down. -/
def shifted (x : BitVec w) (n : Int) : BitVec w :=
  BitVec.ofInt w
    (if 0 ≤ n then x.toInt * 2 ^ n.toNat else x.toInt.fdiv (2 ^ (-n).toNat))

/-- The last bit shifted out: the sign before the last step to the left, or
the low bit before the last step to the right. -/
def lastOut (x : BitVec w) (n : Int) : Bool :=
  if n = 0 then false
  else if 0 < n then (shifted x (n - 1)).msb
  else (shifted x (n + 1)).getLsbD 0

/-- One of the steps of the shift has a result of the other sign. -/
def SignChanges (x : BitVec w) (n : Int) : Prop :=
  ∃ k : Nat, k ≤ n.natAbs ∧ (shifted x (n.sign * k)).msb ≠ x.msb

instance (x : BitVec w) (n : Int) : Decidable (SignChanges x n) :=
  decidable_of_iff
    (∃ k : Nat, k < n.natAbs + 1 ∧ (shifted x (n.sign * k)).msb ≠ x.msb)
    (exists_congr fun _ => and_congr_left' Nat.lt_succ_iff)

section Bits

variable (x : BitVec w)

theorem shifted_natCast
    (k : Nat) :
    shifted x k = x <<< k := by
  have hpow : BitVec.ofInt w (2 ^ k) = BitVec.twoPow w k := by
    rw [BitVec.twoPow_eq, BitVec.shiftLeft_eq_mul_twoPow, BitVec.one_mul]
    apply BitVec.eq_of_toNat_eq
    rw [BitVec.toNat_twoPow]
    norm_cast
  unfold shifted
  rw [if_pos (Int.natCast_nonneg k), Int.toNat_natCast, BitVec.ofInt_mul,
    BitVec.ofInt_toInt, hpow, BitVec.shiftLeft_eq_mul_twoPow]

theorem shifted_neg_natCast
    (k : Nat) :
    shifted x (-k) = x.sshiftRight k := by
  rcases Nat.eq_zero_or_pos k with rfl | hk
  · rw [Nat.cast_zero, neg_zero, show shifted x 0 = _ from shifted_natCast x 0,
      BitVec.shiftLeft_zero, BitVec.sshiftRight_zero]
  · have hpow : (2 : Int) ^ k = ((2 ^ k : Nat) : Int) := by
      norm_cast
    unfold shifted
    rw [if_neg (by omega), neg_neg, Int.toNat_natCast, BitVec.sshiftRight_eq,
      Int.shiftRight_eq_div_pow, hpow,
      Int.fdiv_eq_ediv_of_nonneg _ (Int.natCast_nonneg _)]

theorem lastOut_natCast_succ
    (k : Nat) :
    lastOut x (k + 1 : Nat) = (x <<< k).msb := by
  unfold lastOut
  rw [if_neg (by omega), if_pos (by omega),
    show ((k + 1 : Nat) : Int) - 1 = k by omega, shifted_natCast]

theorem lastOut_neg_natCast_succ
    (k : Nat) :
    lastOut x (-(k + 1 : Nat)) = (x.sshiftRight k).getLsbD 0 := by
  unfold lastOut
  rw [if_neg (by omega), if_neg (by omega),
    show -((k + 1 : Nat) : Int) + 1 = -k by omega, shifted_neg_natCast]

theorem signChanges_natCast_iff
    (k : Nat) :
    SignChanges x k ↔ ∃ j, j ≤ k ∧ (x <<< j).msb ≠ x.msb := by
  unfold SignChanges
  refine exists_congr fun j => and_congr_right fun hj => ?_
  rcases Nat.eq_zero_or_pos k with rfl | hk
  · rw [Nat.le_zero.mp hj, Nat.cast_zero, Int.mul_zero,
      show shifted x 0 = _ from shifted_natCast x 0]
  · rw [Int.sign_eq_one_of_pos (Int.natCast_pos.mpr hk), Int.one_mul,
      shifted_natCast]

/-- A right shift keeps the sign. -/
theorem not_signChanges_neg_natCast
    (k : Nat) :
    ¬ SignChanges x (-k) := by
  rintro ⟨j, hj, hne⟩
  apply hne
  rcases Nat.eq_zero_or_pos k with rfl | hk
  · rw [Nat.cast_zero, neg_zero, Int.sign_zero, Int.zero_mul,
      show shifted x 0 = _ from shifted_natCast x 0, BitVec.shiftLeft_zero]
  · rw [Int.sign_neg, Int.sign_eq_one_of_pos (Int.natCast_pos.mpr hk),
      Int.neg_mul, Int.one_mul, shifted_neg_natCast, BitVec.msb_sshiftRight]

end Bits

end ArithmeticShift
