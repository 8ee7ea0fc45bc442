import Mathlib.Order.Defs.LinearOrder

/-!
# Bit vectors as ordered values

Bit vectors of one width are linearly ordered by the number they represent.
-/

/-- Bit vectors ordered as unsigned numbers. -/
instance bitVecLinearOrder (w : Nat) : LinearOrder (BitVec w) where
  le_refl := BitVec.le_refl
  le_trans _ _ _ := BitVec.le_trans
  lt_iff_le_not_ge a b := by
    simp only [BitVec.lt_def, BitVec.le_def]
    omega
  le_antisymm _ _ := BitVec.le_antisymm
  le_total a b := by
    simp only [BitVec.le_def]
    omega
  toDecidableLE := inferInstance
  toDecidableEq := inferInstance
  toDecidableLT := inferInstance
