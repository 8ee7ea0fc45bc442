import KekPdp11.Lib.TwosComplement
import KekPdp11.OperandForms

/-!
# KEK PDP-11: flags and branches

What the condition codes say about the operands of the comparisons and of the
arithmetic instructions, at both widths.

The bit formulas of the source are read as statements about signs, and the
rules of two's complement turn these into statements about the exact results.

**Result.**  Each conditional branch after CMP is taken when its relation
holds between the operands, SUB leaves the codes of the reverse CMP, and V and
C tell whether an exact result fits.  This holds unless the result goes to the
status word itself, where the write decides about the flags.
-/

namespace KekPdp11

open StateExcept TwosComplement

variable {δ : Type}

section Widths

/-- Half the number of values of a width. -/
def half : WordMode → Nat
  | .wmByte => 128
  | .wmWord => 32768

theorem half_pos
    (wordMode : WordMode) :
    0 < half wordMode := by
  cases wordMode <;> decide

/-- The signed reading of an operand. -/
def signedAt (wordMode : WordMode) (x : Word) : Int :=
  signed (half wordMode) x.toNat

variable {wordMode : WordMode} {x y : Word}

theorem mask_toNat
    (x : Word) (wordMode : WordMode) :
    (x &&& wordModeMask wordMode).toNat = x.toNat % (2 * half wordMode) := by
  cases wordMode with
  | wmWord =>
      rw [mask_word]
      exact (Nat.mod_eq_of_lt x.isLt).symm
  | wmByte =>
      rw [BitVec.toNat_and]
      exact Nat.and_two_pow_sub_one_eq_mod x.toNat 8

theorem mask_lt
    (x : Word) (wordMode : WordMode) :
    (x &&& wordModeMask wordMode).toNat < 2 * half wordMode := by
  rw [mask_toNat]
  refine Nat.mod_lt _ ?_
  cases wordMode <;> decide

/-- An operand that has no bits above its width. -/
theorem toNat_lt_of_high
    (h : x &&& ~~~wordModeMask wordMode = 0) :
    x.toNat < 2 * half wordMode := by
  have hx : x = x &&& wordModeMask wordMode := by
    have hsplit := BitVec.and_or_distrib_left (x := x)
      (y := wordModeMask wordMode) (z := ~~~wordModeMask wordMode)
    rw [BitVec.or_not_self, h] at hsplit
    exact (BitVec.and_allOnes.symm.trans hsplit).trans BitVec.or_zero
  rw [hx]
  exact mask_lt x wordMode

section Signs

theorem sign_eq_getLsbD
    (x : Word) (wordMode : WordMode) :
    sign x wordMode =
      x.getLsbD (match wordMode with
        | .wmByte => 7
        | .wmWord => 15) := by
  have hbit : ∀ i, i < 16 →
      decide (x &&& BitVec.twoPow 16 i ≠ 0) = x.getLsbD i := by
    intro i hi
    rw [BitVec.and_twoPow]
    cases x.getLsbD i with
    | true =>
        have hne : BitVec.twoPow 16 i ≠ 0 := by
          interval_cases i <;> decide
        simpa using hne
    | false =>
        rfl
  cases wordMode with
  | wmByte =>
      exact hbit 7 (by omega)
  | wmWord =>
      exact hbit 15 (by omega)

theorem sign_and :
    sign (x &&& y) wordMode = (sign x wordMode && sign y wordMode) := by
  simp only [sign_eq_getLsbD, BitVec.getLsbD_and]

theorem sign_xor :
    sign (x ^^^ y) wordMode = (sign x wordMode ^^ sign y wordMode) := by
  simp only [sign_eq_getLsbD, BitVec.getLsbD_xor]

theorem sign_not :
    sign (~~~x) wordMode = !sign x wordMode := by
  rw [sign_eq_getLsbD, sign_eq_getLsbD, BitVec.getLsbD_not]
  cases wordMode <;> rfl

/-- The sign bit of an operand. -/
theorem sign_iff
    (h : x.toNat < 2 * half wordMode) :
    sign x wordMode = true ↔ half wordMode ≤ x.toNat := by
  rw [sign_eq_getLsbD]
  cases wordMode with
  | wmByte =>
      rw [BitVec.getLsbD, Nat.testBit_eq_decide_div_mod_eq]
      simp only [half, decide_eq_true_eq] at h ⊢
      omega
  | wmWord =>
      rw [BitVec.getLsbD, Nat.testBit_eq_decide_div_mod_eq]
      simp only [half, decide_eq_true_eq] at h ⊢
      omega

theorem isZero_iff
    (h : x.toNat < 2 * half wordMode) :
    isZero x wordMode = true ↔ x.toNat = 0 := by
  cases wordMode with
  | wmByte =>
      have hmask := mask_toNat x .wmByte
      rw [Nat.mod_eq_of_lt h] at hmask
      unfold isZero
      rw [decide_eq_true_iff, BitVec.toNat_eq]
      exact Eq.congr hmask rfl
  | wmWord =>
      unfold isZero
      rw [decide_eq_true_iff, BitVec.toNat_eq]
      rfl

end Signs

section Constants

variable (x : Word) (wordMode : WordMode)

theorem equalsAt_half_iff :
    equalsAt x 0x80 0x8000 wordMode = true ↔ x.toNat = half wordMode := by
  cases wordMode <;>
    exact decide_eq_true_iff.trans BitVec.toNat_eq

theorem equalsAt_below_half_iff :
    equalsAt x 0x7f 0x7fff wordMode = true ↔ x.toNat + 1 = half wordMode := by
  cases wordMode <;>
    exact (decide_eq_true_iff.trans BitVec.toNat_eq).trans
      Nat.succ_inj.symm

theorem equalsAt_full_iff :
    equalsAt x 0xff 0xffff wordMode = true ↔
      x.toNat + 1 = 2 * half wordMode := by
  cases wordMode <;>
    exact (decide_eq_true_iff.trans BitVec.toNat_eq).trans
      Nat.succ_inj.symm

end Constants

section Results

variable (hx : x.toNat < 2 * half wordMode) (hy : y.toNat < 2 * half wordMode)

include hx hy

theorem isSum_add :
    IsSum (half wordMode) x.toNat y.toNat
      ((x + y) &&& wordModeMask wordMode).toNat := by
  rw [mask_toNat, BitVec.toNat_add, Nat.mod_mod_of_dvd]
  · exact isSum_mod hx hy
  · cases wordMode <;> decide

theorem isDifference_sub :
    IsDifference (half wordMode) x.toNat y.toNat
      ((x - y) &&& wordModeMask wordMode).toNat := by
  have h := isDifference_mod hx hy
  rw [mask_toNat, BitVec.toNat_sub]
  convert h using 1
  cases wordMode <;> simp only [half] at hy ⊢ <;> omega

omit hx in
theorem isDifference_neg :
    IsDifference (half wordMode) 0 y.toNat
      (-y &&& wordModeMask wordMode).toNat := by
  have hzero : (0 : Word).toNat < 2 * half wordMode :=
    Nat.mul_pos Nat.two_pos (half_pos wordMode)
  rw [← BitVec.zero_sub]
  exact isDifference_sub hzero hy

end Results

end Widths

section Comparisons

/-- The condition codes that CMP leaves for two operands. -/
def cmpCodes (wordMode : WordMode) (a b : Word) : ConditionCodes :=
  let temp := (a - b) &&& wordModeMask wordMode
  ⟨sign temp wordMode, isZero temp wordMode,
    sign ((a ^^^ b) &&& (~~~b ^^^ temp)) wordMode, decide (a < b)⟩

variable {wordMode : WordMode} {a b : Word}
variable (ha : a.toNat < 2 * half wordMode) (hb : b.toNat < 2 * half wordMode)

include ha hb

theorem cmp_z_iff :
    (cmpCodes wordMode a b).z = true ↔ a = b := by
  have hdifference := isDifference_sub ha hb
  rw [BitVec.toNat_eq, ← difference_zero_iff hb hdifference]
  exact isZero_iff (mask_lt _ _)

theorem cmp_v_iff :
    (cmpCodes wordMode a b).v = true ↔
      ¬ FitsSigned (half wordMode)
        (signedAt wordMode a - signedAt wordMode b) := by
  have hdifference := isDifference_sub ha hb
  rw [signedAt, signedAt, difference_overflow_iff ha hb hdifference,
    ← sign_iff ha, ← sign_iff hb, ← sign_iff (mask_lt _ _)]
  change sign ((a ^^^ b) &&& (~~~b ^^^ _)) wordMode = true ↔ _
  rw [sign_and, sign_xor, sign_xor, sign_not]
  cases sign a wordMode <;> cases sign b wordMode <;>
    cases sign ((a - b) &&& wordModeMask wordMode) wordMode <;> decide

/-- The sign, corrected by the overflow, is the signed comparison. -/
theorem cmp_less_iff :
    ((cmpCodes wordMode a b).n ^^ (cmpCodes wordMode a b).v) = true ↔
      signedAt wordMode a < signedAt wordMode b := by
  have hdifference := isDifference_sub ha hb
  have hn : (cmpCodes wordMode a b).n = true ↔ _ := sign_iff (mask_lt _ _)
  have hv := cmp_v_iff ha hb
  unfold signedAt at hv ⊢
  rw [difference_negative_iff ha hb hdifference, ← hn, ← hv]
  cases (cmpCodes wordMode a b).n <;> cases (cmpCodes wordMode a b).v <;>
    decide

end Comparisons

section Branches

/-- The conditional branches that compare. -/
inductive Branch where
  | beq
  | bne
  | blt
  | bge
  | bgt
  | ble
  | blo
  | bhis
  | bhi
  | blos
deriving DecidableEq, Repr

namespace Branch

/-- The upper byte of the instruction. -/
def opcode : Branch → BitVec 8
  | bne => 0b00000010
  | beq => 0b00000011
  | bge => 0b00000100
  | blt => 0b00000101
  | bgt => 0b00000110
  | ble => 0b00000111
  | bhi => 0b10000010
  | blos => 0b10000011
  | bhis => 0b10000110
  | blo => 0b10000111

/-- The relation between two operands that the branch stands for: equality, a
signed one or an unsigned one. -/
def Related (wordMode : WordMode) (a b : Word) : Branch → Prop
  | beq => a = b
  | bne => a ≠ b
  | blt => signedAt wordMode a < signedAt wordMode b
  | bge => signedAt wordMode b ≤ signedAt wordMode a
  | bgt => signedAt wordMode b < signedAt wordMode a
  | ble => signedAt wordMode a ≤ signedAt wordMode b
  | blo => a < b
  | bhis => b ≤ a
  | bhi => b < a
  | blos => a ≤ b

/-- Whether the branch is taken. -/
def taken (codes : ConditionCodes) : Branch → Bool
  | beq => codes.z
  | bne => !codes.z
  | blt => codes.n ^^ codes.v
  | bge => codes.n == codes.v
  | bgt => codes.n == codes.v && !codes.z
  | ble => codes.n != codes.v || codes.z
  | blo => codes.c
  | bhis => !codes.c
  | bhi => !codes.c && !codes.z
  | blos => codes.c || codes.z

theorem evaluate_eq
    (br : Branch) (c : Cpu) {instr : Word}
    (h : (instr >>> 8).setWidth 8 = br.opcode) :
    conditionalBranchInstructionsEvaluate c instr =
      some (br.taken c.conditionCodes) := by
  unfold conditionalBranchInstructionsEvaluate
  rw [h]
  cases br <;> rfl

variable {wordMode : WordMode} {a b : Word}

/-- After a comparison a branch is taken when its relation holds. -/
theorem taken_iff
    (br : Branch) (ha : a.toNat < 2 * half wordMode)
    (hb : b.toNat < 2 * half wordMode) :
    br.taken (cmpCodes wordMode a b) = true ↔ br.Related wordMode a b := by
  have hz := cmp_z_iff ha hb
  have hless := cmp_less_iff ha hb
  have hc : (cmpCodes wordMode a b).c = true ↔ a < b := decide_eq_true_iff
  have hsigned : signedAt wordMode a = signedAt wordMode b ↔ a = b :=
    (signed_inj ha hb).trans BitVec.toNat_eq.symm
  have hunsigned : a ≤ b ↔ a < b ∨ a = b := by
    rw [BitVec.le_def, BitVec.lt_def, BitVec.toNat_eq]
    exact Nat.le_iff_lt_or_eq
  cases br with
  | beq =>
      exact hz
  | bne =>
      rw [Related, ne_eq, ← hz]
      simp only [taken]
      cases (cmpCodes wordMode a b).z <;> decide
  | blt =>
      exact hless
  | bge =>
      rw [Related, ← not_lt, ← hless]
      simp only [taken]
      cases (cmpCodes wordMode a b).n <;> cases (cmpCodes wordMode a b).v <;>
        decide
  | bgt =>
      rw [Related, lt_iff_not_ge, le_iff_lt_or_eq, hsigned, ← hless, ← hz]
      simp only [taken]
      cases (cmpCodes wordMode a b).n <;> cases (cmpCodes wordMode a b).v <;>
        cases (cmpCodes wordMode a b).z <;> decide
  | ble =>
      rw [Related, le_iff_lt_or_eq, hsigned, ← hless, ← hz]
      simp only [taken]
      cases (cmpCodes wordMode a b).n <;> cases (cmpCodes wordMode a b).v <;>
        cases (cmpCodes wordMode a b).z <;> decide
  | blo =>
      exact hc
  | bhis =>
      rw [Related, ← BitVec.not_lt, ← hc]
      simp only [taken]
      cases (cmpCodes wordMode a b).c <;> decide
  | bhi =>
      rw [Related, ← BitVec.not_le, hunsigned, ← hc, ← hz]
      simp only [taken]
      cases (cmpCodes wordMode a b).c <;> cases (cmpCodes wordMode a b).z <;>
        decide
  | blos =>
      rw [Related, hunsigned, ← hc, ← hz]
      simp only [taken, Bool.or_eq_true]

end Branch

end Branches

section Arithmetic

/-- The instructions whose V and C are about an exact result. -/
inductive Arithmetic where
  | add
  | sub
  | adc
  | sbc
  | inc
  | dec
  | neg
deriving DecidableEq, Repr

namespace Arithmetic

def instruction : Arithmetic → Modification
  | add => .add
  | sub => .sub
  | adc => .adc
  | sbc => .sbc
  | inc => .inc
  | dec => .dec
  | neg => .neg

/-- The result without a width, of a destination, a source and the carry
before. -/
def exact (v src : Int) (carry : Bool) : Arithmetic → Int
  | add => v + src
  | sub => v - src
  | adc => v + carry.toNat
  | sbc => v - carry.toNat
  | inc => v + 1
  | dec => v - 1
  | neg => -v

/-- INC and DEC leave C as it was. -/
def SetsCarry : Arithmetic → Prop
  | inc | dec => False
  | _ => True

variable (i : Arithmetic) {wordMode : WordMode} {src v : Word}

/-- V says whether the exact signed result fits. -/
theorem v_iff
    (hword : i.instruction.WordOnly → wordMode = .wmWord)
    (hv : v.toNat < 2 * half wordMode) (hsrc : src.toNat < 2 * half wordMode)
    (old : ConditionCodes) :
    (i.instruction.codes wordMode src v old).v = true ↔
      ¬ FitsSigned (half wordMode)
        (i.exact (signedAt wordMode v) (signedAt wordMode src) old.c) := by
  have hone : (1 : Word).toNat < 2 * half wordMode := by
    cases wordMode <;> decide
  have hmask : (v &&& wordModeMask wordMode).toNat = v.toNat := by
    rw [mask_toNat, Nat.mod_eq_of_lt hv]
  unfold exact signedAt
  cases i with
  | add =>
      cases hword trivial
      have hsum := isSum_add hv hsrc
      rw [sum_overflow_iff hv hsrc hsum, ← sign_iff hv, ← sign_iff hsrc,
        ← sign_iff (mask_lt _ _), mask_word]
      change sign ((~~~src ^^^ v) &&& (src ^^^ (v + src))) .wmWord = true ↔ _
      rw [sign_and, sign_xor, sign_xor, sign_not]
      cases sign src .wmWord <;> cases sign v .wmWord <;>
        cases sign (v + src) .wmWord <;> decide
  | sub =>
      cases hword trivial
      have hdifference := isDifference_sub hv hsrc
      rw [difference_overflow_iff hv hsrc hdifference, ← sign_iff hv,
        ← sign_iff hsrc, ← sign_iff (mask_lt _ _), mask_word]
      change sign ((v ^^^ src) &&& (~~~src ^^^ (v - src))) .wmWord = true ↔ _
      rw [sign_and, sign_xor, sign_xor, sign_not]
      cases sign src .wmWord <;> cases sign v .wmWord <;>
        cases sign (v - src) .wmWord <;> decide
  | adc =>
      change (equalsAt _ 0x7f 0x7fff wordMode && old.c) = true ↔ _
      cases old.c with
      | true =>
          rw [Bool.and_true, equalsAt_below_half_iff, hmask]
          exact (increment_overflow_iff hv).symm
      | false =>
          rw [Bool.and_false]
          simpa using fitsSigned_signed hv
  | sbc =>
      change (equalsAt _ 0x80 0x8000 wordMode && old.c) = true ↔ _
      cases old.c with
      | true =>
          rw [Bool.and_true, equalsAt_half_iff, hmask]
          exact (decrement_overflow_iff hv).symm
      | false =>
          rw [Bool.and_false]
          simpa using fitsSigned_signed hv
  | inc =>
      have hsum := isSum_add hv hone
      exact (equalsAt_half_iff _ _).trans (increment_half_iff hv hsum)
  | dec =>
      have hdifference := isDifference_sub hv hone
      exact (equalsAt_below_half_iff _ _).trans
        (decrement_below_half_iff hv hdifference)
  | neg =>
      have hdifference := isDifference_neg hv
      exact (equalsAt_half_iff _ _).trans (negation_half_iff hv hdifference)

/-- C says whether the exact unsigned result fits. -/
theorem c_iff
    (hcarry : i.SetsCarry) (hword : i.instruction.WordOnly → wordMode = .wmWord)
    (hv : v.toNat < 2 * half wordMode) (hsrc : src.toNat < 2 * half wordMode)
    (old : ConditionCodes) :
    (i.instruction.codes wordMode src v old).c = true ↔
      ¬ FitsUnsigned (half wordMode) (i.exact v.toNat src.toNat old.c) := by
  have hmask : (v &&& wordModeMask wordMode).toNat = v.toNat := by
    rw [mask_toNat, Nat.mod_eq_of_lt hv]
  unfold exact
  cases i with
  | add =>
      cases hword trivial
      have hsum := isSum_add hv hsrc
      rw [sum_carry_iff hv hsum, mask_word]
      exact decide_eq_true_iff.trans BitVec.lt_def
  | sub =>
      cases hword trivial
      rw [difference_borrow_iff hv]
      exact decide_eq_true_iff.trans BitVec.lt_def
  | adc =>
      change (equalsAt _ 0xff 0xffff wordMode && old.c) = true ↔ _
      cases old.c with
      | true =>
          rw [Bool.and_true, equalsAt_full_iff, hmask]
          exact (increment_carry_iff hv).symm
      | false =>
          rw [Bool.and_false]
          simpa using fitsUnsigned_self hv
  | sbc =>
      change (isZero v wordMode && old.c) = true ↔ _
      cases old.c with
      | true =>
          rw [Bool.and_true, isZero_iff hv]
          exact (decrement_borrow_iff hv).symm
      | false =>
          rw [Bool.and_false]
          simpa using fitsUnsigned_self hv
  | inc | dec =>
      exact hcarry.elim
  | neg =>
      have hzero := difference_zero_iff hv (isDifference_neg hv)
      rw [negation_borrow_iff hv]
      exact (decide_eq_true_iff.trans (not_congr BitVec.toNat_eq)).trans
        (not_congr (hzero.trans eq_comm))

end Arithmetic

end Arithmetic

section StatusWord

/-- The program reports a write of the status word only if it is one. -/
abbrev ReportsPSW (isPsw : Prop) (m : Exec δ Bool) : Prop :=
  Triple (fun _ => True) m (fun b _ => b = true → isPsw) (fun _ _ => True)

variable {isPsw : Prop}

theorem reportsPSW_true
    (h : isPsw) (m : Exec δ Unit) :
    ReportsPSW isPsw (do m; pure true) :=
  (Triple.any m).bind fun _ => .pure fun _ _ _ => h

theorem reportsPSW_false
    (m : Exec δ Unit) :
    ReportsPSW isPsw (do m; pure false) :=
  (Triple.any m).bind fun _ => .pure fun _ _ h => by cases h

theorem reportsPSW_writeByteRegister
    {a value : Word} {write : Exec δ Bool}
    (h : writeByteRegister a value = some write) :
    ReportsPSW (addressesPSW a .wmByte) write := by
  unfold writeByteRegister at h
  rcases eq_or_of_ite_some h with ⟨ha, rfl⟩ | h
  · exact reportsPSW_true (ha.imp id fun h => ⟨h, rfl⟩) _
  rcases eq_or_of_ite_some h with ⟨-, rfl⟩ | h
  · exact reportsPSW_false _
  rcases eq_or_of_ite_some h with ⟨-, rfl⟩ | h
  · exact reportsPSW_false _
  rcases eq_or_of_ite_some h with ⟨-, rfl⟩ | h
  · exact reportsPSW_false _
  cases h

theorem reportsPSW_writeWordRegister
    {a value : Word} {write : Exec δ Bool}
    (h : writeWordRegister a value = some write) :
    ReportsPSW (addressesPSW a .wmWord) write := by
  rcases writeWordRegister_cases h with ⟨ha, rfl⟩ | ⟨m, rfl, -⟩
  · exact reportsPSW_true (.inl ha) _
  · exact reportsPSW_false m

variable [UnibusDevices δ]

theorem reportsPSW_writeIo
    (trap : TrapCall δ) (a : Word) (wordMode : WordMode) (page : BitVec 3)
    (value : Word) :
    ReportsPSW (addressesPSW a wordMode)
      (writeIoVia trap a wordMode page value) := by
  unfold writeIoVia
  refine (Triple.any _).bind fun _ => ?_
  dsimp only
  split
  · next write hfirst =>
      cases wordMode with
      | wmByte =>
          exact reportsPSW_writeByteRegister hfirst
      | wmWord =>
          exact reportsPSW_writeWordRegister hfirst
  · split
    · exact reportsPSW_false _
    · split
      · exact reportsPSW_false _
      · refine .view_bind_any fun slot => ?_
        split
        · exact reportsPSW_false _
        · split
          · exact reportsPSW_false _
          · split
            · exact .of_throws fun s => ⟨_, _, oddAbort_apply page 8 s⟩
            · exact (Triple.any _).bind fun _ => .of_throws fun s => ⟨_, _, rfl⟩

/-- The place that a reference reaches is the status word. -/
def Target.IsPSW (target : Target) (wordMode : WordMode) : Prop :=
  ∃ a, target = .io a ∧ addressesPSW a wordMode

theorem reportsPSW_serveWrite
    (target : Target) (wordMode : WordMode) (apf : BitVec 3) (value : Word) :
    ReportsPSW (target.IsPSW wordMode)
      (serveWrite target wordMode apf value : Exec δ Bool) := by
  cases target with
  | accessFault page =>
      exact .of_throws fun s => ⟨_, abortAccess_throws page s⟩
  | lengthFault page =>
      exact .of_throws fun s => ⟨_, abortLength_throws page s⟩
  | boundsFault page =>
      exact .of_throws fun s => ⟨_, abortBounds_throws page s⟩
  | io a =>
      exact (reportsPSW_writeIo trap a wordMode apf value).weaken_post
        fun _ _ h hb => ⟨a, rfl, h hb⟩
  | ram p page =>
      refine (Triple.any _).bind fun _ => ?_
      cases wordMode with
      | wmByte =>
          exact reportsPSW_false _
      | wmWord =>
          change ReportsPSW _ (if p &&& 1 ≠ 0 then oddAbort apf 10 else _)
          split
          · exact .of_throws fun s => ⟨_, _, oddAbort_apply apf 10 s⟩
          · exact reportsPSW_false _

/-- A write that reports the status word is one of the status word. -/
theorem Bus.write_reports
    {a value : Word} {wordMode : WordMode} {runMode : RunMode} {space : Space}
    {s t : Machine δ}
    (h : Bus.write a wordMode value runMode space s = .ok true t) :
    (s.target runMode a space).IsPSW wordMode := by
  rw [Bus.write_eq] at h
  cases hserve : (serveWrite (s.target runMode a space) wordMode
      (activePageField a) value : Exec δ Bool) s with
  | ok b u =>
      rw [noteAbort_of_ok hserve] at h
      cases h
      exact (reportsPSW_serveWrite _ _ _ _).ok trivial hserve rfl
  | error e u =>
      rw [noteAbort_of_error hserve] at h
      cases h

end StatusWord

section Runs

variable [UnibusDevices δ]

/-- An operand is the status word, in the state in which it is written. -/
def GamRc.IsPSW (g : GamRc) (s : Machine δ) : Prop :=
  g.isAddr = true ∧
    (s.target s.cpu.getPSWRunmode g.addr g.space).IsPSW g.wordMode

/-- A word operand has been given a value, in its register or by a write to
its location; nothing but condition codes is changed after that. -/
inductive Stored (g : GamRc) (value : Word) (s t : Machine δ) : Prop where
  | register (hreg : g.isAddr = false) (hvalue : t.cpu.getRegister g.reg = value)
  | memory {u : Machine δ} {c : Cpu} (haddr : g.isAddr = true)
      (hwrite : Bus.write g.addr g.wordMode value s.cpu.getPSWRunmode g.space s =
        .ok false u)
      (hcodes : u.cpu.FlagsOnly c) (ht : t = u.withCpu c)

/-- CMP of two operands leaves their codes. -/
theorem opCmp_codes
    {srcMode srcReg dstMode dstReg : RegNr} {wordMode : WordMode}
    {gSrc gDst : GamRc} {s₀ s u : Machine δ}
    (hsrc : getGAM srcMode srcReg wordMode true s₀ = .ok gSrc s)
    (hdst : getGAM dstMode dstReg wordMode true s = .ok gDst u) :
    ∃ t, opCmp srcMode srcReg dstMode dstReg wordMode s₀ = .ok true t ∧
      t.cpu.conditionCodes = cmpCodes wordMode gSrc.value gDst.value := by
  have hflags : SetsCodes (fun _ => cmpCodes wordMode gSrc.value gDst.value) (do
      setNZ ((gSrc.value - gDst.value) &&& wordModeMask wordMode) wordMode
      setPSWv (sign ((gSrc.value ^^^ gDst.value) &&&
        (~~~gDst.value ^^^
          ((gSrc.value - gDst.value) &&& wordModeMask wordMode))) wordMode)
      setPSWc (decide (gSrc.value < gDst.value)) : Exec δ Unit) :=
    (SetsCodes.setNZ _ _).bind ((SetsCodes.setPSWv _).bind (.setPSWc _))
  obtain ⟨c, hrun, -, hcodes⟩ := hflags u
  refine ⟨u.withCpu c, ?_, hcodes⟩
  have hthen := bind_of_ok (k := fun _ => (pure true : Exec δ Bool)) hrun
  simp only [bind_assoc] at hthen
  unfold opCmp
  rw [bind_of_ok hsrc, bind_of_ok hdst]
  exact hthen

namespace Arithmetic

variable (i : Arithmetic) {wordMode : WordMode} {src v : Word}

omit [UnibusDevices δ] in
/-- The flags, whatever the codes were. -/
theorem flags_sets
    (hword : i.instruction.WordOnly → wordMode = .wmWord) (src v : Word)
    (old : ConditionCodes) :
    ∃ f, SetsCodes f (i.instruction.flags wordMode src v
        (i.instruction.result wordMode src v old) old : Exec δ Unit) ∧
      ∀ k, (f k).v = (i.instruction.codes wordMode src v old).v ∧
        (i.SetsCarry → f k = i.instruction.codes wordMode src v old) := by
  cases i with
  | add | sub =>
      cases hword trivial
      exact ⟨_, (SetsCodes.setPSWv _).bind
        ((SetsCodes.setPSWc _).bind (.setNZ _ _)), fun _ => ⟨rfl, fun _ => rfl⟩⟩
  | inc | dec =>
      exact ⟨_, (SetsCodes.setNZ _ _).bind (.setPSWv _),
        fun _ => ⟨rfl, fun h => h.elim⟩⟩
  | neg | adc | sbc =>
      exact ⟨_, (SetsCodes.setNZ _ _).bind
        ((SetsCodes.setPSWv _).bind (.setPSWc _)),
        fun _ => ⟨rfl, fun _ => rfl⟩⟩

omit [UnibusDevices δ] in
theorem early_eq
    (v : Word) :
    (i.instruction.early v : Exec δ Unit) = pure () := by
  cases i <;> rfl

/-- What is done with the operand when it is not the status word. -/
theorem writeBack_returns
    (hword : i.instruction.WordOnly → wordMode = .wmWord)
    {result : DestinationRef} {u t : Machine δ} {b : Bool}
    (h : i.instruction.writeBack src wordMode result v u = .ok b t)
    (hpsw : ¬ (u.target result.runMode result.addr result.space).IsPSW
      wordMode) :
    ∃ w c, result.write wordMode
        (i.instruction.result wordMode src v u.cpu.conditionCodes) u =
          .ok false w ∧
      w.cpu.FlagsOnly c ∧ t = w.withCpu c ∧
      c.conditionCodes.v =
        (i.instruction.codes wordMode src v u.cpu.conditionCodes).v ∧
      (i.SetsCarry → c.conditionCodes =
        i.instruction.codes wordMode src v u.cpu.conditionCodes) := by
  unfold Modification.writeBack at h
  rw [cpuView_bind_apply, i.early_eq] at h
  obtain ⟨isPsw, w, hwrite, h⟩ := bind_eq_ok
    (show (result.write wordMode _ >>= _) u = .ok b t from h)
  cases isPsw with
  | true =>
      exact absurd (Bus.write_reports hwrite) hpsw
  | false =>
      obtain ⟨f, hf, hcodes⟩ := i.flags_sets (δ := δ) hword src v
        u.cpu.conditionCodes
      obtain ⟨c, hrun, honly, hc⟩ := hf w
      have ht : t = w.withCpu c := by
        have hok := h.symm.trans (bind_of_ok hrun)
        cases hok
        rfl
      refine ⟨w, c, hwrite, honly, ht, ?_, fun hcarry => ?_⟩
      · rw [hc]
        exact (hcodes _).1
      · rw [hc]
        exact (hcodes _).2 hcarry

/-- What the instruction does with its operand, in a register or elsewhere. -/
theorem execute_returns
    {srcMode srcReg dstMode dstReg : RegNr} {g : GamRc} {s₀ s u t : Machine δ}
    {b : Bool}
    (hword : i.instruction.WordOnly → wordMode = .wmWord)
    (hsrc : i.instruction.source srcMode srcReg wordMode s₀ = .ok src s)
    (hdst : getGAM dstMode dstReg wordMode true s = .ok g u)
    (hpsw : ¬ g.IsPSW u)
    (h : i.instruction.execute srcMode srcReg dstMode dstReg wordMode s₀ =
      .ok b t) :
    t.cpu.conditionCodes.v =
        (i.instruction.codes wordMode src g.value s.cpu.conditionCodes).v ∧
      (i.SetsCarry → t.cpu.conditionCodes =
        i.instruction.codes wordMode src g.value s.cpu.conditionCodes) ∧
      (wordMode = .wmWord →
        Stored g (i.instruction.result wordMode src g.value
          s.cpu.conditionCodes) u t) := by
  by_cases hmode : dstMode = 0
  · subst hmode
    cases hdst
    obtain ⟨t', ht', hleaves⟩ :=
      (OperandInstruction.modify i.instruction).execute_register srcMode srcReg
        dstReg hword hsrc
    cases h.symm.trans ht'
    refine ⟨congrArg _ hleaves.codes, fun _ => hleaves.codes, fun hw => ?_⟩
    subst hw
    exact .register rfl hleaves.low.eq_word
  · rw [getGAM_memory dstReg wordMode hmode] at hdst
    obtain ⟨⟨operand, result⟩, s₁, hdest, hdst⟩ := bind_eq_ok hdst
    obtain ⟨value, u₁, hread, hdst⟩ := bind_eq_ok hdst
    obtain ⟨_, u₂, hassert, hreturn⟩ := bind_eq_ok hdst
    rw [i.instruction.execute_eq_readModifyWrite wordMode srcMode srcReg dstReg
      hword hmode, bind_of_ok hsrc] at h
    unfold Modification.readModifyWrite at h
    rw [bind_of_ok hdest] at h
    dsimp only at h hread
    rw [bind_of_ok hread] at h
    cases hfits : fits value wordMode with
    | true =>
        rw [hfits] at h
        have hu : u₂ = u₁ := by
          rw [show (decide (value < 256) || decide (wordMode = .wmWord)) = true
            from hfits] at hassert
          cases hassert
          rfl
        subst hu
        cases hreturn
        obtain ⟨hfetch, addr, -, rfl⟩ := destination_returns hdest
        have hfetched := hfetch.trans (.of_reads (Bus.read_returns hread))
        have hrun : u.cpu.getPSWRunmode = s.cpu.getPSWRunmode :=
          hfetched.getPSWRunmode_eq
        obtain ⟨w, c, hwrite, honly, rfl, hv, hc⟩ := i.writeBack_returns hword
          h fun hp => hpsw ⟨rfl, by rw [hrun]; exact hp⟩
        rw [hfetched.conditionCodes_eq] at hwrite hv hc
        refine ⟨hv, hc, fun _ => .memory rfl ?_ honly rfl⟩
        rw [hrun]
        exact hwrite
    | false =>
        rw [hfits] at h
        cases h

end Arithmetic

end Runs

section Meaning

/-- The state after a branch that is taken. -/
def Machine.branched (t : Machine δ) (instr : Word) : Machine δ :=
  t.withCpu (t.cpu.addRegister 7 (((instr.setWidth 8).signExtend 16) * 2))

/-- Each branch instruction that runs with these codes is taken when its
relation holds between the operands, and only then. -/
def BranchesFollow (δ : Type) (wordMode : WordMode) (a b : Word)
    (codes : ConditionCodes) : Prop :=
  ∀ (t : Machine δ) (br : Branch) (instr : Word),
    t.cpu.conditionCodes = codes →
    (instr >>> 8).setWidth 8 = br.opcode →
    (br.Related wordMode a b →
      conditionalBranchInstructions instr t = .ok true (t.branched instr)) ∧
    (¬ br.Related wordMode a b →
      conditionalBranchInstructions instr t = .ok true t)

theorem branchesFollow_cmpCodes
    {wordMode : WordMode} {a b : Word} (ha : a.toNat < 2 * half wordMode)
    (hb : b.toNat < 2 * half wordMode) :
    BranchesFollow δ wordMode a b (cmpCodes wordMode a b) := by
  intro t br instr hcodes hop
  have htaken := br.taken_iff ha hb
  unfold conditionalBranchInstructions
  rw [cpuView_bind_apply, br.evaluate_eq t.cpu hop, hcodes]
  constructor
  · intro hrelated
    rw [htaken.mpr hrelated]
    rfl
  · intro hrelated
    rw [Bool.eq_false_iff.mpr fun h => hrelated (htaken.mp h)]
    rfl

/-- SUB has the codes of a comparison of its destination with its source. -/
theorem sub_codes_eq
    (src v : Word) (old : ConditionCodes) :
    Modification.sub.codes .wmWord src v old = cmpCodes .wmWord v src := by
  unfold cmpCodes
  rw [mask_word]
  rfl

variable [UnibusDevices δ]

/-- getGAM returns a number of its width. -/
theorem getGAM_lt
    {mode reg : RegNr} {wordMode : WordMode} {g : GamRc} {s₀ s : Machine δ}
    (h : getGAM mode reg wordMode true s₀ = .ok g s) :
    g.value.toNat < 2 * half wordMode :=
  toNat_lt_of_high (getGAM_fits h)

theorem Arithmetic.source_lt
    (i : Arithmetic) {srcMode srcReg : RegNr} {wordMode : WordMode}
    {src : Word} {s₀ s : Machine δ}
    (h : i.instruction.source srcMode srcReg wordMode s₀ = .ok src s) :
    src.toNat < 2 * half wordMode := by
  cases i with
  | add | sub =>
      obtain ⟨g, hg, rfl⟩ := source_returns h
      exact getGAM_lt hg
  | _ =>
      cases h
      exact Nat.mul_pos Nat.two_pos (half_pos wordMode)

/-- Conditional branches after CMP are taken exactly when their relation holds
between its operands, at either width.  SUB leaves the difference in its
destination and the codes of the CMP with the operands exchanged.  After the
arithmetic instructions V says that the exact signed result does not fit, and
C, where it is set, that the exact unsigned one does not.  All this holds for
destinations other than the status word. -/
theorem flags_tell_relations_and_overflow :
    (∀ {srcMode srcReg dstMode dstReg : RegNr} {wordMode : WordMode}
      {gSrc gDst : GamRc} {s₀ s u : Machine δ},
      getGAM srcMode srcReg wordMode true s₀ = .ok gSrc s →
      getGAM dstMode dstReg wordMode true s = .ok gDst u →
      ∃ t, opCmp srcMode srcReg dstMode dstReg wordMode s₀ = .ok true t ∧
        BranchesFollow δ wordMode gSrc.value gDst.value
          t.cpu.conditionCodes) ∧
    (∀ {srcMode srcReg dstMode dstReg : RegNr} {gSrc gDst : GamRc}
      {s₀ s u t : Machine δ} {b : Bool},
      getGAM srcMode srcReg .wmWord true s₀ = .ok gSrc s →
      getGAM dstMode dstReg .wmWord true s = .ok gDst u →
      ¬ gDst.IsPSW u →
      opAddSub srcMode srcReg dstMode dstReg true s₀ = .ok b t →
      Stored gDst (gDst.value - gSrc.value) u t ∧
        ∀ {mode reg mode' reg' : RegNr} {g g' : GamRc} {s₀' s' u' : Machine δ},
          getGAM mode reg .wmWord true s₀' = .ok g s' →
          getGAM mode' reg' .wmWord true s' = .ok g' u' →
          g.value = gDst.value → g'.value = gSrc.value →
          ∃ t', opCmp mode reg mode' reg' .wmWord s₀' = .ok true t' ∧
            t.cpu.conditionCodes = t'.cpu.conditionCodes) ∧
    (∀ (i : Arithmetic) {srcMode srcReg dstMode dstReg : RegNr}
      {wordMode : WordMode} {src : Word} {g : GamRc} {s₀ s u t : Machine δ}
      {b : Bool},
      (i.instruction.WordOnly → wordMode = .wmWord) →
      i.instruction.source srcMode srcReg wordMode s₀ = .ok src s →
      getGAM dstMode dstReg wordMode true s = .ok g u →
      ¬ g.IsPSW u →
      i.instruction.execute srcMode srcReg dstMode dstReg wordMode s₀ =
        .ok b t →
      (t.cpu.getPSWv = true ↔
        ¬ FitsSigned (half wordMode)
          (i.exact (signedAt wordMode g.value) (signedAt wordMode src)
            s₀.cpu.getPSWc)) ∧
      (i.SetsCarry →
        (t.cpu.getPSWc = true ↔
          ¬ FitsUnsigned (half wordMode)
            (i.exact g.value.toNat src.toNat s₀.cpu.getPSWc)))) := by
  refine ⟨fun hsrc hdst => ?_, fun hsrc hdst hpsw h => ?_, ?_⟩
  · obtain ⟨t, ht, hcodes⟩ := opCmp_codes hsrc hdst
    refine ⟨t, ht, ?_⟩
    rw [hcodes]
    exact branchesFollow_cmpCodes (getGAM_lt hsrc) (getGAM_lt hdst)
  · obtain ⟨-, hcodes, hstored⟩ := Arithmetic.sub.execute_returns (fun _ => rfl)
      (bind_of_ok hsrc) hdst hpsw h
    refine ⟨hstored rfl, fun hg hg' hv hv' => ?_⟩
    obtain ⟨t', ht', hcmp⟩ := opCmp_codes hg hg'
    refine ⟨t', ht', (hcodes trivial).trans ?_⟩
    rw [hcmp, hv, hv']
    exact sub_codes_eq _ _ _
  · intro i srcMode srcReg dstMode dstReg wordMode src g s₀ s u t b hword hsrc
      hdst hpsw h
    obtain ⟨hv, hc, -⟩ := i.execute_returns hword hsrc hdst hpsw h
    have hold := ((i.instruction.fetchesFrom_source _ _ _).ok (.refl _)
      hsrc).conditionCodes_eq
    rw [hold] at hv hc
    refine ⟨?_, fun hcarry => ?_⟩
    · have hflag : t.cpu.getPSWv = _ := hv
      rw [hflag]
      exact i.v_iff hword (getGAM_lt hdst) (i.source_lt hsrc) _
    · have hflag : t.cpu.getPSWc = _ :=
        congrArg ConditionCodes.c (hc hcarry)
      rw [hflag]
      exact i.c_iff hcarry hword (getGAM_lt hdst) (i.source_lt hsrc) _

/-- A machine with -32768 in R0 and 1 in R1. -/
def twoOperandMachine : Machine LineClock :=
  (bareMachine 0o20000 []).withPSW fun c =>
    (c.setRegister 0 0o100000).setRegister 1 1

/-- CMP R0,R1 and BLT; SUB R0,R1, which overflows. -/
theorem least_number_below_one :
    (∃ t, opCmp 0 0 0 1 .wmWord twoOperandMachine = .ok true t ∧
      conditionalBranchInstructions 0o2402 t =
        .ok true (t.branched 0o2402)) ∧
    (final (opAddSub 0 0 0 1 true twoOperandMachine)).cpu.getRegister 1 =
      0o100001 ∧
    (final (opAddSub 0 0 0 1 true twoOperandMachine)).cpu.getPSWv = true := by
  obtain ⟨hcmp, hsub, harith⟩ :=
    flags_tell_relations_and_overflow (δ := LineClock)
  have hr0 : getGAM 0 0 .wmWord true twoOperandMachine =
      .ok (registerOperand 0 .wmWord 0o100000) twoOperandMachine := rfl
  have hr1 : getGAM 0 1 .wmWord true twoOperandMachine =
      .ok (registerOperand 1 .wmWord 1) twoOperandMachine := rfl
  have hpsw : ¬ (registerOperand 1 .wmWord 1).IsPSW twoOperandMachine :=
    fun h => by cases h.1
  have hless : Branch.blt.Related .wmWord 0o100000 1 :=
    show signedAt .wmWord 0o100000 < signedAt .wmWord 1 by decide
  obtain ⟨t, ht, hbranch⟩ := hcmp hr0 hr1
  refine ⟨⟨t, ht, (hbranch t .blt 0o2402 rfl (by decide)).1 hless⟩, ?_, ?_⟩
  · obtain ⟨hstored, -⟩ := hsub hr0 hr1 hpsw rfl
    cases hstored with
    | register _ hvalue =>
        exact hvalue
    | memory haddr _ _ _ =>
        cases haddr
  · have hv := (harith .sub (fun _ => rfl) (bind_of_ok hr0) hr1 hpsw rfl).1
    exact hv.mpr (by decide)

/-- DEC of the status word, which is zero: -1 fits, but it is also written to
the condition codes. -/
theorem dec_of_status_word :
    ∃ g u t,
      getGAM 1 0 .wmWord true ((bareMachine 0o20000 []).withPSW fun c =>
        c.setRegister 0 addrPsw) = .ok g u ∧
      opDec 1 0 .wmWord ((bareMachine 0o20000 []).withPSW fun c =>
        c.setRegister 0 addrPsw) = .ok true t ∧
      g.value = 0 ∧ FitsSigned (half .wmWord) (signedAt .wmWord g.value - 1) ∧
      t.cpu.getPSWv = true := by
  refine ⟨_, _, _, rfl, rfl, ?_, ?_, ?_⟩
  · decide +kernel
  · decide +kernel
  · decide +kernel

end Meaning

end KekPdp11
