import KekPdp11.Lib.ArithmeticShift
import KekPdp11.OperandForms

/-!
# KEK PDP-11: ASH and ASHC

The shifter serves both instructions with a variable of 32 bits.  What counts
are the low bits of this variable, as many as the operand has: they go through
the arithmetic shift of the operand, whatever the bits above them are.

**Result.**  For each of the 64 counts the shifter is the arithmetic shift by
the count read as a signed number, with the condition codes that describe it.
The two instructions store this and change nothing else.
-/

namespace KekPdp11

open StateExcept ArithmeticShift

variable {δ : Type}

/-- The number of bits that are shifted. -/
def shiftWidth (is32b : Bool) : Nat :=
  if is32b then 32 else 16

section LowBits

variable {w : Nat} (hpos : 0 < w) (hle : w ≤ 32)

include hpos hle

/-- The mask of the source tells the sign of the low bits. -/
theorem signMask_iff
    (v : BitVec 32) :
    decide (v &&& BitVec.twoPow 32 (w - 1) ≠ 0) = (v.setWidth w).msb := by
  have hne : BitVec.twoPow 32 (w - 1) ≠ 0#32 := by
    intro h
    have hbit := congrArg (fun v => v.getLsbD (w - 1)) h
    simp only [BitVec.getLsbD_twoPow, BitVec.getLsbD_zero] at hbit
    simp at hbit
    omega
  rw [BitVec.and_twoPow, BitVec.msb_setWidth, decide_eq_true hpos,
    Bool.true_and]
  cases v.getLsbD (w - 1) with
  | true =>
      exact decide_eq_true hne
  | false =>
      rfl

omit hpos in
/-- The loop shifts to the left and looks at each sign on the way. -/
theorem shifterLoop_eq
    {signMask : BitVec 32} (sign : Bool)
    (hsign : ∀ v : BitVec 32,
      decide (v &&& signMask ≠ 0) = (v.setWidth w).msb)
    (k : Nat) (v : BitVec 32) (b : Bool) :
    (shifterLoop signMask sign k (v, b)).1 = v <<< k ∧
    ((shifterLoop signMask sign k (v, b)).2 = true ↔
      b = true ∨
        ∃ j, j < k ∧ (v.setWidth w <<< (j + 1)).msb ≠ sign) := by
  induction k generalizing v b with
  | zero =>
      refine ⟨(BitVec.shiftLeft_zero v).symm, ?_⟩
      simp [shifterLoop]
  | succ k ih =>
      obtain ⟨hvalue, hflag⟩ :=
        ih (v <<< 1) (b || decide (v <<< 1 &&& signMask ≠ 0) != sign)
      refine ⟨?_, ?_⟩
      · rw [shifterLoop, hvalue, ← BitVec.shiftLeft_add, Nat.add_comm]
      · rw [shifterLoop, hflag, hsign, Bool.or_eq_true, bne_iff_ne, or_assoc,
          Nat.exists_lt_succ_left, BitVec.setWidth_shiftLeft_of_le hle]
        simp only [← BitVec.shiftLeft_add, Nat.add_comm]

omit hpos hle in
/-- The sign extension of the source, whatever the upper bits were. -/
theorem or_signExtend
    {v : BitVec 32} (hsign : (v.setWidth w).msb = true) :
    v.setWidth 64 ||| ~~~(BitVec.allOnes w).setWidth 64 =
      (v.setWidth w).signExtend 64 := by
  ext i hi
  simp only [BitVec.getElem_or, BitVec.getElem_not, BitVec.getElem_setWidth,
    BitVec.getElem_signExtend, BitVec.getLsbD_allOnes, hsign]
  by_cases h : i < w <;> simp [h]

omit hpos in
theorem low_signExtend_ushiftRight
    (x : BitVec w) {k : Nat} (hk : k ≤ 32) :
    ((x.signExtend 64 >>> k).setWidth 32).setWidth w = x.sshiftRight k := by
  ext i hi
  have hsmall : i < 32 := by omega
  have hwide : k + i < 64 := by omega
  simp only [BitVec.getElem_setWidth, BitVec.getLsbD_setWidth,
    BitVec.getLsbD_ushiftRight, BitVec.getLsbD_signExtend,
    BitVec.getElem_sshiftRight, hsmall, hwide]
  by_cases h : k + i < w <;> simp [h]

omit hpos in
/-- A step of the source to the right when the sign is set. -/
theorem low_extended_ushiftRight
    {v : BitVec 32} (hsign : (v.setWidth w).msb = true) {k : Nat}
    (hk : k ≤ 32) :
    (((v.setWidth 64 ||| ~~~(BitVec.allOnes w).setWidth 64) >>> k).setWidth
      32).setWidth w = (v.setWidth w).sshiftRight k := by
  rw [or_signExtend hsign]
  exact low_signExtend_ushiftRight hle _ hk

omit hpos in
/-- A step when it is not. -/
theorem low_ushiftRight
    {x : BitVec w} (hsign : x.msb = false) (k : Nat) :
    (x.setWidth 32 >>> k).setWidth w = x.sshiftRight k := by
  rw [BitVec.sshiftRight_eq_of_msb_false hsign]
  ext i hi
  simp only [BitVec.getElem_setWidth, BitVec.getLsbD_ushiftRight,
    BitVec.getLsbD_setWidth, BitVec.getElem_ushiftRight]
  by_cases h : k + i < 32
  · simp [h]
  · have hout : ¬ k + i < w := by omega
    simp [h, BitVec.getLsbD_of_ge x (k + i) (by omega)]

omit hle in
/-- The low bit of the variable is that of the operand. -/
theorem lowBit_eq
    (v : BitVec 32) :
    decide (v &&& 1 ≠ 0) = (v.setWidth w).getLsbD 0 := by
  have hbit : v &&& 1 = if v.getLsbD 0 then 1 else 0 :=
    BitVec.and_twoPow v 0
  rw [BitVec.getLsbD_setWidth, decide_eq_true hpos, Bool.true_and, hbit]
  cases v.getLsbD 0 <;> decide

/-- The step by 32 leaves nothing but copies of the sign. -/
theorem low_sign_copies
    (x : BitVec w) :
    (if x.msb = true then 0xffffffff else 0 : BitVec 32).setWidth w =
      x.sshiftRight 32 := by
  ext i hi
  have hout : ¬ 32 + i < w := by omega
  have hin : i < 32 := by omega
  rw [BitVec.getElem_sshiftRight, dif_neg hout, BitVec.getElem_setWidth]
  cases x.msb with
  | true =>
      have hones : (0xffffffff : BitVec 32) = BitVec.allOnes 32 := rfl
      rw [if_pos rfl, hones, BitVec.getLsbD_allOnes, decide_eq_true hin]
  | false =>
      rw [if_neg (by decide)]
      exact BitVec.getLsbD_zero

theorem low_last_sign
    (x : BitVec w) :
    x.msb = (x.sshiftRight 31).getLsbD 0 := by
  rw [BitVec.getLsbD_sshiftRight]
  split
  · have hw : w = 32 := by omega
    subst hw
    rfl
  · simp [hpos.ne']

omit hpos hle in
/-- The low bits, with nothing above them. -/
theorem and_mask
    (v : BitVec 32) :
    v &&& (BitVec.allOnes w).setWidth 32 = (v.setWidth w).setWidth 32 := by
  ext i hi
  simp only [BitVec.getElem_and, BitVec.getElem_setWidth,
    BitVec.getLsbD_allOnes, BitVec.getLsbD_setWidth]
  by_cases h : i < w <;> simp [h, BitVec.getLsbD_eq_getElem hi]

end LowBits

section Shifter

/-- The count of an operand: its six low bits as a signed number. -/
def shiftCount (operand : Word) : Int :=
  (operand.setWidth 6).toInt

/-- The condition codes of a shift. -/
def shiftCodes {w : Nat} (x : BitVec w) (n : Int) : ConditionCodes where
  n := (shifted x n).msb
  z := decide (shifted x n = 0)
  v := decide (SignChanges x n)
  c := lastOut x n

/-- The middle of the shifter, which follows the range of the count, leaves
`y` in the low bits and gives V and C values. -/
def ShiftsTo {w : Nat} (y : BitVec w) (v c : Bool)
    (m : Exec δ (BitVec 32)) : Prop :=
  ∃ (value : BitVec 32) (flags : Exec δ Unit)
    (f : ConditionCodes → ConditionCodes),
    m = (do flags; pure value) ∧ SetsCodes f flags ∧
    value.setWidth w = y ∧ ∀ k, k.v = false → f k = { k with v := v, c := c }

/-- The program returns `a`, and does nothing else but give the condition codes
the values `codes`. -/
def ReturnsWithCodes {α : Type} (a : α) (codes : ConditionCodes)
    (m : Exec δ α) : Prop :=
  ∀ s, ∃ c, m s = .ok a (s.withCpu c) ∧ s.cpu.FlagsOnly c ∧
    c.conditionCodes = codes

/-- The beginning and the end of the shifter are the same for all counts. -/
theorem returnsWithCodes_of_shiftsTo
    {w : Nat} {y : BitVec w} {v c : Bool} {middle : Exec δ (BitVec 32)}
    {signMask mask : BitVec 32} (hle : w ≤ 32)
    (hsign : ∀ v : BitVec 32,
      decide (v &&& signMask ≠ 0) = (v.setWidth w).msb)
    (hmask : ∀ v : BitVec 32, v &&& mask = (v.setWidth w).setWidth 32)
    (h : ShiftsTo y v c middle) :
    ReturnsWithCodes (y.setWidth 32) ⟨y.msb, decide (y = 0), v, c⟩ (do
      setPSWv false
      let value ← middle
      let value := value &&& mask
      setPSWn (decide (value &&& signMask ≠ 0))
      setPSWz (decide (value = 0))
      pure value : Exec δ (BitVec 32)) := by
  obtain ⟨value, flags, f, rfl, hflags, hy, hf⟩ := h
  intro s
  have hvalue : value &&& mask = y.setWidth 32 := by
    rw [hmask, hy]
  have hlow : (y.setWidth 32).setWidth w = y := by
    rw [BitVec.setWidth_setWidth_of_le _ hle, BitVec.setWidth_eq]
  have hn : decide (y.setWidth 32 &&& signMask ≠ 0) = y.msb := by
    rw [hsign, hlow]
  have hz : decide (y.setWidth 32 = 0) = decide (y = 0) := by
    refine decide_eq_decide.mpr ⟨fun h => ?_, fun h => ?_⟩
    · rw [← hlow, h]
      exact BitVec.setWidth_zero w 32
    · rw [h]
      exact BitVec.setWidth_zero 32 w
  obtain ⟨c', hrun, honly, hcodes⟩ :=
    ((SetsCodes.setPSWv (δ := δ) false).bind (hflags.bind
      ((SetsCodes.setPSWn y.msb).bind (.setPSWz (decide (y = 0)))))) s
  refine ⟨c', ?_, honly, ?_⟩
  · have hthen := bind_of_ok (k := fun _ =>
      (pure (y.setWidth 32) : Exec δ (BitVec 32))) hrun
    simp only [bind_assoc] at hthen
    simp only [bind_assoc, pure_bind, hvalue, hn, hz]
    exact hthen
  · rw [hcodes]
    dsimp only
    rw [hf _ rfl]

section Ranges

variable {w : Nat} {signMask : BitVec 32}
variable (hsign : ∀ v : BitVec 32,
  decide (v &&& signMask ≠ 0) = (v.setWidth w).msb)
variable (x : BitVec w)

/-- A count of zero. -/
theorem shiftsTo_zero
    (hle : w ≤ 32) (x : BitVec w) :
    ShiftsTo (shifted x 0) (decide (SignChanges x 0)) (lastOut x 0)
      (do setPSWc false; pure (x.setWidth 32) : Exec δ (BitVec 32)) := by
  have hshift : shifted x 0 = x := by
    rw [show shifted x 0 = _ from shifted_natCast x 0, BitVec.shiftLeft_zero]
  have hchange : decide (SignChanges x 0) = false :=
    decide_eq_false (not_signChanges_neg_natCast x 0)
  refine ⟨x.setWidth 32, _, _, rfl, SetsCodes.setPSWc false, ?_, fun k hk => ?_⟩
  · rw [BitVec.setWidth_setWidth_of_le _ hle, BitVec.setWidth_eq, hshift]
  · rw [hchange, show lastOut x 0 = false from rfl]
    rw [← hk]

include hsign

/-- The counts from 1 to 31. -/
theorem shiftsTo_left
    (hle : w ≤ 32) (k : Nat) :
    ShiftsTo (shifted x (k + 1 : Nat)) (decide (SignChanges x (k + 1 : Nat)))
      (lastOut x (k + 1 : Nat)) (do
        setPSWc (decide ((x.setWidth 32 <<< k) &&& signMask ≠ 0))
        let r := shifterLoop signMask x.msb (k + 1) (x.setWidth 32, false)
        onlyIf r.2 (setPSWv true)
        pure r.1 : Exec δ (BitVec 32)) := by
  have hx : (x.setWidth 32).setWidth w = x := by
    rw [BitVec.setWidth_setWidth_of_le _ hle, BitVec.setWidth_eq]
  obtain ⟨hvalue, hflag⟩ := shifterLoop_eq hle x.msb hsign (k + 1)
    (x.setWidth 32) false
  have hchange : (shifterLoop signMask x.msb (k + 1) (x.setWidth 32, false)).2 =
      decide (SignChanges x (k + 1 : Nat)) := by
    rw [Bool.eq_iff_iff, hflag, decide_eq_true_iff, signChanges_natCast_iff, hx]
    constructor
    · rintro (h | ⟨j, hj, h⟩)
      · cases h
      · exact ⟨j + 1, hj, h⟩
    · rintro ⟨j, hj, h⟩
      cases j with
      | zero =>
          exact absurd (by rw [BitVec.shiftLeft_zero]) h
      | succ j =>
          exact .inr ⟨j, hj, h⟩
  have hlast : decide ((x.setWidth 32 <<< k) &&& signMask ≠ 0) =
      lastOut x (k + 1 : Nat) := by
    rw [hsign, BitVec.setWidth_shiftLeft_of_le hle, hx, lastOut_natCast_succ]
  dsimp only
  rw [hchange, hlast, hvalue]
  have hset : SetsCodes
      (fun k' => { k' with
        v := decide (SignChanges x (k + 1 : Nat)) || k'.v })
      (onlyIf (decide (SignChanges x (k + 1 : Nat))) (setPSWv true) :
        Exec δ Unit) := by
    cases decide (SignChanges x (k + 1 : Nat)) with
    | true =>
        exact SetsCodes.setPSWv true
    | false =>
        exact SetsCodes.nothing
  refine ⟨x.setWidth 32 <<< (k + 1), _, _, ?_,
    (SetsCodes.setPSWc (lastOut x (k + 1 : Nat))).bind hset, ?_, fun k' hk => ?_⟩
  · simp only [bind_assoc]
  · rw [BitVec.setWidth_shiftLeft_of_le hle, hx, shifted_natCast]
  · dsimp only
    rw [hk, Bool.or_false]

/-- The negative counts, -32 among them. -/
theorem shiftsTo_right
    {k : Nat} {value : BitVec 32} {carry : Bool}
    (hvalue : value.setWidth w = x.sshiftRight (k + 1))
    (hcarry : carry = (x.sshiftRight k).getLsbD 0) :
    ShiftsTo (shifted x (-(k + 1 : Nat)))
      (decide (SignChanges x (-(k + 1 : Nat)))) (lastOut x (-(k + 1 : Nat)))
      (do
        setPSWc carry
        setPSWv (x.msb != decide (value &&& signMask ≠ 0))
        pure value : Exec δ (BitVec 32)) := by
  have hkept : (x.msb != decide (value &&& signMask ≠ 0)) =
      decide (SignChanges x (-(k + 1 : Nat))) := by
    rw [hsign, hvalue, BitVec.msb_sshiftRight, bne_self_eq_false,
      decide_eq_false (not_signChanges_neg_natCast x (k + 1))]
  rw [hkept, hcarry, ← lastOut_neg_natCast_succ]
  refine ⟨value, _, _, ?_,
    (SetsCodes.setPSWc (lastOut x (-(k + 1 : Nat)))).bind (.setPSWv _), ?_,
    fun k' _ => rfl⟩
  · simp only [bind_assoc]
  · rw [hvalue, shifted_neg_natCast]

end Ranges

section Constants

variable (is32b : Bool)

theorem shiftWidth_pos :
    0 < shiftWidth is32b := by
  cases is32b <;> decide

theorem shiftWidth_le :
    shiftWidth is32b ≤ 32 := by
  cases is32b <;> decide

theorem signExtend_eq :
    (if is32b = true then 0xffffffff00000000 else 0xffffffffffff0000 :
      BitVec 64) = ~~~(BitVec.allOnes (shiftWidth is32b)).setWidth 64 := by
  cases is32b <;> decide

theorem signMask_eq :
    (if is32b = true then 0x80000000 else 0x8000 : BitVec 32) =
      BitVec.twoPow 32 (shiftWidth is32b - 1) := by
  cases is32b <;> decide

theorem mask_eq :
    (if is32b = true then 0xffffffff else 0xffff : BitVec 32) =
      (BitVec.allOnes (shiftWidth is32b)).setWidth 32 := by
  cases is32b <;> decide

end Constants

/-- The count of the shifter, as a number from -32 to 31. -/
theorem shiftCount_eq
    (operand : Word) :
    (operand &&& 0o77).toNat < 64 ∧
      shiftCount operand =
        if (operand &&& 0o77).toNat < 32 then ((operand &&& 0o77).toNat : Int)
        else (operand &&& 0o77).toNat - 64 := by
  have hmask : (operand &&& 0o77).toNat = operand.toNat % 64 := by
    rw [BitVec.toNat_and]
    exact Nat.and_two_pow_sub_one_eq_mod operand.toNat 6
  have hlow : (operand.setWidth 6).toNat = operand.toNat % 64 :=
    BitVec.toNat_setWidth 6 operand
  unfold shiftCount
  rw [BitVec.toInt_eq_toNat_cond, hlow, hmask]
  refine ⟨Nat.mod_lt _ (by decide), ?_⟩
  split_ifs <;> omega

/-- The shifter is the arithmetic shift, with the codes that describe it. -/
theorem shifter_returns
    (is32b : Bool) (x : BitVec (shiftWidth is32b)) (operand : Word) :
    ReturnsWithCodes ((shifted x (shiftCount operand)).setWidth 32)
      (shiftCodes x (shiftCount operand))
      (shifter (x.setWidth 32) (operand &&& 0o77).toNat is32b :
        Exec δ (BitVec 32)) := by
  have hpos := shiftWidth_pos is32b
  have hle := shiftWidth_le is32b
  have hsign := signMask_iff hpos hle
  have hx : (x.setWidth 32).setWidth (shiftWidth is32b) = x := by
    rw [BitVec.setWidth_setWidth_of_le _ hle, BitVec.setWidth_eq]
  obtain ⟨hbound, hcount⟩ := shiftCount_eq operand
  generalize (operand &&& 0o77).toNat = shift at hbound hcount ⊢
  unfold shifter
  dsimp only
  rw [signExtend_eq, signMask_eq, mask_eq, hsign (x.setWidth 32), hx]
  refine returnsWithCodes_of_shiftsTo hle hsign and_mask ?_
  by_cases hzero : shift = 0
  · subst hzero
    rw [if_pos rfl, hcount]
    exact shiftsTo_zero hle x
  rw [if_neg hzero]
  by_cases hleft : shift < 32
  · obtain ⟨k, rfl⟩ := Nat.exists_eq_succ_of_ne_zero hzero
    rw [if_pos hleft] at hcount
    rw [if_pos hleft, hcount]
    exact shiftsTo_left hsign x hle k
  rw [if_neg hleft]
  rw [if_neg hleft] at hcount
  by_cases hall : shift = 32
  · subst hall
    rw [if_pos rfl, hcount]
    exact shiftsTo_right (k := 31) hsign x (low_sign_copies hpos hle x)
      (low_last_sign hpos hle x)
  rw [if_neg hall]
  obtain ⟨k, hk, rfl⟩ : ∃ k, k ≤ 30 ∧ shift = 63 - k :=
    ⟨63 - shift, by omega, by omega⟩
  have hn : shiftCount operand = -(k + 1 : Nat) := by omega
  have hshift : 64 - (63 - k) - 1 = k := by omega
  rw [hn, hshift, lowBit_eq hpos]
  cases hmsb : x.msb with
  | true =>
      rw [if_pos rfl, if_pos rfl, ← hmsb]
      have hxmsb : ((x.setWidth 32).setWidth (shiftWidth is32b)).msb = true := by
        rw [hx, hmsb]
      have hfirst := low_extended_ushiftRight hle hxmsb
        (show k ≤ 32 by omega)
      have hfirstMsb := BitVec.msb_sshiftRight (n := k) (x := x)
      rw [hx] at hfirst
      rw [hmsb, ← hfirst] at hfirstMsb
      refine shiftsTo_right hsign x ?_ (congrArg (fun y => y.getLsbD 0) hfirst)
      rw [low_extended_ushiftRight hle hfirstMsb (by omega), hfirst,
        BitVec.sshiftRight_add]
  | false =>
      rw [if_neg (by decide), if_neg (by decide), ← hmsb]
      have hsteps := low_ushiftRight hle hmsb
      refine shiftsTo_right hsign x ?_
        (congrArg (fun y => y.getLsbD 0) (hsteps k))
      rw [← BitVec.shiftRight_add, hsteps]

end Shifter

section Results

/-- The registers of a list are given values, one after the other. -/
def Cpu.setRegisters (c : Cpu) (writes : List (RegNr × Word)) : Cpu :=
  writes.foldl (fun c write => c.setRegister write.1 write.2) c

/-- A register and its odd neighbour, as one number. -/
def Cpu.registerPair (c : Cpu) (reg : RegNr) : BitVec 32 :=
  c.getRegister reg ++ c.getRegister (reg ||| 1)

theorem even_ne_or_one
    {reg : RegNr} (heven : reg &&& 1 = 0) :
    reg ≠ reg ||| 1 :=
  (by decide : ∀ reg : RegNr, reg &&& 1 = 0 → reg ≠ reg ||| 1) reg heven

/-- The two writes that store a number in a pair. -/
def pairWrites (reg : RegNr) (y : BitVec 32) : List (RegNr × Word) :=
  [(reg, (y >>> 16).setWidth 16), (reg ||| 1, y.setWidth 16)]

/-- From `u` to `t` some registers and the condition codes get values, and
nothing else changes. -/
structure Machine.StoresTo (u : Machine δ) (writes : List (RegNr × Word))
    (codes : ConditionCodes) (t : Machine δ) : Prop where
  state : ∃ c, (u.cpu.setRegisters writes).FlagsOnly c ∧ t = u.withCpu c
  codes : t.cpu.conditionCodes = codes

namespace Machine.StoresTo

variable {u t : Machine δ} {codes : ConditionCodes}

/-- One register has the new value, the others keep theirs. -/
theorem getRegister_one
    {reg : RegNr} {value : Word} (h : u.StoresTo [(reg, value)] codes t)
    (nr : RegNr) :
    t.cpu.getRegister nr =
      if nr = reg then value else u.cpu.getRegister nr := by
  obtain ⟨c, hflags, rfl⟩ := h.state
  refine (hflags.getRegister_eq nr).trans ?_
  change (u.cpu.setRegister reg value).getRegister nr = _
  split
  · next heq =>
      rw [heq]
      exact u.cpu.getRegister_setRegister reg value
  · next hne =>
      exact u.cpu.getRegister_setRegister_of_ne value hne

/-- With an odd register the second word overwrites the first. -/
theorem getRegister_two
    {reg : RegNr} {high low : Word}
    (h : u.StoresTo [(reg, high), (reg ||| 1, low)] codes t) (nr : RegNr) :
    t.cpu.getRegister nr =
      if nr = reg ||| 1 then low
      else if nr = reg then high
      else u.cpu.getRegister nr := by
  obtain ⟨c, hflags, rfl⟩ := h.state
  refine (hflags.getRegister_eq nr).trans ?_
  change ((u.cpu.setRegister reg high).setRegister (reg ||| 1)
    low).getRegister nr = _
  split_ifs with hlow hhigh
  · rw [hlow]
    exact Cpu.getRegister_setRegister _ _ _
  · rw [Cpu.getRegister_setRegister_of_ne _ _ hlow, hhigh]
    exact u.cpu.getRegister_setRegister reg _
  · rw [Cpu.getRegister_setRegister_of_ne _ _ hlow]
    exact u.cpu.getRegister_setRegister_of_ne _ hhigh

theorem registerPair_eq
    {reg : RegNr} {y : BitVec 32}
    (h : u.StoresTo (pairWrites reg y) codes t) (heven : reg &&& 1 = 0) :
    t.cpu.registerPair reg = y := by
  have hjoin : (y >>> 16).setWidth 16 ++ y.setWidth 16 = y := by
    ext i hi
    rw [BitVec.getElem_append]
    split
    · rw [BitVec.getElem_setWidth, BitVec.getLsbD_eq_getElem]
    · next hhigh =>
        have hsum : 16 + (i - 16) = i := by omega
        rw [BitVec.getElem_setWidth, BitVec.getLsbD_ushiftRight, hsum,
          BitVec.getLsbD_eq_getElem]
  unfold Cpu.registerPair
  rw [getRegister_two h, getRegister_two h, if_neg (even_ne_or_one heven),
    if_pos rfl, if_pos rfl]
  exact hjoin

end Machine.StoresTo

end Results

section Instructions

variable [UnibusDevices δ]

/-- ASH. -/
theorem opAsh_returns
    (reg : RegNr) {dstMode dstReg : RegNr} {g : GamRc} {s u : Machine δ}
    (hdst : getGAM dstMode dstReg .wmWord true s = .ok g u) :
    ∃ t, opAsh reg dstMode dstReg s = .ok true t ∧
      u.StoresTo
        [(reg, shifted (s.cpu.getRegister reg) (shiftCount g.value))]
        (shiftCodes (s.cpu.getRegister reg) (shiftCount g.value)) t := by
  obtain ⟨c, hrun, honly, hcodes⟩ :=
    shifter_returns (δ := δ) false (s.cpu.getRegister reg) g.value u
  refine ⟨u.withCpu (c.setRegister reg
      (shifted (s.cpu.getRegister reg) (shiftCount g.value))), ?_,
    ⟨_, honly.setRegister _ _, rfl⟩, ?_⟩
  · change (getGAM dstMode dstReg .wmWord true >>= fun gDst => _) s = _
    rw [bind_of_ok hdst]
    refine (bind_of_ok hrun).trans ?_
    change EStateM.Result.ok true (u.withCpu (c.setRegister reg
      (((shifted (s.cpu.getRegister reg) (shiftCount g.value)).setWidth
        32).setWidth 16))) = _
    rw [BitVec.setWidth_setWidth_of_le _ (by decide), BitVec.setWidth_eq]
  · exact (Cpu.setRegister_conditionCodes c reg _).trans hcodes

/-- ASHC. -/
theorem opAshc_returns
    (reg : RegNr) {dstMode dstReg : RegNr} {g : GamRc} {s u : Machine δ}
    (hdst : getGAM dstMode dstReg .wmWord true s = .ok g u) :
    ∃ t, opAshc reg dstMode dstReg s = .ok true t ∧
      u.StoresTo
        (pairWrites reg (shifted (s.cpu.registerPair reg) (shiftCount g.value)))
        (shiftCodes (s.cpu.registerPair reg) (shiftCount g.value)) t := by
  obtain ⟨c, hshift, honly, hcodes⟩ :=
    shifter_returns (δ := δ) true (s.cpu.registerPair reg) g.value u
  have hrun : shifter (s.cpu.registerPair reg) (g.value &&& 0o77).toNat true u =
      .ok (shifted (s.cpu.registerPair reg) (shiftCount g.value))
        (u.withCpu c) := by
    calc
      shifter (s.cpu.registerPair reg) (g.value &&& 0o77).toNat true u =
          shifter ((s.cpu.registerPair reg).setWidth 32)
            (g.value &&& 0o77).toNat true u := by
        rw [BitVec.setWidth_eq]
      _ = .ok ((shifted (s.cpu.registerPair reg)
            (shiftCount g.value)).setWidth 32) (u.withCpu c) := hshift
      _ = _ := by
        rw [BitVec.setWidth_eq]
  refine ⟨_, ?_, ⟨_, (honly.setRegister reg _).setRegister (reg ||| 1) _, rfl⟩,
    ?_⟩
  · change (getGAM dstMode dstReg .wmWord true >>= fun gDst => do
      let newValue ← shifter (s.cpu.registerPair reg)
        (gDst.value &&& 0o77).toNat true
      setRegister reg ((newValue >>> 16).setWidth 16)
      setRegister (reg ||| 1) (newValue.setWidth 16)
      pure true) s = _
    rw [bind_of_ok hdst, bind_of_ok hrun]
    rfl
  · refine (Cpu.setRegister_conditionCodes _ _ _).trans ?_
    exact (Cpu.setRegister_conditionCodes c reg _).trans hcodes

/-- ASH shifts its register, ASHC a pair of registers with an even number, by
the count in the operand.  The result is in these registers, the condition
codes describe it, and nothing else changes. -/
theorem ash_and_ashc_shift_arithmetically
    {dstMode dstReg : RegNr} {g : GamRc} {s u : Machine δ}
    (hdst : getGAM dstMode dstReg .wmWord true s = .ok g u) (reg : RegNr) :
    (∃ t, opAsh reg dstMode dstReg s = .ok true t ∧
      u.StoresTo
        [(reg, shifted (s.cpu.getRegister reg) (shiftCount g.value))]
        (shiftCodes (s.cpu.getRegister reg) (shiftCount g.value)) t ∧
      t.cpu.getRegister reg =
        shifted (s.cpu.getRegister reg) (shiftCount g.value) ∧
      ∀ nr, nr ≠ reg → t.cpu.getRegister nr = u.cpu.getRegister nr) ∧
    (reg &&& 1 = 0 →
      ∃ t, opAshc reg dstMode dstReg s = .ok true t ∧
        u.StoresTo
          (pairWrites reg
            (shifted (s.cpu.registerPair reg) (shiftCount g.value)))
          (shiftCodes (s.cpu.registerPair reg) (shiftCount g.value)) t ∧
        t.cpu.registerPair reg =
          shifted (s.cpu.registerPair reg) (shiftCount g.value) ∧
        ∀ nr, nr ≠ reg → nr ≠ reg ||| 1 →
          t.cpu.getRegister nr = u.cpu.getRegister nr) := by
  refine ⟨?_, fun heven => ?_⟩
  · obtain ⟨t, ht, hstores⟩ := opAsh_returns reg hdst
    refine ⟨t, ht, hstores, ?_, fun nr hne => ?_⟩
    · rw [hstores.getRegister_one, if_pos rfl]
    · rw [hstores.getRegister_one, if_neg hne]
  · obtain ⟨t, ht, hstores⟩ := opAshc_returns reg hdst
    refine ⟨t, ht, hstores, hstores.registerPair_eq heven,
      fun nr hhigh hlow => ?_⟩
    rw [Machine.StoresTo.getRegister_two hstores, if_neg hlow, if_neg hhigh]

/-- ASHC R0,R2 with -2^31 in R0 and R1 and a count of -32 in R2. -/
theorem ashc_by_all_bits :
    ∃ t, opAshc 0 0 2 ((bareMachine 0o20000 []).withPSW fun c =>
        (c.setRegister 0 0o100000).setRegister 2 0o40) = .ok true t ∧
      t.cpu.registerPair 0 = BitVec.allOnes 32 ∧ t.cpu.getPSWc = true ∧
      t.cpu.getPSWv = false := by
  obtain ⟨t, ht, hstores, hpair, -⟩ :=
    (ash_and_ashc_shift_arithmetically
      (show getGAM 0 2 .wmWord true ((bareMachine 0o20000 []).withPSW fun c =>
        (c.setRegister 0 0o100000).setRegister 2 0o40) = .ok _ _ from rfl)
      0).2 rfl
  refine ⟨t, ht, ?_, ?_, ?_⟩
  · rw [hpair]
    decide +kernel
  · rw [show t.cpu.getPSWc = _ from congrArg ConditionCodes.c hstores.codes]
    decide +kernel
  · rw [show t.cpu.getPSWv = _ from congrArg ConditionCodes.v hstores.codes]
    decide +kernel

end Instructions

end KekPdp11
