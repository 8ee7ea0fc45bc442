import KekPdp11.Lib.TwosComplement
import KekPdp11.Shifts

/-!
# KEK PDP-11: MUL and DIV

A product of two words fits in a pair of registers, and so MUL is exact.  DIV
looks at the divisor and at the one quotient that does not fit in 32 bits
before it divides, and at the range of the quotient before it stores.

**Result.**  MUL stores the exact product and tells whether one register
would have held it.  DIV stores quotient and remainder when the quotient fits
in a register, and otherwise no more than flags; DIV undoes MUL.
-/

namespace KekPdp11

open StateExcept TwosComplement

variable {δ : Type}

section Numbers

theorem word_toInt_fits
    (x : Word) :
    FitsSigned 32768 x.toInt := by
  have hlow := BitVec.le_toInt x
  have hhigh := BitVec.toInt_lt (x := x)
  unfold FitsSigned
  omega

theorem ofInt_word_toInt
    {z : Int} (h : FitsSigned 32768 z) :
    (BitVec.ofInt 16 z).toInt = z := by
  obtain ⟨hlow, hhigh⟩ := h
  exact BitVec.toInt_ofInt_eq_self (by decide) (by omega) (by omega)

/-- No product of two words is out of the range of an int. -/
theorem product_fits
    (x y : Word) :
    FitsSigned (2 ^ 31) (x.toInt * y.toInt) := by
  obtain ⟨hxlow, hxhigh⟩ := word_toInt_fits x
  obtain ⟨hylow, hyhigh⟩ := word_toInt_fits y
  have habs : |x.toInt * y.toInt| ≤ 32768 * 32768 := by
    rw [abs_mul]
    exact mul_le_mul (abs_le.mpr ⟨by omega, by omega⟩)
      (abs_le.mpr ⟨by omega, by omega⟩) (abs_nonneg _) (by decide)
  have h := abs_le.mp habs
  unfold FitsSigned
  omega

theorem ofInt_product_toInt
    (x y : Word) :
    (BitVec.ofInt 32 (x.toInt * y.toInt)).toInt = x.toInt * y.toInt := by
  obtain ⟨hlow, hhigh⟩ := product_fits x y
  exact BitVec.toInt_ofInt_eq_self (by decide) (by omega) (by omega)

theorem setWidth_ofInt_word
    (z : Int) :
    (BitVec.ofInt 32 z).setWidth 16 = BitVec.ofInt 16 z := by
  apply BitVec.eq_of_toNat_eq
  rw [BitVec.toNat_setWidth, BitVec.toNat_ofInt, BitVec.toNat_ofInt]
  omega

variable (dividend : BitVec 32) (divisor : Word)

/-- The guards that DIV makes before it divides. -/
def DivGuards : Prop :=
  divisor.toInt ≠ 0 ∧ ¬ (divisor.toInt = -1 ∧ dividend = 0x80000000)

variable {dividend divisor}

/-- Behind the guards a quotient is in the range of an int. -/
theorem quotient_fits
    (h : DivGuards dividend divisor) :
    FitsSigned (2 ^ 31) (dividend.toInt.tdiv divisor.toInt) := by
  obtain ⟨hzero, hmost⟩ := h
  have hlow := BitVec.le_toInt dividend
  have hhigh := BitVec.toInt_lt (x := dividend)
  have hsmaller := Int.natAbs_tdiv_le_natAbs dividend.toInt divisor.toInt
  unfold FitsSigned
  by_cases hleast : dividend.toInt = -2 ^ 31
  · have hbits : dividend = 0x80000000 :=
      BitVec.eq_of_toInt_eq (hleast.trans (by decide))
    have hminus : divisor.toInt ≠ -1 := fun h => hmost ⟨h, hbits⟩
    by_cases hone : divisor.toInt = 1
    · rw [hone, Int.tdiv_one, hleast]
      decide
    · have htwo : 2 ≤ divisor.toInt.natAbs := by omega
      have hhalf : dividend.toInt.natAbs / divisor.toInt.natAbs ≤
          dividend.toInt.natAbs / 2 :=
        Nat.div_le_div_left htwo (by decide)
      have habs := Int.natAbs_tdiv dividend.toInt divisor.toInt
      change _ = dividend.toInt.natAbs / divisor.toInt.natAbs at habs
      omega
  · omega

/-- The remainder fits in a register. -/
theorem remainder_fits
    (h : divisor.toInt ≠ 0) :
    FitsSigned 32768 (dividend.toInt.tmod divisor.toInt) := by
  obtain ⟨hlow, hhigh⟩ := word_toInt_fits divisor
  have habs := Int.natAbs_tmod dividend.toInt divisor.toInt
  have hlt := Nat.mod_lt dividend.toInt.natAbs (Int.natAbs_pos.mpr h)
  unfold FitsSigned
  omega

/-- The quotient that is too big for an int is too big for a register. -/
theorem guards_of_quotient_fits
    (hdivisor : divisor.toInt ≠ 0)
    (hquotient : FitsSigned 32768 (dividend.toInt.tdiv divisor.toInt)) :
    DivGuards dividend divisor := by
  refine ⟨hdivisor, fun ⟨hminus, hleast⟩ => ?_⟩
  rw [hminus, hleast] at hquotient
  exact absurd hquotient (by decide)

/-- A remainder is zero or has the sign of the dividend. -/
theorem remainder_sign
    (a b : Int) :
    a.tmod b = 0 ∨ (a.tmod b).sign = a.sign := by
  rw [Int.sign_tmod]
  split
  · next h =>
      exact .inl (Int.tmod_eq_zero_of_dvd h)
  · exact .inr rfl

end Numbers

section Registers

variable [UnibusDevices δ]

/-- A program that leaves a register as it was, if it returns. -/
abbrev KeepsRegister {α : Type} (nr : RegNr) (v : Word) (m : Exec δ α) : Prop :=
  Triple (fun u => u.cpu.getRegister nr = v) m
    (fun _ u => u.cpu.getRegister nr = v) (fun _ _ => True)

variable {nr reg : RegNr} {v : Word}

omit [UnibusDevices δ] in
theorem keepsRegister_pure
    {α : Type} (a : α) :
    KeepsRegister nr v (pure a : Exec δ α) :=
  .pure fun _ h => h

omit [UnibusDevices δ] in
theorem keepsRegister_addRegister
    (hne : nr ≠ reg) (value : Word) :
    KeepsRegister nr v (addRegister reg value : Exec δ Word) :=
  fun u h => (u.cpu.getRegister_setRegister_of_ne _ hne).trans h

omit [UnibusDevices δ] in
theorem keepsRegister_addToMMR1
    {delta : Int} (hdelta : -2 ≤ delta ∧ delta ≤ 2) :
    KeepsRegister nr v (addToMMR1 reg delta : Exec δ Unit) := by
  intro u h
  rw [addToMMR1_apply reg u hdelta]
  split <;> exact h

theorem keepsRegister_read
    (a : Word) (wordMode : WordMode) (runMode : RunMode) (spaceIn : Space) :
    KeepsRegister nr v (Bus.read a wordMode runMode spaceIn : Exec δ Word) := by
  intro u h
  cases hread : Bus.read a wordMode runMode spaceIn u with
  | ok value t =>
      obtain ⟨⟨queued, any, hcpu⟩, -, -⟩ := Bus.read_returns hread
      change t.cpu.getRegister nr = v
      rw [hcpu]
      exact h
  | error e t =>
      trivial

/-- An operand that neither names a register nor, through an index word, is
PC when the register is PC. -/
def OutsideOperand (nr mode reg : RegNr) : Prop :=
  nr ≠ reg ∧ ¬ (nr = 7 ∧ 6 ≤ mode)

instance (nr mode reg : RegNr) : Decidable (OutsideOperand nr mode reg) :=
  inferInstanceAs (Decidable (_ ∧ _))

theorem keepsRegister_gamAddress
    {mode : RegNr} (hmode : mode ≠ 0) (hout : OutsideOperand nr mode reg)
    (wordMode : WordMode) (runMode : RunMode) :
    KeepsRegister nr v
      (gamAddress mode reg wordMode runMode :
        Exec δ (Word × Space × Space)) := by
  obtain ⟨hne, hindex⟩ := hout
  unfold gamAddress
  dsimp only
  split
  · exact .view_bind_any fun addr => keepsRegister_pure _
  · refine .view_bind_any fun addr =>
      (keepsRegister_addRegister hne _).bind fun _ => ?_
    exact (keepsRegister_addToMMR1 (autoDelta_range _ _)).bind fun _ =>
      keepsRegister_pure _
  · refine .view_bind_any fun pointer =>
      (keepsRegister_read _ _ _ _).bind fun addr => ?_
    refine (keepsRegister_addToMMR1 (by omega)).bind fun _ => ?_
    exact (keepsRegister_addRegister hne _).bind fun _ => keepsRegister_pure _
  · refine (keepsRegister_addRegister hne _).bind fun addr => ?_
    exact (keepsRegister_addToMMR1 (neg_autoDelta_range _ _)).bind fun _ =>
      keepsRegister_pure _
  · refine (keepsRegister_addRegister hne _).bind fun pointer => ?_
    refine (keepsRegister_addToMMR1 (by omega)).bind fun _ => ?_
    exact (keepsRegister_read _ _ _ _).bind fun addr => keepsRegister_pure _
  · have hpc : nr ≠ 7 := fun h => hindex ⟨h, by decide⟩
    refine .view_bind_any fun pc =>
      (keepsRegister_read _ _ _ _).bind fun nextWord => ?_
    refine (keepsRegister_addRegister hpc _).bind fun _ =>
      .view_bind_any fun base => ?_
    exact keepsRegister_pure _
  · next h1 h2 h3 h4 h5 h6 =>
      have hall : ∀ m : RegNr, m = 0 ∨ m = 1 ∨ m = 2 ∨ m = 3 ∨ m = 4 ∨ m = 5 ∨
          6 ≤ m := by
        decide
      have hlast : 6 ≤ mode := by
        rcases hall mode with h | h | h | h | h | h | h
        · exact absurd h hmode
        · exact (h1 h).elim
        · exact (h2 h).elim
        · exact (h3 h).elim
        · exact (h4 h).elim
        · exact (h5 h).elim
        · exact h
      have hpc : nr ≠ 7 := fun h => hindex ⟨h, hlast⟩
      refine .view_bind_any fun pc =>
        (keepsRegister_read _ _ _ _).bind fun nextWord => ?_
      refine (keepsRegister_addRegister hpc _).bind fun _ =>
        .view_bind_any fun base => ?_
      exact (keepsRegister_read _ _ _ _).bind fun addr => keepsRegister_pure _

/-- getGAM leaves the registers that its operand does not use. -/
theorem getGAM_getRegister_eq
    {mode : RegNr} {wordMode : WordMode} {g : GamRc} {s u : Machine δ}
    (hout : OutsideOperand nr mode reg)
    (h : getGAM mode reg wordMode true s = .ok g u) :
    u.cpu.getRegister nr = s.cpu.getRegister nr := by
  by_cases hmode : mode = 0
  · subst hmode
    cases h
    rfl
  · have hkeeps : KeepsRegister nr (s.cpu.getRegister nr)
        (getGAM mode reg wordMode true : Exec δ GamRc) := by
      unfold getGAM
      rw [if_neg hmode]
      refine .view_bind_any fun runMode =>
        (keepsRegister_gamAddress hmode hout _ _).bind fun target => ?_
      refine Triple.bind (.ite (fun _ => keepsRegister_read _ _ _ _)
        fun _ => keepsRegister_pure 0) fun value => ?_
      refine Triple.bind (.ite (fun _ => keepsRegister_pure ()) fun _ => ?_)
        fun _ => keepsRegister_pure _
      exact .raise fun _ _ => trivial
    exact hkeeps.ok rfl h

end Registers

section Instructions

variable [UnibusDevices δ]

/-- The condition codes of a product. -/
def mulCodes (product : Int) : ConditionCodes where
  n := decide (product < 0)
  z := decide (product = 0)
  v := false
  c := decide (¬ FitsSigned 32768 product)

/-- MUL.  The multiplicand is read before the operand. -/
theorem opMul_returns
    (reg : RegNr) {dstMode dstReg : RegNr} {g : GamRc} {s u : Machine δ}
    (hdst : getGAM dstMode dstReg .wmWord true s = .ok g u) :
    ∃ t, opMul reg dstMode dstReg s = .ok true t ∧
      u.StoresTo
        (pairWrites reg
          (BitVec.ofInt 32
            ((s.cpu.getRegister reg).toInt * g.value.toInt)))
        (mulCodes ((s.cpu.getRegister reg).toInt * g.value.toInt)) t := by
  generalize hproduct : (s.cpu.getRegister reg).toInt * g.value.toInt = product
  obtain ⟨c, hrun, honly, hcodes⟩ :=
    ((SetsCodes.setPSWn (δ := δ) (decide (product < 0))).bind
      ((SetsCodes.setPSWz (decide (product = 0))).bind
        ((SetsCodes.setPSWv false).bind
          (.setPSWc (decide (product < -32768 ∨ product > 32767))))))
      (u.withCpu (u.cpu.setRegisters
        (pairWrites reg (BitVec.ofInt 32 product))))
  refine ⟨u.withCpu c, ?_, ⟨c, honly, rfl⟩, ?_⟩
  · have hthen := bind_of_ok (k := fun _ => (pure true : Exec δ Bool)) hrun
    simp only [bind_assoc] at hthen
    change (getGAM dstMode dstReg .wmWord true >>= fun r2g => do
      let result := (s.cpu.getRegister reg).toInt * r2g.value.toInt
      let bits := BitVec.ofInt 32 result
      setRegister reg ((bits >>> 16).setWidth 16)
      setRegister (reg ||| 1) (bits.setWidth 16)
      setPSWn (decide (result < 0))
      setPSWz (decide (result = 0))
      setPSWv false
      setPSWc (decide (result < -32768 ∨ result > 32767))
      pure true) s = _
    rw [bind_of_ok hdst, hproduct]
    exact hthen
  · have hcarry : decide (product < -32768 ∨ product > 32767) =
        decide (¬ FitsSigned 32768 product) := by
      refine decide_eq_decide.mpr ?_
      unfold FitsSigned
      omega
    rw [hcarry] at hcodes
    exact hcodes

/-- The condition codes that DIV leaves when it does not store. -/
def noQuotientCodes (dividend : BitVec 32) (divisor : Word) : ConditionCodes :=
  if divisor.toInt = 0 then ⟨false, true, true, true⟩
  else if divisor.toInt = -1 ∧ dividend = 0x80000000 then
    ⟨false, false, true, false⟩
  else
    ⟨decide (dividend.toInt.tdiv divisor.toInt < 0),
      decide (dividend.toInt.tdiv divisor.toInt = 0), true, false⟩

/-- The quotient exists and fits in a register. -/
def HasQuotient (dividend : BitVec 32) (divisor : Word) : Prop :=
  divisor.toInt ≠ 0 ∧ FitsSigned 32768 (dividend.toInt.tdiv divisor.toInt)

instance (dividend : BitVec 32) (divisor : Word) :
    Decidable (HasQuotient dividend divisor) :=
  inferInstanceAs (Decidable (_ ∧ _))

omit [UnibusDevices δ] in
/-- Flags alone. -/
theorem storesTo_nothing
    {f : ConditionCodes → ConditionCodes} {m : Exec δ Unit}
    (h : SetsCodes f m) (u : Machine δ) :
    ∃ t, (do m; pure true : Exec δ Bool) u = .ok true t ∧
      u.StoresTo [] (f u.cpu.conditionCodes) t := by
  obtain ⟨c, hrun, honly, hcodes⟩ := h u
  exact ⟨u.withCpu c, bind_of_ok hrun, ⟨c, honly, rfl⟩, hcodes⟩

/-- DIV after its operand has been fetched. -/
theorem opDiv_apply
    {reg dstMode dstReg : RegNr} {g : GamRc} {s u : Machine δ}
    (hdst : getGAM dstMode dstReg .wmWord true s = .ok g u)
    {dividend : BitVec 32} (hpair : u.cpu.registerPair reg = dividend) :
    opDiv reg dstMode dstReg s =
      (if g.value.toInt = 0 then do
        setPSWn false
        setPSWz true
        setPSWv true
        setPSWc true
        pure true
      else if g.value.toInt = -1 ∧ dividend = 0x80000000 then do
        setPSWn false
        setPSWz false
        setPSWv true
        setPSWc false
        pure true
      else do
        setPSWn (decide (dividend.toInt.tdiv g.value.toInt < 0))
        setPSWz (decide (dividend.toInt.tdiv g.value.toInt = 0))
        setPSWc false
        if dividend.toInt.tdiv g.value.toInt > 32767 ∨
            dividend.toInt.tdiv g.value.toInt < -32768 then do
          setPSWv true
          pure true
        else do
          setRegister reg (BitVec.ofInt 16 (dividend.toInt.tdiv g.value.toInt))
          setRegister (reg ||| 1)
            (BitVec.ofInt 16 (dividend.toInt.tmod g.value.toInt))
          setPSWv false
          pure true : Exec δ Bool) u := by
  subst hpair
  unfold opDiv
  rw [bind_of_ok hdst]
  rfl

/-- DIV without a quotient that fits. -/
theorem opDiv_of_not_hasQuotient
    {reg dstMode dstReg : RegNr} {g : GamRc} {s u : Machine δ}
    (hdst : getGAM dstMode dstReg .wmWord true s = .ok g u)
    (hnone : ¬ HasQuotient (u.cpu.registerPair reg) g.value) :
    ∃ t, opDiv reg dstMode dstReg s = .ok true t ∧
      u.StoresTo [] (noQuotientCodes (u.cpu.registerPair reg) g.value) t := by
  generalize hpair : u.cpu.registerPair reg = dividend at hnone ⊢
  unfold noQuotientCodes
  rw [opDiv_apply hdst hpair]
  by_cases hzero : g.value.toInt = 0
  · rw [if_pos hzero, if_pos hzero]
    have h := storesTo_nothing ((SetsCodes.setPSWn (δ := δ) false).bind
      ((SetsCodes.setPSWz true).bind
        ((SetsCodes.setPSWv true).bind (.setPSWc true)))) u
    simp only [bind_assoc] at h
    exact h
  rw [if_neg hzero, if_neg hzero]
  by_cases hmost : g.value.toInt = -1 ∧ dividend = 0x80000000
  · rw [if_pos hmost, if_pos hmost]
    have h := storesTo_nothing ((SetsCodes.setPSWn (δ := δ) false).bind
      ((SetsCodes.setPSWz false).bind
        ((SetsCodes.setPSWv true).bind (.setPSWc false)))) u
    simp only [bind_assoc] at h
    exact h
  have hbig : dividend.toInt.tdiv g.value.toInt > 32767 ∨
      dividend.toInt.tdiv g.value.toInt < -32768 := by
    have hfits : ¬ FitsSigned 32768 (dividend.toInt.tdiv g.value.toInt) :=
      fun h => hnone ⟨hzero, h⟩
    unfold FitsSigned at hfits
    omega
  rw [if_neg hmost, if_neg hmost, if_pos hbig]
  have h := storesTo_nothing
    ((SetsCodes.setPSWn (δ := δ)
        (decide (dividend.toInt.tdiv g.value.toInt < 0))).bind
      ((SetsCodes.setPSWz (decide (dividend.toInt.tdiv g.value.toInt = 0))).bind
        ((SetsCodes.setPSWc false).bind (.setPSWv true)))) u
  simp only [bind_assoc] at h
  exact h

/-- DIV with a quotient. -/
theorem opDiv_of_hasQuotient
    {reg dstMode dstReg : RegNr} {g : GamRc} {s u : Machine δ}
    (hdst : getGAM dstMode dstReg .wmWord true s = .ok g u)
    (hsome : HasQuotient (u.cpu.registerPair reg) g.value) :
    ∃ t, opDiv reg dstMode dstReg s = .ok true t ∧
      u.StoresTo
        [(reg, BitVec.ofInt 16
            ((u.cpu.registerPair reg).toInt.tdiv g.value.toInt)),
          (reg ||| 1, BitVec.ofInt 16
            ((u.cpu.registerPair reg).toInt.tmod g.value.toInt))]
        ⟨decide ((u.cpu.registerPair reg).toInt.tdiv g.value.toInt < 0),
          decide ((u.cpu.registerPair reg).toInt.tdiv g.value.toInt = 0),
          false, false⟩ t := by
  generalize hpair : u.cpu.registerPair reg = dividend at hsome ⊢
  obtain ⟨hzero, hfits⟩ := hsome
  have hmost := (guards_of_quotient_fits hzero hfits).2
  have hsmall : ¬ (dividend.toInt.tdiv g.value.toInt > 32767 ∨
      dividend.toInt.tdiv g.value.toInt < -32768) := by
    unfold FitsSigned at hfits
    omega
  rw [opDiv_apply hdst hpair, if_neg hzero, if_neg hmost, if_neg hsmall]
  generalize dividend.toInt.tdiv g.value.toInt = quot
  generalize dividend.toInt.tmod g.value.toInt = rem
  obtain ⟨c, hrun, honly, hcodes⟩ :=
    ((SetsCodes.setPSWn (δ := δ) (decide (quot < 0))).bind
      ((SetsCodes.setPSWz (decide (quot = 0))).bind (.setPSWc false))) u
  obtain ⟨c', hrun', honly', hcodes'⟩ := SetsCodes.setPSWv false
    (u.withCpu (c.setRegisters
      [(reg, BitVec.ofInt 16 quot), (reg ||| 1, BitVec.ofInt 16 rem)]))
  refine ⟨u.withCpu c', ?_, ⟨c', ?_, rfl⟩, ?_⟩
  · have hthen := bind_of_ok (k := fun _ => (do
      setRegister reg (BitVec.ofInt 16 quot)
      setRegister (reg ||| 1) (BitVec.ofInt 16 rem)
      setPSWv false
      pure true : Exec δ Bool)) hrun
    simp only [bind_assoc] at hthen
    exact hthen.trans
      (bind_of_ok (k := fun _ => (pure true : Exec δ Bool)) hrun')
  · exact ((honly.setRegister reg _).setRegister (reg ||| 1) _).trans honly'
  · have hkept : (c.setRegisters [(reg, BitVec.ofInt 16 quot),
        (reg ||| 1, BitVec.ofInt 16 rem)]).conditionCodes = c.conditionCodes :=
      (Cpu.setRegister_conditionCodes _ _ _).trans
        (Cpu.setRegister_conditionCodes _ _ _)
    refine hcodes'.trans ?_
    change (fun k : ConditionCodes => { k with v := false })
      (c.setRegisters _).conditionCodes = _
    rw [hkept, hcodes]

/-- DIV stores a quotient and a remainder that make up the dividend. -/
theorem opDiv_divides
    {reg dstMode dstReg : RegNr} {g : GamRc} {s u : Machine δ}
    (heven : reg &&& 1 = 0)
    (hdst : getGAM dstMode dstReg .wmWord true s = .ok g u)
    (hsome : HasQuotient (u.cpu.registerPair reg) g.value) :
    ∃ t q r, opDiv reg dstMode dstReg s = .ok true t ∧
      (t.cpu.getRegister reg).toInt = q ∧
      (t.cpu.getRegister (reg ||| 1)).toInt = r ∧
      q = (u.cpu.registerPair reg).toInt.tdiv g.value.toInt ∧
      (u.cpu.registerPair reg).toInt = q * g.value.toInt + r ∧
      |r| < |g.value.toInt| ∧
      (r = 0 ∨ r.sign = (u.cpu.registerPair reg).toInt.sign) ∧
      t.cpu.getPSWv = false ∧ t.cpu.getPSWc = false := by
  obtain ⟨t, ht, hstores⟩ := opDiv_of_hasQuotient hdst hsome
  generalize u.cpu.registerPair reg = dividend at hsome hstores ⊢
  obtain ⟨hzero, hfits⟩ := hsome
  refine ⟨t, _, _, ht, rfl, rfl, ?_⟩
  rw [hstores.getRegister_two, hstores.getRegister_two,
    if_neg (even_ne_or_one heven), if_pos rfl, if_pos rfl,
    ofInt_word_toInt hfits, ofInt_word_toInt (remainder_fits hzero)]
  refine ⟨rfl, ?_, ?_, remainder_sign _ _,
    congrArg ConditionCodes.v hstores.codes,
    congrArg ConditionCodes.c hstores.codes⟩
  · rw [Int.mul_comm]
    exact (Int.mul_tdiv_add_tmod _ _).symm
  · rw [← Int.natCast_natAbs, ← Int.natCast_natAbs, Int.natAbs_tmod]
    exact Int.ofNat_lt.mpr (Nat.mod_lt _ (Int.natAbs_pos.mpr hzero))

/-- DIV by the multiplier of a MUL returns the multiplicand. -/
theorem opDiv_of_opMul
    {reg mode nr mode' nr' : RegNr} {g g' : GamRc} {s u t s' u' : Machine δ}
    (heven : reg &&& 1 = 0)
    (hmulOperand : getGAM mode nr .wmWord true s = .ok g u)
    (hmul : opMul reg mode nr s = .ok true t)
    (hpair : s'.cpu.registerPair reg = t.cpu.registerPair reg)
    (hout : OutsideOperand reg mode' nr')
    (hout' : OutsideOperand (reg ||| 1) mode' nr')
    (hdivOperand : getGAM mode' nr' .wmWord true s' = .ok g' u')
    (hsame : g'.value = g.value) (hne : g.value ≠ 0) :
    ∃ t', opDiv reg mode' nr' s' = .ok true t' ∧
      t'.cpu.getRegister reg = s.cpu.getRegister reg ∧
      t'.cpu.getRegister (reg ||| 1) = 0 ∧ t'.cpu.getPSWv = false := by
  obtain ⟨t₁, ht₁, hmulStores⟩ := opMul_returns reg hmulOperand
  cases hmul.symm.trans ht₁
  have hdividend : (u'.cpu.registerPair reg).toInt =
      (s.cpu.getRegister reg).toInt * g.value.toInt := by
    have hkept : u'.cpu.registerPair reg = s'.cpu.registerPair reg := by
      unfold Cpu.registerPair
      rw [getGAM_getRegister_eq hout hdivOperand,
        getGAM_getRegister_eq hout' hdivOperand]
    rw [hkept, hpair, hmulStores.registerPair_eq heven, ofInt_product_toInt]
  have hzero : g.value.toInt ≠ 0 :=
    fun h => hne (BitVec.eq_of_toInt_eq (h.trans (by decide)))
  have hquot : (u'.cpu.registerPair reg).toInt.tdiv g'.value.toInt =
      (s.cpu.getRegister reg).toInt := by
    rw [hdividend, hsame, Int.mul_tdiv_cancel _ hzero]
  have hrem : (u'.cpu.registerPair reg).toInt.tmod g'.value.toInt = 0 := by
    rw [hdividend, hsame, Int.mul_tmod_left]
  have hsome : HasQuotient (u'.cpu.registerPair reg) g'.value := by
    refine ⟨by rwa [hsame], ?_⟩
    rw [hquot]
    exact word_toInt_fits _
  obtain ⟨t', ht', hstores⟩ := opDiv_of_hasQuotient hdivOperand hsome
  rw [hquot, hrem, BitVec.ofInt_toInt] at hstores
  refine ⟨t', ht', ?_, ?_, congrArg ConditionCodes.v hstores.codes⟩
  · rw [hstores.getRegister_two, if_neg (even_ne_or_one heven), if_pos rfl]
  · rw [hstores.getRegister_two, if_pos rfl]
    rfl

/-- MUL and DIV are exact.  MUL stores the product, in a pair or its low word
in one register, and C says that one register would not have held it.  DIV
with a quotient that fits divides, and otherwise keeps every register and sets
V.  No product, quotient or remainder leaves the range of its type, and DIV by
the multiplier undoes MUL. -/
theorem mul_and_div_are_exact
    (reg : RegNr) :
    (∀ {mode nr : RegNr} {g : GamRc} {s u : Machine δ},
      getGAM mode nr .wmWord true s = .ok g u →
      ∃ t, opMul reg mode nr s = .ok true t ∧
        (reg &&& 1 = 0 →
          (t.cpu.registerPair reg).toInt =
            (s.cpu.getRegister reg).toInt * g.value.toInt) ∧
        (reg &&& 1 ≠ 0 →
          t.cpu.getRegister reg =
            BitVec.ofInt 16
              ((s.cpu.getRegister reg).toInt * g.value.toInt)) ∧
        (t.cpu.getPSWc = true ↔
          ¬ FitsSigned 32768
            ((s.cpu.getRegister reg).toInt * g.value.toInt))) ∧
    (reg &&& 1 = 0 → ∀ {mode nr : RegNr} {g : GamRc} {s u : Machine δ},
      getGAM mode nr .wmWord true s = .ok g u →
      (HasQuotient (u.cpu.registerPair reg) g.value →
        ∃ t q r, opDiv reg mode nr s = .ok true t ∧
          (t.cpu.getRegister reg).toInt = q ∧
          (t.cpu.getRegister (reg ||| 1)).toInt = r ∧
          q = (u.cpu.registerPair reg).toInt.tdiv g.value.toInt ∧
          (u.cpu.registerPair reg).toInt = q * g.value.toInt + r ∧
          |r| < |g.value.toInt| ∧
          (r = 0 ∨ r.sign = (u.cpu.registerPair reg).toInt.sign) ∧
          t.cpu.getPSWv = false ∧ t.cpu.getPSWc = false) ∧
      (¬ HasQuotient (u.cpu.registerPair reg) g.value →
        ∃ t, opDiv reg mode nr s = .ok true t ∧
          (∀ nr, t.cpu.getRegister nr = u.cpu.getRegister nr) ∧
          t.cpu.getPSWv = true)) ∧
    (∀ x y : Word, FitsSigned (2 ^ 31) (x.toInt * y.toInt)) ∧
    (∀ (dividend : BitVec 32) (divisor : Word), DivGuards dividend divisor →
      FitsSigned (2 ^ 31) (dividend.toInt.tdiv divisor.toInt) ∧
      FitsSigned 32768 (dividend.toInt.tmod divisor.toInt)) ∧
    (reg &&& 1 = 0 →
      ∀ {mode nr mode' nr' : RegNr} {g g' : GamRc} {s u t s' u' : Machine δ},
        getGAM mode nr .wmWord true s = .ok g u →
        opMul reg mode nr s = .ok true t →
        s'.cpu.registerPair reg = t.cpu.registerPair reg →
        OutsideOperand reg mode' nr' → OutsideOperand (reg ||| 1) mode' nr' →
        getGAM mode' nr' .wmWord true s' = .ok g' u' →
        g'.value = g.value → g.value ≠ 0 →
        ∃ t', opDiv reg mode' nr' s' = .ok true t' ∧
          t'.cpu.getRegister reg = s.cpu.getRegister reg ∧
          t'.cpu.getRegister (reg ||| 1) = 0 ∧ t'.cpu.getPSWv = false) := by
  refine ⟨fun hdst => ?_, fun heven _ _ _ _ _ hdst => ⟨opDiv_divides heven hdst,
    fun hnone => ?_⟩, product_fits, fun dividend divisor hguards =>
      ⟨quotient_fits hguards, remainder_fits hguards.1⟩,
    fun heven _ _ _ _ _ _ _ _ _ _ _ hg hmul hpair hout hout' hg' hsame hne =>
      opDiv_of_opMul heven hg hmul hpair hout hout' hg' hsame hne⟩
  · obtain ⟨t, ht, hstores⟩ := opMul_returns reg hdst
    refine ⟨t, ht, fun heven => ?_, fun hodd => ?_, ?_⟩
    · rw [hstores.registerPair_eq heven, ofInt_product_toInt]
    · have hself : reg = reg ||| 1 :=
        (by decide : ∀ reg : RegNr, reg &&& 1 ≠ 0 → reg = reg ||| 1) reg hodd
      have hlow := hstores.getRegister_two reg
      rw [if_pos hself] at hlow
      rw [hlow, setWidth_ofInt_word]
    · have hflag : t.cpu.getPSWc = _ :=
        congrArg ConditionCodes.c hstores.codes
      rw [hflag]
      exact decide_eq_true_iff
  · obtain ⟨t, ht, hstores⟩ := opDiv_of_not_hasQuotient hdst hnone
    refine ⟨t, ht, fun nr => ?_, ?_⟩
    · obtain ⟨c, hflags, rfl⟩ := hstores.state
      exact hflags.getRegister_eq nr
    · have hflag : t.cpu.getPSWv = _ :=
        congrArg ConditionCodes.v hstores.codes
      rw [hflag]
      unfold noQuotientCodes
      split_ifs <;> rfl

/-- A machine with -32768 in R0 and in R2. -/
def leastNumbersMachine : Machine LineClock :=
  (bareMachine 0o20000 []).withPSW fun c =>
    (c.setRegister 0 0o100000).setRegister 2 0o100000

/-- MUL R0,R2 and DIV R0,R2 with the largest product. -/
theorem largest_product_divided :
    ∃ t t' : Machine LineClock,
      opMul 0 0 2 leastNumbersMachine = .ok true t ∧
      (t.cpu.registerPair 0).toInt = 2 ^ 30 ∧
      opDiv 0 0 2 t = .ok true t' ∧
      t'.cpu.getRegister 0 = 0o100000 ∧ t'.cpu.getRegister 1 = 0 := by
  obtain ⟨hmul, -, -, -, hback⟩ := mul_and_div_are_exact (δ := LineClock) 0
  have hoperand : getGAM 0 2 .wmWord true leastNumbersMachine =
      .ok (registerOperand 2 .wmWord 0o100000) leastNumbersMachine := rfl
  obtain ⟨t, ht, hpair, -, -⟩ := hmul hoperand
  obtain ⟨t₁, ht₁, hstores⟩ := opMul_returns 0 hoperand
  cases ht.symm.trans ht₁
  have hmultiplier : t.cpu.getRegister 2 = 0o100000 := by
    rw [hstores.getRegister_two, if_neg (by decide), if_neg (by decide)]
    rfl
  have hoperand' : getGAM 0 2 .wmWord true t =
      .ok (registerOperand 2 .wmWord 0o100000) t := by
    change EStateM.Result.ok (registerOperand 2 .wmWord
      (t.cpu.getRegister 2 &&& wordModeMask .wmWord)) t = _
    rw [hmultiplier]
    rfl
  obtain ⟨t', ht', hback0, hback1, -⟩ := hback rfl hoperand ht rfl (by decide)
    (by decide) hoperand' rfl (by decide)
  refine ⟨t, t', ht, ?_, ht', hback0, hback1⟩
  rw [hpair rfl]
  decide

end Instructions

end KekPdp11
