import KekPdp11.ReadModifyWrite

/-!
# KEK PDP-11: register form and memory form

Each instruction with a destination has one text for a register and one for
memory, and each of these one for words and one for bytes.

`Modification.codes` says once which condition codes an instruction leaves for
an operand of its width.  A register keeps the bits above this width; the flags
and the low part of the result only depend on the low part of the operand.

**Result.**  Both forms leave these codes and the same result.
-/

namespace KekPdp11

open StateExcept

variable {δ : Type}

section Widths

variable (wordMode : WordMode)

/-- Two words with the same bits at a width. -/
def SameLow (x y : Word) : Prop :=
  x &&& wordModeMask wordMode = y &&& wordModeMask wordMode

/-- A word with its low part replaced. -/
def withLow (old x : Word) : Word :=
  (x &&& wordModeMask wordMode) ||| (old &&& ~~~wordModeMask wordMode)

variable {wordMode}

theorem mask_word
    (x : Word) :
    x &&& wordModeMask .wmWord = x :=
  BitVec.and_allOnes

theorem sameLow_mask
    (x : Word) :
    SameLow wordMode (x &&& wordModeMask wordMode) x := by
  unfold SameLow
  rw [BitVec.and_assoc, BitVec.and_self]

theorem sameLow_withLow
    (old x : Word) :
    SameLow wordMode (withLow wordMode old x) x := by
  unfold SameLow withLow
  rw [BitVec.and_or_distrib_right, BitVec.and_assoc, BitVec.and_self,
    BitVec.and_assoc, BitVec.and_comm (~~~_), BitVec.and_not_self]
  simp

theorem withLow_high
    (old x : Word) :
    withLow wordMode old x &&& ~~~wordModeMask wordMode =
      old &&& ~~~wordModeMask wordMode := by
  unfold withLow
  rw [BitVec.and_or_distrib_right, BitVec.and_assoc, BitVec.and_not_self,
    BitVec.and_assoc, BitVec.and_self]
  simp

/-- The bits at byte width are those of the low byte. -/
theorem sameLow_byte_iff
    {x y : Word} :
    SameLow .wmByte x y ↔ x.setWidth 8 = y.setWidth 8 := by
  unfold SameLow wordModeMask
  constructor
  · intro h
    have hlow : ∀ z : Word, (z &&& 0xff).setWidth 8 = z.setWidth 8 := by
      intro z
      ext i hi
      interval_cases i <;> simp
    rw [← hlow x, h, hlow]
  · intro h
    have hlow : ∀ z : Word, z &&& 0xff = (z.setWidth 8).setWidth 16 := by
      intro z
      ext i hi
      interval_cases i <;> simp
    rw [hlow, h, ← hlow]

namespace SameLow

variable {x x' y y' : Word}

theorem refl
    (x : Word) :
    SameLow wordMode x x :=
  rfl

theorem symm
    (h : SameLow wordMode x y) :
    SameLow wordMode y x :=
  Eq.symm h

theorem trans
    (h : SameLow wordMode x y) (h' : SameLow wordMode y y') :
    SameLow wordMode x y' :=
  Eq.trans h h'

theorem eq_word
    (h : SameLow .wmWord x x') :
    x = x' := by
  rw [← mask_word x, h, mask_word]

theorem add
    (h : SameLow wordMode x x') (y : Word) :
    SameLow wordMode (x + y) (x' + y) := by
  cases wordMode with
  | wmWord =>
      rw [h.eq_word]
      exact refl _
  | wmByte =>
      rw [sameLow_byte_iff] at h ⊢
      rw [BitVec.setWidth_add _ _ (by omega), h,
        ← BitVec.setWidth_add _ _ (by omega)]

theorem sub
    (h : SameLow wordMode x x') (y : Word) :
    SameLow wordMode (x - y) (x' - y) := by
  rw [BitVec.sub_eq_add_neg, BitVec.sub_eq_add_neg]
  exact h.add _

theorem neg
    (h : SameLow wordMode x x') :
    SameLow wordMode (-x) (-x') := by
  cases wordMode with
  | wmWord =>
      rw [h.eq_word]
      exact refl _
  | wmByte =>
      rw [sameLow_byte_iff] at h ⊢
      rw [BitVec.setWidth_neg_of_le (by omega), h,
        ← BitVec.setWidth_neg_of_le (by omega)]

theorem and
    (h : SameLow wordMode x x') (y : Word) :
    SameLow wordMode (x &&& y) (x' &&& y) := by
  unfold SameLow at h ⊢
  rw [BitVec.and_assoc, BitVec.and_comm y, ← BitVec.and_assoc, h,
    BitVec.and_assoc, BitVec.and_comm _ y, ← BitVec.and_assoc]

theorem or
    (h : SameLow wordMode x x') (y : Word) :
    SameLow wordMode (x ||| y) (x' ||| y) := by
  unfold SameLow at h ⊢
  rw [BitVec.and_or_distrib_right, h, ← BitVec.and_or_distrib_right]

theorem xor
    (h : SameLow wordMode x x') (y : Word) :
    SameLow wordMode (x ^^^ y) (x' ^^^ y) := by
  have hxor : ∀ z : Word, (z ^^^ y) &&& wordModeMask wordMode =
      (z &&& wordModeMask wordMode) ^^^ (y &&& wordModeMask wordMode) := by
    intro z
    ext i hi
    simp only [BitVec.getElem_and, BitVec.getElem_xor, Bool.and_xor_distrib_right]
  unfold SameLow at h ⊢
  rw [hxor, h, ← hxor]

theorem double
    (h : SameLow wordMode x x') :
    SameLow wordMode (x <<< 1) (x' <<< 1) := by
  cases wordMode with
  | wmWord =>
      rw [h.eq_word]
      exact refl _
  | wmByte =>
      rw [sameLow_byte_iff] at h ⊢
      have hshift : ∀ z : Word,
          (z <<< 1).setWidth 8 = z.setWidth 8 <<< 1 := by
        intro z
        ext i hi
        interval_cases i <;> simp
      rw [hshift, h, ← hshift]

theorem sign_eq
    (h : SameLow wordMode x x') :
    sign x wordMode = sign x' wordMode := by
  have hsign : ∀ z : Word,
      sign z wordMode = sign (z &&& wordModeMask wordMode) wordMode := by
    intro z
    cases wordMode with
    | wmWord =>
        rw [mask_word]
    | wmByte =>
        unfold sign wordModeMask
        rw [BitVec.and_assoc]
        rfl
  rw [hsign x, h, ← hsign]

theorem isZero_eq
    (h : SameLow wordMode x x') :
    isZero x wordMode = isZero x' wordMode := by
  have hzero : ∀ z : Word,
      isZero z wordMode = isZero (z &&& wordModeMask wordMode) wordMode := by
    intro z
    cases wordMode with
    | wmWord =>
        rw [mask_word]
    | wmByte =>
        unfold isZero wordModeMask
        rw [BitVec.and_assoc]
        rfl
  rw [hzero x, h, ← hzero]

/-- Bit zero belongs to both widths. -/
theorem odd_iff
    (h : SameLow wordMode x x') :
    x &&& 1 = x' &&& 1 := by
  have hodd : ∀ z : Word, z &&& 1 = (z &&& wordModeMask wordMode) &&& 1 := by
    intro z
    rw [BitVec.and_assoc]
    cases wordMode <;> rfl
  rw [hodd x, h, ← hodd]

end SameLow

/-- A word that keeps the high part only has its low part replaced. -/
theorem eq_withLow
    {old x : Word}
    (h : x &&& ~~~wordModeMask wordMode = old &&& ~~~wordModeMask wordMode) :
    x = withLow wordMode old x := by
  unfold withLow
  rw [← h, ← BitVec.and_or_distrib_left, BitVec.or_not_self]
  exact BitVec.and_allOnes.symm

theorem eq_withLow_word
    (old x : Word) :
    x = withLow .wmWord old x :=
  eq_withLow (BitVec.and_zero.trans BitVec.and_zero.symm)

theorem keptByte_eq
    (v : Word) (wordMode : WordMode) :
    keptByte v wordMode = v &&& ~~~wordModeMask wordMode := by
  cases wordMode with
  | wmWord =>
      exact BitVec.and_zero.symm
  | wmByte =>
      rfl

theorem kept_withLow
    (old x : Word) (wordMode : WordMode) :
    (x &&& wordModeMask wordMode) ||| keptByte old wordMode =
      withLow wordMode old x := by
  rw [keptByte_eq]
  rfl

end Widths

section Codes

namespace Modification

variable (i : Modification) (wordMode : WordMode) (src v : Word)

/-- The condition codes that the instruction leaves for an operand. -/
def codes (old : ConditionCodes) : ConditionCodes :=
  let r := i.result wordMode src v old
  let n := sign r wordMode
  let z := isZero r wordMode
  match i with
  | add =>
      ⟨n, z, sign ((~~~src ^^^ v) &&& (src ^^^ r)) .wmWord, decide (r < src)⟩
  | sub =>
      ⟨n, z, sign ((v ^^^ src) &&& (~~~src ^^^ r)) .wmWord, decide (v < src)⟩
  | bic | bis | xor => ⟨n, z, false, old.c⟩
  | swab => ⟨sign r .wmByte, isZero r .wmByte, false, false⟩
  | com => ⟨n, z, false, true⟩
  | inc => ⟨n, z, equalsAt r 0x80 0x8000 wordMode, old.c⟩
  | dec => ⟨n, z, equalsAt r 0x7f 0x7fff wordMode, old.c⟩
  | neg =>
      ⟨n, z, equalsAt (r &&& wordModeMask wordMode) 0x80 0x8000 wordMode,
        decide (r &&& wordModeMask wordMode ≠ 0)⟩
  | adc =>
      ⟨n, z,
        equalsAt (v &&& wordModeMask wordMode) 0x7f 0x7fff wordMode && old.c,
        equalsAt (v &&& wordModeMask wordMode) 0xff 0xffff wordMode && old.c⟩
  | sbc =>
      ⟨n, z,
        equalsAt (v &&& wordModeMask wordMode) 0x80 0x8000 wordMode && old.c,
        isZero v wordMode && old.c⟩
  | ror => ⟨n, z, n ^^ decide (v &&& 1 ≠ 0), decide (v &&& 1 ≠ 0)⟩
  | rol => ⟨n, z, n ^^ sign v wordMode, sign v wordMode⟩
  | asr => ⟨n, z, n ^^ decide (v &&& 1 ≠ 0), decide (v &&& 1 ≠ 0)⟩
  | asl => ⟨n, z, n ^^ sign v wordMode, sign v wordMode⟩
  | sxt => ⟨old.n, !old.n, false, old.c⟩

/-- The condition codes once the flags set before the write are set. -/
def earlyCodes (old : ConditionCodes) : ConditionCodes :=
  match i with
  | asr => { old with c := decide (v &&& 1 ≠ 0) }
  | _ => old

theorem early_sets :
    SetsCodes (i.earlyCodes v) (i.early v : Exec δ Unit) := by
  cases i with
  | asr =>
      exact .setPSWc _
  | _ =>
      exact .nothing

/-- The flags that an instruction sets after its write. -/
theorem flags_sets
    {i : Modification} {wordMode : WordMode}
    (hword : i.WordOnly → wordMode = .wmWord) (src v : Word)
    (old : ConditionCodes) :
    ∃ f, SetsCodes f (i.flags wordMode src v
        (i.result wordMode src v old) old : Exec δ Unit) ∧
      f (i.earlyCodes v old) = i.codes wordMode src v old := by
  cases i with
  | add | sub =>
      cases hword trivial
      exact ⟨_, (SetsCodes.setPSWv _).bind
        ((SetsCodes.setPSWc _).bind (.setNZ _ _)), rfl⟩
  | bic | bis =>
      exact ⟨_, .setPSWFlagsNzv _ _, rfl⟩
  | xor =>
      cases hword trivial
      exact ⟨_, .setPSWFlagsNzv _ _, rfl⟩
  | swab | com =>
      exact ⟨_, (SetsCodes.setPSWFlagsNzv _ _).bind (.setPSWc _), rfl⟩
  | inc | dec =>
      exact ⟨_, (SetsCodes.setNZ _ _).bind (.setPSWv _), rfl⟩
  | neg | adc | sbc =>
      exact ⟨_, (SetsCodes.setNZ _ _).bind
        ((SetsCodes.setPSWv _).bind (.setPSWc _)), rfl⟩
  | ror | rol =>
      exact ⟨_, .setRotateFlags _ _ _, rfl⟩
  | asr =>
      exact ⟨_, (SetsCodes.setNZ _ _).bind .setVFromNC, rfl⟩
  | asl =>
      exact ⟨_, (SetsCodes.setNZ _ _).bind
        ((SetsCodes.setPSWc _).bind .setVFromNC), rfl⟩
  | sxt =>
      exact ⟨_, .ofCodes (fun k => k.n) (fun n k => ⟨k.n, !n, false, k.c⟩)
        (fun _ => rfl) fun n => (SetsCodes.setPSWz (!n)).bind (.setPSWv false),
        rfl⟩

end Modification

end Codes

section Registers

/-- What an instruction leaves in its register: the result in the low part,
the rest as it was. -/
structure LeavesInRegister (nr : RegNr) (wordMode : WordMode) (old r : Word)
    (codes : ConditionCodes) (t : Machine δ) : Prop where
  low : SameLow wordMode (t.cpu.getRegister nr) r
  high : t.cpu.getRegister nr &&& ~~~wordModeMask wordMode =
    old &&& ~~~wordModeMask wordMode
  codes : t.cpu.conditionCodes = codes

variable {nr : RegNr} {wordMode : WordMode} {old r x y : Word}
variable {codes : ConditionCodes} {f : ConditionCodes → ConditionCodes}
variable {m : Exec δ Unit} {s : Machine δ}

theorem leavesInRegister_of_eq
    {t : Machine δ} (hreg : t.cpu.getRegister nr = x)
    (hx : x = withLow wordMode old y) (hlow : SameLow wordMode y r)
    (hcodes : t.cpu.conditionCodes = codes) :
    LeavesInRegister nr wordMode old r codes t where
  low := by
    rw [hreg, hx]
    exact (sameLow_withLow old y).trans hlow
  high := by
    rw [hreg, hx, withLow_high]
  codes := hcodes

/-- The flags first, then the register. -/
theorem flags_then_register
    (hm : SetsCodes f m) (hx : x = withLow wordMode old y)
    (hlow : SameLow wordMode y r)
    (hcodes : SameLow wordMode x r → f s.cpu.conditionCodes = codes) :
    ∃ t, (do m; setRegister nr x; pure true : Exec δ Bool) s = .ok true t ∧
      LeavesInRegister nr wordMode old r codes t := by
  obtain ⟨c', hrun, -, hf⟩ := hm s
  refine ⟨_, bind_of_ok hrun, leavesInRegister_of_eq
    (c'.getRegister_setRegister nr x) hx hlow ?_⟩
  refine (c'.setRegister_conditionCodes nr x).trans (hf.trans (hcodes ?_))
  rw [hx]
  exact (sameLow_withLow old y).trans hlow

/-- The register first, then the flags. -/
theorem register_then_flags
    (nr : RegNr) (hm : SetsCodes f m) (hx : x = withLow wordMode old y)
    (hlow : SameLow wordMode y r)
    (hcodes : SameLow wordMode x r → f s.cpu.conditionCodes = codes) :
    ∃ t, (do setRegister nr x; m; pure true : Exec δ Bool) s = .ok true t ∧
      LeavesInRegister nr wordMode old r codes t := by
  obtain ⟨c', hrun, honly, hf⟩ :=
    hm (s.withCpu (s.cpu.setRegister nr x))
  refine ⟨s.withCpu c', ?_, leavesInRegister_of_eq ?_ hx hlow ?_⟩
  · change (m >>= fun _ => pure true)
      (s.withCpu (s.cpu.setRegister nr x)) = _
    rw [bind_of_ok hrun]
    rfl
  · exact (honly.getRegister_eq nr).trans (s.cpu.getRegister_setRegister nr x)
  · refine hf.trans ((congrArg f
      (s.cpu.setRegister_conditionCodes nr x)).trans (hcodes ?_))
    rw [hx]
    exact (sameLow_withLow old y).trans hlow

theorem codes_congr
    {n n' z z' v v' c c' : Bool} (hn : n = n') (hz : z = z') (hv : v = v')
    (hc : c = c') :
    (⟨n, z, v, c⟩ : ConditionCodes) = ⟨n', z', v', c'⟩ := by
  rw [hn, hz, hv, hc]

variable [UnibusDevices δ]

/-- The instructions whose source is a general operand. -/
theorem source_returns
    {mode reg : RegNr} {src : Word} {s₀ : Machine δ}
    (h : (do
      let g ← getGAM mode reg wordMode true
      pure g.value : Exec δ Word) s₀ = .ok src s) :
    ∃ g, getGAM mode reg wordMode true s₀ = .ok g s ∧ g.value = src := by
  obtain ⟨g, u, hg, hpure⟩ := bind_eq_ok h
  cases hpure
  exact ⟨g, hg, rfl⟩

omit [UnibusDevices δ] in
theorem fits_high
    {value : Word} (h : fits value wordMode = true) :
    value &&& ~~~wordModeMask wordMode = 0 := by
  cases wordMode with
  | wmWord =>
      exact BitVec.and_zero
  | wmByte =>
      simp only [fits, reduceCtorEq, decide_false, Bool.or_false,
        decide_eq_true_eq, BitVec.lt_def] at h
      have hlow : value &&& 0xff = value := by
        apply BitVec.eq_of_toNat_eq
        rw [BitVec.toNat_and]
        exact Nat.and_two_pow_sub_one_of_lt_two_pow (n := 8) h
      rw [← hlow, BitVec.and_assoc]
      exact BitVec.and_zero

/-- getGAM returns operands of its width. -/
theorem getGAM_fits
    {mode reg : RegNr} {g : GamRc} {s₀ : Machine δ}
    (h : getGAM mode reg wordMode true s₀ = .ok g s) :
    g.value &&& ~~~wordModeMask wordMode = 0 := by
  by_cases hmode : mode = 0
  · subst hmode
    cases h
    change (_ &&& wordModeMask wordMode) &&& ~~~wordModeMask wordMode = 0
    rw [BitVec.and_assoc, BitVec.and_not_self]
    exact BitVec.and_zero
  · rw [getGAM_memory reg wordMode hmode] at h
    obtain ⟨refs, t, -, h⟩ := bind_eq_ok h
    obtain ⟨value, u, -, h⟩ := bind_eq_ok h
    obtain ⟨_, u', hassert, h⟩ := bind_eq_ok h
    cases hfits : fits value wordMode with
    | true =>
        cases h
        exact fits_high hfits
    | false =>
        rw [show (decide (value < 256) || decide (wordMode = .wmWord)) = false
          from hfits] at hassert
        cases hassert

section High

omit [UnibusDevices δ]

variable {src : Word} (v : Word)

theorem bic_high
    (h : src &&& ~~~wordModeMask wordMode = 0) :
    (v &&& ~~~src) &&& ~~~wordModeMask wordMode =
      v &&& ~~~wordModeMask wordMode := by
  ext i hi
  have hbit : (src &&& ~~~wordModeMask wordMode)[i] = false := by
    rw [h]
    exact BitVec.getElem_zero hi
  simp only [BitVec.getElem_and, BitVec.getElem_not] at hbit ⊢
  cases hs : src[i] with
  | true =>
      rw [hs, Bool.true_and] at hbit
      rw [hbit, Bool.and_false, Bool.and_false]
  | false =>
      rw [Bool.not_false, Bool.and_true]

theorem bis_high
    (h : src &&& ~~~wordModeMask wordMode = 0) :
    (v ||| src) &&& ~~~wordModeMask wordMode =
      v &&& ~~~wordModeMask wordMode := by
  rw [BitVec.and_or_distrib_right, h]
  exact BitVec.or_zero

theorem com_high :
    (v ^^^ 0xff) &&& ~~~wordModeMask .wmByte =
      v &&& ~~~wordModeMask .wmByte := by
  ext i hi
  interval_cases i <;> simp [wordModeMask]

theorem ror_withLow
    (c : Bool) :
    ((((v &&& 0xff) >>> 1) ||| (boolWord c <<< 7)) ||| (v &&& 0xff00) : Word) =
      withLow .wmByte v (((v &&& 0xff) >>> 1) ||| (boolWord c <<< 7)) := by
  unfold withLow wordModeMask
  cases c <;> ext i hi <;> interval_cases i <;> simp [boolWord]

theorem rol_withLow
    (c : Word) :
    ((((v <<< 1) ||| c) &&& 0xff) ||| (v &&& 0xff00) : Word) =
      withLow .wmByte v ((v <<< 1) ||| c) := by
  rfl

theorem asr_withLow :
    asrValue v .wmByte = withLow .wmByte v (asrValue (v &&& 0xff) .wmByte) := by
  unfold withLow wordModeMask asrValue
  ext i hi
  interval_cases i <;> simp

end High

/-- The operand that getGAM returns for a register. -/
def registerOperand (nr : RegNr) (wordMode : WordMode) (value : Word) :
    GamRc where
  wordMode := wordMode
  space := if nr = 7 then .iSpace else .dSpace
  isAddr := false
  addr := 0
  reg := nr
  value := value

namespace Modification

variable (i : Modification)

/-- An instruction on words that stores with putGAM. -/
theorem putGAM_register
    (nr : RegNr) (s : Machine δ) (src : Word)
    (hearly : ∀ v k, i.earlyCodes v k = k) :
    ∃ t, (do
        let g ← getGAM 0 nr .wmWord true
        let setFlags ← putGAM g
          (i.result .wmWord src g.value s.cpu.conditionCodes)
        onlyIf setFlags
          (i.flags .wmWord src g.value
            (i.result .wmWord src g.value s.cpu.conditionCodes)
            s.cpu.conditionCodes)
        pure true : Exec δ Bool) s = .ok true t ∧
      LeavesInRegister nr .wmWord (s.cpu.getRegister nr)
        (i.result .wmWord src (s.cpu.getRegister nr &&& wordModeMask .wmWord)
          s.cpu.conditionCodes)
        (i.codes .wmWord src (s.cpu.getRegister nr &&& wordModeMask .wmWord)
          s.cpu.conditionCodes) t := by
  have hput : ∀ v x : Word,
      (putGAM (registerOperand nr .wmWord v) x : Exec δ Bool) = (do
        setRegister nr x
        pure true) := by
    intro v x
    have hassert : assertThat .byteOperand (fits x .wmWord) =
        (pure () : Exec δ Unit) := if_pos (fits_word x)
    change (assertThat .byteOperand (fits x .wmWord) >>= _) = _
    rw [hassert]
    rfl
  obtain ⟨f, hf, hcodes⟩ := flags_sets (fun _ => rfl) src
    (s.cpu.getRegister nr &&& wordModeMask .wmWord) s.cpu.conditionCodes
  rw [hearly] at hcodes
  obtain ⟨t, ht, hleaves⟩ := register_then_flags nr hf
    (eq_withLow_word (s.cpu.getRegister nr) _) (.refl _) fun _ => hcodes
  refine ⟨t, ?_, hleaves⟩
  change (putGAM (registerOperand nr .wmWord _) _ >>= _) s = _
  rw [hput]
  exact ht

/-- The register form of an instruction. -/
theorem execute_register
    (srcMode srcReg : RegNr) (hword : i.WordOnly → wordMode = .wmWord)
    {s₀ : Machine δ} {src : Word}
    (hsrc : i.source srcMode srcReg wordMode s₀ = .ok src s) :
    ∃ t, i.execute srcMode srcReg 0 nr wordMode s₀ = .ok true t ∧
      LeavesInRegister nr wordMode (s.cpu.getRegister nr)
        (i.result wordMode src (s.cpu.getRegister nr &&& wordModeMask wordMode)
          s.cpu.conditionCodes)
        (i.codes wordMode src
          (s.cpu.getRegister nr &&& wordModeMask wordMode)
          s.cpu.conditionCodes) t := by
  have hv : SameLow wordMode (s.cpu.getRegister nr)
      (s.cpu.getRegister nr &&& wordModeMask wordMode) :=
    (sameLow_mask _).symm
  cases i with
  | add =>
      cases hword trivial
      obtain ⟨g, hg, rfl⟩ := source_returns hsrc
      change ∃ t, (getGAM srcMode srcReg .wmWord true >>= _) s₀ = _ ∧ _
      rw [bind_of_ok hg]
      exact add.putGAM_register nr s g.value fun _ _ => rfl
  | sub =>
      cases hword trivial
      obtain ⟨g, hg, rfl⟩ := source_returns hsrc
      change ∃ t, (getGAM srcMode srcReg .wmWord true >>= _) s₀ = _ ∧ _
      rw [bind_of_ok hg]
      exact sub.putGAM_register nr s g.value fun _ _ => rfl
  | bic =>
      obtain ⟨g, hg, rfl⟩ := source_returns hsrc
      change ∃ t, (getGAM srcMode srcReg wordMode true >>= _) s₀ = _ ∧ _
      rw [bind_of_ok hg]
      refine register_then_flags _ (.setPSWFlagsNzv _ _)
        (eq_withLow (bic_high _ (getGAM_fits hg))) (hv.and _) fun h => ?_
      exact codes_congr h.sign_eq h.isZero_eq rfl rfl
  | bis =>
      obtain ⟨g, hg, rfl⟩ := source_returns hsrc
      change ∃ t, (getGAM srcMode srcReg wordMode true >>= _) s₀ = _ ∧ _
      rw [bind_of_ok hg]
      refine register_then_flags _ (.setPSWFlagsNzv _ _)
        (eq_withLow (bis_high _ (getGAM_fits hg))) (hv.or _) fun h => ?_
      exact codes_congr h.sign_eq h.isZero_eq rfl rfl
  | xor =>
      cases hword trivial
      cases hsrc
      exact xor.putGAM_register nr s _ fun _ _ => rfl
  | swab =>
      cases hword trivial
      cases hsrc
      exact swab.putGAM_register nr s 0 fun _ _ => rfl
  | com =>
      cases hsrc
      cases wordMode with
      | wmByte =>
          refine register_then_flags _
            ((SetsCodes.setPSWFlagsNzv _ _).bind (.setPSWc _))
            (eq_withLow (com_high _)) (hv.xor _) fun h => ?_
          exact codes_congr h.sign_eq h.isZero_eq rfl rfl
      | wmWord =>
          obtain ⟨t, ht, hleaves⟩ :=
            com.putGAM_register nr s 0 fun _ _ => rfl
          refine ⟨t, ?_, hleaves⟩
          change ((getGAM 0 nr .wmWord true >>= _) >>= _) s = _
          simp only [bind_assoc, pure_bind]
          exact ht
  | inc | dec =>
      cases hsrc
      refine flags_then_register ((SetsCodes.setNZ _ _).bind (.setPSWv _))
        (kept_withLow _ _ _) ?_ fun h => ?_
      · first
          | exact (hv.add 1).trans (sameLow_mask _).symm
          | exact (hv.sub 1).trans (sameLow_mask _).symm
      · exact codes_congr h.sign_eq h.isZero_eq
          (congrArg (equalsAt · _ _ wordMode) (h.trans (sameLow_mask _))) rfl
  | neg =>
      cases hsrc
      refine flags_then_register ((SetsCodes.setNZ _ _).bind
        ((SetsCodes.setPSWv _).bind (.setPSWc _)))
        (kept_withLow _ _ _) hv.neg fun h => ?_
      exact codes_congr h.sign_eq h.isZero_eq
        (congrArg (equalsAt · _ _ wordMode) h)
        (congrArg (fun z : Word => decide (z ≠ 0)) h)
  | adc =>
      cases hsrc
      refine flags_then_register ((SetsCodes.setNZ _ _).bind
        ((SetsCodes.setPSWv _).bind (.setPSWc _)))
        (kept_withLow _ _ _) ((hv.add _).trans (sameLow_mask _).symm)
        fun h => ?_
      exact codes_congr h.sign_eq h.isZero_eq
        (congrArg (equalsAt · _ _ wordMode && _) hv)
        (congrArg (equalsAt · _ _ wordMode && _) hv)
  | sbc =>
      cases hsrc
      refine flags_then_register ((SetsCodes.setNZ _ _).bind
        ((SetsCodes.setPSWv _).bind (.setPSWc _)))
        (kept_withLow _ _ _) ((hv.sub _).trans (sameLow_mask _).symm)
        fun h => ?_
      exact codes_congr h.sign_eq h.isZero_eq
        (congrArg (equalsAt · _ _ wordMode && _) hv)
        (congrArg (· && _) hv.isZero_eq)
  | ror =>
      cases hsrc
      have hcarry := congrArg (fun z : Word => decide (z ≠ 0)) hv.odd_iff
      cases wordMode with
      | wmByte =>
          refine register_then_flags _ (.setRotateFlags _ _ _)
            (ror_withLow _ _) (.refl _) fun h => ?_
          exact codes_congr h.sign_eq h.isZero_eq
            (congrArg₂ (· ^^ ·) h.sign_eq hcarry) hcarry
      | wmWord =>
          refine register_then_flags _ (.setRotateFlags _ _ _)
            (eq_withLow_word _ _) ?_ fun h => ?_
          · rw [← hv.eq_word]
            exact .refl _
          · exact codes_congr h.sign_eq h.isZero_eq
              (congrArg₂ (· ^^ ·) h.sign_eq hcarry) hcarry
  | rol =>
      cases hsrc
      cases wordMode with
      | wmByte =>
          refine register_then_flags _ (.setRotateFlags _ _ _)
            (rol_withLow _ _) ((hv.double.or _).trans (sameLow_mask _).symm)
            fun h => ?_
          exact codes_congr h.sign_eq h.isZero_eq
            (congrArg₂ (· ^^ ·) h.sign_eq hv.sign_eq) hv.sign_eq
      | wmWord =>
          refine register_then_flags _ (.setRotateFlags _ _ _)
            (eq_withLow_word _ _) (hv.double.or _) fun h => ?_
          exact codes_congr h.sign_eq h.isZero_eq
            (congrArg₂ (· ^^ ·) h.sign_eq hv.sign_eq) hv.sign_eq
  | asr =>
      cases hsrc
      obtain ⟨c', hrun, -, hcodes⟩ := SetsCodes.setPSWc
        (decide (s.cpu.getRegister nr &&& 1 ≠ 0)) s
      have hcarry := (congrArg ConditionCodes.c hcodes).trans
        (congrArg (fun z : Word => decide (z ≠ 0)) hv.odd_iff)
      have hvalue : asrValue (s.cpu.getRegister nr) wordMode =
          withLow wordMode (s.cpu.getRegister nr)
            (asrValue (s.cpu.getRegister nr &&& wordModeMask wordMode)
              wordMode) := by
        cases wordMode with
        | wmByte =>
            exact asr_withLow _
        | wmWord =>
            rw [← hv.eq_word]
            exact eq_withLow_word _ _
      obtain ⟨t, ht, hleaves⟩ := register_then_flags nr
        (s := s.withCpu c')
        ((SetsCodes.setNZ _ wordMode).bind .setVFromNC) hvalue (.refl _)
        fun h => codes_congr h.sign_eq h.isZero_eq
          (congrArg₂ (· ^^ ·) h.sign_eq hcarry) hcarry
      have hprogram : asr.execute srcMode srcReg 0 nr wordMode s = (do
          setPSWc (decide (s.cpu.getRegister nr &&& 1 ≠ 0))
          setRegister nr (asrValue (s.cpu.getRegister nr) wordMode)
          setNZ (asrValue (s.cpu.getRegister nr) wordMode) wordMode
          setVFromNC
          pure true : Exec δ Bool) s :=
        rfl
      exact ⟨t, hprogram.trans ((bind_of_ok hrun).trans ht), hleaves⟩
  | asl =>
      cases hsrc
      refine flags_then_register ((SetsCodes.setNZ _ _).bind
        ((SetsCodes.setPSWc _).bind .setVFromNC))
        (kept_withLow _ _ _) (hv.double.trans (sameLow_mask _).symm)
        fun h => ?_
      exact codes_congr h.sign_eq h.isZero_eq
        (congrArg₂ (· ^^ ·) h.sign_eq hv.sign_eq) hv.sign_eq
  | sxt =>
      cases hword trivial
      cases hsrc
      obtain ⟨f, hf, hcodes⟩ := flags_sets (i := sxt) hword 0
        (s.cpu.getRegister nr &&& wordModeMask .wmWord) s.cpu.conditionCodes
      exact register_then_flags _ hf (eq_withLow_word _ _) (.refl _) fun _ =>
        hcodes

end Modification

end Registers

section Memory

namespace Ram

/-- A byte or a word of memory. -/
def readAt (r : Ram) (wordMode : WordMode) (p : PhysAddr) : Word :=
  match wordMode with
  | .wmByte => (r.readByte p).setWidth 16
  | .wmWord => r.readWord p

def writeAt (r : Ram) (wordMode : WordMode) (p : PhysAddr) (v : Word) : Ram :=
  match wordMode with
  | .wmByte => r.writeByte p (v.setWidth 8)
  | .wmWord => r.writeWord p v

variable (r : Ram) (wordMode : WordMode) (p : PhysAddr) (v : Word)

theorem readAt_writeAt :
    (r.writeAt wordMode p v).readAt wordMode p =
      v &&& wordModeMask wordMode := by
  cases wordMode with
  | wmWord =>
      rw [mask_word]
      exact r.readWord_writeWord v
  | wmByte =>
      have hbyte : (r.writeByte p (v.setWidth 8)).readByte p = v.setWidth 8 :=
        Function.update_self _ _ _
      change ((r.writeByte p (v.setWidth 8)).readByte p).setWidth 16 = _
      rw [hbyte]
      ext i hi
      interval_cases i <;> simp [wordModeMask]

theorem writeAt_of_ne
    {q : Nat} (hq : q ≠ p.toNat) (hnext : wordMode = .wmWord → q ≠ p.toNat + 1) :
    (r.writeAt wordMode p v).m q = r.m q := by
  cases wordMode with
  | wmWord =>
      change Function.update (Function.update r.m _ _) _ _ q = _
      rw [Function.update_of_ne (hnext rfl), Function.update_of_ne hq]
  | wmByte =>
      exact Function.update_of_ne hq _ _

theorem fits_readAt :
    fits (r.readAt wordMode p) wordMode = true := by
  cases wordMode with
  | wmWord =>
      exact fits_word _
  | wmByte =>
      have hlt := (r.readByte p).isLt
      simp only [fits, readAt, reduceCtorEq, decide_false, Bool.or_false,
        decide_eq_true_eq, BitVec.lt_def, BitVec.toNat_setWidth]
      change _ < 256
      omega

theorem readAt_mask :
    r.readAt wordMode p &&& wordModeMask wordMode = r.readAt wordMode p := by
  cases wordMode with
  | wmWord =>
      exact mask_word _
  | wmByte =>
      change (r.readByte p).setWidth 16 &&& 0xff = (r.readByte p).setWidth 16
      ext i hi
      interval_cases i <;> simp

end Ram

/-- The state after a write of a byte or a word that memory served. -/
def Machine.storedAt (s : Machine δ) (wordMode : WordMode) (p : PhysAddr)
    (page : PageIndex) (v : Word) : Machine δ :=
  { s with
    mmu := s.mmu.setPageWrittenTo page
    ram := s.ram.writeAt wordMode p v }

variable [UnibusDevices δ]

section References

variable {s : Machine δ} {runMode : RunMode} {a : Word} {space : Space}
variable {p : PhysAddr} {page : PageIndex} {wordMode : WordMode}

theorem Bus.read_ramAt
    (h : s.target runMode a space = .ram p page)
    (haligned : wordMode = .wmWord → p.toNat % 2 = 0) :
    Bus.read a wordMode runMode space s =
      .ok (s.ram.readAt wordMode p) (s.accessed page) := by
  cases wordMode with
  | wmWord =>
      rw [Bus.read_ram h, if_pos (haligned rfl)]
      rfl
  | wmByte =>
      rw [Bus.read_eq, h]
      rfl

theorem Bus.write_ramAt
    (v : Word) (h : s.target runMode a space = .ram p page)
    (haligned : wordMode = .wmWord → p.toNat % 2 = 0) :
    Bus.write a wordMode v runMode space s =
      .ok false (s.storedAt wordMode p page v) := by
  cases wordMode with
  | wmWord =>
      rw [Bus.write_ram v h, if_pos (haligned rfl)]
      rfl
  | wmByte =>
      rw [Bus.write_eq, h]
      rfl

end References

/-- The destination of an instruction is the byte or word at p of memory,
which may be read and written. -/
structure InRam (mode reg : RegNr) (wordMode : WordMode) (s : Machine δ)
    (p : PhysAddr) : Prop where
  mode_ne : mode ≠ 0
  reached : ∃ operand result t page page',
    destination mode reg wordMode s = .ok (operand, result) t ∧
      t.target operand.runMode operand.addr operand.space = .ram p page ∧
      t.target result.runMode result.addr result.space = .ram p page'
  aligned : wordMode = .wmWord → p.toNat % 2 = 0

omit [UnibusDevices δ] in
/-- What an instruction leaves in memory: the result at p, and the rest as it
was. -/
structure LeavesInRam (p : PhysAddr) (wordMode : WordMode) (r : Word)
    (codes : ConditionCodes) (s t : Machine δ) : Prop where
  value : t.ram.readAt wordMode p = r &&& wordModeMask wordMode
  others : ∀ q, q ≠ p.toNat → (wordMode = .wmWord → q ≠ p.toNat + 1) →
    t.ram.m q = s.ram.m q
  codes : t.cpu.conditionCodes = codes

omit [UnibusDevices δ] in
theorem leavesInRam_of_write
    {p : PhysAddr} {wordMode : WordMode} {r : Word} {codes : ConditionCodes}
    {s t : Machine δ} (hram : t.ram = s.ram.writeAt wordMode p r)
    (hcodes : t.cpu.conditionCodes = codes) :
    LeavesInRam p wordMode r codes s t where
  value := by
    rw [hram, Ram.readAt_writeAt]
  others q hq hnext := by
    rw [hram, Ram.writeAt_of_ne _ _ _ _ hq hnext]
  codes := hcodes

namespace Modification

variable (i : Modification) {src v : Word} {wordMode : WordMode} {p : PhysAddr}

/-- A result that goes to memory. -/
theorem writeBack_ram
    {i : Modification} (hword : i.WordOnly → wordMode = .wmWord)
    {result : DestinationRef} {page : PageIndex} {s : Machine δ}
    (htarget : s.target result.runMode result.addr result.space = .ram p page)
    (haligned : wordMode = .wmWord → p.toNat % 2 = 0) :
    ∃ t, i.writeBack src wordMode result v s = .ok true t ∧
      t.ram = s.ram.writeAt wordMode p
        (i.result wordMode src v s.cpu.conditionCodes) ∧
      t.cpu.conditionCodes = i.codes wordMode src v s.cpu.conditionCodes := by
  obtain ⟨c, hearly, -, hearlyCodes⟩ := i.early_sets v s
  have hwrite : result.write wordMode
      (i.result wordMode src v s.cpu.conditionCodes) (s.withCpu c) =
        .ok false ((s.withCpu c).storedAt wordMode p page
          (i.result wordMode src v s.cpu.conditionCodes)) :=
    Bus.write_ramAt _ htarget haligned
  obtain ⟨f, hf, hcodes⟩ := flags_sets hword src v s.cpu.conditionCodes
  obtain ⟨c', hflags, -, hflagCodes⟩ := hf ((s.withCpu c).storedAt wordMode p
    page (i.result wordMode src v s.cpu.conditionCodes))
  refine ⟨((s.withCpu c).storedAt wordMode p page
    (i.result wordMode src v s.cpu.conditionCodes)).withCpu c', ?_, rfl, ?_⟩
  · unfold writeBack
    rw [cpuView_bind_apply, bind_of_ok hearly, bind_of_ok hwrite]
    exact bind_of_ok hflags
  · refine hflagCodes.trans (Eq.trans ?_ hcodes)
    exact congrArg f hearlyCodes

/-- The memory form of an instruction. -/
theorem execute_memory
    (srcMode srcReg : RegNr) {mode reg : RegNr}
    (hword : i.WordOnly → wordMode = .wmWord) {s₀ s : Machine δ}
    (hsrc : i.source srcMode srcReg wordMode s₀ = .ok src s)
    (hram : InRam mode reg wordMode s p) :
    ∃ t, i.execute srcMode srcReg mode reg wordMode s₀ = .ok true t ∧
      LeavesInRam p wordMode
        (i.result wordMode src (s.ram.readAt wordMode p) s.cpu.conditionCodes)
        (i.codes wordMode src (s.ram.readAt wordMode p) s.cpu.conditionCodes)
        s₀ t := by
  have hsource := (i.fetchesFrom_source (s := s₀) srcMode srcReg
    wordMode).ok (.refl s₀) hsrc
  obtain ⟨operand, result, t, page, page', hdest, htarget, htarget'⟩ :=
    hram.reached
  obtain ⟨hfetch, -⟩ := destination_returns hdest
  have hread : operand.read wordMode t =
      .ok (s.ram.readAt wordMode p) (t.accessed page) := by
    rw [← hfetch.ram]
    exact Bus.read_ramAt htarget hram.aligned
  have hreads := Machine.FetchesTo.of_reads (Bus.read_returns hread)
  obtain ⟨u, hrun, huram, hucodes⟩ := writeBack_ram hword
    ((hreads.target_eq _ _ _).trans htarget') hram.aligned
  rw [(hfetch.trans hreads).conditionCodes_eq] at huram hucodes
  refine ⟨u, ?_, leavesInRam_of_write ?_ hucodes⟩
  · rw [i.execute_eq_readModifyWrite wordMode srcMode srcReg reg hword
      hram.mode_ne, bind_of_ok hsrc]
    unfold readModifyWrite
    rw [bind_of_ok hdest]
    dsimp only
    rw [bind_of_ok hread, s.ram.fits_readAt]
    exact hrun
  · rw [huram, hreads.ram, hfetch.ram, hsource.ram]

end Modification

end Memory

section Forms

/-- The instructions that have a register form and a memory form. -/
inductive OperandInstruction where
  | clr
  | tst
  | modify (i : Modification)
deriving DecidableEq, Repr

variable [UnibusDevices δ]

namespace OperandInstruction

def WordOnly : OperandInstruction → Prop
  | modify i => i.WordOnly
  | _ => False

def execute (i : OperandInstruction) (srcMode srcReg dstMode dstReg : RegNr)
    (wordMode : WordMode) : Exec δ Bool :=
  match i with
  | clr => opClr dstMode dstReg wordMode
  | tst => opTst dstMode dstReg wordMode
  | modify i => i.execute srcMode srcReg dstMode dstReg wordMode

/-- The source operand; zero for the instructions that have none. -/
def source (i : OperandInstruction) (srcMode srcReg : RegNr)
    (wordMode : WordMode) : Exec δ Word :=
  match i with
  | modify i => i.source srcMode srcReg wordMode
  | _ => pure 0

/-- The value in the destination afterwards. -/
def result (i : OperandInstruction) (wordMode : WordMode) (src v : Word)
    (codes : ConditionCodes) : Word :=
  match i with
  | clr => 0
  | tst => v
  | modify i => i.result wordMode src v codes

/-- The condition codes afterwards. -/
def codes (i : OperandInstruction) (wordMode : WordMode) (src v : Word)
    (old : ConditionCodes) : ConditionCodes :=
  match i with
  | clr => ⟨false, true, false, false⟩
  | tst => ⟨sign v wordMode, isZero v wordMode, false, false⟩
  | modify i => i.codes wordMode src v old

variable {wordMode : WordMode}

omit [UnibusDevices δ] in
/-- The flags of CLR. -/
theorem clr_sets :
    SetsCodes (fun _ => ⟨false, true, false, false⟩) (do
      setPSWn false
      setPSWz true
      setPSWv false
      setPSWc false : Exec δ Unit) :=
  (SetsCodes.setPSWn false).bind ((SetsCodes.setPSWz true).bind
    ((SetsCodes.setPSWv false).bind (.setPSWc false)))

omit [UnibusDevices δ] in
/-- The flags of TST. -/
theorem tst_sets
    (wordMode : WordMode) (v : Word) :
    SetsCodes (fun _ => ⟨sign v wordMode, isZero v wordMode, false, false⟩) (do
      setPSWFlagsNzv v wordMode
      setPSWc false : Exec δ Unit) :=
  (SetsCodes.setPSWFlagsNzv v wordMode).bind (.setPSWc false)

section Register

variable (nr : RegNr) (s : Machine δ)

theorem clr_register :
    ∃ t, opClr 0 nr wordMode s = .ok true t ∧
      LeavesInRegister nr wordMode (s.cpu.getRegister nr) 0
        ⟨false, true, false, false⟩ t := by
  cases wordMode with
  | wmByte =>
      refine register_then_flags _ clr_sets (y := 0) ?_ (.refl _) fun _ => rfl
      exact BitVec.zero_or.symm
  | wmWord =>
      obtain ⟨t, ht, hleaves⟩ := register_then_flags nr (s := s)
        clr_sets (eq_withLow_word (s.cpu.getRegister nr) 0) (.refl _)
        fun _ => rfl
      exact ⟨t, ht, hleaves⟩

theorem tst_register :
    ∃ t, opTst 0 nr wordMode s = .ok true t ∧
      LeavesInRegister nr wordMode (s.cpu.getRegister nr)
        (s.cpu.getRegister nr &&& wordModeMask wordMode)
        ⟨sign (s.cpu.getRegister nr &&& wordModeMask wordMode) wordMode,
          isZero (s.cpu.getRegister nr &&& wordModeMask wordMode) wordMode,
          false, false⟩ t := by
  obtain ⟨c, hrun, honly, hcodes⟩ := tst_sets wordMode
    (s.cpu.getRegister nr &&& wordModeMask wordMode) s
  refine ⟨s.withCpu c, ?_, leavesInRegister_of_eq (honly.getRegister_eq nr)
    (eq_withLow rfl) (sameLow_mask _).symm hcodes⟩
  change (setPSWFlagsNzv _ wordMode >>= fun _ => do
    setPSWc false
    pure true) s = _
  rw [← bind_assoc]
  exact bind_of_ok hrun

end Register

section Memory

variable {mode reg : RegNr} {s : Machine δ} {p : PhysAddr}

theorem clr_memory
    (hram : InRam mode reg wordMode s p) :
    ∃ t, opClr mode reg wordMode s = .ok true t ∧
      LeavesInRam p wordMode 0 ⟨false, true, false, false⟩ s t := by
  obtain ⟨operand, result, t, page, page', hdest, -, htarget⟩ := hram.reached
  obtain ⟨hfetch, addr, -, rfl⟩ := destination_returns hdest
  have hgam : getGAMAddress mode reg wordMode s =
      .ok (DestinationRef.operand ⟨addr, s.cpu.getPSWRunmode,
        (gamSpaces mode reg).1⟩ wordMode 0) t := by
    unfold getGAMAddress
    rw [getGAM_address reg wordMode hram.mode_ne, bind_of_ok hdest]
    rfl
  have hwrite := Bus.write_ramAt 0 htarget hram.aligned
  obtain ⟨c, hflags, -, hcodes⟩ := clr_sets (t.storedAt wordMode p page' 0)
  refine ⟨(t.storedAt wordMode p page' 0).withCpu c, ?_,
    leavesInRam_of_write (congrArg (Ram.writeAt · wordMode p 0) hfetch.ram)
      hcodes⟩
  unfold opClr
  rw [if_neg fun h => hram.mode_ne h.2, bind_assoc, bind_of_ok hgam,
    putGAM_memory _ 0 (fits_zero wordMode),
    writeOperand_bind 0 0 hfetch.getPSWRunmode_eq]
  exact (bind_of_ok hwrite).trans (bind_of_ok hflags)

theorem tst_memory
    (hram : InRam mode reg wordMode s p) :
    ∃ t, opTst mode reg wordMode s = .ok true t ∧
      LeavesInRam p wordMode (s.ram.readAt wordMode p)
        ⟨sign (s.ram.readAt wordMode p) wordMode,
          isZero (s.ram.readAt wordMode p) wordMode, false, false⟩ s t := by
  obtain ⟨operand, result, t, page, page', hdest, htarget, -⟩ := hram.reached
  obtain ⟨hfetch, -⟩ := destination_returns hdest
  have hread : operand.read wordMode t =
      .ok (s.ram.readAt wordMode p) (t.accessed page) := by
    rw [← hfetch.ram]
    exact Bus.read_ramAt htarget hram.aligned
  have hgam : getGAM mode reg wordMode true s =
      .ok (result.operand wordMode (s.ram.readAt wordMode p))
        (t.accessed page) := by
    rw [getGAM_memory reg wordMode hram.mode_ne, bind_of_ok hdest]
    dsimp only
    rw [bind_of_ok hread,
      show (decide (s.ram.readAt wordMode p < 256) ||
        decide (wordMode = .wmWord)) = true from s.ram.fits_readAt wordMode p]
    rfl
  obtain ⟨c, hflags, -, hcodes⟩ := tst_sets wordMode
    (s.ram.readAt wordMode p) (t.accessed page)
  refine ⟨(t.accessed page).withCpu c, ?_, ⟨?_, fun q _ _ => ?_, hcodes⟩⟩
  · unfold opTst
    rw [bind_of_ok hgam, ← bind_assoc]
    exact bind_of_ok hflags
  · rw [Ram.readAt_mask]
    exact congrArg (Ram.readAt · wordMode p) hfetch.ram
  · exact congrArg (Ram.m · q) hfetch.ram

end Memory

/-- The register form of each instruction. -/
theorem execute_register
    (i : OperandInstruction) (srcMode srcReg : RegNr) (nr : RegNr)
    (hword : i.WordOnly → wordMode = .wmWord) {s₀ s : Machine δ} {src : Word}
    (hsrc : i.source srcMode srcReg wordMode s₀ = .ok src s) :
    ∃ t, i.execute srcMode srcReg 0 nr wordMode s₀ = .ok true t ∧
      LeavesInRegister nr wordMode (s.cpu.getRegister nr)
        (i.result wordMode src (s.cpu.getRegister nr &&& wordModeMask wordMode)
          s.cpu.conditionCodes)
        (i.codes wordMode src
          (s.cpu.getRegister nr &&& wordModeMask wordMode)
          s.cpu.conditionCodes) t := by
  cases i with
  | clr =>
      cases hsrc
      exact clr_register nr _
  | tst =>
      cases hsrc
      exact tst_register nr _
  | modify i =>
      exact i.execute_register srcMode srcReg hword hsrc

/-- The memory form of each instruction. -/
theorem execute_memory
    (i : OperandInstruction) (srcMode srcReg : RegNr) {mode reg : RegNr}
    (hword : i.WordOnly → wordMode = .wmWord) {s₀ s : Machine δ} {src : Word}
    {p : PhysAddr} (hsrc : i.source srcMode srcReg wordMode s₀ = .ok src s)
    (hram : InRam mode reg wordMode s p) :
    ∃ t, i.execute srcMode srcReg mode reg wordMode s₀ = .ok true t ∧
      LeavesInRam p wordMode
        (i.result wordMode src (s.ram.readAt wordMode p) s.cpu.conditionCodes)
        (i.codes wordMode src (s.ram.readAt wordMode p) s.cpu.conditionCodes)
        s₀ t := by
  cases i with
  | clr =>
      cases hsrc
      exact clr_memory hram
  | tst =>
      cases hsrc
      exact tst_memory hram
  | modify i =>
      exact i.execute_memory srcMode srcReg hword hsrc hram

end OperandInstruction

/-- On a register and on a location of memory that hold the same operand, with
the same condition codes before, an instruction returns with the same result
and the same condition codes.  It leaves the rest of the register and the rest
of memory as they were. -/
theorem register_and_memory_form_agree
    (i : OperandInstruction) {wordMode : WordMode}
    (hword : i.WordOnly → wordMode = .wmWord) {src : Word}
    {srcMode srcReg : RegNr} (nr : RegNr) {s₀ s : Machine δ}
    (hsrc : i.source srcMode srcReg wordMode s₀ = .ok src s)
    {srcMode' srcReg' mode reg : RegNr} {s₀' s' : Machine δ} {p : PhysAddr}
    (hsrc' : i.source srcMode' srcReg' wordMode s₀' = .ok src s')
    (hram : InRam mode reg wordMode s' p)
    (hvalue : s.cpu.getRegister nr &&& wordModeMask wordMode =
      s'.ram.readAt wordMode p)
    (hcodes : s.cpu.conditionCodes = s'.cpu.conditionCodes) :
    ∃ t t',
      i.execute srcMode srcReg 0 nr wordMode s₀ = .ok true t ∧
      i.execute srcMode' srcReg' mode reg wordMode s₀' = .ok true t' ∧
      t.cpu.getRegister nr &&& wordModeMask wordMode =
        t'.ram.readAt wordMode p ∧
      t.cpu.conditionCodes = t'.cpu.conditionCodes ∧
      t.cpu.getRegister nr &&& ~~~wordModeMask wordMode =
        s.cpu.getRegister nr &&& ~~~wordModeMask wordMode ∧
      ∀ q, q ≠ p.toNat → (wordMode = .wmWord → q ≠ p.toNat + 1) →
        t'.ram.m q = s₀'.ram.m q := by
  obtain ⟨t, ht, hreg⟩ := i.execute_register srcMode srcReg nr hword hsrc
  obtain ⟨t', ht', hmem⟩ := i.execute_memory srcMode' srcReg' hword hsrc' hram
  rw [hvalue, hcodes] at hreg
  exact ⟨t, t', ht, ht', Eq.trans hreg.low hmem.value.symm,
    hreg.codes.trans hmem.codes.symm, hreg.high, hmem.others⟩

/-- A machine with 0o1005 in R1 and in word 0 of memory. -/
def sameOperandMachine : Machine LineClock :=
  (bareMachine 0o20000 [(0, 0o1005)]).withPSW fun c => c.setRegister 1 0o1005

/-- NEGB R1 and NEGB (R0). -/
theorem negb_forms_agree :
    ∃ t t',
      opNeg 0 1 .wmByte sameOperandMachine = .ok true t ∧
      opNeg 1 0 .wmByte sameOperandMachine = .ok true t' ∧
      t.cpu.getRegister 1 &&& 0xff = t'.ram.readAt .wmByte 0 ∧
      t.cpu.conditionCodes = t'.cpu.conditionCodes := by
  have hsrc : (OperandInstruction.modify .neg).source 0 0 .wmByte
      sameOperandMachine = .ok 0 sameOperandMachine := rfl
  have hram : InRam 1 0 .wmByte sameOperandMachine 0 :=
    ⟨by decide, ⟨_, _, _, _, _, rfl, rfl, rfl⟩, fun h => by cases h⟩
  obtain ⟨t, t', ht, ht', hvalue, hcodes, -⟩ :=
    register_and_memory_form_agree (.modify .neg) (fun h => h.elim) 1 hsrc hsrc
      hram (by decide) rfl
  exact ⟨t, t', ht, ht', hvalue, hcodes⟩

end Forms

end KekPdp11
