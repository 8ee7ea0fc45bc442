import KekPdp11.Disassembler
import KekPdp11.Decoding

/-!
# KEK PDP-11: lengths of instructions

The disassembler shows the words that an instruction is made of.  They are to be
the words that executing it fetches through PC: the instruction word, and one
for each operand whose addressing mode takes the next word.

**Result.**  The disassembler takes the low bits of SOB and of MARK, which are a
number, for an operand.  It shows one word too many when they look like an
operand with a next word, and the right words otherwise.
-/

namespace KekPdp11

open StateExcept

section Shown

variable {δ : Type} {s : Machine δ}

/-- The number in the low bits looks like an operand with a next word. -/
def Operation.LooksLonger : Operation → Prop
  | sob _ dst => (OperandField.ofBits (dst.setWidth 6)).TakesNextWord
  | mark dst => (OperandField.ofBits (dst.setWidth 6)).TakesNextWord
  | _ => False

/-- An operand is shown with a next word where its addressing mode takes one,
and is as long. -/
theorem addressingToString_part
    {pc nextWord : Word}
    (hpeek : peekCurrent pc s = some nextWord) (bits : BitVec 6)
    (wordMode : WordMode) :
    (addressingToString bits pc wordMode s).instructionPart =
        (if (OperandField.ofBits bits).TakesNextWord then some nextWord
        else none) ∧
      (addressingToString bits pc wordMode s).length =
        if (OperandField.ofBits bits).TakesNextWord then 4 else 2 := by
  unfold addressingToString OperandField.ofBits OperandField.TakesNextWord
  rw [hpeek]
  dsimp only
  generalize (bits.setWidth 3 : RegNr) = reg
  generalize ((bits >>> 3).setWidth 3 : RegNr) = mode
  by_cases hreg : reg = 7#3
  · rcases regNr_cases mode with rfl | rfl | rfl | rfl | rfl | rfl | rfl | rfl <;>
      simp [hreg, memoryOperand]
  · rcases regNr_cases mode with rfl | rfl | rfl | rfl | rfl | rfl | rfl | rfl <;>
      simp [hreg, memoryOperand]

theorem addressingToString_words
    {pc nextWord : Word}
    (hpeek : peekCurrent pc s = some nextWord) (bits : BitVec 6)
    (wordMode : WordMode) :
    (addressingToString bits pc wordMode s).instructionPart.toList.length =
      (OperandField.ofBits bits).words := by
  rw [(addressingToString_part hpeek bits wordMode).1]
  unfold OperandField.words
  split <;> rfl

theorem ofBits_dst
    (instr : Word) :
    OperandField.ofBits (instr.setWidth 6) = dstField instr := by
  unfold OperandField.ofBits dstField field
  congr 1
  · ext i hi
    simp
    omega
  · ext i hi
    simp

theorem ofBits_src
    (instr : Word) :
    OperandField.ofBits ((instr >>> 6).setWidth 6) = srcField instr := by
  unfold OperandField.ofBits srcField field
  congr 1
  · ext i hi
    simp [← Nat.add_assoc]
    omega
  · ext i hi
    simp

/-- The words of conditional branches have a name. -/
theorem branchName_isSome
    (cbOpcode : Byte) :
    (branchName cbOpcode).isSome = isBranch cbOpcode := by
  revert cbOpcode
  decide +kernel

theorem disassembleBranch_of_text
    {addr instr : Word} {d : Disassembling} (h : d.text.isSome) :
    disassembleBranch addr instr d = d := by
  unfold disassembleBranch
  rw [if_pos h]

theorem disassembleOthers_of_text
    {addr instr : Word} {d : Disassembling} (h : d.text.isSome) :
    disassembleOthers addr instr s d = d := by
  unfold disassembleOthers
  rw [if_pos h]

/-- The next word of the destination, as it is shown. -/
def shownDst (addr instr : Word) (s : Machine δ) : List Word :=
  (addressingToString (instr.setWidth 6) (addr + 2) (instrWordMode instr)
    s).instructionPart.toList

theorem shownDst_length
    {addr nextWord : Word} (hpeek : peekCurrent (addr + 2) s = some nextWord)
    (instr : Word) :
    (shownDst addr instr s).length = (dstField instr).words := by
  unfold shownDst
  rw [addressingToString_words hpeek, ofBits_dst]

/-- The last part adds the next word of JMP and JSR only. -/
theorem disassembleOthers_words
    (addr instr : Word) {d : Disassembling} (h : d.text = none) :
    (disassembleOthers addr instr s d).instructionWords =
      d.instructionWords ++
        (if instr &&& ~~~0b111111#16 = 0b0000000001000000 then
          shownDst addr instr s
        else []) ++
        (if instr &&& 0b1111111000000000 = 0b0000100000000000 then
          shownDst addr instr s
        else []) := by
  unfold disassembleOthers shownDst
  rw [if_neg (by rw [h]; decide)]
  cases wholeWordName instr <;>
  · simp only [apply_ite Disassembling.instructionWords, withDestination,
      ite_self]
    split <;> split <;> simp only [List.append_nil]

/-- A word that is known under a mask is known under each part of it. -/
theorem masked_ne
    {instr mask value part other : Word} (h : instr &&& mask = value)
    (hpart : mask &&& part = part) (hne : value &&& part ≠ other) :
    instr &&& part ≠ other := by
  rw [← hpart, ← BitVec.and_assoc, h]
  exact hne

/-- The high byte of a word that is known under a mask. -/
theorem high_of_masked
    {instr mask value : Word} (h : instr &&& mask = value) :
    (instr >>> 8) &&& (mask >>> 8) = value >>> 8 := by
  rw [← BitVec.ushiftRight_and_distrib, h]

/-- The words that the last part shows. -/
def lastWords (instr : Word) : Nat :=
  1 + (if instr &&& ~~~0b111111#16 = 0b0000000001000000 then
      (dstField instr).words
    else 0) +
    (if instr &&& 0b1111111000000000 = 0b0000100000000000 then
      (dstField instr).words
    else 0)

theorem lastWords_eq_one
    {instr : Word} (hjmp : instr &&& ~~~0b111111#16 ≠ 0b0000000001000000)
    (hjsr : instr &&& 0b1111111000000000 ≠ 0b0000100000000000) :
    lastWords instr = 1 := by
  unfold lastWords
  rw [if_neg hjmp, if_neg hjsr]

/-- EMT and TRAP are known by their high byte. -/
theorem lastWords_of_high
    {instr high : Word} (h : instr >>> 8 = high)
    (hjmp : high &&& (~~~0b111111#16 >>> 8) ≠ 0b0000000001000000#16 >>> 8)
    (hjsr : high &&& (0b1111111000000000#16 >>> 8) ≠
      0b0000100000000000#16 >>> 8) :
    lastWords instr = 1 := by
  rw [← h] at hjmp hjsr
  exact lastWords_eq_one (fun h => hjmp (high_of_masked h))
    fun h => hjsr (high_of_masked h)

theorem decodeMisc_words
    {instr : Word} {o : Operation} (h : decodeMisc instr = some o) :
    lastWords instr = o.fetchedWords := by
  unfold decodeMisc at h
  split at h
  · next hemt =>
      cases h
      exact lastWords_of_high hemt (by decide) (by decide)
  split at h
  · next htrap =>
      cases h
      exact lastWords_of_high htrap (by decide) (by decide)
  split at h
  · next hjmp =>
      split at h
      · cases h
      · cases h
        unfold lastWords
        rw [if_pos hjmp, if_neg (masked_ne hjmp (by decide) (by decide))]
        rfl
  split at h
  · next hjmp hjsr =>
      split at h
      · cases h
      · cases h
        unfold lastWords
        rw [if_neg hjmp, if_pos hjsr]
        rfl
  split at h
  · next hjmp hjsr _ =>
      cases h
      exact lastWords_eq_one hjmp hjsr
  · cases h

theorem conditionCodes_words
    {instr : Word}
    (h : instr = 0b0000000010100000 ∨ instr = 0b0000000010110000 ∨
      instr &&& ~~~7#16 = 0o000230 ∨ instr &&& ~~~31#16 = 0b10100000) :
    lastWords instr = 1 := by
  rcases h with rfl | rfl | hspl | hcodes
  · rfl
  · rfl
  · exact lastWords_eq_one (masked_ne hspl (by decide) (by decide))
      (masked_ne hspl (by decide) (by decide))
  · exact lastWords_eq_one (masked_ne hcodes (by decide) (by decide))
      (masked_ne hcodes (by decide) (by decide))

/-- The last part shows the words of every instruction that the last
dispatchers know and that is no branch. -/
theorem decodeRest_words
    {instr : Word} {o : Operation}
    (hbranch : isBranch ((instr >>> 8).setWidth 8) = false)
    (h : decodeRest instr = some o) :
    lastWords instr = o.fetchedWords := by
  unfold decodeRest at h
  rw [hbranch, if_neg (by decide)] at h
  split at h
  · next hcodes =>
      cases h
      exact conditionCodes_words hcodes
  split at h
  · next hle =>
      obtain ⟨op, -, rfl⟩ := Option.map_eq_some_iff.mp h
      rcases le_seven_cases hle with
        rfl | rfl | rfl | rfl | rfl | rfl | rfl | rfl <;> rfl
  · exact decodeMisc_words h

/-- None of the last dispatchers' instructions has a number in its low bits
that is taken for an operand. -/
theorem decodeRest_looks
    {instr : Word} {o : Operation} (h : decodeRest instr = some o) :
    ¬ o.LooksLonger := by
  unfold decodeRest decodeMisc at h
  repeat' split at h
  all_goals
    first
    | cases h
      exact id
    | cases h
    | obtain ⟨op, -, rfl⟩ := Option.map_eq_some_iff.mp h
      exact id

/-- The words that are shown of an instruction. -/
def shownWords (addr instr : Word) (s : Machine δ) : List Word :=
  (disassembleOthers addr instr s
    (disassembleBranch addr instr
      (disassembleOperands addr instr s))).instructionWords

theorem disassemble_shows
    {addr instr : Word} (hpeek : peekCurrent addr s = some instr) :
    ∃ d, disassemble addr s = some d ∧
      d.instructionValues = shownWords addr instr s := by
  unfold disassemble
  rw [hpeek]
  exact ⟨_, rfl, rfl⟩

theorem shownWords_of_text
    {addr instr : Word} (h : (disassembleOperands addr instr s).text.isSome) :
    shownWords addr instr s =
      (disassembleOperands addr instr s).instructionWords := by
  unfold shownWords
  rw [disassembleBranch_of_text h, disassembleOthers_of_text h]

/-- What the first part leaves of a word that it does not know. -/
def Disassembling.Unknown (instr : Word) (d : Disassembling) : Prop :=
  d.text = none ∧ d.name = none ∧ d.instructionWords = [instr]

theorem shownWords_rest
    {addr instr nextWord : Word}
    (hpeek : peekCurrent (addr + 2) s = some nextWord)
    (hunknown : (disassembleOperands addr instr s).Unknown instr)
    {o : Operation} (h : decodeRest instr = some o) :
    (shownWords addr instr s).length = o.fetchedWords := by
  obtain ⟨htext, hname, hwords⟩ := hunknown
  have hnamed := branchName_isSome ((instr >>> 8).setWidth 8)
  unfold shownWords
  cases hbranch : isBranch ((instr >>> 8).setWidth 8) with
  | true =>
      rw [hbranch] at hnamed
      obtain ⟨name, hsome⟩ := Option.isSome_iff_exists.mp hnamed
      have hshown :
          (disassembleBranch addr instr
            (disassembleOperands addr instr s)).text.isSome := by
        unfold disassembleBranch
        rw [if_neg (by rw [htext]; decide), hsome]
        rfl
      rw [disassembleOthers_of_text hshown]
      unfold disassembleBranch
      rw [if_neg (by rw [htext]; decide)]
      unfold decodeRest at h
      rw [if_pos hbranch] at h
      cases h
      rw [hwords]
      rfl
  | false =>
      rw [hbranch] at hnamed
      have hnone := Option.isSome_eq_false_iff.mp hnamed
      have hbranched :
          disassembleBranch addr instr (disassembleOperands addr instr s) =
            disassembleOperands addr instr s := by
        unfold disassembleBranch
        rw [if_neg (by rw [htext]; decide), Option.isNone_iff_eq_none.mp hnone,
          hname]
        generalize disassembleOperands addr instr s = d at htext hname
        cases d
        cases htext
        cases hname
        rfl
      rw [hbranched, disassembleOthers_words addr instr htext, hwords,
        ← decodeRest_words hbranch h]
      have hdst := shownDst_length hpeek instr
      unfold lastWords
      split <;> split <;> simp [hdst] <;> omega

theorem field_of_masked
    {instr mask value : Word} (h : instr &&& mask = value)
    (hmask : field mask 12 = BitVec.allOnes 3) :
    field instr 12 = field value 12 := by
  rw [← h]
  unfold field at hmask ⊢
  rw [BitVec.ushiftRight_and_distrib, BitVec.setWidth_and, hmask,
    BitVec.and_allOnes]

theorem field_of_high
    {instr high : Word} (h : instr >>> 8 = high) :
    field instr 12 = field high 4 := by
  rw [← h]
  unfold field
  rw [← BitVec.shiftRight_add]

/-- The last dispatchers know no word with bits 12 to 14 set. -/
theorem decodeRest_seven
    {instr : Word} (h : field instr 12 = 7) :
    decodeRest instr = none := by
  have hbranch : isBranch ((instr >>> 8).setWidth 8) = false := by
    have hhigh : (((instr >>> 8).setWidth 8 : Byte) >>> 4).setWidth 3 = 7#3 := by
      refine Eq.trans ?_ h
      unfold field
      ext i hi
      simp [← Nat.add_assoc, show 4 + i < 8 by omega]
    generalize ((instr >>> 8).setWidth 8 : Byte) = cbOpcode at hhigh ⊢
    revert cbOpcode
    decide +kernel
  have hmasked : ∀ {mask value : Word}, field mask 12 = BitVec.allOnes 3 →
      field value 12 ≠ 7 → instr &&& mask ≠ value := by
    intro mask value hmask hvalue hinstr
    rw [field_of_masked hinstr hmask] at h
    exact hvalue h
  have hhigh : ∀ {high : Word}, field high 4 ≠ 7 → instr >>> 8 ≠ high := by
    intro high hne hinstr
    rw [field_of_high hinstr] at h
    exact hne h
  unfold decodeRest decodeMisc
  rw [hbranch, if_neg (by decide), if_neg, if_neg,
    if_neg (hhigh (by decide)), if_neg (hhigh (by decide)),
    if_neg (hmasked (by decide) (by decide)),
    if_neg (hmasked (by decide) (by decide)),
    if_neg (hmasked (by decide) (by decide))]
  · intro hle
    rcases le_seven_cases hle with
      rfl | rfl | rfl | rfl | rfl | rfl | rfl | rfl <;>
      exact absurd h (by decide)
  · rintro (rfl | rfl | hspl | hcodes)
    · exact absurd h (by decide)
    · exact absurd h (by decide)
    · exact hmasked (by decide) (by decide) hspl
    · exact hmasked (by decide) (by decide) hcodes

/-- The opcode of the single operand instructions has six bits. -/
theorem singleOpcode_bits
    {instr : Word} (h : field instr 12 = 0) :
    ((instr >>> 6).setWidth 9 : BitVec 9) =
      ((instr >>> 6).setWidth 6 : BitVec 6).setWidth 9 := by
  have hnat : instr.toNat / 4096 % 8 = 0 := by
    have := congrArg BitVec.toNat h
    simpa [field, Nat.shiftRight_eq_div_pow] using this
  apply BitVec.eq_of_toNat_eq
  simp [Nat.shiftRight_eq_div_pow]
  omega

section Operands

variable {addr instr nextWord : Word}
variable (hpeek : peekCurrent (addr + 2) s = some nextWord)

include hpeek

/-- Instructions with one operand show it. -/
theorem disassembleOperands_single
    (hzero : field instr 12 = 0)
    (htext : ∀ operand, (singleText ((instr >>> 6).setWidth 6)
      (instrWordMode instr) operand).isSome) :
    (shownWords addr instr s).length = 1 + (dstField instr).words := by
  have hdst := shownDst_length hpeek instr
  unfold shownDst at hdst
  have hfirst : (disassembleOperands addr instr s).text.isSome ∧
      (disassembleOperands addr instr s).instructionWords.length =
        1 + (dstField instr).words := by
    unfold disassembleOperands
    dsimp only
    rw [if_pos hzero, if_pos (htext _), Option.isSome_map, List.length_cons,
      hdst, Nat.add_comm]
    exact ⟨htext _, rfl⟩
  rw [shownWords_of_text hfirst.1, hfirst.2]

theorem disassembleOperands_additional
    (hseven : field instr 12 = 7) (hword : instrWordMode instr = .wmWord)
    (htext : ∀ operand, (additionalText (field instr 9) (field instr 6)
      operand).isSome) :
    (shownWords addr instr s).length = 1 + (dstField instr).words := by
  have hdst := shownDst_length hpeek instr
  unfold shownDst at hdst
  have hfirst : (disassembleOperands addr instr s).text.isSome ∧
      (disassembleOperands addr instr s).instructionWords.length =
        1 + (dstField instr).words := by
    unfold disassembleOperands
    dsimp only
    rw [if_neg (by rw [hseven]; decide), if_pos hseven,
      if_neg (by rw [hword]; decide), if_pos (htext _), List.length_cons,
      hdst, Nat.add_comm]
    exact ⟨htext _, rfl⟩
  rw [shownWords_of_text hfirst.1, hfirst.2]

/-- Instructions with two operands show the second one after the first. -/
theorem disassembleOperands_double
    {thirdWord : Word} (hpeek' : peekCurrent (addr + 4) s = some thirdWord)
    (hzero : field instr 12 ≠ 0) (hseven : field instr 12 ≠ 7) :
    (shownWords addr instr s).length =
      1 + ((srcField instr).words + (dstField instr).words) := by
  have hpart := addressingToString_part hpeek ((instr >>> 6).setWidth 6)
    (instrWordMode instr)
  have hsrc := addressingToString_words hpeek ((instr >>> 6).setWidth 6)
    (instrWordMode instr)
  have hdst : ∀ {length : Word}, length = 2 ∨ length = 4 →
      (addressingToString (instr.setWidth 6) (addr + length)
        (instrWordMode instr) s).instructionPart.toList.length =
          (dstField instr).words := by
    rintro length (rfl | rfl)
    · rw [addressingToString_words hpeek, ofBits_dst]
    · rw [addressingToString_words hpeek', ofBits_dst]
  have hlength : (addressingToString ((instr >>> 6).setWidth 6) (addr + 2)
      (instrWordMode instr) s).length = 2 ∨
      (addressingToString ((instr >>> 6).setWidth 6) (addr + 2)
        (instrWordMode instr) s).length = 4 := by
    rw [hpart.2]
    split
    · exact .inr rfl
    · exact .inl rfl
  rw [ofBits_src] at hsrc
  have hfirst : (disassembleOperands addr instr s).text.isSome ∧
      (disassembleOperands addr instr s).instructionWords.length =
        1 + ((srcField instr).words + (dstField instr).words) := by
    unfold disassembleOperands
    dsimp only
    rw [if_neg hzero, if_neg hseven, List.length_cons, List.length_append,
      hsrc, hdst hlength, Nat.add_comm]
    exact ⟨rfl, rfl⟩
  rw [shownWords_of_text hfirst.1, hfirst.2]

omit hpeek in
theorem disassembleOperands_unknown
    (hzero : field instr 12 = 0)
    (htext : ∀ operand, singleText ((instr >>> 6).setWidth 6)
      (instrWordMode instr) operand = none) :
    (disassembleOperands addr instr s).Unknown instr := by
  have hname : singleName ((instr >>> 6).setWidth 6) (instrWordMode instr) =
      none := by
    have h := htext ""
    unfold singleText at h
    split at h
    · cases h
    · exact Option.map_eq_none_iff.mp h
  unfold disassembleOperands
  dsimp only
  rw [if_pos hzero, htext, hname]
  exact ⟨rfl, rfl, rfl⟩

end Operands

/-- The instructions with a single operand that have a text: those of the
dispatcher's table, MARK and MFPS. -/
theorem singleText_isSome
    (soOpcode : BitVec 6) (wordMode : WordMode) (operand : String) :
    (singleText soOpcode wordMode operand).isSome =
      ((singleOpcode (soOpcode.setWidth 9) wordMode).isSome ||
        decide ((soOpcode.setWidth 9 : BitVec 9) = 0o64) ||
        decide ((soOpcode.setWidth 9 : BitVec 9) = 0o67)) := by
  unfold singleText
  rw [apply_ite Option.isSome, Option.isSome_map, Option.isSome_some]
  clear operand
  revert soOpcode
  cases wordMode <;> decide +kernel

theorem additionalText_isSome
    (adoOpcode srcReg : RegNr) (operand : String) :
    (additionalText adoOpcode srcReg operand).isSome =
      ((registerOpcode adoOpcode).isSome || decide (adoOpcode = 7)) := by
  rcases regNr_cases adoOpcode with
    rfl | rfl | rfl | rfl | rfl | rfl | rfl | rfl <;> rfl

/-- What is shown of MARK and of SOB: the number in their low bits as an
operand. -/
theorem numberOperand
    (instr : Word) :
    OperandField.ofBits ((instr &&& 63).setWidth 6) = dstField instr := by
  rw [← ofBits_dst]
  congr 1
  rw [BitVec.setWidth_and]
  exact BitVec.and_allOnes

/-- Lengths that agree, or the shown one has the word of a number that looks
like an operand. -/
def Agrees (shown fetched : Nat) (longer : Prop) : Prop :=
  shown = fetched ∧ ¬ longer ∨ shown = fetched + 1 ∧ longer

theorem Agrees.of_eq
    {shown fetched : Nat} {longer : Prop} (h : shown = fetched)
    (hlonger : ¬ longer) :
    Agrees shown fetched longer :=
  .inl ⟨h, hlonger⟩

theorem agrees_number
    (instr : Word) :
    Agrees (1 + (dstField instr).words) 1
      (OperandField.ofBits ((instr &&& 63).setWidth 6)).TakesNextWord := by
  rw [numberOperand]
  unfold OperandField.words
  split
  · next h =>
      exact .inr ⟨rfl, h⟩
  · next h =>
      exact .inl ⟨rfl, h⟩

/-- The disassembler shows as many words as the instruction fetches, unless
the number of SOB or MARK looks like an operand with a next word. -/
theorem shownWords_agrees
    {addr instr nextWord thirdWord : Word} {o : Operation}
    (hpeek : peekCurrent (addr + 2) s = some nextWord)
    (hpeek' : peekCurrent (addr + 4) s = some thirdWord)
    (h : decode instr = some o) :
    Agrees (shownWords addr instr s).length o.fetchedWords o.LooksLonger := by
  unfold decode at h
  dsimp only at h
  split at h
  · next hzero =>
      rw [singleOpcode_bits hzero] at h
      have htext := singleText_isSome ((instr >>> 6).setWidth 6)
        (instrWordMode instr)
      split at h
      · next op hop =>
          cases h
          refine .of_eq ?_ id
          refine disassembleOperands_single hpeek hzero fun operand => ?_
          rw [htext, hop]
          rfl
      · next hnone =>
          split at h
          · next hmark =>
              split at h
              · cases h
              · cases h
                rw [disassembleOperands_single hpeek hzero fun operand => by
                  rw [htext, hmark, decide_eq_true rfl, Bool.or_true,
                    Bool.true_or]]
                exact agrees_number instr
          split at h
          · cases h
          · next hmark hmfps =>
              refine .of_eq ?_ (decodeRest_looks h)
              refine shownWords_rest hpeek ?_ h
              refine disassembleOperands_unknown hzero fun operand => ?_
              have hsome := htext operand
              rw [hnone, decide_eq_false hmark, decide_eq_false hmfps] at hsome
              exact Option.isNone_iff_eq_none.mp
                (Option.isSome_eq_false_iff.mp hsome)
  · next hzero =>
      split at h
      · next hseven =>
          rw [decodeRest_seven hseven] at h
          split at h
          · cases h
          · next hbyte =>
              have hword : instrWordMode instr = .wmWord := by
                cases hmode : instrWordMode instr with
                | wmByte =>
                    exact absurd hmode hbyte
                | wmWord =>
                    rfl
              have htext := additionalText_isSome (field instr 9)
                (field instr 6)
              split at h
              · next op hop =>
                  cases h
                  refine .of_eq ?_ id
                  refine disassembleOperands_additional hpeek hseven hword
                    fun operand => ?_
                  rw [htext, hop]
                  rfl
              · split at h
                · next hsob =>
                    cases h
                    rw [disassembleOperands_additional hpeek hseven hword
                      fun operand => by rw [htext, hsob]; rfl]
                    exact agrees_number instr
                · cases h
      · next hseven =>
          obtain ⟨op, -, rfl⟩ := Option.map_eq_some_iff.mp h
          refine .of_eq ?_ id
          exact disassembleOperands_double hpeek hpeek' hzero hseven

end Shown
section Listing

variable {δ : Type}

/-- Three words can be peeked from an address. -/
def ReadableAt (s : Machine δ) (addr : Word) : Prop :=
  (peekCurrent addr s).isSome ∧ (peekCurrent (addr + 2) s).isSome ∧
    (peekCurrent (addr + 4) s).isSome

/-- The instruction that execution accepts at an address. -/
def acceptedAt (s : Machine δ) (addr : Word) : Option Operation :=
  (peekCurrent addr s).bind decode

def LooksLongerAt (s : Machine δ) (addr : Word) : Prop :=
  ∃ o, acceptedAt s addr = some o ∧ o.LooksLonger

/-- The addresses of `n` instructions, each after the words of the one
before. -/
def instructionStarts (s : Machine δ) : Nat → Word → List Word
  | 0, _ => []
  | n + 1, pc =>
      pc :: match acceptedAt s pc with
        | some o =>
            instructionStarts s n (pc + BitVec.ofNat 16 (o.fetchedWords * 2))
        | none => []

/-- From `pc` there are `n` instructions that are accepted and readable. -/
def Instructions (s : Machine δ) (n : Nat) (pc : Word) : Prop :=
  ∀ a ∈ instructionStarts s n pc, ReadableAt s a ∧ (acceptedAt s a).isSome

variable {s : Machine δ}

/-- What is shown of an instruction that is accepted. -/
theorem disassemble_agrees
    {addr : Word} (hread : ReadableAt s addr) {o : Operation}
    (ho : acceptedAt s addr = some o) :
    ∃ d, disassemble addr s = some d ∧
      Agrees d.instructionValues.length o.fetchedWords
        (LooksLongerAt s addr) := by
  obtain ⟨instr, hinstr⟩ := Option.isSome_iff_exists.mp hread.1
  obtain ⟨nextWord, hnext⟩ := Option.isSome_iff_exists.mp hread.2.1
  obtain ⟨thirdWord, hthird⟩ := Option.isSome_iff_exists.mp hread.2.2
  obtain ⟨d, hd, hvalues⟩ := disassemble_shows hinstr
  have hdecode : decode instr = some o := by
    unfold acceptedAt at ho
    rw [hinstr] at ho
    exact ho
  have hlooks : LooksLongerAt s addr ↔ o.LooksLonger := by
    constructor
    · rintro ⟨o', ho', h⟩
      cases ho.symm.trans ho'
      exact h
    · intro h
      exact ⟨o, ho, h⟩
  refine ⟨d, hd, ?_⟩
  rw [hvalues, hlooks]
  exact shownWords_agrees hnext hthird hdecode

/-- The debugger goes on at the next instruction, unless the word looks
longer. -/
theorem shownSize_iff
    {addr : Word} (hread : ReadableAt s addr) {o : Operation}
    (ho : acceptedAt s addr = some o) :
    addr + shownSize addr s = addr + BitVec.ofNat 16 (o.fetchedWords * 2) ↔
      ¬ LooksLongerAt s addr := by
  obtain ⟨d, hd, hagrees⟩ := disassemble_agrees hread ho
  unfold shownSize
  rw [hd]
  dsimp only
  rcases hagrees with ⟨hlength, hlooks⟩ | ⟨hlength, hlooks⟩
  · rw [hlength]
    exact iff_of_true rfl hlooks
  · rw [hlength]
    refine iff_of_false ?_ (not_not.mpr hlooks)
    rw [Nat.add_mul, BitVec.ofNat_add]
    intro h
    exact absurd ((BitVec.add_right_inj _).mp h) (by bv_omega)

theorem instructionStarts_succ
    {n : Nat} {pc : Word} {o : Operation} (ho : acceptedAt s pc = some o) :
    instructionStarts s (n + 1) pc =
      pc :: instructionStarts s n
        (pc + BitVec.ofNat 16 (o.fetchedWords * 2)) := by
  rw [instructionStarts, ho]

theorem cmdDisassemble_iff
    (n : Nat) {pc : Word} (h : Instructions s n pc) :
    cmdDisassemble s n pc = instructionStarts s n pc ↔
      ∀ a ∈ instructionStarts s (n - 1) pc, ¬ LooksLongerAt s a := by
  induction n generalizing pc with
  | zero =>
      exact iff_of_true rfl fun a ha => absurd ha List.not_mem_nil
  | succ n ih =>
      obtain ⟨hread, haccepted⟩ := h pc (List.mem_cons_self ..)
      obtain ⟨o, ho⟩ := Option.isSome_iff_exists.mp haccepted
      have hsize := shownSize_iff hread ho
      rw [instructionStarts_succ ho]
      unfold Instructions at h
      rw [instructionStarts_succ ho] at h
      cases n with
      | zero =>
          exact iff_of_true rfl fun a ha => absurd ha List.not_mem_nil
      | succ n =>
          have hrest := ih fun a ha => h a (List.mem_cons_of_mem _ ha)
          rw [Nat.add_sub_cancel] at hrest ⊢
          rw [instructionStarts_succ ho, List.forall_mem_cons, ← hsize, ← hrest]
          constructor
          · intro heq
            obtain ⟨-, htail⟩ := List.cons.inj heq
            have hnext := (List.cons.inj htail).1
            rw [hnext] at htail
            exact ⟨hnext, htail⟩
          · rintro ⟨hnext, htail⟩
            rw [← htail, ← hnext]
            rfl

/-- The disassembler shows the words that an instruction fetches exactly when
it is no SOB or MARK whose number looks like an operand with a next word; and a
listing goes from instruction to instruction exactly when none of those that it
passes is one. -/
theorem disassemble_words_iff
    {addr : Word} (hread : ReadableAt s addr) {o : Operation}
    (ho : acceptedAt s addr = some o) :
    ((∃ d, disassemble addr s = some d ∧
        d.instructionValues.length = o.fetchedWords) ↔
      ¬ LooksLongerAt s addr) ∧
    ∀ n, Instructions s n addr →
      (cmdDisassemble s n addr = instructionStarts s n addr ↔
        ∀ a ∈ instructionStarts s (n - 1) addr, ¬ LooksLongerAt s a) := by
  refine ⟨?_, fun n hn => cmdDisassemble_iff n hn⟩
  obtain ⟨d, hd, hagrees⟩ := disassemble_agrees hread ho
  constructor
  · rintro ⟨d', hd', hlength⟩ hlooks
    cases hd.symm.trans hd'
    rcases hagrees with ⟨-, hshort⟩ | ⟨hlong, -⟩
    · exact hshort hlooks
    · omega
  · intro hshort
    rcases hagrees with ⟨hlength, -⟩ | ⟨-, hlong⟩
    · exact ⟨d, hd, hlength⟩
    · exact absurd hlong hshort

/-- A machine with two instructions at 01000. -/
def listedMachine (first second : Word) : Machine LineClock :=
  bareMachine 0o20000 [(0o1000, first), (0o1002, second)]

/-- MOV #0,R0. -/
theorem disassemble_words_mov :
    ∃ d, disassemble 0o1000 (listedMachine 0o12700 0) = some d ∧
      d.instructionValues.length = 2 :=
  ((disassemble_words_iff (s := listedMachine 0o12700 0)
    ⟨by decide, by decide, by decide⟩
    (show acceptedAt _ 0o1000 = some (.double .mov ⟨2, 7⟩ ⟨0, 0⟩ .wmWord) from
      rfl)).1).mpr
    fun ⟨o, ho, hlooks⟩ => by
      cases ho
      exact hlooks

/-- SOB R0 over 027 words back, and NOP: the listing shows the NOP as part of
SOB, and goes on after it. -/
theorem sob_looks_longer :
    acceptedAt (listedMachine 0o77027 0o240) 0o1000 = some (.sob 0 0o27) ∧
      (Operation.sob 0 0o27).fetchedWords = 1 ∧
      (disassemble 0o1000 (listedMachine 0o77027 0o240)).map
        (fun d => d.instructionValues) = some [0o77027, 0o240] ∧
      cmdDisassemble (listedMachine 0o77027 0o240) 2 0o1000 =
        [0o1000, 0o1004] ∧
      instructionStarts (listedMachine 0o77027 0o240) 2 0o1000 =
        [0o1000, 0o1002] := by
  decide

end Listing

end KekPdp11
