import KekPdp11.Breakpoints

/-!
# KEK PDP-11: the text of one breakpoint

What emit prints for a register, a memory or an instruction breakpoint is one
part without blanks and parentheses, and the three parsers read it back.  An
address of 2^31 or more does not fit what std::stoi returns.
-/

namespace KekPdp11

section Octal

variable (width n : Nat)

theorem octal_ne_nil :
    octal width n ≠ [] :=
  Numerals.padded_ne_nil width n

theorem isDigit_of_mem_octal
    {width n : Nat} {c : Char} (hc : c ∈ octal width n) :
    Numerals.isDigit 8 c = true :=
  Numerals.isDigit_of_mem_padded (by decide) (by decide) hc

theorem octal_length :
    width ≤ (octal width n).length := by
  unfold octal Numerals.padded
  rw [List.length_append, List.length_replicate]
  omega

/-- A character that is no digit is not in a number. -/
theorem notMem_octal
    {width n : Nat} {c : Char} (hc : Numerals.isDigit 8 c = false) :
    c ∉ octal width n := by
  intro hmem
  rw [isDigit_of_mem_octal hmem] at hc
  cases hc

/-- A printed number is read back as long as it fits. -/
theorem octalValue_octal
    {rest : List Char}
    (hrest : ∀ c ∈ rest.head?, Numerals.isDigit 8 c = false) :
    octalValue (octal width n ++ rest) =
      if n < 2 ^ 31 then .ok n else .error .outOfRange := by
  unfold octalValue octal
  rw [Numerals.stoi_padded (by decide) (by decide) width n hrest]
  split_ifs <;> rfl

theorem octalValue_word
    (v : Word) {rest : List Char}
    (hrest : ∀ c ∈ rest.head?, Numerals.isDigit 8 c = false) :
    octalValue (octal 6 v.toNat ++ rest) = .ok v.toNat := by
  have hlt : v.toNat < 2 ^ 31 :=
    lt_trans v.isLt (by decide)
  rw [octalValue_octal 6 v.toNat hrest, if_pos hlt]

theorem octalValue_alone :
    octalValue (octal width n) =
      if n < 2 ^ 31 then .ok n else .error .outOfRange := by
  rw [← List.append_nil (octal width n)]
  exact octalValue_octal width n (by simp)

theorem octalValue_word_alone
    (v : Word) :
    octalValue (octal 6 v.toNat) = .ok v.toNat := by
  rw [← List.append_nil (octal 6 v.toNat)]
  exact octalValue_word v (by simp)

end Octal

section Lists

/-- The values of a breakpoint as they are printed. -/
def valuesText (values : List Word) : List Char :=
  [','].intercalate (values.map fun v => octal 6 v.toNat)

theorem emitValues_append
    (name : List Char) {out : List Char} (hout : out ≠ []) (v : Word)
    (values : List Word) :
    emitValues name (out ++ octal 6 v.toNat) values =
      out ++ valuesText (v :: values) := by
  induction values generalizing out v with
  | nil =>
      unfold valuesText
      rw [emitValues, List.map_singleton, List.intercalate_singleton]
  | cons w values ih =>
      have hne : out ++ octal 6 v.toNat ≠ [] := by
        simp [hout]
      have hcomma : out ++ octal 6 v.toNat ++ [','] ≠ [] := by
        simp
      rw [emitValues, if_neg hne, ih hcomma]
      unfold valuesText
      rw [List.map_cons, List.map_cons, List.map_cons,
        List.intercalate_cons_cons]
      simp

/-- The listing of a name with at least one value. -/
theorem emitValues_eq
    (name : List Char) {values : List Word} (h : values ≠ []) :
    emitValues name [] values = name ++ '=' :: valuesText values := by
  cases values with
  | nil =>
      exact absurd rfl h
  | cons v values =>
      rw [emitValues, if_pos rfl, emitValues_append name (by simp)]
      simp

theorem notMem_valuesText
    {values : List Word} {c : Char} (hc : Numerals.isDigit 8 c = false)
    (hcomma : c ≠ ',') :
    c ∉ valuesText values := by
  unfold valuesText
  induction values with
  | nil =>
      exact List.not_mem_nil
  | cons v values ih =>
      cases values with
      | nil =>
          rw [List.map_singleton, List.intercalate_singleton]
          exact notMem_octal hc
      | cons w values =>
          rw [List.map_cons, List.map_cons, List.intercalate_cons_cons]
          simp only [List.mem_append, List.mem_singleton, not_or]
          exact ⟨⟨notMem_octal hc, hcomma⟩, ih⟩

theorem valuesText_cons
    (v : Word) (values : List Word) :
    ∃ rest, valuesText (v :: values) = octal 6 v.toNat ++ rest ∧
      ∀ c ∈ rest.head?, Numerals.isDigit 8 c = false := by
  unfold valuesText
  cases values with
  | nil =>
      refine ⟨[], ?_, by simp⟩
      rw [List.map_singleton, List.intercalate_singleton, List.append_nil]
  | cons w values =>
      rw [List.map_cons, List.map_cons, List.intercalate_cons_cons,
        List.append_assoc]
      refine ⟨_, rfl, fun c hc => ?_⟩
      cases hc
      rfl

/-- A value above all others comes last. -/
theorem insertValue_above
    {v : Word} {ws : List Word} (h : ∀ w ∈ ws, w < v) :
    ValueSet.insertValue v ws = ws ++ [v] := by
  induction ws with
  | nil =>
      rfl
  | cons w ws ih =>
      have hw := h w List.mem_cons_self
      have hge : ¬ v < w := BitVec.not_lt.mpr (BitVec.le_of_lt hw)
      have hne : v ≠ w := by
        rintro rfl
        exact BitVec.lt_irrefl _ hw
      rw [ValueSet.insertValue, if_neg hge, if_neg hne,
        ih fun x hx => h x (List.mem_cons_of_mem w hx)]
      rfl

/-- Ascending values are collected as they are. -/
theorem foldlM_insert
    (values : List Word) (set : ValueSet)
    (hsorted : (set.values ++ values).Pairwise (· < ·)) :
    (values.map fun v => octal 6 v.toNat).foldlM
        (fun set v => do
          let n ← octalValue v
          pure (set.insert (BitVec.ofInt 16 n)))
        set =
      (.ok ⟨set.values ++ values, hsorted⟩ : Parsed ValueSet) := by
  induction values generalizing set with
  | nil =>
      obtain ⟨ws, hws⟩ := set
      simp only [List.append_nil]
      rfl
  | cons v values ih =>
      have habove : ∀ w ∈ set.values, w < v := fun w hw =>
        (List.pairwise_append.mp hsorted).2.2 w hw v List.mem_cons_self
      have hinsert : (set.insert (BitVec.ofInt 16 v.toNat)).values =
          set.values ++ [v] := by
        rw [BitVec.ofInt_natCast, BitVec.ofNat_toNat, BitVec.setWidth_eq]
        exact insertValue_above habove
      rw [List.map_cons, List.foldlM_cons, octalValue_word_alone]
      refine (ih (set.insert (BitVec.ofInt 16 v.toNat)) ?_).trans ?_
      · rw [hinsert]
        simpa using hsorted
      · simp only [hinsert, List.append_assoc, List.singleton_append]

/-- The values of a breakpoint are read back. -/
theorem parseValues_valuesText
    (values : ValueSet) :
    parseValues (valuesText values.values) = .ok values := by
  unfold parseValues valuesText
  rw [split_intercalate]
  · have hne : (values.values.map fun v => octal 6 v.toNat).filter (· ≠ []) =
        values.values.map fun v => octal 6 v.toNat := by
      rw [List.filter_eq_self]
      intro part hpart
      obtain ⟨v, -, rfl⟩ := List.mem_map.mp hpart
      simpa using octal_ne_nil 6 v.toNat
    rw [hne]
    exact foldlM_insert values.values ValueSet.empty values.sorted
  · intro part hpart
    obtain ⟨v, -, rfl⟩ := List.mem_map.mp hpart
    exact notMem_octal rfl

end Lists

section Parts

/-- The register numbers that have a name. -/
def namedRegisters : List Int :=
  [0, 1, 2, 3, 4, 5, 6, 7, hrMmr0, hrMmr0 + 1, hrMmr0 + 2, hrMmr0 + 3, hrPsw]

namespace Breakpoint

/-- A single breakpoint that is listed by its name and at least one value. -/
def IsListed : Breakpoint → Prop
  | register registerNr values _ =>
      registerNr ∈ namedRegisters ∧ values.values ≠ []
  | memory _ _ _ values _ => values.values ≠ []
  | instruction _ _ _ => True
  | combined _ _ _ => False

/-- The text between the name and the equals sign, and the one behind it. -/
def keyText : Breakpoint → List Char
  | register registerNr _ _ => getName registerNr
  | memory addr wordMode isVirtual _ _ => memoryName addr wordMode isVirtual
  | instruction _ mask _ => "instr[".toList ++ octal 6 mask.toNat ++ [']']
  | combined _ _ _ => []

def shownValues : Breakpoint → List Word
  | register _ values _ => values.values
  | memory _ _ _ values _ => values.values
  | instruction instr _ _ => [instr]
  | combined _ _ _ => []

variable {b : Breakpoint}

theorem IsListed.values_ne
    (h : b.IsListed) :
    b.shownValues ≠ [] := by
  cases b with
  | register registerNr values action =>
      exact h.2
  | memory addr wordMode isVirtual values action =>
      exact h
  | instruction instr mask action =>
      exact List.cons_ne_nil _ _
  | combined op triggers action =>
      exact h.elim

/-- Every single breakpoint is listed as a key and values. -/
theorem IsListed.emit_eq
    (h : b.IsListed) :
    b.emit = b.keyText ++ '=' :: valuesText b.shownValues := by
  cases b with
  | register registerNr values action =>
      exact emitValues_eq _ h.2
  | memory addr wordMode isVirtual values action =>
      exact emitValues_eq _ h
  | instruction instr mask action =>
      change "instr[".toList ++ octal 6 mask.toNat ++ "]=".toList ++
          octal 6 instr.toNat =
        "instr[".toList ++ octal 6 mask.toNat ++ [']'] ++
          '=' :: valuesText [instr]
      unfold valuesText
      rw [List.map_singleton, List.intercalate_singleton]
      have hend : "]=".toList = [']'] ++ ['='] := rfl
      rw [hend]
      simp only [List.append_assoc, List.singleton_append]
      rfl
  | combined op triggers action =>
      exact h.elim

/-- A part of a text: no blanks, no parentheses. -/
structure IsPart (text : List Char) : Prop where
  noBlank : ' ' ∉ text
  noOpen : '(' ∉ text
  noClose : ')' ∉ text

theorem isPart_octal
    (width n : Nat) :
    IsPart (octal width n) :=
  ⟨notMem_octal rfl, notMem_octal rfl, notMem_octal rfl⟩

theorem IsPart.append
    {text more : List Char} (h : IsPart text) (h' : IsPart more) :
    IsPart (text ++ more) := by
  refine ⟨?_, ?_, ?_⟩
  · simpa using ⟨h.noBlank, h'.noBlank⟩
  · simpa using ⟨h.noOpen, h'.noOpen⟩
  · simpa using ⟨h.noClose, h'.noClose⟩

instance (text : List Char) : Decidable (IsPart text) :=
  decidable_of_iff (' ' ∉ text ∧ '(' ∉ text ∧ ')' ∉ text)
    ⟨fun h => ⟨h.1, h.2.1, h.2.2⟩, fun h => ⟨h.noBlank, h.noOpen, h.noClose⟩⟩

theorem isPart_getName
    {nr : Int} (h : nr ∈ namedRegisters) :
    IsPart (getName nr) ∧ '=' ∉ getName nr := by
  revert nr
  decide

theorem isPart_memoryName
    (addr : PhysAddr) (wordMode : WordMode) (isVirtual : Bool) :
    IsPart (memoryName addr wordMode isVirtual) ∧
      '=' ∉ memoryName addr wordMode isVirtual := by
  have hkind : IsPart [if wordMode = .wmByte then 'B' else 'W',
      if isVirtual then 'V' else 'P'] ∧
        '=' ∉ [if wordMode = .wmByte then 'B' else 'W',
          if isVirtual then 'V' else 'P'] := by
    cases wordMode <;> cases isVirtual <;> decide
  unfold memoryName
  refine ⟨(((show IsPart "MEM".toList by decide).append hkind.1).append
    ((show IsPart ['['] by decide).append (isPart_octal _ _))).append
    (show IsPart [']'] by decide), ?_⟩
  have hoctal : '=' ∉ octal 8 addr.toNat := notMem_octal rfl
  have hmem : '=' ∉ "MEM".toList := by decide
  simp only [List.mem_append, List.mem_cons, List.not_mem_nil, or_false,
    not_or] at hkind ⊢
  exact ⟨⟨⟨hmem, hkind.2⟩, by decide, hoctal⟩, by decide⟩

theorem IsListed.key
    (h : b.IsListed) :
    IsPart b.keyText ∧ '=' ∉ b.keyText ∧ b.keyText ≠ [] := by
  cases b with
  | register registerNr values action =>
      obtain ⟨hpart, hequals⟩ := isPart_getName h.1
      refine ⟨hpart, hequals, ?_⟩
      have hnames : ∀ nr ∈ namedRegisters, getName nr ≠ [] := by
        decide
      exact hnames registerNr h.1
  | memory addr wordMode isVirtual values action =>
      obtain ⟨hpart, hequals⟩ := isPart_memoryName addr wordMode isVirtual
      refine ⟨hpart, hequals, ?_⟩
      exact List.append_ne_nil_of_right_ne_nil _ (List.cons_ne_nil _ _)
  | instruction instr mask action =>
      refine ⟨((show IsPart "instr[".toList by decide).append
        (isPart_octal _ _)).append (show IsPart [']'] by decide), ?_, ?_⟩
      · have hoctal : '=' ∉ octal 6 mask.toNat := notMem_octal rfl
        have hinstr : '=' ∉ "instr[".toList := by decide
        change '=' ∉ "instr[".toList ++ octal 6 mask.toNat ++ [']']
        simp only [List.mem_append, List.mem_singleton, not_or]
        exact ⟨⟨hinstr, hoctal⟩, by decide⟩
      · exact List.append_ne_nil_of_right_ne_nil _ (List.cons_ne_nil _ _)
  | combined op triggers action =>
      exact h.elim

theorem isPart_valuesText
    (values : List Word) :
    IsPart (valuesText values) :=
  ⟨notMem_valuesText rfl (by decide), notMem_valuesText rfl (by decide),
    notMem_valuesText rfl (by decide)⟩

/-- What is listed for a single breakpoint is a part. -/
theorem IsListed.isPart
    (h : b.IsListed) :
    IsPart b.emit := by
  rw [h.emit_eq, ← List.singleton_append]
  exact h.key.1.append ((show IsPart ['='] by decide).append
    (isPart_valuesText _))

theorem IsListed.emit_ne_nil
    (h : b.IsListed) :
    b.emit ≠ [] := by
  rw [h.emit_eq]
  simp

/-- It is no operator. -/
theorem IsListed.operator?_eq
    (h : b.IsListed) :
    operator? b.emit = none := by
  have hequals : '=' ∈ b.emit := by
    rw [h.emit_eq]
    simp
  have hne : ∀ op : BpOperator, b.emit ≠ op.text := by
    intro op heq
    rw [heq] at hequals
    cases op <;> exact absurd hequals (by decide)
  unfold operator?
  rw [if_neg (hne .and), if_neg (hne .or)]

/-- It comes apart at the equals sign. -/
theorem IsListed.split_eq
    (h : b.IsListed) :
    split '=' b.emit = [b.keyText, valuesText b.shownValues] := by
  have hjoined : b.emit =
      ['='].intercalate [b.keyText, valuesText b.shownValues] := by
    rw [h.emit_eq, List.intercalate_cons_cons, List.intercalate_singleton,
      List.append_assoc, List.singleton_append]
  have hvalues : valuesText b.shownValues ≠ [] := by
    obtain ⟨v, values, hv⟩ := List.exists_cons_of_ne_nil h.values_ne
    obtain ⟨rest, hrest, -⟩ := valuesText_cons v values
    rw [hv, hrest]
    exact List.append_ne_nil_of_left_ne_nil (octal_ne_nil _ _) _
  rw [hjoined, split_intercalate]
  · simp [h.key.2.2, hvalues]
  · intro part hpart
    simp only [List.mem_cons, List.not_mem_nil, or_false] at hpart
    rcases hpart with rfl | rfl
    · exact h.key.2.1
    · exact notMem_valuesText rfl (by decide)

section Reading

variable (action : BpAction)

/-- A single breakpoint read back from its text: as it was, with the action
that is asked for, unless its address is too large. -/
def reread : Breakpoint → Parsed Breakpoint
  | register registerNr values _ => .ok (register registerNr values action)
  | memory addr wordMode isVirtual values _ =>
      if addr.toNat < 2 ^ 31 then
        .ok (memory addr wordMode isVirtual values action)
      else
        .error .outOfRange
  | instruction instr mask _ => .ok (instruction instr mask action)
  | combined op triggers _ => .ok (combined op triggers action)

variable {text key valuesIn : List Char} {values : ValueSet} {n : Int}

/-- The register that each name stands for. -/
theorem parseRegister_getName
    {nr : Int} (hnr : nr ∈ namedRegisters)
    (hsplit : split '=' text = [getName nr, valuesIn])
    (hvalues : parseValues valuesIn = .ok values) :
    parseRegister action text = .ok (some (.register nr values action)) := by
  unfold parseRegister
  rw [hsplit]
  dsimp only
  rw [hvalues]
  simp only [namedRegisters, List.mem_cons, List.not_mem_nil, or_false] at hnr
  rcases hnr with rfl | rfl | rfl | rfl | rfl | rfl | rfl | rfl | rfl | rfl |
    rfl | rfl | rfl <;> rfl

/-- A key that starts like no register. -/
theorem parseRegister_other
    (hsplit : split '=' text = [key, valuesIn])
    (hvalues : parseValues valuesIn = .ok values) (hlength : 2 < key.length)
    (hr : (charAt key 0).toUpper ≠ 'R')
    (hkeys : key.take 3 ∉ ["MMR".toList, "mmr".toList, "PSW".toList,
      "psw".toList]) :
    parseRegister action text = .ok none := by
  have hshort : ∀ name : List Char, name.length = 2 → key ≠ name := by
    rintro name hname rfl
    omega
  simp only [List.mem_cons, List.not_mem_nil, or_false, not_or] at hkeys
  unfold parseRegister
  rw [hsplit]
  dsimp only
  rw [hvalues]
  change (if key.length < 2 then _ else _) = _
  rw [if_neg (by omega), if_neg hr,
    if_neg (not_or.mpr ⟨hshort _ rfl, hshort _ rfl⟩),
    if_neg (not_or.mpr ⟨hshort _ rfl, hshort _ rfl⟩),
    if_neg (not_or.mpr ⟨hkeys.1, hkeys.2.1⟩),
    if_neg (not_or.mpr ⟨hkeys.2.2.1, hkeys.2.2.2⟩)]

/-- A key that is no memory. -/
theorem parseMemory_other
    (hsplit : split '=' text = [key, valuesIn])
    (hvalues : parseValues valuesIn = .ok values)
    (hkey : key.length < 8 ∨
      (key.take 3 ≠ "MEM".toList ∧ key.take 3 ≠ "mem".toList)) :
    parseMemory action text = .ok none := by
  unfold parseMemory
  rw [hsplit]
  dsimp only
  rw [hvalues]
  exact if_pos hkey

/-- A key that is no instruction. -/
theorem parseInstruction_other
    (hsplit : split '=' text = [key, valuesIn])
    (hvalue : octalValue valuesIn = .ok n)
    (hkey : key.length < 7 ∨
      (key.take 5 ≠ "INSTR".toList ∧ key.take 5 ≠ "instr".toList)) :
    parseInstruction action text = .ok none := by
  unfold parseInstruction
  rw [hsplit]
  dsimp only
  rw [hvalue]
  exact if_pos hkey

theorem octalValue_valuesText
    {values : List Word} (h : values ≠ []) :
    ∃ n, octalValue (valuesText values) = .ok n := by
  obtain ⟨v, values, rfl⟩ := List.exists_cons_of_ne_nil h
  obtain ⟨rest, hrest, hdigit⟩ := valuesText_cons v values
  rw [hrest]
  exact ⟨_, octalValue_word v hdigit⟩

theorem memoryName_eq
    (addr : PhysAddr) (wordMode : WordMode) (isVirtual : Bool) :
    memoryName addr wordMode isVirtual =
      'M' :: 'E' :: 'M' :: (if wordMode = .wmByte then 'B' else 'W') ::
        (if isVirtual then 'V' else 'P') :: '[' ::
          (octal 8 addr.toNat ++ [']']) :=
  rfl

theorem parseMemory_memoryName
    (addr : PhysAddr) (wordMode : WordMode) (isVirtual : Bool)
    (hsplit : split '=' text = [memoryName addr wordMode isVirtual, valuesIn])
    (hvalues : parseValues valuesIn = .ok values) :
    parseMemory action text =
      if addr.toNat < 2 ^ 31 then
        .ok (some (.memory addr wordMode isVirtual values action))
      else
        .error .outOfRange := by
  have hkey := memoryName_eq addr wordMode isVirtual
  generalize memoryName addr wordMode isVirtual = key at hsplit hkey
  have hlength : 8 ≤ (octal 8 addr.toNat).length := octal_length 8 addr.toNat
  have hlong : ¬ (key.length < 8 ∨
      (key.take 3 ≠ "MEM".toList ∧ key.take 3 ≠ "mem".toList)) := by
    rintro (h | h)
    · rw [hkey] at h
      simp only [List.length_cons, List.length_append] at h
      omega
    · rw [hkey] at h
      exact h.1 rfl
  have hend : key.idxOf ']' = 6 + (octal 8 addr.toNat).length := by
    have hfront : ']' ∉ 'M' :: 'E' :: 'M' ::
        (if wordMode = .wmByte then 'B' else 'W') ::
        (if isVirtual then 'V' else 'P') :: '[' :: octal 8 addr.toNat := by
      have hoctal : ']' ∉ octal 8 addr.toNat := notMem_octal rfl
      cases wordMode <;> cases isVirtual <;> simp [hoctal]
    rw [hkey]
    refine (List.idxOf_append_of_notMem hfront).trans ?_
    simp only [List.length_cons, List.idxOf_cons_self]
    omega
  have haddr : (key.drop 6).take (key.idxOf ']' - 6) = octal 8 addr.toNat := by
    rw [hend, hkey, Nat.add_sub_cancel_left]
    exact List.take_left
  have hkind : charAt key 3 = if wordMode = .wmByte then 'B' else 'W' := by
    rw [hkey]
    rfl
  have hspace : charAt key 4 = if isVirtual then 'V' else 'P' := by
    rw [hkey]
    rfl
  have hwm : (if (charAt key 3).toUpper = 'B' then WordMode.wmByte
      else WordMode.wmWord) = wordMode := by
    rw [hkind]
    cases wordMode <;> decide
  have hvirtual : decide ((charAt key 4).toUpper = 'V') = isVirtual := by
    rw [hspace]
    cases isVirtual <;> decide
  have hsix : 6 ≤ key.idxOf ']' := by
    omega
  unfold parseMemory
  rw [hsplit]
  dsimp only
  rw [hvalues]
  change (if key.length < 8 ∨ _ then _ else _) = _
  rw [if_neg hlong, if_pos hsix, haddr, octalValue_alone, hwm,
    hvirtual]
  split_ifs
  · change Except.ok (some (Breakpoint.memory (BitVec.ofInt 32 addr.toNat) _ _
      _ _)) = _
    rw [BitVec.ofInt_natCast, BitVec.ofNat_toNat, BitVec.setWidth_eq]
  · rfl

theorem parseInstruction_instr
    (mask instr : Word)
    (hsplit : split '=' text =
      ["instr[".toList ++ octal 6 mask.toNat ++ [']'], octal 6 instr.toNat]) :
    parseInstruction action text =
      .ok (some (.instruction instr mask action)) := by
  have hkey : "instr[".toList ++ octal 6 mask.toNat ++ [']'] =
      'i' :: 'n' :: 's' :: 't' :: 'r' :: '[' ::
        (octal 6 mask.toNat ++ [']']) := rfl
  rw [hkey] at hsplit
  generalize hk : 'i' :: 'n' :: 's' :: 't' :: 'r' :: '[' ::
    (octal 6 mask.toNat ++ [']']) = key at hsplit
  have hlength : key.length = (octal 6 mask.toNat).length + 7 := by
    rw [← hk]
    simp
  have hlong : ¬ (key.length < 7 ∨
      (key.take 5 ≠ "INSTR".toList ∧ key.take 5 ≠ "instr".toList)) := by
    rintro (h | h)
    · omega
    · rw [← hk] at h
      exact h.2 rfl
  have hmask : (key.drop 6).take (key.length - 7) = octal 6 mask.toNat := by
    rw [hlength, Nat.add_sub_cancel, ← hk]
    exact List.take_left
  have hcast : ∀ v : Word, BitVec.ofInt 16 (v.toNat : Int) = v := by
    intro v
    rw [BitVec.ofInt_natCast, BitVec.ofNat_toNat, BitVec.setWidth_eq]
  unfold parseInstruction
  rw [hsplit]
  dsimp only
  rw [octalValue_word_alone]
  change (if key.length < 7 ∨ _ then _ else _) = _
  rw [if_neg hlong, hmask, if_neg (octal_ne_nil 6 mask.toNat),
    octalValue_word_alone]
  change Except.ok (some (Breakpoint.instruction (BitVec.ofInt 16 _)
    (BitVec.ofInt 16 _) action)) = _
  rw [hcast, hcast]

/-- A listed breakpoint is read back. -/
theorem parseAtom_emit
    {b : Breakpoint} (h : b.IsListed) :
    parseAtom action b.emit = (b.reread action).map fun bp => [bp] := by
  have hsplit := h.split_eq
  obtain ⟨n, hn⟩ := octalValue_valuesText h.values_ne
  unfold parseAtom
  cases b with
  | register registerNr values old =>
      have hvalues := parseValues_valuesText values
      have hlength : ∀ nr ∈ namedRegisters, (getName nr).length < 7 := by
        decide
      have hlt := hlength registerNr h.1
      rw [parseRegister_getName action h.1 hsplit hvalues,
        parseMemory_other action hsplit hvalues (.inl (Nat.lt_succ_of_lt hlt)),
        parseInstruction_other action hsplit hn (.inl hlt)]
      rfl
  | memory addr wordMode isVirtual values old =>
      have hvalues := parseValues_valuesText values
      have hkey : (memory addr wordMode isVirtual values old).keyText = _ :=
        memoryName_eq addr wordMode isVirtual
      have hregister : parseRegister action
          (memory addr wordMode isVirtual values old).emit = .ok none := by
        refine parseRegister_other action hsplit hvalues ?_ ?_ ?_
        · rw [hkey]
          simp only [List.length_cons]
          omega
        · rw [hkey]
          exact show 'M'.toUpper ≠ 'R' by decide
        · rw [hkey]
          exact show ['M', 'E', 'M'] ∉ _ by decide
      have hreread :
          reread action (memory addr wordMode isVirtual values old) =
            if addr.toNat < 2 ^ 31 then
              .ok (memory addr wordMode isVirtual values action)
            else
              .error .outOfRange := rfl
      have hfive : ∀ k v, ['M', 'E', 'M', k, v] ≠ "INSTR".toList ∧
          ['M', 'E', 'M', k, v] ≠ "instr".toList := by
        intro k v
        exact ⟨fun heq => absurd (congrArg List.head? heq) (by simp),
          fun heq => absurd (congrArg List.head? heq) (by simp)⟩
      rw [hregister, parseMemory_memoryName action addr wordMode isVirtual
          hsplit hvalues,
        parseInstruction_other action hsplit hn (.inr ?_)]
      · rw [hreread]
        split_ifs <;> rfl
      · rw [hkey]
        exact hfive _ _
  | instruction instr mask old =>
      have hvalues := parseValues_valuesText ⟨[instr],
        List.pairwise_singleton _ instr⟩
      have hkey : (instruction instr mask old).keyText =
          'i' :: 'n' :: 's' :: 't' :: 'r' :: '[' ::
            (octal 6 mask.toNat ++ [']']) := rfl
      have hregister : parseRegister action (instruction instr mask old).emit =
          .ok none := by
        refine parseRegister_other action hsplit hvalues ?_ ?_ ?_
        · rw [hkey]
          simp only [List.length_cons]
          omega
        · rw [hkey]
          exact show 'i'.toUpper ≠ 'R' by decide
        · rw [hkey]
          exact show ['i', 'n', 's'] ∉ _ by decide
      have hthree : ['i', 'n', 's'] ≠ "MEM".toList ∧
          ['i', 'n', 's'] ≠ "mem".toList := by
        decide
      have hshown : valuesText (instruction instr mask old).shownValues =
          octal 6 instr.toNat := by
        unfold valuesText shownValues
        rw [List.map_singleton, List.intercalate_singleton]
      rw [hregister, parseMemory_other action hsplit hvalues (.inr ?_),
        parseInstruction_instr action mask instr (hshown ▸ hsplit)]
      · rfl
      · rw [hkey]
        exact hthree
  | combined op triggers old =>
      exact h.elim

end Reading

end Breakpoint

end Parts

end KekPdp11
