import KekPdp11.ReadModifyWrite

/-!
# KEK PDP-11: decoding

The dispatchers of the processor try one group of instructions after the other.
`decode` says of each word which operation they come to, with its operands, or
that the word is reserved; it is proved against them.

An operand takes the next word where getGAM moves PC over one, and each
operation addresses its operands through getGAM before it does anything else
that may move PC; so an instruction comes to the state with PC behind the words
that it fetches.
-/

namespace KekPdp11

open StateExcept

section Operations

/-- An operand of an instruction: its addressing mode and its register. -/
structure OperandField where
  mode : RegNr
  reg : RegNr
deriving DecidableEq, Repr

namespace OperandField

/-- The six bits of an operand. -/
def ofBits (bits : BitVec 6) : OperandField :=
  { mode := (bits >>> 3).setWidth 3, reg := bits.setWidth 3 }

/-- The addressing mode takes the next word: x(Rn), @x(Rn), #n and @#a. -/
def TakesNextWord (x : OperandField) : Prop :=
  x.mode = 6 ∨ x.mode = 7 ∨ ((x.mode = 2 ∨ x.mode = 3) ∧ x.reg = 7)

instance (x : OperandField) :
    Decidable x.TakesNextWord :=
  inferInstanceAs (Decidable (_ ∨ _))

/-- The words that the operand takes. -/
def words (x : OperandField) : Nat :=
  if x.TakesNextWord then 1 else 0

/-- What the operand adds to PC: two for its next word, and -2 when PC itself
is decremented. -/
def movesPC (x : OperandField) : Word :=
  if x.TakesNextWord then 2
  else if (x.mode = 4 ∨ x.mode = 5) ∧ x.reg = 7 then -2
  else 0

end OperandField

/-- Instructions with two operands. -/
inductive DoubleOpcode where
  | mov
  | cmp
  | bit
  | bic
  | bis
  | add
  | sub
deriving DecidableEq, Repr

/-- Instructions with a register and an operand. -/
inductive RegisterOpcode where
  | mul
  | div
  | ash
  | ashc
  | xor
deriving DecidableEq, Repr

/-- Instructions with one operand. -/
inductive SingleOpcode where
  | swab
  | clr
  | com
  | inc
  | dec
  | neg
  | adc
  | sbc
  | tst
  | ror
  | rol
  | asr
  | asl
  | mfp
  | mtp
  | sxt
deriving DecidableEq, Repr

/-- Instructions that are one word of their own. -/
inductive ControlOpcode where
  | halt
  | wait
  | rti
  | reset
  | trap (vector : Word)
deriving DecidableEq, Repr

/-- What an instruction word asks for. -/
inductive Operation where
  | double (op : DoubleOpcode) (src dst : OperandField) (wordMode : WordMode)
  | register (op : RegisterOpcode) (reg : RegNr) (dst : OperandField)
  | single (op : SingleOpcode) (dst : OperandField) (wordMode : WordMode)
  | sob (reg : RegNr) (dst : Word)
  | mark (dst : Word)
  | branch (instr : Word)
  | conditionCodes (instr : Word)
  | control (op : ControlOpcode)
  | jmp (dst : OperandField)
  | jsr (linkReg : RegNr) (dst : OperandField)
  | rts (linkReg : RegNr)
deriving DecidableEq, Repr

namespace Operation

section Execution

variable {δ : Type} [UnibusDevices δ]

def execute : Operation → Exec δ Bool
  | double .mov s d wordMode => opMov s.mode s.reg d.mode d.reg wordMode
  | double .cmp s d wordMode => opCmp s.mode s.reg d.mode d.reg wordMode
  | double .bit s d wordMode => opBit s.mode s.reg d.mode d.reg wordMode
  | double .bic s d wordMode => opBic s.mode s.reg d.mode d.reg wordMode
  | double .bis s d wordMode => opBis s.mode s.reg d.mode d.reg wordMode
  | double .add s d _ => opAddSub s.mode s.reg d.mode d.reg false
  | double .sub s d _ => opAddSub s.mode s.reg d.mode d.reg true
  | register .mul reg d => opMul reg d.mode d.reg
  | register .div reg d => opDiv reg d.mode d.reg
  | register .ash reg d => opAsh reg d.mode d.reg
  | register .ashc reg d => opAshc reg d.mode d.reg
  | register .xor reg d => opXor reg d.mode d.reg
  | single .swab d _ => opSwab d.mode d.reg
  | single .clr d wordMode => opClr d.mode d.reg wordMode
  | single .com d wordMode => opCom d.mode d.reg wordMode
  | single .inc d wordMode => opInc d.mode d.reg wordMode
  | single .dec d wordMode => opDec d.mode d.reg wordMode
  | single .neg d wordMode => opNeg d.mode d.reg wordMode
  | single .adc d wordMode => opAdc d.mode d.reg wordMode
  | single .sbc d wordMode => opSbc d.mode d.reg wordMode
  | single .tst d wordMode => opTst d.mode d.reg wordMode
  | single .ror d wordMode => opRor d.mode d.reg wordMode
  | single .rol d wordMode => opRol d.mode d.reg wordMode
  | single .asr d wordMode => opAsr d.mode d.reg wordMode
  | single .asl d wordMode => opAsl d.mode d.reg wordMode
  | single .mfp d wordMode => opMfp d.mode d.reg wordMode
  | single .mtp d wordMode => opMtp d.mode d.reg wordMode
  | single .sxt d _ => opSxt d.mode d.reg
  | sob reg dst => opSob reg dst
  | mark dst => opMark dst
  | branch instr => conditionalBranchInstructions instr
  | conditionCodes instr => conditionCodeOperations instr
  | control .halt => opHalt
  | control .wait => opWait
  | control .rti => opRti
  | control .reset => opReset
  | control (.trap vector) => opTrap vector
  | jmp d => opJmp d.mode d.reg
  | jsr linkReg d => opJsr linkReg d.mode d.reg
  | rts linkReg => opRts linkReg

end Execution

/-- The operands, in the order in which they are addressed. -/
def operands : Operation → List OperandField
  | double _ src dst _ => [src, dst]
  | register _ _ dst => [dst]
  | single _ dst _ => [dst]
  | jmp dst => [dst]
  | jsr _ dst => [dst]
  | sob .. | mark .. | branch .. | conditionCodes .. | control .. | rts .. => []

/-- The words that execution fetches through PC, the instruction's own and the
next words of the operands. -/
def fetchedWords (o : Operation) : Nat :=
  1 + (o.operands.map OperandField.words).sum

end Operation

end Operations

section Decoding

/-- The destination field of an instruction word. -/
def dstField (instr : Word) : OperandField :=
  { mode := field instr 3, reg := field instr 0 }

def srcField (instr : Word) : OperandField :=
  { mode := field instr 9, reg := field instr 6 }

/-- The cases of single_operand_instructions with an operand. -/
def singleOpcode (opcode : BitVec 9) (wordMode : WordMode) :
    Option SingleOpcode :=
  match opcode with
  | 0o3 => if wordMode = .wmByte then none else some .swab
  | 0o50 => some .clr
  | 0o51 => some .com
  | 0o52 => some .inc
  | 0o53 => some .dec
  | 0o54 => some .neg
  | 0o55 => some .adc
  | 0o56 => some .sbc
  | 0o57 => some .tst
  | 0o60 => some .ror
  | 0o61 => some .rol
  | 0o62 => some .asr
  | 0o63 => some .asl
  | 0o65 => some .mfp
  | 0o66 => some .mtp
  | 0o67 => if wordMode = .wmByte then none else some .sxt
  | _ => none

def doubleOpcode (doOpcode : RegNr) (wordMode : WordMode) :
    Option DoubleOpcode :=
  match doOpcode with
  | 1 => some .mov
  | 2 => some .cmp
  | 3 => some .bit
  | 4 => some .bic
  | 5 => some .bis
  | 6 => some (if wordMode = .wmByte then .sub else .add)
  | _ => none

def registerOpcode (operation : RegNr) : Option RegisterOpcode :=
  match operation with
  | 0 => some .mul
  | 1 => some .div
  | 2 => some .ash
  | 3 => some .ashc
  | 4 => some .xor
  | _ => none

/-- The words of conditional_branch_instructions. -/
def isBranch (opcode : Byte) : Bool :=
  (1 ≤ opcode && opcode ≤ 7) || (0x80 ≤ opcode && opcode ≤ 0x87)

/-- The words that misc_operations compares as a whole; MFPT traps as a
reserved instruction. -/
def controlOpcode (instr : Word) : Option ControlOpcode :=
  match instr with
  | 0o0 => some .halt
  | 0o1 => some .wait
  | 0o2 => some .rti
  | 0o3 => some (.trap 0o14)
  | 0o4 => some (.trap 0o20)
  | 0o5 => some .reset
  | 0o6 => some .rti
  | _ => none

/-- The words that misc_operations compares in part. -/
def decodeMisc (instr : Word) : Option Operation :=
  if instr >>> 8 = 0b10001000 then some (.control (.trap 0o30))
  else if instr >>> 8 = 0b10001001 then some (.control (.trap 0o34))
  else if instr &&& ~~~0b111111#16 = 0b0000000001000000 then
    if field instr 3 = 0 then none else some (.jmp (dstField instr))
  else if instr &&& 0b1111111000000000 = 0b0000100000000000 then
    if field instr 3 = 0 then none
    else some (.jsr (field instr 6) (dstField instr))
  else if instr &&& 0b1111111111111000 = 0b0000000010000000 then
    some (.rts (field instr 0))
  else none

/-- What the last three dispatchers make of a word. -/
def decodeRest (instr : Word) : Option Operation :=
  if isBranch ((instr >>> 8).setWidth 8) then some (.branch instr)
  else if instr = 0b0000000010100000 ∨ instr = 0b0000000010110000 ∨
      instr &&& ~~~7#16 = 0o000230 ∨ instr &&& ~~~31#16 = 0b10100000 then
    some (.conditionCodes instr)
  else if instr ≤ 7 then (controlOpcode instr).map .control
  else decodeMisc instr

/-- The operation that the dispatchers come to; none for a reserved word. -/
def decode (instr : Word) : Option Operation :=
  let wordMode := instrWordMode instr
  if field instr 12 = 0 then
    match singleOpcode ((instr >>> 6).setWidth 9) wordMode with
    | some op => some (.single op (dstField instr) wordMode)
    | none =>
        if ((instr >>> 6).setWidth 9 : BitVec 9) = 0o64 then
          if wordMode = .wmByte then none else some (.mark (instr &&& 63))
        else if ((instr >>> 6).setWidth 9 : BitVec 9) = 0o67 then none
        else decodeRest instr
  else if field instr 12 = 7 then
    if wordMode = .wmByte then decodeRest instr
    else
      match registerOpcode (field instr 9) with
      | some op => some (.register op (field instr 6) (dstField instr))
      | none =>
          if field instr 9 = 7 then some (.sob (field instr 6) (instr &&& 63))
          else decodeRest instr
  else
    (doubleOpcode (field instr 12) wordMode).map fun op =>
      .double op (srcField instr) (dstField instr) wordMode

end Decoding

section Dispatch

variable {δ : Type} [UnibusDevices δ]

/-- One dispatcher, and what is tried when the word is not its own. -/
def orElseTry (m rest : Exec δ Bool) : Exec δ Bool := do
  let done ← m
  if done then pure true else rest

theorem executeInstruction_eq
    (instr : Word) :
    (executeInstruction instr : Exec δ Bool) =
      orElseTry (doubleOperandInstructions instr)
        (orElseTry (conditionalBranchInstructions instr)
          (orElseTry (conditionCodeOperations instr) (miscOperations instr))) :=
  rfl

omit [UnibusDevices δ] in
theorem orElseTry_pure_false
    (rest : Exec δ Bool) :
    orElseTry (pure false) rest = rest :=
  rfl

omit [UnibusDevices δ] in
theorem orElseTry_last
    (m : Exec δ Bool) :
    orElseTry m (pure false) = m := by
  funext s
  unfold orElseTry
  rw [bind_apply]
  cases h : m s with
  | error e t => rfl
  | ok b t => cases b <;> rfl

/-- What single_operand_instructions does with a word. -/
theorem singleOperandInstructions_eq
    (instr : Word) :
    (singleOperandInstructions instr : Exec δ Bool) =
      match singleOpcode ((instr >>> 6).setWidth 9) (instrWordMode instr) with
      | some op =>
          (Operation.single op (dstField instr) (instrWordMode instr)).execute
      | none =>
          if ((instr >>> 6).setWidth 9 : BitVec 9) = 0o64 then
            if instrWordMode instr = .wmByte then reservedInstruction
            else opMark (instr &&& 63)
          else if ((instr >>> 6).setWidth 9 : BitVec 9) = 0o67 then
            reservedInstruction
          else pure false := by
  unfold singleOperandInstructions
  dsimp only
  generalize ((instr >>> 6).setWidth 9 : BitVec 9) = opcode
  generalize instrWordMode instr = wordMode
  split
  case h_18 =>
    -- none of the cases
    have hnone : singleOpcode opcode wordMode = none := by
      unfold singleOpcode
      split <;> first | contradiction | rfl
    rw [hnone]
    change _ = if opcode = 0o64 then _ else _
    rw [if_neg (by assumption), if_neg (by assumption)]
  all_goals cases wordMode <;> rfl

/-- A program executes an operation, or ends as a reserved instruction. -/
inductive RunsAs : Exec δ Bool → Option Operation → Prop
  | operation (o : Operation) (rest : Exec δ Bool) :
      RunsAs (orElseTry o.execute rest) (some o)
  | unknown : RunsAs (pure false) none
  | reserved (rest : Exec δ Bool) :
      RunsAs (orElseTry reservedInstruction rest) none

omit [UnibusDevices δ] in
theorem regNr_cases
    (x : RegNr) :
    x = 0 ∨ x = 1 ∨ x = 2 ∨ x = 3 ∨ x = 4 ∨ x = 5 ∨ x = 6 ∨ x = 7 := by
  revert x
  decide

theorem le_seven_cases
    {x : Word} (h : x ≤ 7) :
    x = 0 ∨ x = 1 ∨ x = 2 ∨ x = 3 ∨ x = 4 ∨ x = 5 ∨ x = 6 ∨ x = 7 := by
  bv_omega

omit [UnibusDevices δ] in
theorem conditionalBranchInstructions_other
    {instr : Word} (h : isBranch ((instr >>> 8).setWidth 8) = false) :
    (conditionalBranchInstructions instr : Exec δ Bool) = pure false := by
  funext s
  unfold conditionalBranchInstructions
  rw [cpuView_bind_apply]
  have hnone : conditionalBranchInstructionsEvaluate s.cpu instr = none := by
    unfold conditionalBranchInstructionsEvaluate
    generalize ((instr >>> 8).setWidth 8 : BitVec 8) = opcode at h ⊢
    split
    case h_16 =>
      rfl
    all_goals exact absurd h (by decide)
  rw [hnone]

omit [UnibusDevices δ] in
theorem conditionCodeOperations_other
    {instr : Word}
    (h : ¬ (instr = 0b0000000010100000 ∨ instr = 0b0000000010110000 ∨
      instr &&& ~~~7#16 = 0o000230 ∨ instr &&& ~~~31#16 = 0b10100000)) :
    (conditionCodeOperations instr : Exec δ Bool) = pure false := by
  simp only [not_or] at h
  unfold conditionCodeOperations
  rw [if_neg fun hnop => hnop.elim h.1 h.2.1, if_neg h.2.2.1, if_neg h.2.2.2]

theorem RunsAs.last
    {o : Operation} {m : Exec δ Bool} (h : m = o.execute) :
    RunsAs m (some o) := by
  rw [h, ← orElseTry_last o.execute]
  exact .operation o _

/-- The cases of misc_operations that compare a part of the word. -/
theorem decodeMisc_runs
    (instr : Word) :
    RunsAs (if instr >>> 8 = 0b10001000 then opTrap 0o30
      else if instr >>> 8 = 0b10001001 then opTrap 0o34
      else if instr &&& ~~~0b111111#16 = 0b0000000001000000 then
        opJmp (field instr 3) (field instr 0)
      else if instr &&& 0b1111111000000000 = 0b0000100000000000 then
        opJsr (field instr 6) (field instr 3) (field instr 0)
      else if instr &&& 0b1111111111111000 = 0b0000000010000000 then
        opRts (field instr 0)
      else pure false : Exec δ Bool) (decodeMisc instr) := by
  unfold decodeMisc
  split
  · exact .last rfl
  split
  · exact .last rfl
  split
  · split
    · next hmode =>
        rw [hmode]
        exact .unknown
    · exact .last rfl
  split
  · split
    · next hmode =>
        rw [hmode]
        exact .unknown
    · exact .last rfl
  split
  · exact .last rfl
  · exact .unknown

theorem miscOperations_runs
    (instr : Word) :
    RunsAs (miscOperations instr : Exec δ Bool)
      (if instr ≤ 7 then (controlOpcode instr).map .control
      else decodeMisc instr) := by
  by_cases hle : instr ≤ 7
  · rw [if_pos hle]
    rcases le_seven_cases hle with
      rfl | rfl | rfl | rfl | rfl | rfl | rfl | rfl
    case inr.inr.inr.inr.inr.inr.inr =>
      change RunsAs reservedInstruction none
      rw [← orElseTry_last reservedInstruction]
      exact .reserved _
    all_goals exact .last rfl
  · rw [if_neg hle]
    unfold miscOperations
    split
    case h_9 =>
      exact decodeMisc_runs instr
    all_goals exact absurd (by decide) hle

theorem decodeRest_runs
    (instr : Word) :
    RunsAs (orElseTry (conditionalBranchInstructions instr)
      (orElseTry (conditionCodeOperations instr) (miscOperations instr)) :
        Exec δ Bool) (decodeRest instr) := by
  unfold decodeRest
  split
  · exact .operation (.branch instr) _
  · next hbranch =>
      rw [conditionalBranchInstructions_other (Bool.eq_false_iff.mpr hbranch),
        orElseTry_pure_false]
      split
      · exact .operation (.conditionCodes instr) _
      · next hcodes =>
          rw [conditionCodeOperations_other hcodes, orElseTry_pure_false]
          exact miscOperations_runs instr

/-- SUB has bit 15 set. -/
theorem opAddSub_eq
    (instr : Word) :
    (opAddSub (field instr 9) (field instr 6) (field instr 3) (field instr 0)
      (decide (instr &&& 0x8000 ≠ 0)) : Exec δ Bool) =
      (Operation.double
        (if instrWordMode instr = .wmByte then .sub else .add) (srcField instr)
        (dstField instr) (instrWordMode instr)).execute := by
  unfold instrWordMode
  split
  · next h =>
      rw [decide_eq_true h]
      rfl
  · next h =>
      rw [decide_eq_false h]
      rfl

theorem additionalDoubleOperandInstructions_eq
    (instr : Word) :
    (additionalDoubleOperandInstructions instr : Exec δ Bool) =
      match registerOpcode (field instr 9) with
      | some op =>
          (Operation.register op (field instr 6) (dstField instr)).execute
      | none =>
          if field instr 9 = 7 then opSob (field instr 6) (instr &&& 63)
          else pure false := by
  unfold additionalDoubleOperandInstructions
  dsimp only
  rcases regNr_cases (field instr 9) with h | h | h | h | h | h | h | h <;>
    rw [h] <;> rfl

/-- What double_operand_instructions does with a word. -/
theorem doubleOperandInstructions_eq
    (instr : Word) :
    (doubleOperandInstructions instr : Exec δ Bool) =
      if field instr 12 = 0 then singleOperandInstructions instr
      else if field instr 12 = 7 then
        if instrWordMode instr = .wmByte then pure false
        else additionalDoubleOperandInstructions instr
      else
        match doubleOpcode (field instr 12) (instrWordMode instr) with
        | some op =>
            (Operation.double op (srcField instr) (dstField instr)
              (instrWordMode instr)).execute
        | none => pure false := by
  have hadd := opAddSub_eq (δ := δ) instr
  unfold doubleOperandInstructions
  dsimp only
  rcases regNr_cases (field instr 12) with h | h | h | h | h | h | h | h
  case inr.inr.inr.inr.inr.inr.inl =>
    rw [h]
    exact hadd
  all_goals
    rw [h]
    rfl

theorem decode_single_runs
    (instr : Word) (rest : Exec δ Bool) (h : RunsAs rest (decodeRest instr)) :
    RunsAs (orElseTry (singleOperandInstructions instr) rest)
      (match singleOpcode ((instr >>> 6).setWidth 9) (instrWordMode instr) with
      | some op => some (.single op (dstField instr) (instrWordMode instr))
      | none =>
          if ((instr >>> 6).setWidth 9 : BitVec 9) = 0o64 then
            if instrWordMode instr = .wmByte then none
            else some (.mark (instr &&& 63))
          else if ((instr >>> 6).setWidth 9 : BitVec 9) = 0o67 then none
          else decodeRest instr) := by
  rw [singleOperandInstructions_eq]
  cases singleOpcode ((instr >>> 6).setWidth 9) (instrWordMode instr) with
  | some op =>
      exact .operation _ _
  | none =>
      dsimp only
      split
      · split
        · exact .reserved _
        · exact .operation (.mark _) _
      · split
        · exact .reserved _
        · exact h

theorem decode_additional_runs
    (instr : Word) (rest : Exec δ Bool) (h : RunsAs rest (decodeRest instr)) :
    RunsAs (orElseTry (additionalDoubleOperandInstructions instr) rest)
      (match registerOpcode (field instr 9) with
      | some op => some (.register op (field instr 6) (dstField instr))
      | none =>
          if field instr 9 = 7 then some (.sob (field instr 6) (instr &&& 63))
          else decodeRest instr) := by
  rw [additionalDoubleOperandInstructions_eq]
  cases registerOpcode (field instr 9) with
  | some op =>
      exact .operation _ _
  | none =>
      dsimp only
      split
      · exact .operation (.sob _ _) _
      · exact h

theorem doubleOpcode_isSome
    {doOpcode : RegNr} (hzero : ¬ doOpcode = 0) (hseven : ¬ doOpcode = 7)
    (wordMode : WordMode) :
    ∃ op, doubleOpcode doOpcode wordMode = some op := by
  rcases regNr_cases doOpcode with rfl | rfl | rfl | rfl | rfl | rfl | rfl | rfl
  case inl =>
    exact absurd rfl hzero
  case inr.inr.inr.inr.inr.inr.inr =>
    exact absurd rfl hseven
  all_goals exact ⟨_, rfl⟩

/-- The dispatchers come to the operation that a word is decoded to; a word
without one ends as a reserved instruction. -/
theorem executeInstruction_runs
    (instr : Word) :
    RunsAs (executeInstruction instr : Exec δ Bool) (decode instr) := by
  rw [executeInstruction_eq, doubleOperandInstructions_eq]
  unfold decode
  dsimp only
  split
  · exact decode_single_runs instr _ (decodeRest_runs instr)
  · next hzero =>
      split
      · split
        · exact decodeRest_runs instr
        · exact decode_additional_runs instr _ (decodeRest_runs instr)
      · next hseven =>
          obtain ⟨op, hop⟩ :=
            doubleOpcode_isSome hzero hseven (instrWordMode instr)
          rw [hop]
          exact .operation _ _

end Dispatch

section ProgramCounter

variable {δ : Type} {α β : Type}

/-- Every return of the program leaves PC moved by `n`. -/
def MovesPC (n : Word) (m : Exec δ α) : Prop :=
  ∀ s t a, m s = .ok a t → t.cpu.pc = s.cpu.pc + n

namespace MovesPC

theorem pure
    (a : α) :
    MovesPC 0 (Pure.pure a : Exec δ α) := by
  intro s t b h
  cases h
  exact (BitVec.add_zero _).symm

theorem bind
    {n n' : Word} {m : Exec δ α} {k : α → Exec δ β} (h : MovesPC n m)
    (h' : ∀ a, MovesPC n' (k a)) :
    MovesPC (n + n') (m >>= k) := by
  intro s t b hrun
  obtain ⟨a, u, hm, hk⟩ := bind_eq_ok hrun
  rw [h' a u t b hk, h s u a hm, BitVec.add_assoc]

/-- What comes first leaves PC where it is. -/
theorem after
    {n : Word} {m : Exec δ α} {k : α → Exec δ β} (h : MovesPC 0 m)
    (h' : ∀ a, MovesPC n (k a)) :
    MovesPC n (m >>= k) :=
  BitVec.zero_add n ▸ h.bind h'

/-- What comes last leaves PC where it is. -/
theorem before
    {n : Word} {m : Exec δ α} {k : α → Exec δ β} (h : MovesPC n m)
    (h' : ∀ a, MovesPC 0 (k a)) :
    MovesPC n (m >>= k) :=
  BitVec.add_zero n ▸ h.bind h'

theorem view
    (f : Machine δ → α) :
    MovesPC 0 (StateExcept.view f : Exec δ α) := by
  intro s t b h
  cases h
  exact (BitVec.add_zero _).symm

theorem assertThat
    (label : Assertion) (c : Bool) :
    MovesPC 0 (KekPdp11.assertThat label c : Exec δ Unit) := by
  intro s t b h
  cases c with
  | true =>
      cases h
      exact (BitVec.add_zero _).symm
  | false =>
      cases h

theorem addRegister
    (reg : RegNr) (value : Word) :
    MovesPC (if reg = 7 then value else 0)
      (KekPdp11.addRegister reg value : Exec δ Word) := by
  intro s t b h
  cases h
  change (s.cpu.addRegister reg value).pc = _
  rcases regNr_cases reg with rfl | rfl | rfl | rfl | rfl | rfl | rfl | rfl <;>
    simp [Cpu.addRegister, Cpu.setRegister, Cpu.getRegister, Cpu.setPC,
      Cpu.setStackpointer, Cpu.setReg05]

theorem addToMMR1
    (reg : RegNr) {delta : Int} (hdelta : -2 ≤ delta ∧ delta ≤ 2) :
    MovesPC 0 (KekPdp11.addToMMR1 reg delta : Exec δ Unit) := by
  intro s t b h
  rw [addToMMR1_apply reg s hdelta] at h
  cases h
  split <;> exact (BitVec.add_zero _).symm

theorem read
    [UnibusDevices δ] (a : Word) (wordMode : WordMode) (runMode : RunMode)
    (spaceIn : Space) :
    MovesPC 0 (Bus.read a wordMode runMode spaceIn : Exec δ Word) := by
  intro s t b h
  obtain ⟨queued, any, hcpu⟩ := (Bus.read_returns h).cpu
  rw [hcpu]
  exact (BitVec.add_zero _).symm

end MovesPC

variable [UnibusDevices δ]

omit [UnibusDevices δ] in
/-- Autoincrement moves PC by two, autodecrement by minus two. -/
theorem OperandField.movesPC_auto
    (reg : RegNr) (wordMode : WordMode) :
    (⟨2, reg⟩ : OperandField).movesPC =
        (if reg = 7 then BitVec.ofInt 16 (autoDelta reg wordMode) else 0) ∧
      (⟨4, reg⟩ : OperandField).movesPC =
        (if reg = 7 then BitVec.ofInt 16 (-autoDelta reg wordMode) else 0) := by
  revert reg
  cases wordMode <;> decide

omit [UnibusDevices δ] in
theorem OperandField.movesPC_deferred
    (reg : RegNr) :
    (⟨3, reg⟩ : OperandField).movesPC = (if reg = 7 then 2 else 0) ∧
      (⟨5, reg⟩ : OperandField).movesPC = (if reg = 7 then -2 else 0) := by
  revert reg
  decide

/-- The address part of an operand moves PC over its next word. -/
theorem gamAddress_movesPC
    {mode : RegNr} (hmode : mode ≠ 0) (reg : RegNr) (wordMode : WordMode)
    (runMode : RunMode) :
    MovesPC (⟨mode, reg⟩ : OperandField).movesPC
      (gamAddress mode reg wordMode runMode : Exec δ _) := by
  have hauto := OperandField.movesPC_auto reg wordMode
  have hdeferred := OperandField.movesPC_deferred reg
  unfold gamAddress
  dsimp only
  rcases regNr_cases mode with rfl | rfl | rfl | rfl | rfl | rfl | rfl | rfl
  case inl =>
    exact absurd rfl hmode
  case inr.inl =>
    exact (MovesPC.view _).after fun _ => .pure _
  case inr.inr.inl =>
    rw [hauto.1]
    refine (MovesPC.view _).after fun _ => (MovesPC.addRegister _ _).before
      fun _ => ?_
    exact (MovesPC.addToMMR1 _ (autoDelta_range _ _)).after fun _ => .pure _
  case inr.inr.inr.inl =>
    rw [hdeferred.1]
    refine (MovesPC.view _).after fun _ => (MovesPC.read _ _ _ _).after
      fun _ => ?_
    refine (MovesPC.addToMMR1 _ (by omega)).after fun _ => ?_
    exact (MovesPC.addRegister _ _).before fun _ => .pure _
  case inr.inr.inr.inr.inl =>
    rw [hauto.2]
    refine (MovesPC.addRegister _ _).before fun _ => ?_
    exact (MovesPC.addToMMR1 _ (neg_autoDelta_range _ _)).after fun _ => .pure _
  case inr.inr.inr.inr.inr.inl =>
    rw [hdeferred.2]
    refine (MovesPC.addRegister _ _).before fun _ => ?_
    refine (MovesPC.addToMMR1 _ (by omega)).after fun _ => ?_
    exact (MovesPC.read _ _ _ _).after fun _ => .pure _
  case inr.inr.inr.inr.inr.inr.inl =>
    refine (MovesPC.view _).after fun _ => (MovesPC.read _ _ _ _).after
      fun _ => ?_
    refine (MovesPC.addRegister 7 2).before fun _ => ?_
    exact (MovesPC.view _).after fun _ => .pure _
  case inr.inr.inr.inr.inr.inr.inr =>
    refine (MovesPC.view _).after fun _ => (MovesPC.read _ _ _ _).after
      fun _ => ?_
    refine (MovesPC.addRegister 7 2).before fun _ => ?_
    refine (MovesPC.view _).after fun _ => ?_
    exact (MovesPC.read _ _ _ _).after fun _ => .pure _

/-- getGAM moves PC over the operand's next word. -/
theorem getGAM_movesPC
    (x : OperandField) (wordMode : WordMode) (readValue : Bool) :
    MovesPC x.movesPC (getGAM x.mode x.reg wordMode readValue : Exec δ _) := by
  obtain ⟨mode, reg⟩ := x
  unfold getGAM
  dsimp only
  split
  · next hmode =>
      subst hmode
      exact (MovesPC.view _).after fun _ => .pure _
  · next hmode =>
      refine (MovesPC.view _).after fun runMode => ?_
      refine (gamAddress_movesPC hmode _ _ _).before fun target => ?_
      refine MovesPC.after ?_ fun value => (MovesPC.assertThat _ _).after
        fun _ => .pure _
      split
      · exact .read _ _ _ _
      · exact .pure _

/-- The program addresses the operands through getGAM, one after the other,
before anything else that may move PC.  A register is not always addressed. -/
inductive Addresses : {α : Type} → List OperandField → Exec δ α → Prop
  | rest {α : Type} (m : Exec δ α) :
      Addresses [] m
  | operand {α : Type} {x : OperandField} {xs : List OperandField}
      {wordMode : WordMode} {readValue : Bool} {k : GamRc → Exec δ α} :
      (∀ g, Addresses xs (k g)) →
      Addresses (x :: xs) (getGAM x.mode x.reg wordMode readValue >>= k)
  | register {α : Type} {x : OperandField} {xs : List OperandField}
      {m : Exec δ α} :
      x.mode = 0 → Addresses xs m → Addresses (x :: xs) m
  | after {α β : Type} {xs : List OperandField} {m : Exec δ α}
      {k : α → Exec δ β} :
      MovesPC 0 m → (∀ a, Addresses xs (k a)) → Addresses xs (m >>= k)
  | inner {α β : Type} {xs : List OperandField} {m : Exec δ α}
      {k : α → Exec δ β} :
      Addresses xs m → Addresses xs (m >>= k)

namespace Addresses

variable {x y : OperandField} {wordMode : WordMode} {readValue : Bool}

theorem one
    {k : GamRc → Exec δ α} :
    Addresses [x] (getGAM x.mode x.reg wordMode readValue >>= k) :=
  .operand fun _ => .rest _

/-- A register that the instruction treats apart. -/
theorem apart
    {c : Prop} [Decidable c] (hc : c → x.mode = 0) {m : Exec δ α}
    {k : GamRc → Exec δ α} :
    Addresses [x]
      (if c then m else getGAM x.mode x.reg wordMode readValue >>= k) := by
  split
  · next h =>
      exact .register (hc h) (.rest _)
  · exact one

end Addresses

theorem popStack_movesPC :
    MovesPC 0 (popStack : Exec δ Word) := by
  refine (MovesPC.view _).after fun a => MovesPC.after ?_ fun temp => ?_
  · intro s t v h
    obtain ⟨queued, any, hcpu⟩ := (Bus.readWord_returns h).cpu
    rw [hcpu]
    exact (BitVec.add_zero _).symm
  · exact (MovesPC.addRegister 6 2).after fun _ => .pure _

/-- Each instruction addresses its operands. -/
theorem Operation.execute_addresses
    (o : Operation) :
    Addresses o.operands (o.execute : Exec δ Bool) := by
  cases o with
  | double op src dst wordMode =>
      cases op with
      | mov =>
          exact .operand fun gSrc => .inner (.apart And.right)
      | cmp | bit | add | sub =>
          exact .operand fun gSrc => .one
      | bic | bis =>
          exact .operand fun gSrc => .apart id
  | register op reg dst =>
      cases op with
      | mul | ash | xor =>
          exact .after (.view _) fun v => .one
      | div =>
          exact .one
      | ashc =>
          refine .after ?_ fun v => .one
          exact (MovesPC.view _).after fun _ => (MovesPC.view _).after
            fun _ => .pure _
  | single op dst wordMode =>
      cases op with
      | swab | tst | sxt =>
          exact .one
      | clr | com =>
          exact .inner (.apart And.right)
      | inc | dec | neg | adc | sbc | ror | rol | asr | asl =>
          exact .apart id
      | mfp =>
          exact .inner (.apart id)
      | mtp =>
          exact .after popStack_movesPC fun v => .inner (.apart id)
  | jmp dst =>
      exact .apart id
  | jsr linkReg dst =>
      exact .apart id
  | sob | mark | branch | conditionCodes | control | rts =>
      exact .rest _

/-- A run of the program from `s` goes through `u`. -/
inductive Passes : {α : Type} → Exec δ α → Machine δ → Machine δ → Prop
  | start {α : Type} (m : Exec δ α) (s : Machine δ) :
      Passes m s s
  | first {α β : Type} {m : Exec δ α} {k : α → Exec δ β} {s u : Machine δ} :
      Passes m s u → Passes (m >>= k) s u
  | second {α β : Type} {m : Exec δ α} {k : α → Exec δ β} {a : α}
      {s t u : Machine δ} :
      m s = .ok a t → Passes (k a) t u → Passes (m >>= k) s u

omit [UnibusDevices δ] in
theorem OperandField.movesPC_register
    {x : OperandField} (h : x.mode = 0) :
    x.movesPC = 0 := by
  obtain ⟨mode, reg⟩ := x
  dsimp only at h
  subst h
  revert reg
  decide

omit [UnibusDevices δ] in
/-- An operand that does not decrement PC moves it over the words it takes. -/
theorem OperandField.movesPC_words
    {x : OperandField} (h : ¬ ((x.mode = 4 ∨ x.mode = 5) ∧ x.reg = 7)) :
    x.movesPC = BitVec.ofNat 16 (2 * x.words) := by
  unfold movesPC words
  rw [if_neg h]
  split <;> rfl

/-- What the operands add to PC, one after the other. -/
def operandsMovePC : List OperandField → Word
  | [] => 0
  | x :: xs => x.movesPC + operandsMovePC xs

omit [UnibusDevices δ] in
theorem operandsMovePC_words
    {xs : List OperandField}
    (h : ∀ x ∈ xs, ¬ ((x.mode = 4 ∨ x.mode = 5) ∧ x.reg = 7)) :
    operandsMovePC xs =
      BitVec.ofNat 16 (2 * (xs.map OperandField.words).sum) := by
  induction xs with
  | nil =>
      rfl
  | cons x xs ih =>
      have hrest := ih fun y hy => h y (List.mem_cons_of_mem x hy)
      unfold operandsMovePC
      rw [OperandField.movesPC_words (h x List.mem_cons_self), hrest,
        List.map_cons, List.sum_cons, Nat.mul_add, BitVec.ofNat_add]

/-- A program that returns comes to a state in which PC has been moved over its
operands. -/
theorem Addresses.passes
    {xs : List OperandField} {m : Exec δ α} (h : Addresses xs m)
    {s t : Machine δ} {a : α} (hrun : m s = .ok a t) :
    ∃ u, Passes m s u ∧
      u.cpu.pc = s.cpu.pc + operandsMovePC xs := by
  induction h generalizing s t with
  | rest m =>
      exact ⟨s, .start m s, (BitVec.add_zero _).symm⟩
  | operand _ ih =>
      obtain ⟨g, v, hg, hk⟩ := bind_eq_ok hrun
      obtain ⟨u, hpasses, hu⟩ := ih g hk
      refine ⟨u, .second hg hpasses, ?_⟩
      rw [hu, getGAM_movesPC _ _ _ s v g hg]
      exact BitVec.add_assoc _ _ _
  | register hmode _ ih =>
      obtain ⟨u, hpasses, hu⟩ := ih hrun
      refine ⟨u, hpasses, ?_⟩
      unfold operandsMovePC
      rw [hu, OperandField.movesPC_register hmode]
      exact congrArg _ (BitVec.zero_add _).symm
  | after hmoves _ ih =>
      obtain ⟨b, v, hm, hk⟩ := bind_eq_ok hrun
      obtain ⟨u, hpasses, hu⟩ := ih b hk
      refine ⟨u, .second hm hpasses, ?_⟩
      rw [hu, hmoves s v b hm]
      exact congrArg (· + _) (BitVec.add_zero _)
  | inner _ ih =>
      obtain ⟨b, v, hm, -⟩ := bind_eq_ok hrun
      obtain ⟨u, hpasses, hu⟩ := ih hm
      exact ⟨u, .first hpasses, hu⟩

/-- An instruction that returns comes to a state in which PC is behind the
words that it fetches; only an operand that decrements PC is taken back. -/
theorem Operation.execute_fetches
    {o : Operation}
    (hpc : ∀ x ∈ o.operands, ¬ ((x.mode = 4 ∨ x.mode = 5) ∧ x.reg = 7))
    {s t : Machine δ} {executed : Bool} (hrun : o.execute s = .ok executed t) :
    ∃ u, Passes (o.execute : Exec δ Bool) s u ∧
      u.cpu.pc = s.cpu.pc + BitVec.ofNat 16 (2 * (o.fetchedWords - 1)) := by
  obtain ⟨u, hpasses, hu⟩ := o.execute_addresses.passes hrun
  refine ⟨u, hpasses, ?_⟩
  rw [hu, operandsMovePC_words hpc]
  unfold fetchedWords
  rw [Nat.add_sub_cancel_left]

end ProgramCounter

end KekPdp11
