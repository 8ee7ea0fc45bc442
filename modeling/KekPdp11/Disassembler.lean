import KekPdp11.Breakpoints

/-!
# KEK PDP-11: the disassembler

cpu::disassemble shows the instruction at an address: its text, the words that
it is made of, the values that it works with and whether one of them cannot be
peeked.  It has tables of its own for the opcodes and the addressing modes, and
peeks at memory only, so that the machine stays as it is.

What it shows besides (registers, status word, durations) does not depend on
the instruction being taken apart and is left out.
-/

namespace KekPdp11

variable {δ : Type} [UnibusDevices δ]

section Texts

/-- A number as %0wo prints it. -/
def octalText (width : Nat) (v : Word) : String :=
  String.ofList (octal width v.toNat)

def registerName (reg : RegNr) : String :=
  if reg = 6 then "SP"
  else if reg = 7 then "PC"
  else "R" ++ toString reg.toNat

end Texts

section Operands

/-- operand_parameters; a missing instruction part is -1 in the source. -/
structure OperandParameters where
  operand : String
  length : Word
  instructionPart : Option Word
  workValue : Word
  valid : Bool
  error : Option String

/-- One that could not be made, which the source leaves zero. -/
def OperandParameters.failed (error : String) : OperandParameters :=
  { operand := ""
    length := 0
    instructionPart := some 0
    workValue := 0
    valid := false
    error := some error }

def cannotFetch (a : Word) : String :=
  "cannot fetch memory from " ++ octalText 0 a

/-- A value that is peeked at, and the error when it is not there. -/
def peekValue (a : Word) (s : Machine δ) : Word × Option String :=
  match peekCurrent a s with
  | some v => (v, none)
  | none => (0xffff, some (cannotFetch a))

/-- A value that is peeked at through a pointer.  The message about the value
names the address `shown pointer`. -/
def peekDeferred (a : Word) (shown : Word → Word) (s : Machine δ) :
    Word × Option String :=
  match peekCurrent a s with
  | none => (0xffff, some (cannotFetch a))
  | some pointer =>
      match peekCurrent pointer s with
      | some v => (v, none)
      | none => (0xffff, some (cannotFetch (shown pointer)))

/-- An operand in memory. -/
def memoryOperand (operand : String) (instructionPart : Option Word)
    (wordMode : WordMode) (peeked : Word × Option String) :
    OperandParameters :=
  { operand := operand
    length := if instructionPart.isSome then 4 else 2
    instructionPart := instructionPart
    workValue := peeked.1 &&& wordModeMask wordMode
    valid := peeked.2.isNone
    error := peeked.2 }

/-- cpu::addressing_to_string. -/
def addressingToString (modeRegister : BitVec 6) (pc : Word)
    (wordMode : WordMode) (s : Machine δ) : OperandParameters :=
  match peekCurrent pc s with
  | none => .failed "cannot read from memory"
  | some nextWord =>
      let reg : RegNr := modeRegister.setWidth 3
      let mode : RegNr := (modeRegister >>> 3).setWidth 3
      let regName := registerName reg
      let v := s.cpu.getRegister reg
      match mode with
      | 0 =>
          { operand := regName
            length := 2
            instructionPart := none
            workValue := v &&& wordModeMask wordMode
            valid := true
            error := none }
      | 1 =>
          memoryOperand ("(" ++ regName ++ ")") none wordMode (peekValue v s)
      | 2 =>
          if reg = 7 then
            memoryOperand ("#" ++ octalText 6 nextWord) (some nextWord) wordMode
              (nextWord, none)
          else
            memoryOperand ("(" ++ regName ++ ")+") none wordMode (peekValue v s)
      | 3 =>
          if reg = 7 then
            memoryOperand ("@#" ++ octalText 6 nextWord) (some nextWord)
              wordMode (peekValue nextWord s)
          else
            memoryOperand ("@(" ++ regName ++ ")+") none wordMode
              (peekDeferred v id s)
      | 4 =>
          memoryOperand ("-(" ++ regName ++ ")") none wordMode
            (peekValue (v - (if wordMode = .wmWord ∨ 6 ≤ reg then 2 else 1)) s)
      | 5 =>
          -- the value is replaced before its message is made
          memoryOperand ("@-(" ++ regName ++ ")") none wordMode
            (peekDeferred (v - 2) (fun _ => 0xffff) s)
      | 6 =>
          memoryOperand
            (if reg = 7 then octalText 6 (pc + nextWord + 2)
            else octalText 0 nextWord ++ "(" ++ regName ++ ")")
            (some nextWord) wordMode (peekValue (v + nextWord) s)
      | _ =>
          memoryOperand
            (if reg = 7 then "@" ++ octalText 6 nextWord
            else "@" ++ octalText 0 nextWord ++ "(" ++ regName ++ ")")
            (some nextWord) wordMode
            (peekDeferred (v + nextWord) (fun _ => 0xffff) s)

end Operands

section Names

/-- The names of the instructions with a single operand; SWAB has its text made
elsewhere. -/
def singleName (soOpcode : BitVec 6) (wordMode : WordMode) : Option String :=
  match soOpcode with
  | 0b101000 => some "CLR"
  | 0b101001 => some "COM"
  | 0b101010 => some "INC"
  | 0b101011 => some "DEC"
  | 0b101100 => some "NEG"
  | 0b101101 => some "ADC"
  | 0b101110 => some "SBC"
  | 0b101111 => some "TST"
  | 0b110000 => some "ROR"
  | 0b110001 => some "ROL"
  | 0b110010 => some "ASR"
  | 0b110011 => some "ASL"
  | 0b110101 => some (if wordMode = .wmByte then "MFPD" else "MFPI")
  | 0b110110 => some (if wordMode = .wmByte then "MTPD" else "MTPI")
  | 0b110100 => some (if wordMode = .wmByte then "MTPS" else "MARK")
  | 0b110111 => some (if wordMode = .wmByte then "MFPS" else "SXT")
  | _ => none

/-- The names of the additional instructions with two operands; SOB has its
text made elsewhere. -/
def additionalName (adoOpcode : RegNr) : Option String :=
  match adoOpcode with
  | 0 => some "MUL"
  | 1 => some "DIV"
  | 2 => some "ASH"
  | 3 => some "ASHC"
  | 4 => some "XOR"
  | _ => none

def doubleName (doOpcode : RegNr) (wordMode : WordMode) : String :=
  match doOpcode with
  | 1 => "MOV"
  | 2 => "CMP"
  | 3 => "BIT"
  | 4 => "BIC"
  | 5 => "BIS"
  | _ => if wordMode = .wmByte then "SUB" else "ADD"

def branchName (cbOpcode : Byte) : Option String :=
  match cbOpcode with
  | 0b00000001 => some "BR"
  | 0b00000010 => some "BNE"
  | 0b00000011 => some "BEQ"
  | 0b00000100 => some "BGE"
  | 0b00000101 => some "BLT"
  | 0b00000110 => some "BGT"
  | 0b00000111 => some "BLE"
  | 0b10000000 => some "BPL"
  | 0b10000001 => some "BMI"
  | 0b10000010 => some "BHI"
  | 0b10000011 => some "BLOS"
  | 0b10000100 => some "BVC"
  | 0b10000101 => some "BVS"
  | 0b10000110 => some "BCC"
  | 0b10000111 => some "BCS/BLO"
  | _ => none

/-- The instructions that are one word of their own, and whether they clear the
values that are worked with. -/
def wholeWordName (instruction : Word) : Option (String × Bool) :=
  match instruction with
  | 0b0000000010100000 => some ("NOP", true)
  | 0b0000000010110000 => some ("NOP", true)
  | 0 => some ("HALT", true)
  | 1 => some ("WAIT", true)
  | 2 => some ("RTI", true)
  | 3 => some ("BPT", false)
  | 4 => some ("IOT", false)
  | 6 => some ("RTT", true)
  | 7 => some ("MFPT", false)
  | 5 => some ("RESET", true)
  | _ => none

/-- The text of an instruction that sets or clears condition bits. -/
def conditionText (instruction : Word) : String :=
  (if instruction &&& 0b10000 ≠ 0 then "SE" else "CL") ++
    (if instruction &&& 0b1000 ≠ 0 then "N" else "") ++
    (if instruction &&& 0b0100 ≠ 0 then "Z" else "") ++
    (if instruction &&& 0b0010 ≠ 0 then "V" else "") ++
    (if instruction &&& 0b0001 ≠ 0 then "C" else "")

end Names

section Disassembly

/-- What is shown of an instruction. -/
structure Disassembly where
  instructionText : String
  instructionValues : List Word
  workValues : List Word
  worksOnIo : Bool

/-- The variables of cpu::disassemble on the way; a text or a name that is
empty in the source is missing here. -/
structure Disassembling where
  text : Option String
  name : Option String
  instructionWords : List Word
  workValues : List Word
  mightBeIo : Bool

/-- The text of an instruction with a single operand. -/
def singleText (soOpcode : BitVec 6) (wordMode : WordMode) (operand : String) :
    Option String :=
  if soOpcode = 3 ∧ wordMode = .wmWord then some ("SWAB " ++ operand)
  else
    (singleName soOpcode wordMode).map fun name =>
      name ++ (if wordMode = .wmByte then "B" else "") ++ " " ++ operand

/-- The text of an additional instruction with two operands. -/
def additionalText (adoOpcode srcReg : RegNr) (operand : String) :
    Option String :=
  let srcText := "R" ++ toString srcReg.toNat
  if adoOpcode = 7 then some ("SOB " ++ srcText)
  else
    (additionalName adoOpcode).map fun name =>
      name ++ " " ++ srcText ++ "," ++ operand

/-- The first part: instructions with operands. -/
def disassembleOperands (addr instruction : Word) (s : Machine δ) :
    Disassembling :=
  let wordMode := instrWordMode instruction
  let adoOpcode := field instruction 9
  let doOpcode := field instruction 12
  let soOpcode : BitVec 6 := (instruction >>> 6).setWidth 6
  let srcRegister : BitVec 6 := (instruction >>> 6).setWidth 6
  let dstRegister : BitVec 6 := instruction.setWidth 6
  if doOpcode = 0 then
    let dst := addressingToString dstRegister (addr + 2) wordMode s
    let text := singleText soOpcode wordMode dst.operand
    { text := text.map fun text => text ++ (if dst.valid then "" else " (INV1)")
      name := singleName soOpcode wordMode
      instructionWords :=
        instruction ::
          (if text.isSome then dst.instructionPart.toList else [])
      workValues := [dst.workValue]
      mightBeIo := !dst.valid }
  else if doOpcode = 7 then
    if wordMode = .wmByte then
      { text := none
        name := some "?"
        instructionWords := [instruction]
        workValues := []
        mightBeIo := false }
    else
      let dst := addressingToString dstRegister (addr + 2) wordMode s
      let text :=
        additionalText adoOpcode (field instruction 6) dst.operand
      { text := text
        name := additionalName adoOpcode
        instructionWords :=
          instruction ::
            (if text.isSome then dst.instructionPart.toList else [])
        workValues := [dst.workValue]
        mightBeIo := !dst.valid }
  else
    let src := addressingToString srcRegister (addr + 2) wordMode s
    let dst := addressingToString dstRegister (addr + src.length) wordMode s
    let name := doubleName doOpcode wordMode
    let wordModeStr := if wordMode = .wmByte ∧ doOpcode ≠ 6 then "B" else ""
    { text :=
        some (name ++ wordModeStr ++ " " ++ src.operand ++ "," ++ dst.operand)
      name := some name
      instructionWords :=
        instruction ::
          (src.instructionPart.toList ++ dst.instructionPart.toList)
      workValues := [src.workValue, dst.workValue]
      mightBeIo := !dst.valid }

/-- The second part: conditional branches. -/
def disassembleBranch (addr instruction : Word) (d : Disassembling) :
    Disassembling :=
  if d.text.isSome then d
  else
    let newPc := addr + 2 + (instruction.setWidth 8).signExtend 16 * 2
    let name := (branchName ((instruction >>> 8).setWidth 8)).or d.name
    { d with
      name := name
      text := name.map fun name => name ++ " 0" ++ octalText 6 newPc }

/-- The operand of JMP or JSR. -/
def withDestination (dst : OperandParameters) (d : Disassembling) :
    Disassembling :=
  { d with
    instructionWords := d.instructionWords ++ dst.instructionPart.toList
    workValues := d.workValues ++ [dst.workValue]
    mightBeIo := !dst.valid }

/-- The last part: everything else. -/
def disassembleOthers (addr instruction : Word) (s : Machine δ)
    (d : Disassembling) : Disassembling :=
  if d.text.isSome then d
  else
    let d :=
      if instruction &&& ~~~7#16 = 0o000230 then
        { d with text := some ("SPL" ++ toString (field instruction 0).toNat) }
      else d
    let d :=
      if instruction &&& ~~~31#16 = 0b10100000 then
        { d with text := some (conditionText instruction) }
      else d
    let d :=
      match wholeWordName instruction with
      | some (text, clears) =>
          { d with
            text := some text
            workValues := if clears then [] else d.workValues }
      | none => d
    let d :=
      if instruction >>> 8 = 0b10001000 then
        { d with text := some ("EMT " ++ octalText 0 (instruction &&& 255)) }
      else d
    let d :=
      if instruction >>> 8 = 0b10001001 then
        { d with text := some ("TRAP " ++ octalText 0 (instruction &&& 255)) }
      else d
    let dst :=
      addressingToString (instruction.setWidth 6) (addr + 2)
        (instrWordMode instruction) s
    let d :=
      if instruction &&& ~~~0b111111#16 = 0b0000000001000000 then
        { withDestination dst d with
          text := some ("JMP " ++ dst.operand ++
            (if dst.valid then "" else " (INV4)") ++
            (match dst.error with
            | some error => " " ++ error
            | none => "")) }
      else d
    let d :=
      if instruction &&& 0b1111111000000000 = 0b0000100000000000 then
        { withDestination dst d with
          text := some ("JSR R" ++ toString (field instruction 6).toNat ++
            "," ++ dst.operand) }
      else d
    if instruction &&& 0b1111111111111000 = 0b0000000010000000 then
      { d with text := some "RTS" }
    else d

/-- cpu::disassemble; nothing is shown when the word cannot be peeked. -/
def disassemble (addr : Word) (s : Machine δ) : Option Disassembly :=
  (peekCurrent addr s).map fun instruction =>
    let d := disassembleOperands addr instruction s
    let d := disassembleBranch addr instruction d
    let d := disassembleOthers addr instruction s d
    { instructionText := d.text.getD "???"
      instructionValues := d.instructionWords
      workValues := d.workValues
      worksOnIo := d.mightBeIo }

/-- The size that the debugger's disassemble gives, in bytes. -/
def shownSize (pc : Word) (s : Machine δ) : Word :=
  match disassemble pc s with
  | some data => BitVec.ofNat 16 (data.instructionValues.length * 2)
  | none => 2

/-- The loop of cmd_disassemble: the addresses it shows. -/
def cmdDisassemble (s : Machine δ) : Nat → Word → List Word
  | 0, _ => []
  | n + 1, pc => pc :: cmdDisassemble s n (pc + shownSize pc s)

end Disassembly

end KekPdp11
