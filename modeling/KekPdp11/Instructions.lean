import KekPdp11.Operands

/-!
# KEK PDP-11: the instruction set

One definition for each instruction of the 11/70 that cpu.cpp executes, and
the four dispatchers that select it from the bits of an instruction word.

A dispatcher returns false for words that are not its own; what none of them
recognises is a reserved instruction.
-/

namespace KekPdp11

open StateExcept

variable {δ : Type}

section Flags

def setPSWc (v : Bool) : Exec δ Unit :=
  modifyCpu fun c => c.setPSWc v

def setPSWv (v : Bool) : Exec δ Unit :=
  modifyCpu fun c => c.setPSWv v

def setPSWz (v : Bool) : Exec δ Unit :=
  modifyCpu fun c => c.setPSWz v

def setPSWn (v : Bool) : Exec δ Unit :=
  modifyCpu fun c => c.setPSWn v

def getPSWc : Exec δ Bool :=
  cpuView fun c => c.getPSWc

def getPSWn : Exec δ Bool :=
  cpuView fun c => c.getPSWn

def setPSWFlagsNzv (value : Word) (wordMode : WordMode) : Exec δ Unit :=
  modifyCpu fun c => c.setPSWFlagsNzv value wordMode

/-- N and Z from a result. -/
def setNZ (value : Word) (wordMode : WordMode) : Exec δ Unit := do
  setPSWn (sign value wordMode)
  setPSWz (isZero value wordMode)

/-- The exclusive or of N and C, which the rotates and shifts put in V. -/
def setVFromNC : Exec δ Unit := do
  let n ← getPSWn
  let c ← getPSWc
  setPSWv (n ^^ c)

end Flags

/-- The high byte that a byte instruction on a register keeps. -/
def keptByte (v : Word) : WordMode → Word
  | .wmByte => v &&& 0xff00
  | .wmWord => 0

/-- A value compared with one constant at byte and one at word width. -/
def equalsAt (v byteValue wordValue : Word) : WordMode → Bool
  | .wmByte => v = byteValue
  | .wmWord => v = wordValue

/-- A C++ bool as a word. -/
def boolWord (b : Bool) : Word :=
  (BitVec.ofBool b).setWidth 16

/-- Three bits of an instruction word. -/
def field (instr : Word) (shift : Nat) : RegNr :=
  (instr >>> shift).setWidth 3

/-- The width that bit 15 of an instruction word selects. -/
def instrWordMode (instr : Word) : WordMode :=
  if instr &&& 0x8000 ≠ 0 then .wmByte else .wmWord

variable [UnibusDevices δ]

section DoubleOperand

def opMov (srcMode srcReg dstMode dstReg : RegNr) (wordMode : WordMode) :
    Exec δ Bool := do
  let gSrc ← getGAM srcMode srcReg wordMode true
  let setFlags ←
    (if wordMode = .wmByte ∧ dstMode = 0 then do
      setRegister dstReg ((gSrc.value.setWidth 8).signExtend 16)
      pure true
    else do
      let gDst ← getGAMAddress dstMode dstReg wordMode
      putGAM gDst gSrc.value)
  onlyIf setFlags (setPSWFlagsNzv gSrc.value wordMode)
  pure true

def opCmp (srcMode srcReg dstMode dstReg : RegNr) (wordMode : WordMode) :
    Exec δ Bool := do
  let gSrc ← getGAM srcMode srcReg wordMode true
  let gDst ← getGAM dstMode dstReg wordMode true
  let temp := (gSrc.value - gDst.value) &&& wordModeMask wordMode
  setNZ temp wordMode
  setPSWv
    (sign ((gSrc.value ^^^ gDst.value) &&& (~~~gDst.value ^^^ temp)) wordMode)
  setPSWc (decide (gSrc.value < gDst.value))
  pure true

def opBit (srcMode srcReg dstMode dstReg : RegNr) (wordMode : WordMode) :
    Exec δ Bool := do
  let gSrc ← getGAM srcMode srcReg wordMode true
  let gDst ← getGAM dstMode dstReg wordMode true
  let result := (gDst.value &&& gSrc.value) &&& wordModeMask wordMode
  setPSWFlagsNzv result wordMode
  pure true

/-- BIC and BIS, which differ in how they combine destination and source. -/
def opCombine (combine : Word → Word → Word)
    (srcMode srcReg dstMode dstReg : RegNr) (wordMode : WordMode) :
    Exec δ Bool := do
  let gSrc ← getGAM srcMode srcReg wordMode true
  if dstMode = 0 then do
    let v ← getRegister dstReg -- need the full word
    let result := combine v gSrc.value
    setRegister dstReg result
    setPSWFlagsNzv result wordMode
    pure true
  else do
    let gDst ← getGAM dstMode dstReg wordMode true
    let result := combine gDst.value gSrc.value
    let setFlags ← putResult gDst result
    onlyIf setFlags (setPSWFlagsNzv result wordMode)
    pure true

def opBic (srcMode srcReg dstMode dstReg : RegNr) (wordMode : WordMode) :
    Exec δ Bool :=
  opCombine (fun v src => v &&& ~~~src) srcMode srcReg dstMode dstReg wordMode

def opBis (srcMode srcReg dstMode dstReg : RegNr) (wordMode : WordMode) :
    Exec δ Bool :=
  opCombine (fun v src => v ||| src) srcMode srcReg dstMode dstReg wordMode

/-- ADD, and SUB when bit 15 is set. -/
def opAddSub (srcMode srcReg dstMode dstReg : RegNr) (sub : Bool) :
    Exec δ Bool := do
  let gSsrc ← getGAM srcMode srcReg .wmWord true
  let gDst ← getGAM dstMode dstReg .wmWord true
  let result :=
    if sub then gDst.value - gSsrc.value else gDst.value + gSsrc.value
  let setFlags ← putGAM gDst result
  onlyIf setFlags do
    (if sub then do
      setPSWv
        (sign ((gDst.value ^^^ gSsrc.value) &&& (~~~gSsrc.value ^^^ result))
          .wmWord)
      setPSWc (decide (gDst.value < gSsrc.value))
    else do
      setPSWv
        (sign ((~~~gSsrc.value ^^^ gDst.value) &&& (gSsrc.value ^^^ result))
          .wmWord)
      setPSWc (decide (result < gSsrc.value)))
    setNZ result .wmWord
  pure true

end DoubleOperand

section RegisterOperand

/-- The loop of shifter for counts below 32: the value and the V flag. -/
def shifterLoop (signMask : BitVec 32) (sign : Bool) :
    Nat → BitVec 32 × Bool → BitVec 32 × Bool
  | 0, r => r
  | n + 1, (value, v) =>
      let value := value <<< 1
      shifterLoop signMask sign n
        (value, v || decide (value &&& signMask ≠ 0) != sign)

/-- cpu::shifter. -/
def shifter (value : BitVec 32) (shift : Nat) (is32b : Bool) :
    Exec δ (BitVec 32) := do
  let signExtend : BitVec 64 :=
    if is32b then 0xffffffff00000000 else 0xffffffffffff0000
  let signMask : BitVec 32 := if is32b then 0x80000000 else 0x8000
  let mask : BitVec 32 := if is32b then 0xffffffff else 0xffff
  let sign := decide (value &&& signMask ≠ 0)
  setPSWv false
  let value ←
    (if shift = 0 then do
      setPSWc false
      pure value
    else if shift < 32 then do
      setPSWc (decide ((value <<< (shift - 1)) &&& signMask ≠ 0))
      let r := shifterLoop signMask sign shift (value, false)
      onlyIf r.2 (setPSWv true)
      pure r.1
    else if shift = 32 then do
      let value : BitVec 32 := if sign then 0xffffffff else 0
      setPSWc sign
      setPSWv (sign != decide (value &&& signMask ≠ 0))
      pure value
    else do
      let shiftN := (64 - shift) - 1
      let first : BitVec 32 :=
        if sign then
          ((value.setWidth 64 ||| signExtend) >>> shiftN).setWidth 32
        else value >>> shiftN
      setPSWc (decide (first &&& 1 ≠ 0))
      let second : BitVec 32 :=
        if sign then ((first.setWidth 64 ||| signExtend) >>> 1).setWidth 32
        else first >>> 1
      setPSWv (sign != decide (second &&& signMask ≠ 0))
      pure second)
  let value := value &&& mask
  setPSWn (decide (value &&& signMask ≠ 0))
  setPSWz (decide (value = 0))
  pure value

/-- A register and its odd neighbour as one 32-bit value. -/
def registerPair (reg : RegNr) : Exec δ (BitVec 32) := do
  let high ← getRegister reg
  let low ← getRegister (reg ||| 1)
  pure (high ++ low)

def opMul (reg dstMode dstReg : RegNr) : Exec δ Bool := do
  let r1 ← getRegister reg
  let r2g ← getGAM dstMode dstReg .wmWord true
  let result := r1.toInt * r2g.value.toInt
  let bits := BitVec.ofInt 32 result
  setRegister reg ((bits >>> 16).setWidth 16)
  setRegister (reg ||| 1) (bits.setWidth 16)
  setPSWn (decide (result < 0))
  setPSWz (decide (result = 0))
  setPSWv false
  setPSWc (decide (result < -32768 ∨ result > 32767))
  pure true

def opDiv (reg dstMode dstReg : RegNr) : Exec δ Bool := do
  let r2g ← getGAM dstMode dstReg .wmWord true
  let divider := r2g.value.toInt
  let r0r1 ← registerPair reg
  if divider = 0 then do
    setPSWn false
    setPSWz true
    setPSWv true
    setPSWc true
    pure true
  else if divider = -1 ∧ r0r1 = 0x80000000 then do
    setPSWn false
    setPSWz false
    setPSWv true
    setPSWc false
    pure true
  else do
    let quot := r0r1.toInt.tdiv divider
    let rem := r0r1.toInt.tmod divider
    setPSWn (decide (quot < 0))
    setPSWz (decide (quot = 0))
    setPSWc false
    if quot > 32767 ∨ quot < -32768 then do
      setPSWv true
      pure true
    else do
      setRegister reg (BitVec.ofInt 16 quot)
      setRegister (reg ||| 1) (BitVec.ofInt 16 rem)
      setPSWv false
      pure true

def opAsh (reg dstMode dstReg : RegNr) : Exec δ Bool := do
  let r ← getRegister reg
  let gDst ← getGAM dstMode dstReg .wmWord true
  let newValue ←
    shifter (r.setWidth 32) (gDst.value &&& 0o77).toNat false
  setRegister reg (newValue.setWidth 16)
  pure true

def opAshc (reg dstMode dstReg : RegNr) : Exec δ Bool := do
  let r0r1 ← registerPair reg
  let gDst ← getGAM dstMode dstReg .wmWord true
  let newValue ← shifter r0r1 (gDst.value &&& 0o77).toNat true
  setRegister reg ((newValue >>> 16).setWidth 16)
  setRegister (reg ||| 1) (newValue.setWidth 16)
  pure true

def opXor (reg dstMode dstReg : RegNr) : Exec δ Bool := do
  let regV ← getRegister reg -- in case it is R7
  let gDst ← getGAM dstMode dstReg .wmWord true
  let vl := gDst.value ^^^ regV
  let setFlags ← putGAM gDst vl
  onlyIf setFlags (setPSWFlagsNzv vl .wmWord)
  pure true

def opSob (reg : RegNr) (dst : Word) : Exec δ Bool := do
  let v ← addRegister reg (-1)
  onlyIf (decide (v ≠ 0)) do
    let pc ← getPC
    setPC (pc - dst * 2)
  pure true

def additionalDoubleOperandInstructions (instr : Word) : Exec δ Bool :=
  let reg := field instr 6
  let dstMode := field instr 3
  let dstReg := field instr 0
  match field instr 9 with
  | 0 => opMul reg dstMode dstReg
  | 1 => opDiv reg dstMode dstReg
  | 2 => opAsh reg dstMode dstReg
  | 3 => opAshc reg dstMode dstReg
  | 4 => opXor reg dstMode dstReg
  | 7 => opSob reg (instr &&& 63)
  | _ => pure false

end RegisterOperand

section SingleOperand

def opSwab (dstMode dstReg : RegNr) : Exec δ Bool := do
  let gDst ← getGAM dstMode dstReg .wmWord true
  let v := (gDst.value <<< 8) ||| (gDst.value >>> 8)
  let setFlags ← putGAM gDst v
  onlyIf setFlags do
    setPSWFlagsNzv v .wmByte
    setPSWc false
  pure true

def opClr (dstMode dstReg : RegNr) (wordMode : WordMode) : Exec δ Bool := do
  let setFlags ←
    (if wordMode = .wmByte ∧ dstMode = 0 then do
      let v ← getRegister dstReg
      setRegister dstReg (v &&& 0xff00)
      pure true
    else do
      let gDst ← getGAMAddress dstMode dstReg wordMode
      putGAM gDst 0)
  onlyIf setFlags do
    setPSWn false
    setPSWz true
    setPSWv false
    setPSWc false
  pure true

def opCom (dstMode dstReg : RegNr) (wordMode : WordMode) : Exec δ Bool := do
  let (setFlags, v) ←
    (if wordMode = .wmByte ∧ dstMode = 0 then do
      let old ← getRegister dstReg
      let v := old ^^^ 0xff
      setRegister dstReg v
      pure (true, v)
    else do
      let a ← getGAM dstMode dstReg wordMode true
      let v := a.value ^^^ wordModeMask wordMode
      let setFlags ← putGAM a v
      pure (setFlags, v))
  onlyIf setFlags do
    setPSWFlagsNzv v wordMode
    setPSWc true
  pure true

def opInc (dstMode dstReg : RegNr) (wordMode : WordMode) : Exec δ Bool := do
  if dstMode = 0 then do
    let old ← getRegister dstReg
    let v := ((old + 1) &&& wordModeMask wordMode) ||| keptByte old wordMode
    setNZ v wordMode
    setPSWv (equalsAt (v &&& wordModeMask wordMode) 0x80 0x8000 wordMode)
    setRegister dstReg v
    pure true
  else do
    let a ← getGAM dstMode dstReg wordMode true
    let vl := (a.value + 1) &&& wordModeMask wordMode
    let setFlags ← writeOperand a vl
    onlyIf setFlags do
      setNZ vl wordMode
      setPSWv (equalsAt vl 0x80 0x8000 wordMode)
    pure true

def opDec (dstMode dstReg : RegNr) (wordMode : WordMode) : Exec δ Bool := do
  if dstMode = 0 then do
    let old ← getRegister dstReg
    let v := ((old - 1) &&& wordModeMask wordMode) ||| keptByte old wordMode
    setNZ v wordMode
    setPSWv (equalsAt (v &&& wordModeMask wordMode) 0x7f 0x7fff wordMode)
    setRegister dstReg v
    pure true
  else do
    let a ← getGAM dstMode dstReg wordMode true
    let vl := (a.value - 1) &&& wordModeMask wordMode
    let setFlags ← writeOperand a vl
    onlyIf setFlags do
      setNZ vl wordMode
      setPSWv (equalsAt vl 0x7f 0x7fff wordMode)
    pure true

def opNeg (dstMode dstReg : RegNr) (wordMode : WordMode) : Exec δ Bool := do
  if dstMode = 0 then do
    let old ← getRegister dstReg
    let v := (-old &&& wordModeMask wordMode) ||| keptByte old wordMode
    setNZ v wordMode
    setPSWv (equalsAt (v &&& wordModeMask wordMode) 0x80 0x8000 wordMode)
    setPSWc (decide (v &&& wordModeMask wordMode ≠ 0))
    setRegister dstReg v
    pure true
  else do
    let a ← getGAM dstMode dstReg wordMode true
    let v := -a.value
    let setFlags ← writeOperand a v
    onlyIf setFlags do
      setNZ v wordMode
      setPSWv (equalsAt (v &&& wordModeMask wordMode) 0x80 0x8000 wordMode)
      setPSWc (decide (v &&& wordModeMask wordMode ≠ 0))
    pure true

def opAdc (dstMode dstReg : RegNr) (wordMode : WordMode) : Exec δ Bool := do
  if dstMode = 0 then do
    let vo ← getRegister dstReg
    let orgC ← getPSWc
    let v := ((vo + boolWord orgC) &&& wordModeMask wordMode) |||
      keptByte vo wordMode
    setNZ v wordMode
    setPSWv (equalsAt (vo &&& wordModeMask wordMode) 0x7f 0x7fff wordMode &&
      orgC)
    setPSWc (equalsAt (vo &&& wordModeMask wordMode) 0xff 0xffff wordMode &&
      orgC)
    setRegister dstReg v
    pure true
  else do
    let a ← getGAM dstMode dstReg wordMode true
    let vo := a.value
    let orgC ← getPSWc
    let v := (vo + boolWord orgC) &&& wordModeMask wordMode
    let setFlags ← writeOperand a v
    onlyIf setFlags do
      setNZ v wordMode
      setPSWv (equalsAt (vo &&& wordModeMask wordMode) 0x7f 0x7fff wordMode &&
        orgC)
      setPSWc (equalsAt (vo &&& wordModeMask wordMode) 0xff 0xffff wordMode &&
        orgC)
    pure true

def opSbc (dstMode dstReg : RegNr) (wordMode : WordMode) : Exec δ Bool := do
  if dstMode = 0 then do
    let vo ← getRegister dstReg
    let orgC ← getPSWc
    let v := ((vo - boolWord orgC) &&& wordModeMask wordMode) |||
      keptByte vo wordMode
    setNZ v wordMode
    setPSWv (equalsAt (vo &&& wordModeMask wordMode) 0x80 0x8000 wordMode &&
      orgC)
    setPSWc (isZero vo wordMode && orgC)
    setRegister dstReg v
    pure true
  else do
    let a ← getGAM dstMode dstReg wordMode true
    let vo := a.value
    let orgC ← getPSWc
    let v := (vo - boolWord orgC) &&& wordModeMask wordMode
    let setFlags ← writeOperand a v
    onlyIf setFlags do
      setNZ v wordMode
      setPSWv (equalsAt (vo &&& wordModeMask wordMode) 0x80 0x8000 wordMode &&
        orgC)
      setPSWc (isZero vo wordMode && orgC)
    pure true

def opTst (dstMode dstReg : RegNr) (wordMode : WordMode) : Exec δ Bool := do
  let g ← getGAM dstMode dstReg wordMode true
  setPSWFlagsNzv g.value wordMode
  setPSWc false
  pure true

/-- The flags of ROR and ROL: the carry first, V from it and the new N. -/
def setRotateFlags (newCarry : Bool) (temp : Word) (wordMode : WordMode) :
    Exec δ Unit := do
  setPSWc newCarry
  setNZ temp wordMode
  setVFromNC

def opRor (dstMode dstReg : RegNr) (wordMode : WordMode) : Exec δ Bool := do
  if dstMode = 0 then do
    let v ← getRegister dstReg
    let newCarry := decide (v &&& 1 ≠ 0)
    let c ← getPSWc
    let temp :=
      match wordMode with
      | .wmByte =>
          (((v &&& 0xff) >>> 1) ||| (boolWord c <<< 7)) ||| (v &&& 0xff00)
      | .wmWord => (v >>> 1) ||| (boolWord c <<< 15)
    setRegister dstReg temp
    setRotateFlags newCarry temp wordMode
    pure true
  else do
    let a ← getGAM dstMode dstReg wordMode true
    let t := a.value
    let newCarry := decide (t &&& 1 ≠ 0)
    let c ← getPSWc
    let temp :=
      match wordMode with
      | .wmByte => (t >>> 1) ||| (boolWord c <<< 7)
      | .wmWord => (t >>> 1) ||| (boolWord c <<< 15)
    let setFlags ← writeOperand a temp
    onlyIf setFlags (setRotateFlags newCarry temp wordMode)
    pure true

def opRol (dstMode dstReg : RegNr) (wordMode : WordMode) : Exec δ Bool := do
  if dstMode = 0 then do
    let v ← getRegister dstReg
    let c ← getPSWc
    let newCarry := sign v wordMode
    let temp :=
      match wordMode with
      | .wmByte => (((v <<< 1) ||| boolWord c) &&& 0xff) ||| (v &&& 0xff00)
      | .wmWord => (v <<< 1) ||| boolWord c
    setRegister dstReg temp
    setRotateFlags newCarry temp wordMode
    pure true
  else do
    let a ← getGAM dstMode dstReg wordMode true
    let t := a.value
    let c ← getPSWc
    let newCarry := sign t wordMode
    let temp :=
      match wordMode with
      | .wmByte => ((t <<< 1) ||| boolWord c) &&& 0xff
      | .wmWord => (t <<< 1) ||| boolWord c
    let setFlags ← writeOperand a temp
    onlyIf setFlags (setRotateFlags newCarry temp wordMode)
    pure true

/-- The arithmetic right shift by one of ASR and ASRB. -/
def asrValue (v : Word) : WordMode → Word
  | .wmByte => (((v &&& 255) >>> 1) ||| (v &&& 0xff00)) ||| (v &&& 128)
  | .wmWord => (v >>> 1) ||| (v &&& 32768)

def opAsr (dstMode dstReg : RegNr) (wordMode : WordMode) : Exec δ Bool := do
  if dstMode = 0 then do
    let old ← getRegister dstReg
    setPSWc (decide (old &&& 1 ≠ 0))
    let v := asrValue old wordMode
    setRegister dstReg v
    setNZ v wordMode
    setVFromNC
    pure true
  else do
    let a ← getGAM dstMode dstReg wordMode true
    setPSWc (decide (a.value &&& 1 ≠ 0))
    let v := asrValue a.value wordMode
    let setFlags ← writeOperand a v
    onlyIf setFlags do
      setNZ v wordMode
      setVFromNC
    pure true

def opAsl (dstMode dstReg : RegNr) (wordMode : WordMode) : Exec δ Bool := do
  if dstMode = 0 then do
    let vl ← getRegister dstReg
    let v := ((vl <<< 1) &&& wordModeMask wordMode) ||| keptByte vl wordMode
    setNZ v wordMode
    setPSWc (sign vl wordMode)
    setVFromNC
    setRegister dstReg v
    pure true
  else do
    let a ← getGAM dstMode dstReg wordMode true
    let v := (a.value <<< 1) &&& wordModeMask wordMode
    let setFlags ← writeOperand a v
    onlyIf setFlags do
      setNZ v wordMode
      setPSWc (sign a.value wordMode)
      setVFromNC
    pure true

/-- The space that bit 15 of MFPI/MFPD and MTPI/MTPD selects. -/
def previousSpace : WordMode → Space
  | .wmByte => .dSpace
  | .wmWord => .iSpace

/-- The word that MFPI and MFPD fetch from the previous mode. -/
def mfpValue (dstMode dstReg : RegNr) (wordMode : WordMode) :
    Exec δ Word := do
  if dstMode = 0 then
    if dstReg = 6 then
      cpuView fun c => c.sp c.getPSWPrevRunmode
    else
      getRegister dstReg
  else do
    -- calculate address in current address space
    let a ← getGAMAddress dstMode dstReg .wmWord
    -- read from previous space
    let prev ← getPSWPrevRunmode
    Bus.read a.addr .wmWord prev (previousSpace wordMode)

def opMfp (dstMode dstReg : RegNr) (wordMode : WordMode) : Exec δ Bool := do
  let v ← mfpValue dstMode dstReg wordMode
  setPSWFlagsNzv v .wmWord
  -- put on current stack
  pushStack v
  pure true

/-- Store the word that MTPI and MTPD popped in the previous mode. -/
def mtpStore (dstMode dstReg : RegNr) (wordMode : WordMode) (v : Word) :
    Exec δ Bool := do
  if dstMode = 0 then do
    (if dstReg = 6 then
      modifyCpu fun c => c.setStackpointer c.getPSWPrevRunmode v
    else
      setRegister dstReg v)
    pure true
  else do
    let a ← getGAMAddress dstMode dstReg .wmWord
    let prev ← getPSWPrevRunmode
    let isPsw ← Bus.write a.addr .wmWord v prev (previousSpace wordMode)
    pure (!isPsw)

def opMtp (dstMode dstReg : RegNr) (wordMode : WordMode) : Exec δ Bool := do
  -- retrieve word from '15/14'-stack
  let v ← popStack
  let setFlags ← mtpStore dstMode dstReg wordMode v
  onlyIf setFlags (setPSWFlagsNzv v .wmWord)
  pure true

def opMark (dst : Word) : Exec δ Bool := do
  let pc ← getPC
  setRegister 6 (pc + dst * 2)
  let r5 ← getRegister 5
  setPC r5
  let v ← popStack
  setRegister 5 v
  pure true

def opSxt (dstMode dstReg : RegNr) : Exec δ Bool := do
  let gDst ← getGAM dstMode dstReg .wmWord true
  let n ← getPSWn
  let vl := -boolWord n
  let setFlags ← putResult gDst vl
  onlyIf setFlags do
    let n ← getPSWn
    setPSWz (!n)
    setPSWv false
  pure true

/-- A reserved instruction. -/
def reservedInstruction : Exec δ Bool := do
  trap 0o10 none
  pure true

def singleOperandInstructions (instr : Word) : Exec δ Bool :=
  let dstMode := field instr 3
  let dstReg := field instr 0
  let wordMode := instrWordMode instr
  match ((instr >>> 6).setWidth 9 : BitVec 9) with
  | 0o3 =>
      if wordMode = .wmByte then pure false else opSwab dstMode dstReg
  | 0o50 => opClr dstMode dstReg wordMode
  | 0o51 => opCom dstMode dstReg wordMode
  | 0o52 => opInc dstMode dstReg wordMode
  | 0o53 => opDec dstMode dstReg wordMode
  | 0o54 => opNeg dstMode dstReg wordMode
  | 0o55 => opAdc dstMode dstReg wordMode
  | 0o56 => opSbc dstMode dstReg wordMode
  | 0o57 => opTst dstMode dstReg wordMode
  | 0o60 => opRor dstMode dstReg wordMode
  | 0o61 => opRol dstMode dstReg wordMode
  | 0o62 => opAsr dstMode dstReg wordMode
  | 0o63 => opAsl dstMode dstReg wordMode
  | 0o65 => opMfp dstMode dstReg wordMode
  | 0o66 => opMtp dstMode dstReg wordMode
  | 0o64 =>
      if wordMode = .wmByte then reservedInstruction else opMark (instr &&& 63)
  | 0o67 =>
      if wordMode = .wmByte then reservedInstruction else opSxt dstMode dstReg
  | _ => pure false

end SingleOperand

def doubleOperandInstructions (instr : Word) : Exec δ Bool :=
  let wordMode := instrWordMode instr
  let srcMode := field instr 9
  let srcReg := field instr 6
  let dstMode := field instr 3
  let dstReg := field instr 0
  match field instr 12 with
  | 0 => singleOperandInstructions instr
  | 1 => opMov srcMode srcReg dstMode dstReg wordMode
  | 2 => opCmp srcMode srcReg dstMode dstReg wordMode
  | 3 => opBit srcMode srcReg dstMode dstReg wordMode
  | 4 => opBic srcMode srcReg dstMode dstReg wordMode
  | 5 => opBis srcMode srcReg dstMode dstReg wordMode
  | 6 => opAddSub srcMode srcReg dstMode dstReg
      (decide (instr &&& 0x8000 ≠ 0))
  | _ =>
      if wordMode = .wmByte then pure false
      else additionalDoubleOperandInstructions instr

section Branches

/-- Whether a branch word is taken; none for other words. -/
def conditionalBranchInstructionsEvaluate (c : Cpu) (instr : Word) :
    Option Bool :=
  match ((instr >>> 8).setWidth 8 : BitVec 8) with
  | 0b00000001 => some true -- BR
  | 0b00000010 => some !c.getPSWz -- BNE
  | 0b00000011 => some c.getPSWz -- BEQ
  | 0b00000100 => some (c.getPSWn == c.getPSWv) -- BGE
  | 0b00000101 => some (c.getPSWn ^^ c.getPSWv) -- BLT
  | 0b00000110 => some (c.getPSWn == c.getPSWv && !c.getPSWz) -- BGT
  | 0b00000111 => some (c.getPSWn != c.getPSWv || c.getPSWz) -- BLE
  | 0b10000000 => some !c.getPSWn -- BPL
  | 0b10000001 => some c.getPSWn -- BMI
  | 0b10000010 => some (!c.getPSWc && !c.getPSWz) -- BHI
  | 0b10000011 => some (c.getPSWc || c.getPSWz) -- BLOS
  | 0b10000100 => some !c.getPSWv -- BVC
  | 0b10000101 => some c.getPSWv -- BVS
  | 0b10000110 => some !c.getPSWc -- BCC
  | 0b10000111 => some c.getPSWc -- BCS / BLO
  | _ => none

omit [UnibusDevices δ] in
def conditionalBranchInstructions (instr : Word) : Exec δ Bool := do
  let take ← cpuView fun c => conditionalBranchInstructionsEvaluate c instr
  match take with
  | none => pure false
  | some take => do
      onlyIf take do
        discard (addRegister 7 (((instr.setWidth 8).signExtend 16) * 2))
      pure true

end Branches

section Control

omit [UnibusDevices δ] in
/-- SPL, which only has an effect in kernel mode. -/
def opSpl (instr : Word) : Exec δ Bool := do
  let runMode ← getPSWRunmode
  onlyIf (decide (runMode = 0)) (modifyCpu fun c => c.setPSWspl (field instr 0))
  pure true

omit [UnibusDevices δ] in
/-- The instructions that set or clear condition code bits. -/
def opSetConditionBits (instr : Word) : Exec δ Bool := do
  let state := decide (instr &&& 0b10000 ≠ 0)
  onlyIf (decide (instr &&& 0b1000 ≠ 0)) (setPSWn state)
  onlyIf (decide (instr &&& 0b0100 ≠ 0)) (setPSWz state)
  onlyIf (decide (instr &&& 0b0010 ≠ 0)) (setPSWv state)
  onlyIf (decide (instr &&& 0b0001 ≠ 0)) (setPSWc state)
  pure true

omit [UnibusDevices δ] in
def conditionCodeOperations (instr : Word) : Exec δ Bool :=
  if instr = 0b0000000010100000 ∨ instr = 0b0000000010110000 then
    pure true -- NOP
  else if instr &&& ~~~7#16 = 0o000230 then
    opSpl instr
  else if instr &&& ~~~31#16 = 0b10100000 then
    opSetConditionBits instr
  else
    pure false

def opHalt : Exec δ Bool := do
  let runMode ← getPSWRunmode
  if runMode = 0 then do -- only in kernel mode
    modifyCpu fun c => { c with event := .eventHalt }
    pure true
  else
    reservedInstruction

omit [UnibusDevices δ] in
/-- WAIT returns once an interrupt above the priority is queued. -/
def opWait : Exec δ Bool := do
  let pending ← cpuView fun c => c.checkPendingInterrupts
  if pending then pure true else raise .waiting

/-- RTI and RTT. -/
def opRti : Exec δ Bool := do
  let pc ← popStack
  setPC pc
  let v ← popStack
  let runMode ← getPSWRunmode
  modifyCpu fun c => c.setPSW v (decide (runMode ≠ 0))
  pure true

def opReset : Exec δ Bool := do
  let runMode ← getPSWRunmode
  onlyIf (decide (runMode = 0)) do -- only in kernel mode
    Bus.reset true
    modifyCpu fun c => c.initInterruptQueue
  pure true

def opTrap (vector : Word) : Exec δ Bool := do
  trap vector none
  pure true

def opJmp (dstMode dstReg : RegNr) : Exec δ Bool := do
  if dstMode = 0 then -- cannot jump to a register
    pure false
  else do
    let g ← getGAMAddress dstMode dstReg .wmWord
    setPC g.addr
    pure true

def opJsr (linkReg dstMode dstReg : RegNr) : Exec δ Bool := do
  if dstMode = 0 then -- cannot jump to a register
    pure false
  else do
    let a ← getGAMAddress dstMode dstReg .wmWord
    let dstValue := a.addr
    -- PUSH link
    let link ← getRegister linkReg
    pushStack link
    let locked ← mmuView fun m => m.isMMR1Locked
    (if locked then pure () else mmuAddToMMR1 (-2) 6)
    -- MOVE PC,link
    let pc ← getPC
    setRegister linkReg pc
    -- JMP dst
    setPC dstValue
    pure true

def opRts (linkReg : RegNr) : Exec δ Bool := do
  -- MOVE link, PC
  let link ← getRegister linkReg
  setPC link
  -- POP link
  let sp ← getRegister 6
  let wordOnStack ← Bus.readWord sp .dSpace
  setRegister linkReg wordOnStack
  -- do not overwrite SP when it was just set
  onlyIf (decide (linkReg ≠ 6)) (discard (addRegister 6 2))
  pure true

def miscOperations (instr : Word) : Exec δ Bool :=
  match instr with
  | 0o0 => opHalt
  | 0o1 => opWait
  | 0o2 => opRti
  | 0o3 => opTrap 0o14 -- BPT
  | 0o4 => opTrap 0o20 -- IOT
  | 0o5 => opReset
  | 0o6 => opRti -- RTT
  | 0o7 => opTrap 0o10 -- MFPT does not exist on PDP-11/70
  | _ =>
      if instr >>> 8 = 0b10001000 then
        opTrap 0o30 -- EMT
      else if instr >>> 8 = 0b10001001 then
        opTrap 0o34 -- TRAP
      else if instr &&& ~~~0b111111#16 = 0b0000000001000000 then
        opJmp (field instr 3) (field instr 0)
      else if instr &&& 0b1111111000000000 = 0b0000100000000000 then
        opJsr (field instr 6) (field instr 3) (field instr 0)
      else if instr &&& 0b1111111111111000 = 0b0000000010000000 then
        opRts (field instr 0)
      else
        pure false

end Control

/-- The dispatchers in the order in which cpu::step tries them. -/
def executeInstruction (instr : Word) : Exec δ Bool := do
  let done ← doubleOperandInstructions instr
  if done then pure true
  else do
    let done ← conditionalBranchInstructions instr
    if done then pure true
    else do
      let done ← conditionCodeOperations instr
      if done then pure true
      else miscOperations instr

end KekPdp11
