import KekPdp11.DiskController

/-!
# KEK PDP-11: the RP06 and RP07 controller

Class rp06: its registers, what reading them adds and the commands that a
write of the control register starts.  The counts of sectors and tracks are
global variables of the source, which an RP07 changes.
-/

namespace KekPdp11

open StateExcept

/-- The members of class rp06 and the variables of the geometry. -/
structure Rp06 where
  registers : RegisterFile
  isRp07 : Bool
  nsect : BitVec 32
  ntrac : BitVec 32

namespace Rp06

def RP06_CS1 : Word := 0o176700
def RP06_WC : Word := 0o176702
def RP06_UBA : Word := 0o176704
def RP06_DA : Word := 0o176706
def RP06_CS2 : Word := 0o176710
def RP06_DS : Word := 0o176712
def RP06_ERRREG1 : Word := 0o176714
def RP06_AS : Word := 0o176716
def RP06_DC : Word := 0o176734
def RP06_CC : Word := 0o176736
def RP06_BAE : Word := 0o176750
def RP06_BASE : Word := RP06_CS1

/-- cs1_bits of class rp06. -/
def cs1Go : Word := 0o1
def cs1Ie : Word := 0o100
def cs1Rdy : Word := 0o200
def cs1A16 : Word := 0o400
def cs1A17 : Word := 0o1000
def cs1Tre : Word := 0o40000

/-- default_DS: drive present, medium on-line, volume valid, drive ready. -/
def defaultDS : Word := 0o400 ||| 0o10000 ||| 0o100 ||| 0o200

def sectorSize : Nat := 512

def regNum (a : Word) : Nat :=
  registerNumber RP06_BASE a

def get (c : Rp06) (a : Word) : Word :=
  c.registers (regNum a)

def set (c : Rp06) (a v : Word) : Rp06 :=
  { c with registers := Function.update c.registers (regNum a) v }

/-- A change of one register in place. -/
def modify (c : Rp06) (a : Word) (f : Word → Word) : Rp06 :=
  c.set a (f (c.get a))

def readWord (a : Word) (c : Rp06) : Word × Rp06 :=
  let value := c.get a
  (if a = RP06_CS1 then value ||| cs1Rdy
    else if a = RP06_DS then value ||| defaultDS
    else value, c)

def computeOffset (c : Rp06) : BitVec 32 :=
  let cn := (c.get RP06_DC).setWidth 32
  let tn := ((c.get RP06_DA >>> 8) &&& 0o377).setWidth 32
  let sn := (c.get RP06_DA &&& 0o377).setWidth 32
  (cn * c.nsect * c.ntrac + tn * c.nsect + sn) * 512

def getphysaddr (c : Rp06) : BitVec 32 :=
  let uba := (c.get RP06_UBA).setWidth 32
  if c.get RP06_BAE ≠ 0 then
    uba ||| ((c.get RP06_BAE &&& 0o77).setWidth 32 <<< 16)
  else
    uba ||| ((if c.get RP06_CS1 &&& cs1A16 ≠ 0 then 1#32 else 0) <<< 16) |||
      ((if c.get RP06_CS1 &&& cs1A17 ≠ 0 then 1#32 else 0) <<< 17)

section Commands

variable {β : Type} [DiskBackend β]

/-- One pass of the loop of a transfer: READ (070) or WRITE (060).  The
buffer is a variable of write_word. -/
def piece (reads : Bool)
    (memory disk : BitVec 32) (cur : Nat) (buffer : Buffer) :
    Command Rp06 β (Bool × Buffer) :=
  if reads then do
    let (ok, buffer) ← readDrive 0 disk.toNat cur buffer sectorSize
    if !ok then
      pure (false, buffer)
    else do
      storeBytes memory buffer cur 0
      pure (true, buffer)
  else do
    let buffer ← loadBytes memory cur 0 buffer
    let ok ← writeDrive 0 disk.toNat cur buffer sectorSize
    pure (ok, buffer)

/-- The loop of a transfer, with the comparison of its offsets as unsigned
numbers of 32 bits.  An offset that passes the end of the numbers starts over
at zero; a loop that has taken all the offsets there are does not end. -/
def transferLoop (reads : Bool) (endOffset : BitVec 32) :
    (passes : Nat) → (memory curOffset : BitVec 32) → Buffer →
      Command Rp06 β Unit
  | 0, _, _, _ => raise .blocked
  | passes + 1, memory, curOffset, buffer =>
      if curOffset < endOffset then do
        let curN := min (endOffset - curOffset).toNat sectorSize
        let (goOn, buffer) ← piece reads memory curOffset curN buffer
        if goOn then
          transferLoop reads endOffset passes (memory + BitVec.ofNat 32 curN)
            (curOffset + BitVec.ofNat 32 sectorSize) buffer
        else
          pure ()
      else
        pure ()

/-- The number of offsets that are multiples of the sector size, and one. -/
def allPasses : Nat :=
  2 ^ 23 + 1

/-- A transfer: the branch of write_word for functions 060 and 070. -/
def transfer (reads : Bool) : Command Rp06 β Unit := do
  let offs ← controllerView fun c => c.computeOffset
  let addr ← controllerView fun c => c.getphysaddr
  let nw ← controllerView fun c => 65536 - (c.get RP06_WC).toNat
  transferLoop reads (offs + BitVec.ofNat 32 (nw * 2)) allPasses addr offs
    fun _ => 0
  modifyController fun c =>
    (c.set RP06_WC 0).modify RP06_CS1 (· ||| cs1Rdy)

/-- The functions of the controller; the result is generate_interrupt. -/
def execute (functionCode : Nat) : Command Rp06 β Bool :=
  match functionCode with
  | 0o6 | 0o12 | 0o16 | 0o20 | 0o22 => do
      modifyController fun c => c.modify RP06_CS1 (· ||| cs1Rdy)
      pure true
  | 0o30 => do
      modifyController fun c =>
        let c := c.modify RP06_CS1 (· ||| cs1Rdy)
        c.set RP06_CC (c.get RP06_DC)
      pure true
  | 0o60 => do
      transfer false
      pure true
  | 0o70 => do
      transfer true
      pure true
  | _ => pure false

/-- What write_word does when the GO bit of the control register is written. -/
def go (v : Word) : Command Rp06 β Unit := do
  let functionCode := v &&& 62
  modifyController fun c =>
    c.modify RP06_CS1 (· &&& ~~~(functionCode ||| cs1Go ||| cs1Tre))
  let generateInterrupt ← execute functionCode.toNat
  let enabled ← controllerView fun c =>
    decide (c.get RP06_CS1 &&& cs1Ie ≠ 0)
  if generateInterrupt && enabled then
    queueInterrupt 5 0o254
  else
    pure ()

def writeWord (a v : Word) : Command Rp06 β Unit := do
  modifyController fun c => c.set a v
  if a = RP06_CS1 then do
    modifyController fun c =>
      if c.get RP06_CS1 &&& cs1Rdy ≠ 0 then c.set RP06_AS 1 else c
    if v &&& 1 ≠ 0 then
      go v
    else
      pure ()
  else
    pure ()

def writeByte (a : Word) (v : Byte) : Command Rp06 β Unit := do
  let vtemp ← controllerView fun c => c.get a
  writeWord (a &&& ~~~1) (updateWord vtemp (isOdd a) v)

end Commands

instance : DiskController Rp06 where
  readWord := readWord
  writeByte := writeByte
  writeWord := writeWord

end Rp06

end KekPdp11
