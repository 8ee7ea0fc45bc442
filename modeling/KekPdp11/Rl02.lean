import KekPdp11.DiskController

/-!
# KEK PDP-11: the RL02 controller

Class rl02: its registers, the side effects of reading them and the commands
that a write of the control register starts.
-/

namespace KekPdp11

open StateExcept

/-- The members of class rl02. -/
structure Rl02 where
  registers : RegisterFile
  xferBuffer : Buffer
  track : Int
  head : Nat
  sector : Nat
  mpr : Nat → Word

namespace Rl02

def RL02_CSR : Word := 0o174400
def RL02_BAR : Word := 0o174402
def RL02_DAR : Word := 0o174404
def RL02_MPR : Word := 0o174406
def RL02_BASE : Word := RL02_CSR

def rl02SectorsPerTrack : Nat := 40
def rl02TrackCount : Nat := 512
def rl02BytesPerSector : Nat := 256

/-- The place of a register in the array. -/
def number (a : Word) : Nat :=
  registerNumber RL02_BASE a

def get (c : Rl02) (a : Word) : Word :=
  c.registers (number a)

def set (c : Rl02) (a v : Word) : Rl02 :=
  { c with registers := Function.update c.registers (number a) v }

/-- A change of one register in place. -/
def modify (c : Rl02) (a : Word) (f : Word → Word) : Rl02 :=
  c.set a (f (c.get a))

def setMpr (c : Rl02) (i : Nat) (v : Word) : Rl02 :=
  { c with mpr := Function.update c.mpr i v }

def readWord (a : Word) (c : Rl02) : Word × Rl02 :=
  let c :=
    if a = RL02_CSR then
      c.modify a fun v => setBit (setBit v 0 true) 7 true
    else
      c
  if a = RL02_MPR then
    (c.mpr 0, ((c.setMpr 0 (c.mpr 1)).setMpr 1 (c.mpr 2)).setMpr 2 0)
  else
    (c.get a, c)

def getBusAddress (c : Rl02) : BitVec 32 :=
  ((c.get RL02_BAR).setWidth 32 |||
    (((c.get RL02_CSR >>> 4) &&& 3).setWidth 32 <<< 16)) &&& ~~~1

def calcOffset (c : Rl02) : BitVec 32 :=
  BitVec.ofInt 32
    ((rl02SectorsPerTrack * c.track * 2 + c.head * rl02SectorsPerTrack +
      c.sector) * rl02BytesPerSector)

/-- The number of bytes of a transfer. -/
def byteCount (mpr : Word) : Nat :=
  let count := (65536 - mpr.toNat) * 2
  if count = 65536 then 0 else count

/-- Move to the place that the disk address register names. -/
def position (dar : Word) (c : Rl02) : Rl02 :=
  { c with
    sector := (dar &&& 63).toNat
    head := ((dar >>> 6) &&& 1).toNat
    track := (dar >>> 7).toNat }

/-- The next sector, under the next head or on the next track if need be. -/
def advance (c : Rl02) : Rl02 :=
  if rl02SectorsPerTrack ≤ c.sector + 1 then
    if 2 ≤ c.head + 1 then
      { c with sector := 0, head := 0, track := c.track + 1 }
    else
      { c with sector := 0, head := c.head + 1 }
  else
    { c with sector := c.sector + 1 }

/-- The word of sector, head and track. -/
def headerWord (c : Rl02) : Word :=
  (BitVec.ofNat 16 c.sector &&& 63) ||| (BitVec.ofNat 16 c.head <<< 6) |||
    (BitVec.ofInt 16 c.track <<< 7)

section Commands

variable {β : Type} [DiskBackend β]

/-- A write, which fails without a cartridge. -/
def writeLoaded (device offset n : Nat) (source : Buffer) :
    Command Rl02 β Bool := do
  let loaded ← driveLoaded device
  if !loaded then
    pure false
  else
    writeDrive device offset n source rl02BytesPerSector

/-- A read, which fails without a cartridge. -/
def readLoaded (device offset n : Nat) (target : Buffer) :
    Command Rl02 β (Bool × Buffer) := do
  let loaded ← driveLoaded device
  if !loaded then
    pure (false, target)
  else
    readDrive device offset n target rl02BytesPerSector

/-- One pass of the loop that writes to the disk.  The multi purpose register
is counted up for each word; no access to memory reads it. -/
def writePiece (device : Nat)
    (memory disk : BitVec 32) (cur left : Nat) (_ : Unit) :
    Command Rl02 β (Bool × Unit) := do
  let buffer ← controllerView fun c => c.xferBuffer
  let buffer ← loadBytes memory cur 0 buffer
  modifyController fun c =>
    { c.setMpr 0 (c.mpr 0 + BitVec.ofNat 16 (cur / 2)) with
      xferBuffer := buffer }
  let ok ← writeLoaded device disk.toNat cur buffer
  if !ok then
    pure (false, ())
  else do
    modifyController fun c =>
      (c.setMpr 0 (c.mpr 0 + BitVec.ofNat 16 (left / 2))).advance
    pure (true, ())

/-- One pass of the loop that reads from the disk. -/
def readPiece (device : Nat)
    (memory disk : BitVec 32) (cur _left : Nat) (_ : Unit) :
    Command Rl02 β (Bool × Unit) := do
  let buffer ← controllerView fun c => c.xferBuffer
  let (ok, buffer) ← readLoaded device disk.toNat cur buffer
  modifyController fun c => { c with xferBuffer := buffer }
  if !ok then
    pure (false, ())
  else do
    storeBytes memory buffer cur 0
    modifyController fun c =>
      (c.setMpr 0 (c.mpr 0 + BitVec.ofNat 16 (cur / 2))).advance
    pure (true, ())

/-- A transfer: the branches of write_word for commands 5, 6 and 7. -/
def transfer
    (piece : (memory disk : BitVec 32) → (cur left : Nat) → Unit →
      Command Rl02 β (Bool × Unit)) :
    Command Rl02 β Unit := do
  let memoryAddress ← controllerView fun c => c.getBusAddress
  let count ← controllerView fun c => byteCount (c.get RL02_MPR)
  modifyController fun c => c.position (c.get RL02_DAR)
  let diskOffset ← controllerView fun c => c.calcOffset
  transferLoop rl02BytesPerSector piece count memoryAddress diskOffset count ()

def getStatus (c : Rl02) : Rl02 :=
  let status :=
    5 ||| (1#16 <<< 3) ||| (1#16 <<< 4) ||| (BitVec.ofNat 16 c.head <<< 6) |||
      (1#16 <<< 7)
  (c.setMpr 0 status).setMpr 1 status

def seek (c : Rl02) : Rl02 :=
  let temp := c.get RL02_DAR
  let cylinderCount : Int :=
    (temp >>> 7).toNat * (if temp &&& 4 ≠ 0 then 1 else -1)
  let newTrack := c.track + cylinderCount
  { c with
    track :=
      if newTrack < 0 then 0
      else if rl02TrackCount ≤ newTrack then rl02TrackCount - 1
      else newTrack }

def readHeader (c : Rl02) : Rl02 :=
  ((c.setMpr 0 c.headerWord).setMpr 1 0).setMpr 2 0

/-- The commands of the controller; the result is do_int. -/
def execute (device : Nat) (command : Nat) : Command Rl02 β Bool := do
  let present ← driveExists device
  if !present then do
    modifyController fun c =>
      c.modify RL02_CSR (· ||| ((1#16 <<< 10) ||| (1#16 <<< 15)))
    pure true
  else
    match command with
    | 2 => do
        modifyController getStatus
        pure false
    | 3 => do
        modifyController seek
        pure true
    | 4 => do
        modifyController readHeader
        pure true
    | 5 => do
        transfer (writePiece device)
        pure true
    | 6 | 7 => do
        transfer (readPiece device)
        pure true
    | _ => pure false

def writeWord (a v : Word) : Command Rl02 β Unit := do
  modifyController fun c => c.set a v
  if a = RL02_CSR then do
    let doInt ← execute ((v >>> 8) &&& 3).toNat ((v >>> 1) &&& 7).toNat
    let enabled ← controllerView fun c =>
      decide (c.get RL02_CSR &&& 64 ≠ 0)
    if doInt && enabled then
      queueInterrupt 5 0o160
    else
      pure ()
  else
    pure ()

def writeByte (a : Word) (v : Byte) : Command Rl02 β Unit := do
  let vtemp ← controllerView fun c => c.get a
  writeWord a (updateWord vtemp (isOdd a) v)

end Commands

instance : DiskController Rl02 where
  readWord := readWord
  writeByte := writeByte
  writeWord := writeWord

end Rl02

end KekPdp11
