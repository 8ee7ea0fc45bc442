import KekPdp11.DiskController

/-!
# KEK PDP-11: the RK05 controller

Class rk05: its registers, the side effects of reading them and the commands
that a write of the control register starts.
-/

namespace KekPdp11

open StateExcept

/-- The registers of class rk05 and its buffer. -/
structure Rk05 where
  registers : RegisterFile
  xferBuffer : Buffer

namespace Rk05

def RK05_DS : Word := 0o177400
def RK05_ERROR : Word := 0o177402
def RK05_CS : Word := 0o177404
def RK05_WC : Word := 0o177406
def RK05_BA : Word := 0o177410
def RK05_DA : Word := 0o177412
def RK05_BASE : Word := RK05_DS

/-- The place of a register in the array. -/
def number (a : Word) : Nat :=
  registerNumber RK05_BASE a

def get (c : Rk05) (a : Word) : Word :=
  c.registers (number a)

def set (c : Rk05) (a v : Word) : Rk05 :=
  { c with registers := Function.update c.registers (number a) v }

/-- A change of one register in place. -/
def modify (c : Rk05) (a : Word) (f : Word → Word) : Rk05 :=
  c.set a (f (c.get a))

def readWord (a : Word) (c : Rk05) : Word × Rk05 :=
  let c :=
    if a = RK05_DS then
      c.modify a fun v =>
        setBit (setBit (setBit (setBit (setBit v 11 true) 8 true) 7 true) 6
          true) 4 true
    else if a = RK05_ERROR then
      c.set a 0
    else if a = RK05_CS then
      c.modify a fun v => setBit (setBit (setBit v 15 false) 14 false) 7 true
    else
      c
  let vtemp := c.get a
  (vtemp, if a = RK05_CS then c.modify a fun v => setBit v 0 false else c)

def getBusAddress (c : Rk05) : BitVec 32 :=
  (c.get RK05_BA).setWidth 32 |||
    (((c.get RK05_CS >>> 4) &&& 3).setWidth 32 <<< 16)

def updateBusAddress (c : Rk05) (v : Word) : Rk05 :=
  let orgV := c.getBusAddress + v.setWidth 32
  let c := c.set RK05_BA (orgV.setWidth 16)
  c.modify RK05_CS fun cs =>
    (cs &&& ~~~(3#16 <<< 4)) ||| (((orgV >>> 16) &&& 3).setWidth 16 <<< 4)

/-- The variables of write_word that say where the transfer has got to. -/
structure Place where
  sector : Word
  surface : Word
  cylinder : Word

/-- The next sector, on the next surface or cylinder if need be. -/
def Place.next (p : Place) : Place :=
  if 12 ≤ p.sector + 1 then
    if 2 ≤ p.surface + 1 then
      ⟨0, 0, p.cylinder + 1⟩
    else
      ⟨0, p.surface + 1, p.cylinder⟩
  else
    { p with sector := p.sector + 1 }

/-- reclen of write_word: the magnitude of the signed word count, doubled. -/
def recordLength (wc : Word) : Nat :=
  if wc.toInt < 0 then (-wc.toInt * 2).toNat else (wc.toInt * 2).toNat

/-- diskoffb of write_word. -/
def diskOffset (da : Word) : BitVec 32 :=
  (((da >>> 4) &&& 511).setWidth 32 * 12 + (da &&& 15).setWidth 32) * 512

/-- The error and control bits of a failure. -/
def fail (error : Word) (c : Rk05) : Rk05 :=
  (c.modify RK05_ERROR (· ||| error)).modify RK05_CS (· ||| (3#16 <<< 14))

section Commands

variable {β : Type} [DiskBackend β]

/-- One pass of the loop that writes to the disk; `v` is the command. -/
def writePiece (v : Word) (device : Nat)
    (memory disk : BitVec 32) (cur _left : Nat) (place : Place) :
    Command Rk05 β (Bool × Place) := do
  let buffer ← controllerView fun c => c.xferBuffer
  let buffer ← loadBytes memory cur 0 buffer
  modifyController fun c => { c with xferBuffer := buffer }
  let ok ← writeDrive device disk.toNat cur buffer 512
  if !ok then do
    modifyController (fail 32)
    pure (false, place)
  else do
    modifyController fun c =>
      if v &&& 2048 ≠ 0 then c else c.updateBusAddress (BitVec.ofNat 16 cur)
    pure (true, place.next)

/-- One pass of the loop that reads from the disk.  The bus address is
advanced by two for each byte; no access to memory reads it. -/
def readPiece (v : Word) (device : Nat)
    (memory disk : BitVec 32) (cur _left : Nat) (place : Place) :
    Command Rk05 β (Bool × Place) := do
  let buffer ← controllerView fun c => c.xferBuffer
  let (ok, buffer) ← readDrive device disk.toNat cur buffer 512
  modifyController fun c => { c with xferBuffer := buffer }
  if !ok then do
    modifyController (fail 32)
    pure (false, place)
  else do
    storeBytes memory buffer cur 0
    modifyController fun c =>
      if v &&& 2048 = 0 then (fun c => c.updateBusAddress 2)^[cur] c else c
    pure (true, place.next)

/-- A transfer: the branches of write_word for functions 1 and 2. -/
def transfer
    (piece : Nat → (memory disk : BitVec 32) → (cur left : Nat) → Place →
      Command Rk05 β (Bool × Place))
    (device : Nat) (da : Word) (reclen : Nat) (memoff : BitVec 32) :
    Command Rk05 β Unit := do
  let present ← driveExists device
  if !present then
    modifyController (fail 128)
  else do
    let place ← transferLoop 512 (piece device) reclen memoff (diskOffset da)
      reclen ⟨da &&& 15, (da >>> 4) &&& 1, (da >>> 5) &&& 255⟩
    modifyController fun c =>
      c.set RK05_DA
        (place.sector ||| (place.surface <<< 4) ||| (place.cylinder <<< 5))

/-- The functions of the controller. -/
def execute (v : Word) (device : Nat) (da : Word) (reclen : Nat)
    (memoff : BitVec 32) : Command Rk05 β Unit :=
  match ((v >>> 1) &&& 7).toNat with
  | 0 => modifyController fun c => c.set RK05_ERROR 0
  | 1 => transfer (writePiece v) device da reclen memoff
  | 2 => transfer (readPiece v) device da reclen memoff
  | 4 => modifyController fun c => c.modify RK05_CS (· ||| (1#16 <<< 13))
  | _ => pure ()

/-- What write_word does after a function: the word count, the ready bits and
the interrupt. -/
def finish (v : Word) (device : Nat) : Command Rk05 β Unit := do
  modifyController fun c =>
    ((c.set RK05_WC 0).modify RK05_DS (· ||| 64)).modify RK05_CS (· ||| 128)
  if v &&& 64 ≠ 0 then do
    modifyController fun c =>
      c.modify RK05_DS fun ds =>
        (ds &&& ~~~(7#16 <<< 13)) ||| (BitVec.ofNat 16 device <<< 13)
    queueInterrupt 5 0o220
  else
    pure ()

/-- The drive that the disk address register names. -/
def selected (c : Rk05) : Nat :=
  (c.get RK05_DA >>> 13).toNat

/-- What write_word does when the GO bit of the control register is written. -/
def go (v : Word) : Command Rk05 β Unit := do
  let reclen ← controllerView fun c => recordLength (c.get RK05_WC)
  let da ← controllerView fun c => c.get RK05_DA
  let device ← controllerView selected
  let memoff ← controllerView fun c => c.getBusAddress
  modifyController fun c => c.modify RK05_CS (· &&& ~~~(1#16 <<< 13))
  execute v device da reclen memoff
  finish v device

def writeWord (a v : Word) : Command Rk05 β Unit := do
  modifyController fun c => c.set a v
  if a = RK05_CS ∧ v &&& 1 ≠ 0 then
    go v
  else
    pure ()

def writeByte (a : Word) (v : Byte) : Command Rk05 β Unit := do
  let vtemp ← controllerView fun c => c.get a
  writeWord a (updateWord vtemp (isOdd a) v)

end Commands

instance : DiskController Rk05 where
  readWord := readWord
  writeByte := writeByte
  writeWord := writeWord

end Rk05

end KekPdp11
