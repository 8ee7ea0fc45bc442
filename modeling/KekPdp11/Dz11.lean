import KekPdp11.Machine

/-!
# KEK PDP-11: the DZ11 terminal lines

Class dz11: eight lines with a buffer for received bytes each, which the poller
fills and the guest empties through one register.  read_word and write_word and
the poll of one line hold the lock of the device from beginning to end, so that
each of them is one step.

What the poller gets from the outside is a parameter: whether the line is
connected, and the bytes that it takes from it in this round.  A byte access is
a word access of which one half is kept, or a word write of another value; what
write_byte makes that value of it reads without the lock.
-/

namespace KekPdp11

/-- One of the eight lines. -/
abbrev Line := Fin 8

/-- cstate. -/
inductive ConnectState where
  | notConnected
  | pending
  | connected
deriving DecidableEq, Repr

/-- psetting. -/
inductive ParitySetting where
  | noParity
  | oddParity
  | evenParity
deriving DecidableEq, Repr

structure Dz11 where
  registers : Nat → Word
  scannerLineNr : Line
  connected : Line → ConnectState
  paritySetting : Line → ParitySetting
  recvBuffers : Line → List Byte

/-- What a step does: the new state, the calls of the interrupt queues and the
bytes that are sent. -/
structure Dz11Effect where
  dz11 : Dz11
  requests : List InterruptRequest
  sent : List (Line × Byte)

namespace Dz11

def csr : Word := 0o160100
def rbuf : Word := 0o160102
def lpr : Word := 0o160102
def tcr : Word := 0o160104
def msr : Word := 0o160106
def tdr : Word := 0o160106

/-- The number of the register at an address. -/
def regNr (addr : Word) : Nat :=
  (addr.toNat - csr.toNat) / 2

def setRegister (d : Dz11) (nr : Nat) (v : Word) : Dz11 :=
  { d with registers := Function.update d.registers nr v }

/-- trigger_interrupt. -/
def interrupt (isTx : Bool) : InterruptRequest :=
  .queue 5 (if isTx then 0o314 else 0o310)

def isRxInterruptEnabled (d : Dz11) : Bool :=
  d.registers 0 &&& 0x0040 ≠ 0 && d.registers 0 &&& 32 ≠ 0

def isTxInterruptEnabled (d : Dz11) : Bool :=
  d.registers 0 &&& 0x4000 ≠ 0 && d.registers 0 &&& 32 ≠ 0

def reset (d : Dz11) (hard : Bool) : Dz11 :=
  if hard then
    { d with registers := fun nr => if nr < 4 then 0 else d.registers nr }
  else
    d

/-- A line number as a word. -/
def lineWord (line : Line) : Word :=
  BitVec.ofNat 16 line.val

/-- The lines in the order in which they are looked at. -/
def lines : List Line :=
  List.finRange 8

section Reading

/-- The parity of a byte. -/
def parity (c : Byte) : Bool :=
  (List.range 8).foldl (fun p i => xor p (c.getLsbD i)) false

/-- The parity bit that goes with a byte. -/
def parityBit (setting : ParitySetting) (c : Byte) : Bool :=
  match setting with
  | .evenParity => !parity c
  | .oddParity => parity c
  | .noParity => false

/-- What RBUF shows of a byte from a line. -/
def rbufWord (setting : ParitySetting) (line : Line) (c : Byte) : Word :=
  0x8000 ||| lineWord line <<< 8 ||| c.setWidth 16 |||
    (if parityBit setting c then (1 : Word) else 0) <<< 7

/-- A read of CSR. -/
def readCsr (d : Dz11) : Word × Dz11 :=
  let vtemp := d.registers 0
  let d := if d.registers 0 &&& 0x10 ≠ 0 then d.reset true else d
  let vtemp := vtemp &&& ~~~128
  let vtemp :=
    if lines.any fun i => !(d.recvBuffers i).isEmpty then vtemp ||| 128
    else vtemp
  let vtemp := vtemp &&& ~~~0x8000
  let vtemp := if d.registers 2 &&& 0xff ≠ 0 then vtemp ||| 0x8000 else vtemp
  let vtemp := vtemp &&& 0xf8ff
  let vtemp := vtemp ||| lineWord d.scannerLineNr <<< 8
  (vtemp &&& ~~~7, d)

/-- A read of RBUF: the first line that has a byte gives it away. -/
def readRbuf (d : Dz11) : Word × Dz11 :=
  match lines.find? fun i => !(d.recvBuffers i).isEmpty with
  | none => (0, d)
  | some i =>
      match d.recvBuffers i with
      | [] => (0, d)
      | c :: rest =>
          (rbufWord (d.paritySetting i) i c,
            { d with recvBuffers := Function.update d.recvBuffers i rest })

/-- A read of MSR. -/
def readMsr (d : Dz11) : Word × Dz11 :=
  let vtemp := lines.foldl
    (fun v i =>
      if d.connected i ≠ .notConnected then v ||| (1 : Word) <<< (8 + i.val)
      else v)
    (d.registers 3 &&& 0x00ff)
  (vtemp, d.setRegister 3 (d.registers 3 &&& 0xff00))

def readWord (d : Dz11) (addr : Word) : Word × Dz11 :=
  if addr = csr then d.readCsr
  else if addr = rbuf then d.readRbuf
  else if addr = tcr then (d.registers 2, d)
  else if addr = msr then d.readMsr
  else (d.registers (regNr addr), d)

end Reading

section Writing

/-- tx_scanner_do. -/
def txScannerDo (d : Dz11) (line : Line) (force : Bool) : Dz11Effect :=
  let status := d.registers 0 &&& ~~~(0x700 : Word) |||
    lineWord line <<< 8 ||| 0x8000
  let d := { d.setRegister 0 status with scannerLineNr := line }
  ⟨d, if d.isTxInterruptEnabled || force then [interrupt true] else [], []⟩

/-- A write to CSR. -/
def writeCsr (d : Dz11) (v : Word) : Dz11Effect :=
  let clr := v &&& 16 ≠ 0
  let d :=
    if clr then
      let d := d.reset true
      d.setRegister 0 (d.registers 0 &&& ~~~16)
    else
      d
  let vSet := d.registers 0 &&& ~~~0x5078 ||| v &&& 0x5078 |||
    (if clr then 16 else 0)
  ⟨d.setRegister 0 vSet, if clr then [interrupt false] else [], []⟩

/-- A write to LPR. -/
def writeLpr (d : Dz11) (v : Word) : Dz11Effect :=
  let lineNr : Line := ⟨(v &&& 7).toNat % 8, Nat.mod_lt _ (by decide)⟩
  let setting : ParitySetting :=
    if v &&& 64 ≠ 0 then
      if v &&& 128 ≠ 0 then .oddParity else .evenParity
    else
      .noParity
  let d :=
    { d with
      paritySetting := Function.update d.paritySetting lineNr setting }
  ⟨d.setRegister 1 v, [], []⟩

/-- A write to TDR: a byte goes to the line that is ready. -/
def writeTdr (d : Dz11) (v : Word) : Dz11Effect :=
  let lineNr : Line :=
    ⟨(d.registers 0 >>> 8 &&& 7).toNat % 8, Nat.mod_lt _ (by decide)⟩
  let c : Byte :=
    if d.paritySetting lineNr ≠ .noParity then (v &&& 127).setWidth 8
    else v.setWidth 8
  let scanned := d.txScannerDo lineNr false
  { scanned with
    dz11 := scanned.dz11.setRegister 3 v
    sent := [(lineNr, c)] }

/-- What a write to TCR does to a line that it enables. -/
def enableLine (e : Dz11Effect) (i : Line) : Dz11Effect :=
  let d :=
    if e.dz11.connected i = .pending then
      { e.dz11 with
        connected := Function.update e.dz11.connected i .connected }
    else
      e.dz11
  if d.connected i = .connected then
    let scanned := d.txScannerDo i true
    { e with
      dz11 := scanned.dz11
      requests := e.requests ++ scanned.requests }
  else
    { e with dz11 := d }

/-- A write to TCR. -/
def writeTcr (d : Dz11) (v : Word) : Dz11Effect :=
  let enabled := lines.filter fun i => v &&& (1 : Word) <<< i.val ≠ 0
  let e := enabled.foldl enableLine ⟨d, [], []⟩
  { e with
    dz11 := e.dz11.setRegister 2 v
    requests :=
      e.requests ++
        if v &&& 0xff = 0 then [.unqueue 5 0o310, .unqueue 5 0o314] else [] }

def writeWord (d : Dz11) (addr v : Word) : Dz11Effect :=
  if addr = csr then d.writeCsr v
  else if addr = lpr then d.writeLpr v
  else if addr = tdr then d.writeTdr v
  else if addr = tcr then d.writeTcr v
  else ⟨d.setRegister (regNr addr) v, [], []⟩

end Writing

section Polling

/-- A line was connected or disconnected. -/
def changeConnection (d : Dz11) (line : Line) (isConnected : Bool) : Dz11 :=
  let mask1 : Word := 1 <<< line.val
  let mask2 : Word := 1 <<< (line.val + 8)
  let d :=
    { d with
      connected := Function.update d.connected line
        (if isConnected then .pending else .notConnected) }
  if isConnected then
    d.setRegister 3 (d.registers 3 ||| (mask1 ||| mask2))
  else
    let d := d.setRegister 3 (d.registers 3 &&& ~~~(mask1 ||| mask2))
    d.setRegister 2 (d.registers 2 &&& ~~~mask2)

/-- A round of the poller for one line. -/
def poll (d : Dz11) (line : Line) (isConnected : Bool) (data : List Byte) :
    Dz11Effect :=
  let wasConnected := decide (d.connected line ≠ .notConnected)
  let d :=
    if isConnected ≠ wasConnected then d.changeConnection line isConnected
    else d
  let d :=
    { d with
      recvBuffers :=
        Function.update d.recvBuffers line (d.recvBuffers line ++ data) }
  ⟨d,
    if data ≠ [] ∧ d.isRxInterruptEnabled = true then [interrupt false]
    else [],
    []⟩

end Polling

section ByteAccesses

def readByte (d : Dz11) (addr : Word) : Byte × Dz11 :=
  let (v, d) := d.readWord (addr &&& ~~~1)
  (if addr &&& 1 ≠ 0 then (v >>> 8).setWidth 8 else v.setWidth 8, d)

/-- The word that write_byte makes of a register and a byte. -/
def composed (register addr : Word) (v : Byte) : Word :=
  if addr &&& 1 ≠ 0 then register &&& 0x00ff ||| v.setWidth 16 <<< 8
  else register &&& 0xff00 ||| v.setWidth 16

/-- The end of write_byte, which has read the register before it takes the
lock. -/
def storeByte (d : Dz11) (register addr : Word) (v : Byte) : Dz11Effect :=
  d.writeWord (addr &&& ~~~1) (composed register addr v)

/-- write_byte, with no round of the poller in between. -/
def writeByte (d : Dz11) (addr : Word) (v : Byte) : Dz11Effect :=
  d.storeByte (d.registers (regNr addr)) addr v

end ByteAccesses

/-- The device when it is constructed, or restored with the given registers. -/
def constructed (registers : Nat → Word) : Dz11 where
  registers := registers
  scannerLineNr := 0
  connected _ := .notConnected
  paritySetting _ := .noParity
  recvBuffers _ := []

end Dz11

/-- An operation on the device. -/
inductive DzEvent where
  | poll (line : Line) (isConnected : Bool) (data : List Byte)
  | readCsr
  | readRbuf
  | readTcr
  | readMsr
  | writeCsr (v : Word)
  | writeLpr (v : Word)
  | writeTcr (v : Word)
  | writeTdr (v : Word)
  | reset (hard : Bool)
  /-- A snapshot is taken and restored. -/
  | restore

namespace Dz11

/-- The state after an operation. -/
def after (d : Dz11) : DzEvent → Dz11
  | .poll line isConnected data => (d.poll line isConnected data).dz11
  | .readCsr => (d.readWord csr).2
  | .readRbuf => (d.readWord rbuf).2
  | .readTcr => (d.readWord tcr).2
  | .readMsr => (d.readWord msr).2
  | .writeCsr v => (d.writeWord csr v).dz11
  | .writeLpr v => (d.writeWord lpr v).dz11
  | .writeTcr v => (d.writeWord tcr v).dz11
  | .writeTdr v => (d.writeWord tdr v).dz11
  | .reset hard => d.reset hard
  | .restore => constructed d.registers

/-- The line in register 0. -/
def csrLine (d : Dz11) : Line :=
  ⟨(d.registers 0 >>> 8 &&& 7).toNat % 8, Nat.mod_lt _ (by decide)⟩

/-- CLR has been written and not yet been shown. -/
def clrPending (d : Dz11) : Bool :=
  d.registers 0 &&& 0x10 ≠ 0

/-- An operation leaves the two lines in agreement. -/
def KeepsLine (d : Dz11) : DzEvent → Prop
  | .writeCsr v =>
      if v &&& 16 ≠ 0 then d.scannerLineNr = 0
      else d.clrPending = true → d.csrLine = 0
  | .writeTcr v =>
      d.clrPending = true →
        ∀ i : Line, i ≠ 0 → v &&& (1 : Word) <<< i.val ≠ 0 →
          d.connected i = .notConnected
  | .writeTdr _ => d.clrPending = true → d.csrLine = 0
  | .reset hard => hard = true → d.scannerLineNr = 0
  | .restore => d.clrPending = true ∨ d.csrLine = 0
  | _ => True

end Dz11

end KekPdp11
