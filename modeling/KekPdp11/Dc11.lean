import KekPdp11.Machine

/-!
# KEK PDP-11: the DC11 serial lines

Class dc11: four lines with four registers and a buffer for received bytes
each.  Every line has a lock, which read_word and write_word and the poll of
the line hold from beginning to end, so that each of them is one step.

What the poller and the transmit status get from the outside is a parameter:
whether the line is connected, and the bytes that are taken from it.
-/

namespace KekPdp11

abbrev DcLine := Fin 4

/-- The four registers of a line, dc11_register_names. -/
inductive DcRegister where
  | rcsr
  | rbuf
  | tscr
  | tbuf
deriving DecidableEq, Repr

structure Dc11Unit where
  registers : DcLine → DcRegister → Word
  connected : DcLine → Bool
  /-- The elements are of type char, which is signed. -/
  recvBuffers : DcLine → List Byte

/-- What a step does: the new state, the calls of the interrupt queues and the
bytes that are sent. -/
structure Dc11Effect where
  dc11 : Dc11Unit
  requests : List InterruptRequest
  sent : List (DcLine × Byte)

/-- An address of one of the registers. -/
structure DcAddress where
  addr : Word
  inRange : 0o174000 ≤ addr ∧ addr < 0o174040

namespace DcAddress

def reg (a : DcAddress) : Nat :=
  (a.addr - 0o174000).toNat / 2

theorem reg_lt (a : DcAddress) :
    a.reg < 16 := by
  have h := a.inRange
  unfold reg
  bv_omega

def lineNr (a : DcAddress) : DcLine :=
  ⟨a.reg / 4, by have := a.reg_lt; omega⟩

def subReg (a : DcAddress) : DcRegister :=
  match a.reg % 4 with
  | 0 => .rcsr
  | 1 => .rbuf
  | 2 => .tscr
  | _ => .tbuf

end DcAddress

namespace Dc11Unit

def setRegister (d : Dc11Unit) (line : DcLine) (sub : DcRegister) (v : Word) :
    Dc11Unit :=
  { d with
    registers := Function.update d.registers line
      (Function.update (d.registers line) sub v) }

/-- trigger_interrupt. -/
def interrupt (line : DcLine) (isTx : Bool) : InterruptRequest :=
  .queue 5 (0o300 + BitVec.ofNat 16 line.val * 0o10 + if isTx then 4 else 0)

def isRxInterruptEnabled (d : Dc11Unit) (line : DcLine) : Bool :=
  d.registers line .rcsr &&& 64 ≠ 0

def isTxInterruptEnabled (d : Dc11Unit) (line : DcLine) : Bool :=
  d.registers line .tscr &&& 64 ≠ 0

/-- parity of a word. -/
def parity (v : Word) : Bool :=
  (List.range 16).foldl (fun p i => xor p (v.getLsbD i)) false

section Reading

/-- A read of RCSR: DTR and CD follow the connection, and the errors are
cleared behind the value. -/
def readRcsr (d : Dc11Unit) (line : DcLine) : Word × Dc11Unit :=
  let status := d.registers line .rcsr &&& ~~~1 &&& ~~~4
  let status := if d.connected line then status ||| 1 ||| 4 else status
  (status, d.setRegister line .rcsr (status &&& ~~~0o160000))

/-- A read of RBUF: the oldest byte as an int, and an interrupt for the next. -/
def readRbuf (d : Dc11Unit) (line : DcLine) : Word × Dc11Effect :=
  match d.recvBuffers line with
  | [] => (d.registers line .rbuf, ⟨d, [], []⟩)
  | c :: rest =>
      let vtemp := c.signExtend 16
      let status := (d.registers line .rcsr &&& ~~~(1#16 <<< 5)) |||
        ((BitVec.ofBool (parity vtemp)).setWidth 16 <<< 5)
      let d :=
        { d.setRegister line .rcsr status with
          recvBuffers := Function.update d.recvBuffers line rest }
      if rest = [] then
        (vtemp, ⟨d, [], []⟩)
      else
        let d := d.setRegister line .rcsr (d.registers line .rcsr ||| 128)
        (vtemp,
          ⟨d, if d.isRxInterruptEnabled line then [interrupt line false]
            else [], []⟩)

/-- A read of TSCR: CTS and READY follow the channel. -/
def readTscr (d : Dc11Unit) (line : DcLine) (isConnected : Bool) :
    Word × Dc11Unit :=
  let status := d.registers line .tscr &&& ~~~2 &&& ~~~128
  let status := if isConnected then status ||| 2 ||| 128 else status
  (status, d.setRegister line .tscr status)

def readWord (d : Dc11Unit) (a : DcAddress) (isConnected : Bool) :
    Word × Dc11Effect :=
  match a.subReg with
  | .rcsr =>
      let r := d.readRcsr a.lineNr
      (r.1, ⟨r.2, [], []⟩)
  | .rbuf => d.readRbuf a.lineNr
  | .tscr =>
      let r := d.readTscr a.lineNr isConnected
      (r.1, ⟨r.2, [], []⟩)
  | .tbuf => (d.registers a.lineNr .tbuf, ⟨d, [], []⟩)

end Reading

section Writing

/-- write_word: a byte to the transmit buffer is sent; every register stores
what is written. -/
def writeWord (d : Dc11Unit) (a : DcAddress) (v : Word) : Dc11Effect :=
  let line := a.lineNr
  ⟨d.setRegister line a.subReg v,
    if a.subReg = .tbuf ∧ d.isTxInterruptEnabled line then
      [interrupt line true]
    else [],
    if a.subReg = .tbuf then [(line, (v &&& 127).setWidth 8)] else []⟩

end Writing

section Polling

/-- A round of the poller for one line. -/
def poll (d : Dc11Unit) (line : DcLine) (isConnected : Bool)
    (data : List Byte) : Dc11Effect :=
  let changed := decide (isConnected ≠ d.connected line)
  let d :=
    if changed then
      { d.setRegister line .rcsr
          (d.registers line .rcsr |||
            if isConnected then 0o160000 else 0o120000) with
        connected := Function.update d.connected line isConnected }
    else
      d
  let first :=
    if changed ∧ d.isRxInterruptEnabled line then [interrupt line false]
    else []
  let d :=
    { d with
      recvBuffers :=
        Function.update d.recvBuffers line (d.recvBuffers line ++ data) }
  if data = [] then
    ⟨d, first, []⟩
  else
    let d := d.setRegister line .rcsr (d.registers line .rcsr ||| 128)
    ⟨d,
      first ++
        if d.isRxInterruptEnabled line then [interrupt line false] else [],
      []⟩

end Polling

/-- The device when it is constructed, or restored with the given registers. -/
def constructed (registers : DcLine → DcRegister → Word) : Dc11Unit where
  registers := registers
  connected _ := false
  recvBuffers _ := []

end Dc11Unit

/-- A round of the poller for a line, or an access of the guest.  read_byte
reads the word at the even address and keeps one half of it.  write_byte writes
a word; it takes the other half of it from the register before it waits for the
lock, so that this half can be any earlier value. -/
inductive DcAct where
  | poll (line : DcLine) (isConnected : Bool) (data : List Byte)
  | read (a : DcAddress) (wordMode : WordMode) (isConnected : Bool)
  | write (a : DcAddress) (v : Word)

namespace Dc11Unit

def act (d : Dc11Unit) : DcAct → Dc11Effect
  | .poll line isConnected data => d.poll line isConnected data
  | .read a _ isConnected => (d.readWord a isConnected).2
  | .write a v => d.writeWord a v

def step (d : Dc11Unit) (a : DcAct) : Dc11Unit :=
  (d.act a).dc11

def run (d : Dc11Unit) (acts : List DcAct) : Dc11Unit :=
  acts.foldl step d

section Registers

@[simp] theorem setRegister_recvBuffers
    (d : Dc11Unit) (line : DcLine) (sub : DcRegister) (v : Word) :
    (d.setRegister line sub v).recvBuffers = d.recvBuffers := by
  rfl

@[simp] theorem setRegister_self
    (d : Dc11Unit) (line : DcLine) (sub : DcRegister) (v : Word) :
    (d.setRegister line sub v).registers line sub = v := by
  simp [setRegister]

theorem setRegister_of_line
    (d : Dc11Unit) {line line' : DcLine} (sub sub' : DcRegister) (v : Word)
    (h : line' ≠ line) :
    (d.setRegister line sub v).registers line' sub' =
      d.registers line' sub' := by
  simp [setRegister, h]

theorem setRegister_of_sub
    (d : Dc11Unit) (line line' : DcLine) {sub sub' : DcRegister} (v : Word)
    (h : sub' ≠ sub) :
    (d.setRegister line sub v).registers line' sub' =
      d.registers line' sub' := by
  by_cases hline : line' = line
  · subst hline
    simp [setRegister, h]
  · exact d.setRegister_of_line sub sub' v hline

end Registers

end Dc11Unit

end KekPdp11
