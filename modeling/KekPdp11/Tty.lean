import KekPdp11.Machine

/-!
# KEK PDP-11: the console terminal

Class tty with the input buffer of the console.  The thread of the console puts
a character into the buffer and then calls notify_rx; these are two steps,
between which the guest can do anything.  An access of the guest is one step.

What is printed goes to console::put_char and is left out here.
-/

namespace KekPdp11

structure Tty where
  registers : Fin 4 → Word
  /-- The elements are of type char, which is signed. -/
  inputBuffer : List Byte
  /-- The console thread is between its push and its notify_rx. -/
  notifying : Bool

structure TtyEffect where
  tty : Tty
  requests : List InterruptRequest

/-- An address of one of the registers. -/
structure TtyAddress where
  addr : Word
  inRange : 0o177560 ≤ addr ∧ addr < 0o177570

namespace TtyAddress

def reg (a : TtyAddress) : Fin 4 :=
  ⟨(a.addr - 0o177560).toNat / 2, by
    have h := a.inRange
    bv_omega⟩

end TtyAddress

namespace Tty

def tks : Word := 0o177560
def tkb : Word := 0o177562
def tps : Word := 0o177564
def tpb : Word := 0o177566

def setRegister (t : Tty) (reg : Fin 4) (v : Word) : Tty :=
  { t with registers := Function.update t.registers reg v }

/-- The receive interrupt is enabled. -/
def isRxInterruptEnabled (t : Tty) : Bool :=
  t.registers 0 &&& 64 ≠ 0

/-- The interrupts that the terminal queues. -/
def rxInterrupt : InterruptRequest := .queue 4 0o60
def txInterrupt : InterruptRequest := .queue 4 0o64

def notifyRx (t : Tty) : TtyEffect :=
  let t := t.setRegister 0 (t.registers 0 ||| 128)
  ⟨t, if t.isRxInterruptEnabled then [rxInterrupt] else []⟩

/-- parity of a char. -/
def parity (c : Byte) : Bool :=
  (List.range 8).foldl (fun p i => xor p (c.getLsbD i)) false

def readTkb (t : Tty) : Word × TtyEffect :=
  match t.inputBuffer with
  | [] => (0, ⟨t.setRegister 1 0, []⟩)
  | c :: rest =>
      let vtemp := c.signExtend 16 |||
        ((BitVec.ofBool (parity c)).setWidth 16 <<< 7)
      let t := { t.setRegister 1 vtemp with inputBuffer := rest }
      (vtemp, if rest = [] then ⟨t, []⟩ else t.notifyRx)

def readWord (t : Tty) (a : TtyAddress) : Word × TtyEffect :=
  let vtemp := t.registers a.reg
  if a.addr = tks then
    let vtemp := (vtemp &&& ~~~128) |||
      if t.inputBuffer = [] then 0 else 128
    (vtemp, ⟨t.setRegister a.reg vtemp, []⟩)
  else if a.addr = tkb then t.readTkb
  else if a.addr = tps then
    (vtemp ||| 128, ⟨t.setRegister a.reg (vtemp ||| 128), []⟩)
  else
    (vtemp, ⟨t, []⟩)

def writeWord (t : Tty) (a : TtyAddress) (v : Word) : TtyEffect :=
  if a.addr = tpb then
    let t := t.setRegister 2 (t.registers 2 ||| 128)
    ⟨t.setRegister a.reg v,
      if t.registers 2 &&& 64 ≠ 0 then [txInterrupt] else []⟩
  else
    ⟨t.setRegister a.reg v, []⟩

/-- The terminal when it is constructed, or restored with the given
registers. -/
def constructed (registers : Fin 4 → Word) : Tty where
  registers := registers
  inputBuffer := []
  notifying := false

end Tty

/-- The console thread pushes a character or notifies; the guest reads or
writes.  The read of a byte is a read at its even address, the write of a byte
a write of the word that it makes with the other half. -/
inductive TtyAct where
  | push (c : Byte)
  | notify
  | read (a : TtyAddress)
  | write (a : TtyAddress) (v : Word)

namespace Tty

/-- A push follows a notification, and a notification follows a push. -/
def act (t : Tty) : TtyAct → TtyEffect
  | .push c =>
      if t.notifying then ⟨t, []⟩
      else ⟨{ t with inputBuffer := t.inputBuffer ++ [c], notifying := true }, []⟩
  | .notify =>
      if t.notifying then { t with notifying := false }.notifyRx else ⟨t, []⟩
  | .read a => (t.readWord a).2
  | .write a v => t.writeWord a v

def step (t : Tty) (a : TtyAct) : Tty :=
  (t.act a).tty

end Tty

/-- The interrupt is not enabled behind input. -/
def TtyAct.Careful (t : Tty) : TtyAct → Prop
  | .write a v =>
      a.reg = 0 → v &&& 64 ≠ 0 → t.isRxInterruptEnabled = false →
        t.notifying = false → t.inputBuffer = []
  | _ => True

end KekPdp11
