import KekPdp11.Word
import Mathlib.Data.Finset.Max
import Mathlib.Data.Finset.Insert
import Mathlib.Logic.Function.Basic

/-!
# KEK PDP-11: the processor's registers

The data of class cpu and its members that only touch this data: general
registers in two sets, one stack pointer per mode, the processor status word
and the interrupt queues.

The status word is kept as the source keeps it, a bare word that each setter
masks in its own way.
-/

namespace KekPdp11

/-- The data members of class cpu that execution reads or writes. -/
structure Cpu where
  regs05 : Bool → Fin 6 → Word
  sp : RunMode → Word
  pc : Word
  psw : Word
  fpsr : Word
  stackLimitRegister : Word
  processingTrapDepth : Nat
  delayedTrap : Option Word
  trapCounter : Nat
  trapCounts : Word → Nat
  instructionsExecuted : Nat
  lastTrapVector : Word
  queuedInterrupts : Level → Finset Word
  anyQueuedInterrupts : Bool
  event : StopEvent

namespace Cpu

def getPSWRunmode (c : Cpu) : RunMode :=
  (c.psw >>> 14).setWidth 2

def getPSWPrevRunmode (c : Cpu) : RunMode :=
  ((c.psw >>> 12) &&& 3).setWidth 2

def getRegisterSet (c : Cpu) : Bool :=
  c.psw &&& 0o4000 ≠ 0

/-- R0-R5 of the selected set, the stack pointer of the current mode, or PC. -/
def getRegister (c : Cpu) (nr : RegNr) : Word :=
  if h : nr.toNat < 6 then
    c.regs05 c.getRegisterSet ⟨nr.toNat, h⟩
  else if nr = 6 then
    c.sp c.getPSWRunmode
  else
    c.pc

def setStackpointer (c : Cpu) (which : RunMode) (value : Word) : Cpu :=
  { c with sp := Function.update c.sp which value }

def setPC (c : Cpu) (value : Word) : Cpu :=
  { c with pc := value }

/-- R0-R5 of one register set. -/
def setReg05 (c : Cpu) (set : Bool) (nr : Fin 6) (value : Word) : Cpu :=
  { c with
    regs05 := Function.update c.regs05 set
      (Function.update (c.regs05 set) nr value) }

def setRegister (c : Cpu) (nr : RegNr) (value : Word) : Cpu :=
  if h : nr.toNat < 6 then
    c.setReg05 c.getRegisterSet ⟨nr.toNat, h⟩ value
  else if nr = 6 then
    c.setStackpointer c.getPSWRunmode value
  else
    c.setPC value

/-- The state after add_register; its result is the new register value. -/
def addRegister (c : Cpu) (nr : RegNr) (value : Word) : Cpu :=
  c.setRegister nr (c.getRegister nr + value)

/-- A register write only touches the registers. -/
theorem setRegister_eq
    (c : Cpu) (nr : RegNr) (value : Word) :
    ∃ regs05 sp pc, c.setRegister nr value =
      { c with regs05 := regs05, sp := sp, pc := pc } := by
  unfold setRegister
  split
  · exact ⟨_, c.sp, c.pc, rfl⟩
  · split
    · exact ⟨c.regs05, _, c.pc, rfl⟩
    · exact ⟨c.regs05, c.sp, value, rfl⟩

@[simp] theorem setRegister_psw
    (c : Cpu) (nr : RegNr) (value : Word) :
    (c.setRegister nr value).psw = c.psw := by
  obtain ⟨_, _, _, h⟩ := c.setRegister_eq nr value
  rw [h]

@[simp] theorem setRegister_processingTrapDepth
    (c : Cpu) (nr : RegNr) (value : Word) :
    (c.setRegister nr value).processingTrapDepth = c.processingTrapDepth := by
  obtain ⟨_, _, _, h⟩ := c.setRegister_eq nr value
  rw [h]

@[simp] theorem setRegister_trapCounter
    (c : Cpu) (nr : RegNr) (value : Word) :
    (c.setRegister nr value).trapCounter = c.trapCounter := by
  obtain ⟨_, _, _, h⟩ := c.setRegister_eq nr value
  rw [h]

@[simp] theorem setRegister_event
    (c : Cpu) (nr : RegNr) (value : Word) :
    (c.setRegister nr value).event = c.event := by
  obtain ⟨_, _, _, h⟩ := c.setRegister_eq nr value
  rw [h]

def getBitPSW (c : Cpu) (bit : Nat) : Bool :=
  (c.psw >>> bit) &&& 1 ≠ 0

def getPSWc (c : Cpu) : Bool := c.getBitPSW 0

def getPSWv (c : Cpu) : Bool := c.getBitPSW 1

def getPSWz (c : Cpu) : Bool := c.getBitPSW 2

def getPSWn (c : Cpu) : Bool := c.getBitPSW 3

def getPSWspl (c : Cpu) : Level :=
  ((c.psw >>> 5) &&& 7).setWidth 3

def setBitPSW (c : Cpu) (bit : Nat) (v : Bool) : Cpu :=
  { c with
    psw := (c.psw &&& ~~~(1#16 <<< bit)) |||
      ((BitVec.ofBool v).setWidth 16 <<< bit) }

def setPSWc (c : Cpu) (v : Bool) : Cpu := c.setBitPSW 0 v

def setPSWv (c : Cpu) (v : Bool) : Cpu := c.setBitPSW 1 v

def setPSWz (c : Cpu) (v : Bool) : Cpu := c.setBitPSW 2 v

def setPSWn (c : Cpu) (v : Bool) : Cpu := c.setBitPSW 3 v

def setPSWspl (c : Cpu) (v : Level) : Cpu :=
  { c with
    psw := (c.psw &&& ~~~(7#16 <<< 5)) ||| (v.setWidth 16 <<< 5) }

/-- The limited form only raises the two mode fields and keeps the register
set and the priority; the other form masks off the reserved bits. -/
def setPSW (c : Cpu) (v : Word) (limited : Bool) : Cpu :=
  if limited then
    let curMode := max (v >>> 14) (c.psw >>> 14)
    let prevMode := max ((v >>> 12) &&& 3) ((c.psw >>> 12) &&& 3)
    { c with
      psw := (c.psw &&& 0o004340) ||| (v &&& 0o37) |||
        (curMode <<< 14) ||| (prevMode <<< 12) }
  else
    { c with psw := v &&& 0o174377 }

/-- A write of the status word only touches the status word. -/
theorem setPSW_eq
    (c : Cpu) (v : Word) (limited : Bool) :
    c.setPSW v limited = { c with psw := (c.setPSW v limited).psw } := by
  unfold setPSW
  split <;> rfl

def setPSWFlagsNzv (c : Cpu) (value : Word) (wordMode : WordMode) : Cpu :=
  ((c.setPSWn (sign value wordMode)).setPSWz (isZero value wordMode)).setPSWv
    false

/-- One of the queues at or above `spl + 1` is not empty. -/
def checkPendingInterrupts (c : Cpu) : Bool :=
  decide (∃ i : Level, c.getPSWspl.toNat + 1 ≤ i.toNat ∧
    (c.queuedInterrupts i).Nonempty)

def queueInterrupt (c : Cpu) (level : Level) (vector : Word) : Cpu :=
  { c with
    queuedInterrupts := Function.update c.queuedInterrupts level
      (insert vector (c.queuedInterrupts level))
    anyQueuedInterrupts := true }

def eraseInterrupt (c : Cpu) (level : Level) (vector : Word) : Cpu :=
  { c with
    queuedInterrupts := Function.update c.queuedInterrupts level
      ((c.queuedInterrupts level).erase vector) }

def unqueueInterrupt (c : Cpu) (level : Level) (vector : Word) : Cpu :=
  c.eraseInterrupt level vector

/-- begin() of the set of one level, the smallest vector. -/
def firstQueued (c : Cpu) (level : Level) : Option Word :=
  if h : (c.queuedInterrupts level).Nonempty then
    some ((c.queuedInterrupts level).min' h)
  else
    none

def initInterruptQueue (c : Cpu) : Cpu :=
  { c with queuedInterrupts := fun _ => ∅ }

/-- The counters that cpu::trap updates before anything else. -/
def countTrap (c : Cpu) (vector : Word) : Cpu :=
  { c with
    lastTrapVector := vector
    trapCounts := Function.update c.trapCounts vector
      (c.trapCounts vector + 1)
    trapCounter := c.trapCounter + 1 }

def reset (c : Cpu) : Cpu :=
  { c with
    regs05 := fun _ _ => 0
    sp := fun _ => 0
    pc := 0
    psw := 0
    fpsr := 0
    queuedInterrupts := fun _ => ∅
    instructionsExecuted := 0
    processingTrapDepth := 0 }

/-- A processor as its constructor leaves it. -/
def initial : Cpu where
  regs05 := fun _ _ => 0
  sp := fun _ => 0
  pc := 0
  psw := 0
  fpsr := 0
  stackLimitRegister := 0o400
  processingTrapDepth := 0
  delayedTrap := none
  trapCounter := 0
  trapCounts := fun _ => 0
  instructionsExecuted := 0
  lastTrapVector := 0
  queuedInterrupts := fun _ => ∅
  anyQueuedInterrupts := false
  event := .eventNone

end Cpu

end KekPdp11
