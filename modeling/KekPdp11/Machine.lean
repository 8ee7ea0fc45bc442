import KekPdp11.Lib.StateExcept
import KekPdp11.Registers
import KekPdp11.Mmu

/-!
# KEK PDP-11: the machine

The state that the processor, the memory management unit and the bus share,
and the type of the programs that run on it.

**Devices.**  Class device of the source is the class `UnibusDevices` here: a
register read may change the devices and queue interrupts, a register write
may in addition change memory.  Nothing else of the machine is in reach of a
device, which is what the C++ classes do.  Results hold for all devices.

**Ends of a run.**  A C++ exception carries its number.  A failed assertion,
a WAIT that has nothing to wait up for and a run out of fuel end a program
without being caught by a handler for exceptions.

**Trace.**  The log lines that the source writes for traps, aborts and I/O
references are kept in `trace`, newest first.  No program reads it.
-/

namespace KekPdp11

open StateExcept

/-- Class memory: its size and the bytes of the array. -/
structure Ram where
  size : PhysAddr
  m : Nat → Byte

namespace Ram

def readByte (r : Ram) (a : PhysAddr) : Byte :=
  r.m a.toNat

def writeByte (r : Ram) (a : PhysAddr) (v : Byte) : Ram :=
  { r with m := Function.update r.m a.toNat v }

def readWord (r : Ram) (a : PhysAddr) : Word :=
  r.m (a.toNat + 1) ++ r.m a.toNat

def writeWord (r : Ram) (a : PhysAddr) (v : Word) : Ram :=
  { r with
    m := Function.update (Function.update r.m a.toNat (v.setWidth 8))
      (a.toNat + 1) ((v >>> 8).setWidth 8) }

end Ram

/-- The device pointers of class bus. -/
inductive Slot where
  | tm11
  | rk05
  | rl02
  | tty
  | dc11
  | dz11
  | rp06
  | deqna
  | kw11l
deriving DecidableEq, Repr

/-- A device's calls of queue_interrupt and unqueue_interrupt. -/
inductive InterruptRequest where
  | queue (level : Level) (vector : Word)
  | unqueue (level : Level) (vector : Word)

/-- What a device answers to a register read. -/
structure DeviceReply (δ : Type) (α : Type) where
  value : α
  devices : δ
  requests : List InterruptRequest

/-- What a device does on a register write. -/
structure DeviceEffect (δ : Type) where
  ram : Ram
  devices : δ
  requests : List InterruptRequest

/-- The register interface of class device, for all devices together. -/
class UnibusDevices (δ : Type) where
  readByte : Slot → Word → δ → DeviceReply δ Byte
  readWord : Slot → Word → δ → DeviceReply δ Word
  writeByte : Slot → Word → Byte → Ram → δ → DeviceEffect δ
  writeWord : Slot → Word → Word → Ram → δ → DeviceEffect δ
  reset : Slot → Bool → δ → δ

/-- The lines of the log that results refer to. -/
inductive Event where
  /-- cpu::trap is entered. -/
  | trapEntry (vector : Word) (newIpl : Option Level)
  /-- A queued interrupt is invoked. -/
  | interrupt (level : Level) (vector : Word)
  /-- A reference is aborted by the MMU; the registers at that moment. -/
  | mmuFault (cpu : Cpu) (mmu : Mmu)
  /-- trap_if_odd is called. -/
  | oddAddress
  /-- read_IO is called. -/
  | readIo (a : Word) (wordMode : WordMode)
  /-- write_IO is called. -/
  | writeIo (a : Word) (wordMode : WordMode)
  /-- bus::reset is called. -/
  | busReset
  /-- bus::read or bus::write throws; whether cpu::trap ran during the call. -/
  | aborted (trapped : Bool)

/-- The state of the emulated machine. -/
structure Machine (δ : Type) where
  cpu : Cpu
  mmu : Mmu
  ram : Ram
  microprogramBreakRegister : Word
  consoleSwitches : Word
  consoleLeds : Word
  attached : Slot → Bool
  devices : δ
  trace : List Event

/-- The assertions of the source that execution passes through. -/
inductive Assertion where
  /-- A delta that is recorded in MMR1 lies between -2 and 2. -/
  | deltaRange
  /-- mmu::add_to_MMR1 is called while MMR1 is not locked. -/
  | mmr1NotLocked
  /-- The operand of a byte instruction fits a byte. -/
  | byteOperand
deriving DecidableEq, Repr

/-- How a program can end without returning. -/
inductive Stop where
  | exception (number : Nat)
  | assertion (failed : Assertion)
  | waiting
  | outOfFuel
deriving DecidableEq, Repr

/-- Programs that run on the machine. -/
abbrev Exec (δ : Type) (α : Type) := EStateM Stop (Machine δ) α

/-- The number of a C++ exception. -/
def Stop.exception? : Stop → Option Nat
  | .exception number => some number
  | _ => none

section Primitives

variable {δ : Type} {α : Type}

def cpuView (f : Cpu → α) : Exec δ α :=
  view fun s => f s.cpu

def mmuView (f : Mmu → α) : Exec δ α :=
  view fun s => f s.mmu

def modifyCpu (f : Cpu → Cpu) : Exec δ Unit :=
  update fun s => { s with cpu := f s.cpu }

def modifyMmu (f : Mmu → Mmu) : Exec δ Unit :=
  update fun s => { s with mmu := f s.mmu }

def logEvent (e : Event) : Exec δ Unit :=
  update fun s => { s with trace := e :: s.trace }

/-- A throw of an int. -/
def throwInt (number : Nat) : Exec δ α :=
  raise (.exception number)

/-- An if without else. -/
def onlyIf (c : Bool) (m : Exec δ Unit) : Exec δ Unit :=
  if c then m else pure ()

/-- An assert of the source. -/
def assertThat (failed : Assertion) (c : Bool) : Exec δ Unit :=
  if c then pure () else raise (.assertion failed)

/-- try and catch(const int exception). -/
def catchInt (body : Exec δ α) (handler : Nat → Exec δ α) : Exec δ α :=
  rescue Stop.exception? body handler

def getRegister (nr : RegNr) : Exec δ Word :=
  cpuView fun c => c.getRegister nr

def setRegister (nr : RegNr) (value : Word) : Exec δ Unit :=
  modifyCpu fun c => c.setRegister nr value

/-- add_register, which returns the new value of the register. -/
def addRegister (nr : RegNr) (value : Word) : Exec δ Word := do
  modifyCpu fun c => c.addRegister nr value
  getRegister nr

def getPC : Exec δ Word :=
  cpuView fun c => c.pc

def setPC (value : Word) : Exec δ Unit :=
  modifyCpu fun c => c.setPC value

def getPSWRunmode : Exec δ RunMode :=
  cpuView fun c => c.getPSWRunmode

def getPSWPrevRunmode : Exec δ RunMode :=
  cpuView fun c => c.getPSWPrevRunmode

section Apply

variable {β : Type}

@[simp] theorem cpuView_bind_apply
    (f : Cpu → α) (k : α → Exec δ β) (s : Machine δ) :
    (cpuView f >>= k) s = k (f s.cpu) s := by
  rfl

@[simp] theorem mmuView_bind_apply
    (f : Mmu → α) (k : α → Exec δ β) (s : Machine δ) :
    (mmuView f >>= k) s = k (f s.mmu) s := by
  rfl

@[simp] theorem modifyCpu_bind_apply
    (f : Cpu → Cpu) (k : Unit → Exec δ β) (s : Machine δ) :
    (modifyCpu f >>= k) s = k () { s with cpu := f s.cpu } := by
  rfl

@[simp] theorem modifyMmu_bind_apply
    (f : Mmu → Mmu) (k : Unit → Exec δ β) (s : Machine δ) :
    (modifyMmu f >>= k) s = k () { s with mmu := f s.mmu } := by
  rfl

end Apply

section Keeps

variable {β : Type} {I : Machine δ → Prop}

theorem keeps_pure
    (a : α) :
    Keeps I (pure a : Exec δ α) :=
  .pure fun _ hs => hs

theorem keeps_view
    (f : Machine δ → α) :
    Keeps I (view f : Exec δ α) :=
  .view fun _ hs => hs

theorem keeps_raise
    (e : Stop) :
    Keeps I (raise e : Exec δ α) :=
  .raise fun _ hs => hs

theorem keeps_onlyIf
    (c : Bool) {m : Exec δ Unit} (h : Keeps I m) :
    Keeps I (onlyIf c m) :=
  .ite (fun _ => h) fun _ => keeps_pure ()

theorem keeps_assertThat
    (failed : Assertion) (c : Bool) :
    Keeps I (assertThat failed c : Exec δ Unit) :=
  .ite (fun _ => keeps_pure ()) fun _ => keeps_raise _

theorem keeps_thenPure
    {m : Exec δ Unit} (h : Keeps I m) (b : β) :
    Keeps I (do m; pure b) :=
  h.bind fun _ => keeps_pure b

theorem keeps_catchInt
    {body : Exec δ α} {handler : Nat → Exec δ α}
    (hbody : Keeps I body) (hhandler : ∀ number, Keeps I (handler number)) :
    Keeps I (catchInt body handler) :=
  hbody.rescue (fun _ number _ => hhandler number) fun _ _ _ he => he

end Keeps

end Primitives

namespace Cpu

def applyRequest (c : Cpu) : InterruptRequest → Cpu
  | .queue level vector => c.queueInterrupt level vector
  | .unqueue level vector => c.unqueueInterrupt level vector

def applyRequests (c : Cpu) (requests : List InterruptRequest) : Cpu :=
  requests.foldl applyRequest c

/-- Requests only touch the interrupt queues. -/
theorem applyRequests_eq
    (c : Cpu) (requests : List InterruptRequest) :
    ∃ queued any, c.applyRequests requests =
      { c with queuedInterrupts := queued, anyQueuedInterrupts := any } := by
  induction requests generalizing c with
  | nil =>
      exact ⟨c.queuedInterrupts, c.anyQueuedInterrupts, rfl⟩
  | cons request requests ih =>
      obtain ⟨queued, any, h⟩ := ih (c.applyRequest request)
      refine ⟨queued, any, ?_⟩
      cases request with
      | queue level vector =>
          exact h
      | unqueue level vector =>
          exact h

@[simp] theorem applyRequests_psw
    (c : Cpu) (requests : List InterruptRequest) :
    (c.applyRequests requests).psw = c.psw := by
  obtain ⟨_, _, h⟩ := c.applyRequests_eq requests
  rw [h]

@[simp] theorem applyRequests_processingTrapDepth
    (c : Cpu) (requests : List InterruptRequest) :
    (c.applyRequests requests).processingTrapDepth =
      c.processingTrapDepth := by
  obtain ⟨_, _, h⟩ := c.applyRequests_eq requests
  rw [h]

@[simp] theorem applyRequests_trapCounter
    (c : Cpu) (requests : List InterruptRequest) :
    (c.applyRequests requests).trapCounter = c.trapCounter := by
  obtain ⟨_, _, h⟩ := c.applyRequests_eq requests
  rw [h]

@[simp] theorem applyRequests_event
    (c : Cpu) (requests : List InterruptRequest) :
    (c.applyRequests requests).event = c.event := by
  obtain ⟨_, _, h⟩ := c.applyRequests_eq requests
  rw [h]

end Cpu

section Devices

variable {δ : Type} [UnibusDevices δ]

/-- Take over a device's answer. -/
def takeReply {α : Type} (r : DeviceReply δ α) : Exec δ α := do
  update fun s =>
    { s with devices := r.devices, cpu := s.cpu.applyRequests r.requests }
  pure r.value

def deviceReadByte (slot : Slot) (a : Word) : Exec δ Byte := do
  let r ← view fun s => UnibusDevices.readByte slot a s.devices
  takeReply r

def deviceReadWord (slot : Slot) (a : Word) : Exec δ Word := do
  let r ← view fun s => UnibusDevices.readWord slot a s.devices
  takeReply r

/-- The register of a device at the width of the reference. -/
def deviceRead (slot : Slot) (a : Word) (wordMode : WordMode) :
    Exec δ Word := do
  match wordMode with
  | .wmByte => do
      let v ← deviceReadByte slot a
      pure (v.setWidth 16)
  | .wmWord => deviceReadWord slot a

def takeEffect (e : DeviceEffect δ) : Exec δ Unit :=
  update fun s =>
    { s with
      ram := { e.ram with size := s.ram.size }
      devices := e.devices
      cpu := s.cpu.applyRequests e.requests }

def deviceWriteByte (slot : Slot) (a : Word) (v : Byte) : Exec δ Unit := do
  let e ← view fun s => UnibusDevices.writeByte slot a v s.ram s.devices
  takeEffect e

def deviceWriteWord (slot : Slot) (a v : Word) : Exec δ Unit := do
  let e ← view fun s => UnibusDevices.writeWord slot a v s.ram s.devices
  takeEffect e

def deviceWrite (slot : Slot) (a : Word) (wordMode : WordMode) (value : Word) :
    Exec δ Unit :=
  match wordMode with
  | .wmByte => deviceWriteByte slot a (value.setWidth 8)
  | .wmWord => deviceWriteWord slot a value

def deviceReset (slot : Slot) (hard : Bool) : Exec δ Unit :=
  update fun s =>
    { s with devices := UnibusDevices.reset slot hard s.devices }

end Devices

end KekPdp11
