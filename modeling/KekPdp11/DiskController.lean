import KekPdp11.DiskBackend
import KekPdp11.Machine

/-!
# KEK PDP-11: disk controllers

What the three disk controllers share: the state that a command of theirs
works on, the calls of a drive, the bytes that they move over the UNIBUS and
the loop that moves them sector by sector.

A controller has its registers and the drives of class disk_device; the memory
and the interrupt queues are those of the machine.  What a command does to
drives and memory is logged in `trace`, newest first; no command reads it.
-/

namespace KekPdp11

open StateExcept Slices

/-- The lines of the log of a controller. -/
inductive DiskEvent where
  /-- A call of read or write of a drive, and its answer if it returned. -/
  | call (offset n sectorSize : Nat) (answer : Option Bool)
  /-- Data that a read has returned. -/
  | diskRead (offset : Nat) (data : List Byte)
  /-- Data that a write has taken. -/
  | diskWritten (offset : Nat) (data : List Byte)
  /-- read_unibus_byte. -/
  | memoryRead (a : PhysAddr) (v : Byte)
  /-- write_unibus_byte. -/
  | memoryWritten (a : PhysAddr) (v : Byte)
deriving DecidableEq, Repr

/-- A controller, its drives and what it reaches of the machine; `ρ` are the
registers and `β` the drives. -/
structure Bench (ρ β : Type) where
  controller : ρ
  fhs : List (Option β)
  ram : Ram
  requests : List InterruptRequest
  trace : List DiskEvent

/-- Programs of a controller. -/
abbrev Command (ρ β α : Type) := EStateM DiskStop (Bench ρ β) α

section Primitives

variable {ρ β α : Type}

def controllerView (f : ρ → α) : Command ρ β α :=
  view fun s => f s.controller

def modifyController (f : ρ → ρ) : Command ρ β Unit :=
  update fun s => { s with controller := f s.controller }

def queueInterrupt (level : Level) (vector : Word) : Command ρ β Unit :=
  update fun s => { s with requests := .queue level vector :: s.requests }

def readUnibusByte (a : PhysAddr) : Command ρ β Byte := do
  let v ← view fun s => if a < s.ram.size then s.ram.readByte a else 0
  update fun s => { s with trace := .memoryRead a v :: s.trace }
  pure v

def writeUnibusByte (a : PhysAddr) (v : Byte) : Command ρ β Unit :=
  update fun s =>
    { s with
      ram := if a < s.ram.size then s.ram.writeByte a v else s.ram
      trace := .memoryWritten a v :: s.trace }

/-- Whether the drive is one of the controller's. -/
def driveExists (device : Nat) : Command ρ β Bool :=
  view fun s => decide (device < s.fhs.length)

/-- Whether the drive of the controller is loaded. -/
def driveLoaded (device : Nat) : Command ρ β Bool := do
  let drive ← view fun s => s.fhs[device]?
  match drive with
  | none => raise .outOfRange
  | some drive => pure drive.isSome

/-- A call of the backend at `fhs.at(device)`. -/
def callDrive (device : Nat) (call : DiskCall β α)
    (log : Option α → List DiskEvent) : Command ρ β α :=
  fun s =>
    match s.fhs[device]? with
    | none => .error .outOfRange s
    | some none => .error .nullAccess s
    | some (some b) =>
        match call b with
        | .ok a b' =>
            .ok a
              { s with
                fhs := s.fhs.set device (some b')
                trace := log (some a) ++ s.trace }
        | .error e b' =>
            .error e
              { s with
                fhs := s.fhs.set device (some b')
                trace := log none ++ s.trace }

/-- The lines of the log for a read. -/
def readLog (offset n sectorSize : Nat) :
    Option (Bool × Buffer) → List DiskEvent
  | some (true, t) =>
      [.diskRead offset (slice t 0 n), .call offset n sectorSize (some true)]
  | some (false, _) => [.call offset n sectorSize (some false)]
  | none => [.call offset n sectorSize none]

/-- The lines of the log for a write. -/
def writeLog (offset n : Nat) (source : Buffer) (sectorSize : Nat) :
    Option Bool → List DiskEvent
  | some true =>
      [.diskWritten offset (slice source 0 n),
        .call offset n sectorSize (some true)]
  | some false => [.call offset n sectorSize (some false)]
  | none => [.call offset n sectorSize none]

variable [DiskBackend β]

def readDrive (device offset n : Nat) (target : Buffer) (sectorSize : Nat) :
    Command ρ β (Bool × Buffer) :=
  callDrive device (DiskBackend.read offset n target sectorSize)
    (readLog offset n sectorSize)

def writeDrive (device offset n : Nat) (source : Buffer) (sectorSize : Nat) :
    Command ρ β Bool :=
  callDrive device (DiskBackend.write offset n source sectorSize)
    (writeLog offset n source sectorSize)

end Primitives

section Bytes

variable {ρ β : Type}

/-- Fill the buffer from position `i` with `n` bytes of memory. -/
def loadBytes (memory : PhysAddr) :
    (n i : Nat) → Buffer → Command ρ β Buffer
  | 0, _, buffer => pure buffer
  | n + 1, i, buffer => do
      let v ← readUnibusByte (memory + BitVec.ofNat 32 i)
      loadBytes memory n (i + 1) (Function.update buffer i v)

/-- Store `n` bytes of the buffer from position `i` to memory. -/
def storeBytes (memory : PhysAddr) (buffer : Buffer) :
    (n i : Nat) → Command ρ β Unit
  | 0, _ => pure ()
  | n + 1, i => do
      writeUnibusByte (memory + BitVec.ofNat 32 i) (buffer i)
      storeBytes memory buffer n (i + 1)

end Bytes

section Transfer

variable {ρ β γ : Type}

/-- The loop of a transfer of `left` bytes, in pieces of at most `size` bytes:
`piece` moves the given number of bytes between the memory address and the
disk offset and says whether to go on.  Every pass takes at least one byte, so
that `left` passes are enough. -/
def transferLoop (size : Nat)
    (piece : (memory disk : BitVec 32) → (cur left : Nat) → γ →
      Command ρ β (Bool × γ)) :
    (passes : Nat) → (memory disk : BitVec 32) → (left : Nat) → γ →
      Command ρ β γ
  | 0, _, _, _, place => pure place
  | passes + 1, memory, disk, left, place =>
      if left = 0 then
        pure place
      else do
        let cur := min size left
        let (goOn, place) ← piece memory disk cur left place
        if goOn then
          transferLoop size piece passes (memory + BitVec.ofNat 32 cur)
            (disk + BitVec.ofNat 32 cur) (left - cur) place
        else
          pure place

end Transfer

/-- The register interface of a controller. -/
class DiskController (ρ : Type) where
  readWord : Word → ρ → Word × ρ
  writeByte {β : Type} [DiskBackend β] : Word → Byte → Command ρ β Unit
  writeWord {β : Type} [DiskBackend β] : Word → Word → Command ρ β Unit

/-- read_byte, which the three controllers have in common. -/
def DiskController.readByte {ρ : Type} [DiskController ρ] (a : Word) (c : ρ) :
    Byte × ρ :=
  let (v, c) := DiskController.readWord (a &&& ~~~1) c
  (if isOdd a then (v >>> 8).setWidth 8 else v.setWidth 8, c)

section Guest

variable {ρ β : Type} [DiskController ρ] [DiskBackend β]

/-- What a program on the machine can do with the registers. -/
inductive GuestAccess where
  | readByte (a : Word)
  | readWord (a : Word)
  | writeByte (a : Word) (v : Byte)
  | writeWord (a v : Word)
deriving DecidableEq, Repr

/-- An access to a register; the value read is dropped. -/
def GuestAccess.perform : GuestAccess → Command ρ β Unit
  | .readByte a => modifyController fun c => (DiskController.readByte a c).2
  | .readWord a => modifyController fun c => (DiskController.readWord a c).2
  | .writeByte a v => DiskController.writeByte a v
  | .writeWord a v => DiskController.writeWord a v

/-- A sequence of accesses, which ends early when one does not return. -/
def performAll : List GuestAccess → Command ρ β Unit
  | [] => pure ()
  | g :: gs => do
      g.perform
      performAll gs

/-- Every access of the sequence meets the condition in the state in which it
is made. -/
def AllFit (fits : GuestAccess → Bench ρ β → Prop) :
    List GuestAccess → Bench ρ β → Prop
  | [], _ => True
  | g :: gs, s =>
      fits g s ∧ ∀ t, g.perform s = .ok () t → AllFit fits gs t

/-- What an access preserves that meets the condition, a sequence of such
accesses preserves. -/
theorem performAll_after
    {fits : GuestAccess → Bench ρ β → Prop} {I : Bench ρ β → Prop}
    {E : DiskStop → Bench ρ β → Prop}
    (hstep : ∀ g s, I s → fits g s → After (fun _ => I) E (g.perform s))
    {gs : List GuestAccess} {s : Bench ρ β}
    (hs : I s) (hfit : AllFit fits gs s) :
    After (fun _ => I) E (performAll gs s) := by
  induction gs generalizing s with
  | nil =>
      exact hs
  | cons g gs ih =>
      have h := hstep g s hs hfit.1
      unfold performAll
      rw [bind_apply]
      cases hg : g.perform s with
      | ok a t =>
          rw [hg] at h
          exact ih h (hfit.2 t hg)
      | error e t =>
          rw [hg] at h
          exact h

end Guest

/-- The registers of a controller, by their number. -/
abbrev RegisterFile := Nat → Word

/-- The number of the register at an address. -/
def registerNumber (base a : Word) : Nat :=
  (a.toNat - base.toNat) / 2

/-- setBit of utils.h. -/
def setBit (v : Word) (bit : Nat) (on : Bool) : Word :=
  if on then v ||| (1#16 <<< bit) else v &&& ~~~(1#16 <<< bit)

end KekPdp11
