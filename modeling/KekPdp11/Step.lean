import KekPdp11.Instructions

/-!
# KEK PDP-11: one step and whole runs

cpu::step: deliver a delayed trap or a queued interrupt, then fetch and
execute one instruction.  An exception that leaves the instruction is
swallowed, so that what an aborted reference did before its throw is all that
remains of the instruction.

A run interleaves steps with what the other threads do: devices change, write
memory, and queue or unqueue interrupts.  A WAIT without a pending interrupt
keeps the processor in its loop until one is queued.
-/

namespace KekPdp11

open StateExcept

variable {δ : Type} [UnibusDevices δ]

section Interrupts

/-- The loop of execute_any_pending_interrupt over the levels. -/
def executeAnyPendingFrom (startLevel : Nat) : List Level → Exec δ Unit
  | [] => pure ()
  | i :: levels => do
      let first ← cpuView fun c => c.firstQueued i
      match first with
      | none => executeAnyPendingFrom startLevel levels
      | some v => do
          modifyCpu fun c => { c with anyQueuedInterrupts := true }
          -- at least we know now that there is an interrupt scheduled
          if i.toNat < startLevel then
            executeAnyPendingFrom startLevel levels
          else do
            modifyCpu fun c => c.eraseInterrupt i v
            logEvent (.interrupt i v)
            trap v (some i)

/-- cpu::execute_any_pending_interrupt. -/
def executeAnyPendingInterrupt : Exec δ Unit := do
  let currentLevel ← cpuView fun c => c.getPSWspl
  executeAnyPendingFrom (currentLevel.toNat + 1) [0, 1, 2, 3, 4, 5, 6, 7]

/-- The trap that a push in the yellow zone has left for after the
instruction. -/
def executeDelayedTrap : Exec δ Unit := do
  let delayed ← cpuView fun c => c.delayedTrap
  match delayed with
  | none => pure ()
  | some vector => do
      trap vector (some 7)
      modifyCpu fun c => { c with delayedTrap := none }

/-- The part of cpu::step before the instruction. -/
def serviceInterrupts : Exec δ Unit := do
  let any ← cpuView fun c => c.anyQueuedInterrupts
  modifyCpu fun c => { c with anyQueuedInterrupts := false }
  onlyIf any do
    executeDelayedTrap
    executeAnyPendingInterrupt

end Interrupts

/-- Fetch the instruction word at PC. -/
def fetchInstruction : Exec δ Word := do
  let pc ← getPC
  modifyMmu fun m => m.mmrStartInstruction pc
  let instr ← Bus.readWord pc .iSpace
  let _ ← addRegister 7 2
  pure instr

/-- What cpu::step does inside its try. -/
def fetchAndExecute : Exec δ Bool := do
  let instr ← fetchInstruction
  let done ← executeInstruction instr
  if done then pure true
  else do
    trap 0o10 none
    pure false

/-- The try of cpu::step with its catch. -/
def runInstruction : Exec δ Bool :=
  catchInt fetchAndExecute fun _ => pure true

/-- cpu::step. -/
def step : Exec δ Bool := do
  modifyCpu fun c =>
    { c with instructionsExecuted := c.instructionsExecuted + 1 }
  serviceInterrupts
  runInstruction

/-- The state in which a step looks for interrupts. -/
def counted (s : Machine δ) : Machine δ :=
  { s with
    cpu :=
      { s.cpu with
        instructionsExecuted := s.cpu.instructionsExecuted + 1 } }

/-- A bus after its constructor with a memory and a processor added. -/
def Machine.initial (ram : Ram) (attached : Slot → Bool) (devices : δ) :
    Machine δ where
  cpu := Cpu.initial
  mmu := Mmu.initial
  ram := ram
  microprogramBreakRegister := 0
  consoleSwitches := 0
  consoleLeds := 0
  attached := attached
  devices := devices
  trace := []

/-- What the other threads can do to the machine. -/
inductive OtherThreads : Machine δ → Machine δ → Prop
  | devices (s : Machine δ) (devices : δ) :
      OtherThreads s { s with devices := devices }
  | memory (s : Machine δ) (m : Nat → Byte) :
      OtherThreads s { s with ram := { s.ram with m := m } }
  | interrupts (s : Machine δ) (requests : List InterruptRequest) :
      OtherThreads s { s with cpu := s.cpu.applyRequests requests }

/-- A machine together with whether its processor sits in a WAIT. -/
structure Running (δ : Type) where
  machine : Machine δ
  inWait : Bool

/-- One transition of a run. -/
inductive Transition : Running δ → Running δ → Prop
  | step {s s' : Machine δ} {result : Bool}
      (h : step s = .ok result s') :
      Transition ⟨s, false⟩ ⟨s', false⟩
  | wait {s s' : Machine δ}
      (h : step s = .error .waiting s') :
      Transition ⟨s, false⟩ ⟨s', true⟩
  | wake {s : Machine δ}
      (h : s.cpu.checkPendingInterrupts = true) :
      Transition ⟨s, true⟩ ⟨s, false⟩
  | other {s s' : Machine δ} {inWait : Bool}
      (h : OtherThreads s s') :
      Transition ⟨s, inWait⟩ ⟨s', inWait⟩

/-- A step that returns leads to the state it ends in. -/
theorem Transition.of_returned
    {s : Machine δ} (h : returned (KekPdp11.step s) = true) :
    Transition ⟨s, false⟩ ⟨final (KekPdp11.step s), false⟩ := by
  obtain ⟨a, ha⟩ := eq_ok_of_returned h
  exact .step ha

/-- The states that a run from `s` can reach. -/
inductive Reaches (s : Running δ) : Running δ → Prop
  | refl : Reaches s s
  | tail {t u : Running δ} (ht : Reaches s t) (hu : Transition t u) :
      Reaches s u

/-- What every transition keeps holds in every state that is reached. -/
theorem Reaches.invariant
    {I : Machine δ → Prop}
    {s t : Running δ}
    (h : Reaches s t)
    (hs : I s.machine)
    (hstep : ∀ u, I u → I (final (step u)))
    (hother : ∀ u u', OtherThreads u u' → I u → I u') :
    I t.machine := by
  induction h with
  | refl =>
      exact hs
  | tail _ hu ih =>
      cases hu with
      | step h =>
          have hk := hstep _ ih
          rw [h] at hk
          exact hk
      | wait h =>
          have hk := hstep _ ih
          rw [h] at hk
          exact hk
      | wake _ =>
          exact ih
      | other h =>
          exact hother _ _ h ih

end KekPdp11
