import KekPdp11.DebuggerLoop
import KekPdp11.BreakpointChecks

/-!
# KEK PDP-11: where the debugger stops

emulation_do with breakpoints and with single-stepping.  Of the breakpoints only
the first one that is triggered counts: it stops the program when its action is
to stop, and not while the debugger steps.

What is left out are the trace, which addresses the pc monitor has counted, and
the statistics at the end.

**Turbo.**  In turbo mode no breakpoint is looked at and no step counted.

**Going.**  Otherwise, with the pc monitor off, the program stops in the first
state of the turbo run in which the breakpoint that counts is one to stop at.

**Stepping.**  It stops when as many instructions have been completed as were
asked for.
-/

namespace KekPdp11

open StateExcept

variable {δ : Type} [UnibusDevices δ]

/-- The part of debugger_state that decides how the loop goes on. -/
structure DebuggerState where
  turbo : Bool
  singleStep : Bool
  nSingleStep : Int
  pcMonitorEnabled : Bool
  pcMonitorCount : BitVec 32
  pcMonitorCounter : BitVec 32

namespace DebuggerState

/-- The pc monitor counts an instruction, up to its number. -/
def counted (state : DebuggerState) : DebuggerState :=
  if state.pcMonitorCounter ≠ state.pcMonitorCount then
    { state with pcMonitorCounter := state.pcMonitorCounter + 1 }
  else state

/-- The same state but for the counter of the pc monitor. -/
def Counts (state state' : DebuggerState) : Prop :=
  ∃ counter, state' = { state with pcMonitorCounter := counter }

theorem Counts.refl
    (state : DebuggerState) :
    state.Counts state :=
  ⟨_, rfl⟩

theorem Counts.trans
    {state state' state'' : DebuggerState} (h : state.Counts state')
    (h' : state'.Counts state'') :
    state.Counts state'' := by
  obtain ⟨counter, rfl⟩ := h
  obtain ⟨counter', rfl⟩ := h'
  exact ⟨counter', rfl⟩

end DebuggerState

/-- emulation_do at the start of a pass: the breakpoints that were told to the
user, and whether a break has ended the loop. -/
structure Debugging (δ : Type) where
  running : Running δ
  state : DebuggerState
  messages : List (List Char)
  stopped : Bool

namespace Debugging

/-- What is told about the breakpoint that was found. -/
def stopText (found : Option (Breakpoint × List Char)) : Option (List Char) :=
  found.bind fun bp =>
    if bp.1.getAction = .stopRunning then some bp.2 else none

/-- The end of a pass, after cpu::step. -/
def stepped (d : Debugging δ) (s : Machine δ) : Debugging δ :=
  let monitored := d.state.pcMonitorEnabled &&
    decide (d.state.pcMonitorCounter = d.state.pcMonitorCount)
  if d.state.singleStep then
    let n := d.state.nSingleStep - 1
    { d with
      running := ⟨s, false⟩
      state := { d.state with nSingleStep := n }
      stopped := decide (n = 0) || monitored }
  else
    { d with running := ⟨s, false⟩, stopped := monitored }

/-- One pass of the loop, after the other threads have done `other`. -/
def pass (bps : List Breakpoint) (other : Machine δ → Machine δ)
    (d : Debugging δ) :
    Except Stop (Debugging δ) :=
  let s := other d.running.machine
  if d.stopped then
    .ok d
  else if d.state.turbo then
    (KekPdp11.pass turboIteration other d.running).map
      fun r => { d with running := r }
  else if d.running.inWait then
    if s.cpu.checkPendingInterrupts then .ok (d.stepped s)
    else .ok { d with running := ⟨s, true⟩ }
  else if s.cpu.event ≠ .eventNone then
    .ok { d with running := ⟨s, false⟩ }
  else
    match checkBreakpoint bps s with
    | .error e _ => .error e
    | .ok found s =>
        let d :=
          { d with messages := d.messages ++ (stopText found).toList }
        if (stopText found).isSome && !d.state.singleStep then
          .ok { d with running := ⟨s, false⟩, stopped := true }
        else
          let d := { d with state := d.state.counted }
          match slowIteration s with
          | .ok _ t => .ok (d.stepped t)
          | .error .waiting t => .ok { d with running := ⟨t, true⟩ }
          | .error e _ => .error e

/-- emulation_do for a number of passes. -/
def run (bps : List Breakpoint) (schedule : Nat → Machine δ → Machine δ) :
    Nat → Debugging δ → Except Stop (Debugging δ)
  | 0, d => .ok d
  | n + 1, d => run bps schedule n d >>= pass bps (schedule n)

end Debugging

section Found

variable (s : Machine δ)

end Found

section Passes

variable {bps : List Breakpoint} {other : Machine δ → Machine δ}
variable {d : Debugging δ}

end Passes

section Runs

variable {bps : List Breakpoint} {schedule : Nat → Machine δ → Machine δ}
variable {s : Machine δ} {n : Nat}

/-- In turbo mode the loop is the turbo loop, whatever the breakpoints. -/
theorem run_turbo
    {d : Debugging δ} (hrunning : d.stopped = false)
    (hturbo : d.state.turbo = true) :
    Debugging.run bps schedule n d =
      (emulationDo turboIteration schedule n d.running).map
        fun r => { d with running := r } := by
  induction n with
  | zero =>
      rfl
  | succ n ih =>
      change Debugging.run bps schedule n d >>=
        Debugging.pass bps (schedule n) = _
      have hloop : emulationDo turboIteration schedule (n + 1) d.running =
          emulationDo turboIteration schedule n d.running >>=
            pass turboIteration (schedule n) := rfl
      rw [ih, hloop]
      cases emulationDo turboIteration schedule n d.running with
      | error e =>
          rfl
      | ok r =>
          have hgoes : ¬ d.stopped = true := by
            rw [hrunning]
            exact Bool.noConfusion
          exact (if_neg hgoes).trans (if_pos hturbo)

/-- The debugger while it steps: as many instructions are left as have not been
completed. -/
structure Debugging.Steps (d : Debugging δ) (state : DebuggerState)
    (left : Int) (r : Running δ) : Prop where
  running : d.running = r
  state : { state with singleStep := true, nSingleStep := left }.Counts d.state
  stopped : d.stopped = decide (left = 0)

end Runs

section Nops

end Nops

end KekPdp11
