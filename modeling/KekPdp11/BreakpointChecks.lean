import KekPdp11.Breakpoints
import KekPdp11.LineClock

/-!
# KEK PDP-11: what a check of the breakpoints does to the machine

Before every instruction the debugger asks the breakpoints whether one of them
is triggered.  Registers are read off, and the memory of the program is looked
at by peeking; both leave the machine alone.  A breakpoint on physical memory is
different: it reads like the program does, and outside of RAM that is a trap
and a throw.

The breakpoints and the parts of a combination are asked one after the other
and not all of them are asked, so what matters is whether such a breakpoint is
reached.
-/

namespace KekPdp11

open StateExcept

section Answering

variable {ε σ α β : Type} {m : EStateM ε σ (Option α)} {s : σ}
variable {fails fails' : Prop} {answer answer' : Bool}

/-- The program throws in the state if `fails`, and otherwise it leaves the
state alone and finds something exactly if `answer`. -/
structure Answers (m : EStateM ε σ (Option α)) (s : σ) (fails : Prop)
    (answer : Bool) : Prop where
  throws : fails → ∃ e t, m s = .error e t
  returns : ¬ fails → ∃ rc, m s = .ok rc s ∧ rc.isSome = answer

namespace Answers

theorem of_ok
    {rc : Option α} (h : m s = .ok rc s) (hanswer : rc.isSome = answer) :
    Answers m s False answer where
  throws := False.elim
  returns := fun _ => ⟨rc, h, hanswer⟩

theorem returns_iff
    (h : Answers m s fails answer) :
    (∃ rc, m s = .ok rc s) ↔ ¬ fails := by
  constructor
  · rintro ⟨rc, hrc⟩ hfails
    obtain ⟨e, t, herror⟩ := h.throws hfails
    cases hrc.symm.trans herror
  · intro hfails
    obtain ⟨rc, hrc, -⟩ := h.returns hfails
    exact ⟨rc, hrc⟩

/-- What is done after an answer is done if the answer is the one waited for.
Any other answer ends the program. -/
theorem bind
    {k : Option α → EStateM ε σ (Option β)} (waited ended : Bool)
    (h : Answers m s fails answer)
    (hnext : ∀ rc : Option α, rc.isSome = waited →
      Answers (k rc) s fails' answer')
    (hend : ∀ rc : Option α, rc.isSome ≠ waited →
      ∃ rc', k rc s = .ok rc' s ∧ rc'.isSome = ended) :
    Answers (m >>= k) s (fails ∨ (answer = waited ∧ fails'))
      (if answer = waited then answer' else ended) where
  throws := by
    intro hfails
    by_cases hm : fails
    · obtain ⟨e, t, herror⟩ := h.throws hm
      exact ⟨e, t, bind_of_error herror⟩
    · obtain ⟨rc, hrc, hanswer⟩ := h.returns hm
      obtain ⟨hwaited, hfails'⟩ := hfails.resolve_left hm
      obtain ⟨e, t, herror⟩ :=
        (hnext rc (hanswer.trans hwaited)).throws hfails'
      exact ⟨e, t, (bind_of_ok hrc).trans herror⟩
  returns := by
    intro hfails
    obtain ⟨rc, hrc, hanswer⟩ := h.returns fun hm => hfails (.inl hm)
    by_cases hwaited : answer = waited
    · rw [if_pos hwaited]
      obtain ⟨rc', hrc', hanswer'⟩ :=
        (hnext rc (hanswer.trans hwaited)).returns
          fun hf => hfails (.inr ⟨hwaited, hf⟩)
      exact ⟨rc', (bind_of_ok hrc).trans hrc', hanswer'⟩
    · rw [if_neg hwaited]
      obtain ⟨rc', hrc', hanswer'⟩ :=
        hend rc fun hsome => hwaited (hanswer.symm.trans hsome)
      exact ⟨rc', (bind_of_ok hrc).trans hrc', hanswer'⟩

end Answers

end Answering

variable {δ : Type} [UnibusDevices δ]

section Check

/-- cpu::check_breakpoint; the breakpoints are in the order in which the map is
walked. -/
def checkBreakpoint : List Breakpoint → Exec δ (Option (Breakpoint × List Char))
  | [] => pure none
  | bp :: bps => do
      let rc ← bp.isTriggered
      match rc with
      | some text => pure (some (bp, text))
      | none => checkBreakpoint bps

end Check

section Condition

/-- The answer after which the next trigger is asked. -/
def BpOperator.continues : BpOperator → Bool
  | .and => true
  | .or => false

namespace Breakpoint

variable (s : Machine δ)

mutual

/-- The breakpoint is triggered in this state of the machine, with any word
outside of RAM. -/
def holds : Breakpoint → Bool
  | register registerNr values _ =>
      decide (registerValue registerNr s ∈ values.values)
  | memory addr _ isVirtual values _ =>
      (if isVirtual then peekCurrent (addr.setWidth 16) s
        else some (s.ram.readWord addr)).any
        fun v => decide (v ∈ values.values)
  | instruction instr mask _ =>
      (peekCurrent s.cpu.pc s).any fun v => decide (v &&& mask = instr)
  | combined op triggers _ => allAnswer op triggers

/-- All of the triggers hold, for and; one of them does, for or. -/
def allAnswer (op : BpOperator) : List Breakpoint → Bool
  | [] => op.continues
  | t :: triggers =>
      if holds t = op.continues then allAnswer op triggers
      else !op.continues

end

mutual

/-- The breakpoint looks at physical memory outside of RAM. -/
def ReadsOutside : Breakpoint → Prop
  | register .. => False
  | memory addr _ isVirtual _ _ => isVirtual = false ∧ s.ram.size ≤ addr
  | instruction .. => False
  | combined op triggers _ => ReadsOutsideIn op triggers

/-- One of the triggers does, and it is reached. -/
def ReadsOutsideIn (op : BpOperator) : List Breakpoint → Prop
  | [] => False
  | t :: triggers =>
      ReadsOutside t ∨
        (t.holds s = op.continues ∧ ReadsOutsideIn op triggers)

end

end Breakpoint

end Condition

section Answers

variable (s : Machine δ)

theorem triggeredValue_isSome
    (name : List Char) (values : ValueSet) (v : Word) :
    (triggeredValue name values v).isSome = decide (v ∈ values.values) := by
  unfold triggeredValue
  split
  · next h =>
      exact (decide_eq_true h).symm
  · next h =>
      exact (decide_eq_false h).symm

theorem bind_isSome
    {α β : Type} {f : α → Option β} {p : α → Bool}
    (h : ∀ a, (f a).isSome = p a) (found : Option α) :
    (found.bind f).isSome = found.any p := by
  cases found with
  | none =>
      rfl
  | some a =>
      exact h a

/-- A read of physical memory traps and throws if it is outside of RAM. -/
theorem readPhysical_throws
    {addr : PhysAddr} {s : Machine δ} (h : s.ram.size ≤ addr) :
    ∃ e t, Bus.readPhysical addr s = .error e t := by
  rw [Bus.readPhysical_apply, if_pos h]
  cases htrap : trap 0o4 none s with
  | ok a t =>
      exact ⟨_, t, bind_of_ok htrap⟩
  | error e t =>
      exact ⟨e, t, bind_of_error htrap⟩

theorem memory_answers
    (addr : PhysAddr) (wordMode : WordMode) (isVirtual : Bool)
    (values : ValueSet) (action : BpAction) :
    Answers (Breakpoint.memory addr wordMode isVirtual values action).isTriggered
      s (isVirtual = false ∧ s.ram.size ≤ addr)
      ((Breakpoint.memory addr wordMode isVirtual values action).holds s) := by
  have hvalue :=
    bind_isSome
      (triggeredValue_isSome (memoryName addr wordMode isVirtual) values)
  cases isVirtual with
  | true =>
      exact
        { throws := fun h => absurd h.1 nofun
          returns := fun _ => ⟨_, rfl, hvalue _⟩ }
  | false =>
      refine { throws := fun h => ?_, returns := fun h => ?_ }
      · obtain ⟨e, t, herror⟩ := readPhysical_throws h.2
        refine ⟨e, t, bind_of_error ?_⟩
        exact bind_of_error herror
      · have hread : Bus.readPhysical addr s = .ok (s.ram.readWord addr) s := by
          rw [Bus.readPhysical_apply, if_neg fun hsize => h ⟨rfl, hsize⟩]
        refine ⟨_, bind_of_ok (bind_of_ok hread), hvalue _⟩

open Breakpoint

mutual

/-- A breakpoint answers, unless it reads outside of RAM. -/
theorem isTriggered_answers :
    ∀ bp : Breakpoint,
      Answers bp.isTriggered s (bp.ReadsOutside s) (bp.holds s)
  | register registerNr values action =>
      .of_ok rfl (triggeredValue_isSome _ values _)
  | memory addr wordMode isVirtual values action =>
      memory_answers s addr wordMode isVirtual values action
  | instruction instr mask action => by
      refine .of_ok rfl (bind_isSome (fun v => ?_) _)
      split
      · next h =>
          exact (decide_eq_true h).symm
      · next h =>
          exact (decide_eq_false h).symm
  | combined .and triggers action => allTriggered_answers [] triggers
  | combined .or triggers action => anyTriggered_answers triggers

theorem allTriggered_answers
    (out : List Char) :
    ∀ triggers : List Breakpoint,
      Answers (allTriggered out triggers) s
        (ReadsOutsideIn s .and triggers) (allAnswer s .and triggers)
  | [] => .of_ok rfl rfl
  | t :: triggers => by
      refine .bind true false (isTriggered_answers t) ?_ ?_
      · intro rc hrc
        obtain ⟨text, rfl⟩ := Option.isSome_iff_exists.mp hrc
        exact allTriggered_answers _ triggers
      · intro rc hrc
        cases rc with
        | none =>
            exact ⟨none, rfl, rfl⟩
        | some text =>
            exact absurd rfl hrc

theorem anyTriggered_answers :
    ∀ triggers : List Breakpoint,
      Answers (anyTriggered triggers) s
        (ReadsOutsideIn s .or triggers) (allAnswer s .or triggers)
  | [] => .of_ok rfl rfl
  | t :: triggers => by
      refine .bind false true (isTriggered_answers t) ?_ ?_
      · intro rc hrc
        cases rc with
        | none =>
            exact anyTriggered_answers triggers
        | some text =>
            cases hrc
      · intro rc hrc
        cases rc with
        | none =>
            exact absurd rfl hrc
        | some text =>
            exact ⟨some text, rfl, rfl⟩

end

/-- The breakpoints of the debugger are asked as those of an or are. -/
theorem checkBreakpoint_answers
    (bps : List Breakpoint) :
    Answers (checkBreakpoint bps) s (ReadsOutsideIn s .or bps)
      (allAnswer s .or bps) := by
  induction bps with
  | nil =>
      exact .of_ok rfl rfl
  | cons bp bps ih =>
      refine .bind false true (isTriggered_answers s bp) ?_ ?_
      · intro rc hrc
        cases rc with
        | none =>
            exact ih
        | some text =>
            cases hrc
      · intro rc hrc
        cases rc with
        | none =>
            exact absurd rfl hrc
        | some text =>
            exact ⟨some (bp, text), rfl, rfl⟩

end Answers

section Result

/-- A check returns and leaves the machine alone, unless it reaches a
breakpoint on physical memory outside of RAM. -/
theorem checkBreakpoint_harmless_iff
    (bps : List Breakpoint) (s : Machine δ) :
    (∃ rc, checkBreakpoint bps s = .ok rc s) ↔
      ¬ Breakpoint.ReadsOutsideIn s .or bps :=
  (checkBreakpoint_answers s bps).returns_iff

/-- A breakpoint on the first word behind a memory of 8 kB. -/
def behindMemory : Breakpoint :=
  .memory 0o20000 .wmWord false ⟨[0], List.pairwise_singleton _ _⟩ .stopRunning

/-- The machine has the trap vector 4 point to 0400, and a stack. -/
def watchedMachine : Machine LineClock :=
  let s := bareMachine 0o20000 [(0o4, 0o400), (0o6, 0o340)]
  { s with cpu := s.cpu.setRegister 6 0o1000 }

/-- The check throws, and the program that is debugged is in its trap handler
with two words on its stack. -/
theorem check_behind_memory :
    ∃ t, checkBreakpoint [behindMemory] watchedMachine =
        .error (.exception 13) t ∧
      t.cpu.pc = 0o400 ∧ t.cpu.getRegister 6 = 0o774 :=
  ⟨_, rfl, by decide, by decide⟩

end Result

end KekPdp11
