import Mathlib.Logic.Relation
import KekPdp11.Lib.TakeLog
import KekPdp11.Priority

/-!
# KEK PDP-11: the interrupt queues among threads

Device threads call queue_interrupt and unqueue_interrupt while the processor
steps.  The queues are only touched by the owner of qi_lock;
any_queued_interrupts is an atomic variable, which cpu::step exchanges before
it takes the lock.

**Granularity.**  Each access to the lock, the queues or the flag is a step of
its own.  The other state belongs to the processor's thread: what an
instruction or a trap does to it, and the calls that the same thread makes
while it accesses a device, are `ProcessorStep`s of their own.

**Lock.**  At most one thread is in a place where it owns the lock
(`Exclusive`).
-/

namespace KekPdp11

open TakeLog

/-- Who owns qi_lock. -/
inductive Owner (τ : Type) where
  | processor
  | device (thread : τ)
deriving DecidableEq

/-- Where a device thread is in a call of queue_interrupt or of
unqueue_interrupt.  Both return the lock at their end. -/
inductive Call where
  | none
  | queueCalled (level : Level) (vector : Word)
  | queueLocked (level : Level) (vector : Word)
  | queueInserted
  | queueFlagged
  | unqueueCalled (level : Level) (vector : Word)
  | unqueueLocked (level : Level) (vector : Word)
  | unqueueErased
deriving DecidableEq

/-- A call of queue_interrupt is in progress. -/
def Call.isQueueing : Call → Bool
  | .queueCalled _ _ | .queueLocked _ _ | .queueInserted | .queueFlagged => true
  | _ => false

def Call.ownsLock : Call → Bool
  | .queueLocked _ _ | .queueInserted | .queueFlagged
  | .unqueueLocked _ _ | .unqueueErased => true
  | _ => false

/-- Where the processor is in cpu::step. -/
inductive Phase where
  | betweenSteps
  /-- The flag was set and has been exchanged. -/
  | exchanged
  /-- In cpu::trap for the delayed trap. -/
  | delayedTrap
  /-- In execute_any_pending_interrupt, before it has the lock. -/
  | pendingCalled
  /-- In its loop, with the levels that are still to be looked at. -/
  | scanning (startLevel : Nat) (levels : List Level)
  /-- In its loop, at a level with an interrupt. -/
  | found (startLevel : Nat) (i : Level) (levels : List Level)
  /-- In cpu::trap for an interrupt. -/
  | delivering
  /-- After the part for interrupts. -/
  | executing
deriving DecidableEq

namespace Phase

/-- Between clearing the flag and the end of
execute_any_pending_interrupt. -/
def isServing : Phase → Bool
  | .betweenSteps | .executing => false
  | _ => true

def ownsLock : Phase → Bool
  | .scanning _ _ | .found _ _ _ | .delivering => true
  | _ => false

/-- An instruction or a trap is being executed. -/
def isWorking : Phase → Bool
  | .delayedTrap | .delivering | .executing => true
  | _ => false

/-- The loop over the levels is running. -/
def isLooking : Phase → Bool
  | .scanning _ _ | .found _ _ _ => true
  | _ => false

/-- The level is going to be looked at. -/
def WillLook (i : Level) : Phase → Prop
  | .exchanged | .delayedTrap | .pendingCalled => True
  | .scanning _ levels => i ∈ levels
  | _ => False

end Phase

/-- The processor and the device threads `τ`. -/
structure Shared (τ : Type) where
  cpu : Cpu
  lock : Option (Owner τ)
  calls : τ → Call
  phase : Phase
  /-- What was queued and what was delivered, newest first. -/
  log : List (Entry (Level × Word))

namespace Cpu

/-- The insertion of queue_interrupt. -/
def insertInterrupt (c : Cpu) (level : Level) (vector : Word) : Cpu :=
  { c with
    queuedInterrupts := Function.update c.queuedInterrupts level
      (insert vector (c.queuedInterrupts level)) }

def setAnyQueued (c : Cpu) (any : Bool) : Cpu :=
  { c with anyQueuedInterrupts := any }

/-- What a push in the yellow zone leaves for later. -/
def delayTrap (c : Cpu) : Cpu :=
  { c with delayedTrap := some 0o4, anyQueuedInterrupts := true }

theorem unqueueInterrupt_subset
    (c : Cpu) (level : Level) (vector : Word) (i : Level) :
    (c.unqueueInterrupt level vector).queuedInterrupts i ⊆
      c.queuedInterrupts i := by
  simp only [unqueueInterrupt, eraseInterrupt]
  by_cases h : i = level
  · subst h
    rw [Function.update_self]
    exact Finset.erase_subset _ _
  · rw [Function.update_of_ne h]

/-- The queues, the flag and the delayed trap are the same. -/
structure SamePending (c c' : Cpu) : Prop where
  queued : c'.queuedInterrupts = c.queuedInterrupts
  any : c'.anyQueuedInterrupts = c.anyQueuedInterrupts
  delayed : c'.delayedTrap = c.delayedTrap

end Cpu

/-- The loop of execute_any_pending_interrupt comes to every level. -/
theorem level_mem
    (i : Level) :
    i ∈ [(0 : Level), 1, 2, 3, 4, 5, 6, 7] := by
  revert i
  decide

variable {τ : Type} [DecidableEq τ]

def Shared.setCall (s : Shared τ) (t : τ) (call : Call) : Shared τ :=
  { s with calls := Function.update s.calls t call }

@[simp] theorem Shared.setCall_self
    (s : Shared τ) (t : τ) (call : Call) :
    (s.setCall t call).calls t = call :=
  Function.update_self ..

theorem Shared.setCall_of_ne
    (s : Shared τ) {t u : τ} (call : Call) (h : u ≠ t) :
    (s.setCall t call).calls u = s.calls u :=
  Function.update_of_ne h ..

/-- The steps of a device thread. -/
inductive DeviceStep (s : Shared τ) (t : τ) : Shared τ → Prop
  | queueCall (level : Level) (vector : Word) (h : s.calls t = .none) :
      DeviceStep s t (s.setCall t (.queueCalled level vector))
  | queueLock {level : Level} {vector : Word}
      (h : s.calls t = .queueCalled level vector) (hfree : s.lock = none) :
      DeviceStep s t
        ({ s with lock := some (.device t) }.setCall t
          (.queueLocked level vector))
  | queueInsert {level : Level} {vector : Word}
      (h : s.calls t = .queueLocked level vector) :
      DeviceStep s t
        ({ s with
            cpu := s.cpu.insertInterrupt level vector
            log := .put (level, vector) :: s.log }.setCall t .queueInserted)
  | queueFlag (h : s.calls t = .queueInserted) :
      DeviceStep s t
        ({ s with cpu := s.cpu.setAnyQueued true }.setCall t .queueFlagged)
  | queueReturn (h : s.calls t = .queueFlagged) :
      DeviceStep s t ({ s with lock := none }.setCall t .none)
  | unqueueCall (level : Level) (vector : Word) (h : s.calls t = .none) :
      DeviceStep s t (s.setCall t (.unqueueCalled level vector))
  | unqueueLock {level : Level} {vector : Word}
      (h : s.calls t = .unqueueCalled level vector) (hfree : s.lock = none) :
      DeviceStep s t
        ({ s with lock := some (.device t) }.setCall t
          (.unqueueLocked level vector))
  | unqueueErase {level : Level} {vector : Word}
      (h : s.calls t = .unqueueLocked level vector) :
      DeviceStep s t
        ({ s with cpu := s.cpu.unqueueInterrupt level vector }.setCall t
          .unqueueErased)
  | unqueueReturn (h : s.calls t = .unqueueErased) :
      DeviceStep s t ({ s with lock := none }.setCall t .none)

/-- The steps of the processor. -/
inductive ProcessorStep (s : Shared τ) : Shared τ → Prop
  | exchangeSet (h : s.phase = .betweenSteps)
      (hany : s.cpu.anyQueuedInterrupts = true) :
      ProcessorStep s
        { s with cpu := s.cpu.setAnyQueued false, phase := .exchanged }
  | exchangeClear (h : s.phase = .betweenSteps)
      (hany : s.cpu.anyQueuedInterrupts = false) :
      ProcessorStep s { s with phase := .executing }
  | noDelayedTrap (h : s.phase = .exchanged)
      (hnone : s.cpu.delayedTrap = none) :
      ProcessorStep s { s with phase := .pendingCalled }
  | delayedTrap (h : s.phase = .exchanged) {vector : Word}
      (hsome : s.cpu.delayedTrap = some vector) :
      ProcessorStep s { s with phase := .delayedTrap }
  | resetDelayedTrap (h : s.phase = .delayedTrap) :
      ProcessorStep s
        { s with
          cpu := { s.cpu with delayedTrap := none }
          phase := .pendingCalled }
  | pendingLock (h : s.phase = .pendingCalled) (hfree : s.lock = none) :
      ProcessorStep s
        { s with
          lock := some .processor
          phase := .scanning (s.cpu.getPSWspl.toNat + 1)
            [0, 1, 2, 3, 4, 5, 6, 7] }
  | skipEmpty {startLevel : Nat} {i : Level} {levels : List Level}
      (h : s.phase = .scanning startLevel (i :: levels))
      (hempty : s.cpu.firstQueued i = none) :
      ProcessorStep s { s with phase := .scanning startLevel levels }
  | find {startLevel : Nat} {i : Level} {levels : List Level} {vector : Word}
      (h : s.phase = .scanning startLevel (i :: levels))
      (hfirst : s.cpu.firstQueued i = some vector) :
      ProcessorStep s
        { s with
          cpu := s.cpu.setAnyQueued true
          phase := .found startLevel i levels }
  | skipBlocked {startLevel : Nat} {i : Level} {levels : List Level}
      (h : s.phase = .found startLevel i levels)
      (hlow : i.toNat < startLevel) :
      ProcessorStep s { s with phase := .scanning startLevel levels }
  | deliver {startLevel : Nat} {i : Level} {levels : List Level}
      {vector : Word} (h : s.phase = .found startLevel i levels)
      (hhigh : ¬ i.toNat < startLevel)
      (hfirst : s.cpu.firstQueued i = some vector) :
      ProcessorStep s
        { s with
          cpu := s.cpu.eraseInterrupt i vector
          phase := .delivering
          log := .take (i, vector) :: s.log }
  | noneFound {startLevel : Nat} (h : s.phase = .scanning startLevel []) :
      ProcessorStep s { s with lock := none, phase := .executing }
  | delivered (h : s.phase = .delivering) :
      ProcessorStep s { s with lock := none, phase := .executing }
  | executed (h : s.phase = .executing) :
      ProcessorStep s { s with phase := .betweenSteps }
  /-- Registers, the status word and what else is the processor's own. -/
  | own (h : s.phase.isLooking = false) {c : Cpu}
      (hsame : s.cpu.SamePending c) :
      ProcessorStep s { s with cpu := c }
  /-- A push in the yellow zone.  No other thread looks at the delayed trap,
  so that it and the flag are set together. -/
  | yellowZone (h : s.phase.isWorking = true) :
      ProcessorStep s { s with cpu := s.cpu.delayTrap }
  | initInterruptQueue (h : s.phase.isWorking = true) :
      ProcessorStep s { s with cpu := s.cpu.initInterruptQueue }
  /-- A device that the processor accesses calls queue_interrupt.  With the
  lock held by the same thread the call would not come back; here it does. -/
  | queueInterrupt (h : s.phase.isWorking = true)
      (hlock : s.lock = none ∨ s.phase = .delivering)
      (level : Level) (vector : Word) :
      ProcessorStep s
        { s with
          cpu := s.cpu.queueInterrupt level vector
          log := .put (level, vector) :: s.log }
  | unqueueInterrupt (h : s.phase.isWorking = true)
      (hlock : s.lock = none ∨ s.phase = .delivering)
      (level : Level) (vector : Word) :
      ProcessorStep s
        { s with cpu := s.cpu.unqueueInterrupt level vector }

/-- One step of one of the threads. -/
inductive ThreadStep (s s' : Shared τ) : Prop
  | device (t : τ) (h : DeviceStep s t s')
  | processor (h : ProcessorStep s s')

/-- The states that an interleaving of the threads can reach. -/
abbrev Interleaves : Shared τ → Shared τ → Prop :=
  Relation.ReflTransGen ThreadStep

/-- Nothing is queued, and no thread has begun. -/
structure Shared.Initial (s : Shared τ) : Prop where
  pending : Cpu.initial.SamePending s.cpu
  lock : s.lock = none
  calls : ∀ t, s.calls t = .none
  phase : s.phase = .betweenSteps
  log : s.log = []

section Lock

/-- The lock belongs to whoever is in a place where it is held. -/
structure Exclusive (s : Shared τ) : Prop where
  device : ∀ t, (s.calls t).ownsLock = true → s.lock = some (.device t)
  processor : s.phase.ownsLock = true → s.lock = some .processor

variable {s s' : Shared τ} {t : τ} {call : Call}

/-- A thread goes on without acquiring or returning the lock. -/
theorem Exclusive.setCall
    (h : Exclusive s)
    (hcall : call.ownsLock = true → (s.calls t).ownsLock = true) :
    Exclusive (s.setCall t call) := by
  constructor
  · intro u hu
    by_cases hut : u = t
    · subst hut
      rw [Shared.setCall_self] at hu
      exact h.device u (hcall hu)
    · rw [Shared.setCall_of_ne _ _ hut] at hu
      exact h.device u hu
  · exact h.processor

theorem Exclusive.acquire
    (h : Exclusive s) (hfree : s.lock = none) :
    Exclusive ({ s with lock := some (.device t) }.setCall t call) := by
  constructor
  · intro u hu
    by_cases hut : u = t
    · subst hut
      rfl
    · rw [Shared.setCall_of_ne _ _ hut] at hu
      have hother := h.device u hu
      rw [hfree] at hother
      cases hother
  · intro hphase
    have hother := h.processor hphase
    rw [hfree] at hother
    cases hother

theorem Exclusive.release
    (h : Exclusive s) (ht : (s.calls t).ownsLock = true) :
    Exclusive ({ s with lock := none }.setCall t .none) := by
  have howner := h.device t ht
  constructor
  · intro u hu
    by_cases hut : u = t
    · subst hut
      rw [Shared.setCall_self] at hu
      cases hu
    · rw [Shared.setCall_of_ne _ _ hut] at hu
      have hother := h.device u hu
      rw [howner] at hother
      cases hother
      exact absurd rfl hut
  · intro hphase
    have hother := h.processor hphase
    rw [howner] at hother
    cases hother

theorem Exclusive.deviceStep
    (h : Exclusive s) (hs : DeviceStep s t s') :
    Exclusive s' := by
  have hkeep : ∀ (c : Cpu) (log : List (Entry (Level × Word))),
      Exclusive { s with cpu := c, log := log } := fun _ _ =>
    ⟨h.device, h.processor⟩
  cases hs with
  | queueCall level vector hc =>
      exact h.setCall nofun
  | queueLock hc hfree =>
      exact h.acquire hfree
  | queueInsert hc =>
      exact (hkeep _ _).setCall fun _ => by rw [hc]; rfl
  | queueFlag hc =>
      exact (hkeep _ _).setCall fun _ => by rw [hc]; rfl
  | queueReturn hc =>
      exact h.release (by rw [hc]; rfl)
  | unqueueCall level vector hc =>
      exact h.setCall nofun
  | unqueueLock hc hfree =>
      exact h.acquire hfree
  | unqueueErase hc =>
      exact (hkeep _ _).setCall fun _ => by rw [hc]; rfl
  | unqueueReturn hc =>
      exact h.release (by rw [hc]; rfl)

omit [DecidableEq τ] in
/-- The processor goes on without acquiring or returning the lock. -/
theorem Exclusive.setPhase
    (h : Exclusive s) (c : Cpu) (log : List (Entry (Level × Word)))
    {phase : Phase}
    (hphase : phase.ownsLock = true → s.phase.ownsLock = true) :
    Exclusive { s with cpu := c, log := log, phase := phase } :=
  ⟨h.device, fun hp => h.processor (hphase hp)⟩

omit [DecidableEq τ] in
theorem Exclusive.leave
    (h : Exclusive s) (hp : s.phase.ownsLock = true) :
    Exclusive { s with lock := none, phase := .executing } := by
  constructor
  · intro u hu
    have hother := h.device u hu
    rw [h.processor hp] at hother
    cases hother
  · nofun

omit [DecidableEq τ] in
theorem Exclusive.processorStep
    (h : Exclusive s) (hs : ProcessorStep s s') :
    Exclusive s' := by
  cases hs with
  | exchangeSet hp hany =>
      exact h.setPhase _ _ nofun
  | exchangeClear hp hany =>
      exact h.setPhase _ _ nofun
  | noDelayedTrap hp hnone =>
      exact h.setPhase _ _ nofun
  | delayedTrap hp hsome =>
      exact h.setPhase _ _ nofun
  | resetDelayedTrap hp =>
      exact h.setPhase _ _ nofun
  | pendingLock hp hfree =>
      constructor
      · intro u hu
        have hother := h.device u hu
        rw [hfree] at hother
        cases hother
      · intro _
        rfl
  | skipEmpty hp hempty =>
      exact h.setPhase _ _ fun _ => by rw [hp]; rfl
  | find hp hfirst =>
      exact h.setPhase _ _ fun _ => by rw [hp]; rfl
  | skipBlocked hp hlow =>
      exact h.setPhase _ _ fun _ => by rw [hp]; rfl
  | deliver hp hhigh hfirst =>
      exact h.setPhase _ _ fun _ => by rw [hp]; rfl
  | noneFound hp =>
      exact h.leave (by rw [hp]; rfl)
  | delivered hp =>
      exact h.leave (by rw [hp]; rfl)
  | executed hp =>
      exact h.setPhase _ _ nofun
  | own hp hsame =>
      exact h.setPhase _ _ id
  | yellowZone hp =>
      exact h.setPhase _ _ id
  | initInterruptQueue hp =>
      exact h.setPhase _ _ id
  | queueInterrupt hp hlock level vector =>
      exact h.setPhase _ _ id
  | unqueueInterrupt hp hlock level vector =>
      exact h.setPhase _ _ id

end Lock

end KekPdp11
