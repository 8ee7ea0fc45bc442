import KekPdp11.QueueRules
import KekPdp11.NoticedInterrupts

/-!
# KEK PDP-11: steps as interleavings

cpu::step, run to its end, is one of the interleavings in which the device
threads stand still; what the other threads do to the queues in between is one
in which the processor stands still.  The runs of the machine are therefore
among the interleavings, and what holds of all of these holds of them.
-/

namespace KekPdp11

open StateExcept TakeLog

variable {δ τ : Type} [DecidableEq τ]

/-- An interleaving from `σ` has come to the processor of `s`, with the same
deliveries. -/
def Mirrors (σ : Shared τ) (lock : Option (Owner τ)) (phase : Phase)
    (s : Machine δ) : Prop :=
  ∃ log, Interleaves σ
      { σ with cpu := s.cpu, lock := lock, phase := phase, log := log } ∧
    log.filterMap Entry.taken? = s.pending.delivered

variable {σ : Shared τ} {lock lock' : Option (Owner τ)} {phase phase' : Phase}

section Steps

/-- The processor makes a step that delivers nothing. -/
theorem Mirrors.next
    {s s' : Machine δ} (h : Mirrors σ lock phase s)
    (hstep : ∀ log, ProcessorStep
      { σ with cpu := s.cpu, lock := lock, phase := phase, log := log }
      { σ with cpu := s'.cpu, lock := lock', phase := phase', log := log })
    (hdelivered : s'.pending.delivered = s.pending.delivered) :
    Mirrors σ lock' phase' s' := by
  obtain ⟨log, hrun, hlog⟩ := h
  exact ⟨log, hrun.tail (.processor (hstep log)), hlog.trans hdelivered.symm⟩

/-- The state is left alone. -/
theorem Mirrors.move
    {s : Machine δ} (h : Mirrors σ lock phase s)
    (hstep : ∀ log, ProcessorStep
      { σ with cpu := s.cpu, lock := lock, phase := phase, log := log }
      { σ with cpu := s.cpu, lock := lock', phase := phase', log := log }) :
    Mirrors σ lock' phase' s :=
  h.next hstep rfl

/-- What the processor does on its own. -/
theorem Mirrors.own
    {s s' : Machine δ} (h : Mirrors σ lock phase s)
    (hphase : phase.isLooking = false) (hsame : s'.pending = s.pending) :
    Mirrors σ lock phase s' := by
  refine h.next (fun log => .own hphase ?_) (congrArg Pending.delivered hsame)
  exact ⟨congrArg Pending.queued hsame, congrArg Pending.any hsame,
    congrArg Pending.delayed hsame⟩

/-- In a trap or an instruction, everything that execution does to the queues
is one of the steps. -/
theorem mirrors_rules
    (σ : Shared τ) (hworking : phase.isWorking = true)
    (hlock : lock = none ∨ phase = .delivering) :
    QueueRules (Mirrors σ lock phase : Machine δ → Prop) where
  frame s s' hsame hs := by
    refine hs.own ?_ hsame
    cases phase <;> first | rfl | cases hworking
  request s r hs := by
    obtain ⟨log, hrun, hlog⟩ := hs
    cases r with
    | queue level vector =>
        exact ⟨_, hrun.tail
          (.processor (.queueInterrupt hworking hlock level vector)), hlog⟩
    | unqueue level vector =>
        exact ⟨_, hrun.tail
          (.processor (.unqueueInterrupt hworking hlock level vector)), hlog⟩
  yellowZone s hs := hs.next (fun _ => .yellowZone hworking) rfl
  reset s hs := hs.next (fun _ => .initInterruptQueue hworking) rfl

end Steps

section Service

variable [UnibusDevices δ]

/-- cpu::trap returns, so that only its returns matter. -/
theorem QueueRules.trap_returns
    {I : Machine δ → Prop} (R : QueueRules I) (vector : Word)
    (newIpl : Option Level) :
    Triple I (KekPdp11.trap vector newIpl : Exec δ Unit) (fun _ => I)
      (fun _ _ => False) := by
  intro s hs
  obtain ⟨t, ht⟩ := KekPdp11.trap_returns vector newIpl s
  have hend := R.trap vector newIpl s hs
  rw [ht] at hend ⊢
  exact hend

theorem executeDelayedTrap_mirrors :
    Triple (Mirrors σ none .exchanged) (executeDelayedTrap : Exec δ Unit)
      (fun _ => Mirrors σ none .pendingCalled) (fun _ _ => False) := by
  refine .view_bind fun delayed => ?_
  cases delayed with
  | none =>
      exact .pure fun s hs => hs.1.move fun _ => .noDelayedTrap rfl hs.2
  | some vector =>
      have hwork : QueueRules (Mirrors σ none .delayedTrap : Machine δ → Prop) :=
        mirrors_rules σ rfl (.inl rfl)
      refine Triple.strengthen_pre (I := Mirrors σ none .delayedTrap) ?_
        fun s hs => hs.1.move fun _ => .delayedTrap rfl hs.2
      refine (hwork.trap_returns vector (some 7)).bind fun _ => ?_
      exact .update fun s hs => hs.next (fun _ => .resetDelayedTrap rfl) rfl

/-- The loop over the levels, by induction on those that are left. -/
theorem executeAnyPendingFrom_mirrors
    (startLevel : Nat) (levels : List Level) :
    Triple (Mirrors σ (some .processor) (.scanning startLevel levels))
      (executeAnyPendingFrom startLevel levels : Exec δ Unit)
      (fun _ => Mirrors σ none .executing) (fun _ _ => False) := by
  induction levels with
  | nil =>
      exact .pure fun s hs => hs.move fun _ => .noneFound rfl
  | cons i levels ih =>
      refine .view_bind fun first => ?_
      cases first with
      | none =>
          exact ih.strengthen_pre fun s hs =>
            hs.1.move fun _ => .skipEmpty rfl hs.2
      | some v =>
          refine Triple.bind
            (Q := fun _ s =>
              Mirrors σ (some .processor) (.found startLevel i levels) s ∧
                s.cpu.firstQueued i = some v)
            (.update fun s hs =>
              ⟨hs.1.next (fun _ => .find rfl hs.2) rfl, hs.2⟩)
            fun _ => .ite (fun hlow => ?_) fun hhigh => ?_
          · exact ih.strengthen_pre fun s hs =>
              hs.1.move fun _ => .skipBlocked rfl hlow
          · -- the erasure and its note make one step
            have hdelivering : ∀ s : Machine δ,
                (Mirrors σ (some .processor) (.found startLevel i levels) s ∧
                  s.cpu.firstQueued i = some v) →
                Mirrors σ (some .processor) .delivering
                  ((s.withPSW fun c => c.eraseInterrupt i v).log
                    (.interrupt i v)) := by
              rintro s ⟨⟨log, hrun, hlog⟩, hfirst⟩
              refine ⟨.take (i, v) :: log,
                hrun.tail (.processor (.deliver rfl hhigh hfirst)), ?_⟩
              exact congrArg ((i, v) :: ·) hlog
            have hwork : QueueRules
                (Mirrors σ (some .processor) .delivering : Machine δ → Prop) :=
              mirrors_rules σ rfl (.inr rfl)
            have hend : ∀ s : Machine δ,
                Mirrors σ (some .processor) .delivering s →
                Mirrors σ none .executing s :=
              fun s hs => hs.move fun _ => .delivered rfl
            have htrap := (hwork.trap_returns v (some i)).weaken_post
              fun _ => hend
            exact fun s hs => htrap _ (hdelivering s hs)

theorem executeAnyPendingInterrupt_mirrors :
    Triple (Mirrors σ none .pendingCalled)
      (executeAnyPendingInterrupt : Exec δ Unit)
      (fun _ => Mirrors σ none .executing) (fun _ _ => False) := by
  refine .view_bind fun level => ?_
  refine (executeAnyPendingFrom_mirrors _ _).strengthen_pre ?_
  rintro s ⟨hs, rfl⟩
  exact hs.move fun _ => .pendingLock rfl rfl

theorem serviceInterrupts_mirrors :
    Triple (Mirrors σ none .betweenSteps) (serviceInterrupts : Exec δ Unit)
      (fun _ => Mirrors σ none .executing) (fun _ _ => False) := by
  refine .view_bind fun any => ?_
  cases any with
  | false =>
      refine .update fun s hs => ?_
      have hany : s.cpu.anyQueuedInterrupts = false := hs.2
      refine (hs.1.own rfl ?_).move fun _ => .exchangeClear rfl rfl
      unfold Machine.pending
      rw [hany]
  | true =>
      refine Triple.bind (Q := fun _ => Mirrors σ none .exchanged)
        (.update fun s hs => hs.1.next (fun _ => .exchangeSet rfl hs.2) rfl)
        fun _ => ?_
      exact executeDelayedTrap_mirrors.bind fun _ =>
        executeAnyPendingInterrupt_mirrors

/-- cpu::step is an interleaving; it ends after its instruction. -/
theorem step_mirrors :
    Triple (Mirrors σ none .betweenSteps) (step : Exec δ Bool)
      (fun _ => Mirrors σ none .executing)
      (fun _ => Mirrors σ none .executing) := by
  have hwork : QueueRules (Mirrors σ none .executing : Machine δ → Prop) :=
    mirrors_rules σ rfl (.inl rfl)
  refine Triple.bind (Q := fun _ => Mirrors σ none .betweenSteps)
    (.update fun s hs => hs.own rfl rfl) fun _ => ?_
  refine Triple.bind (Q := fun _ => Mirrors σ none .executing) ?_
    fun _ => hwork.runInstruction
  exact serviceInterrupts_mirrors.weaken (fun _ hs => hs) (fun _ _ hs => hs)
    fun _ _ hfalse => hfalse.elim

end Service

section Runs

variable {s s' : Machine δ}

/-- A device thread with nothing in progress makes a whole call. -/
theorem interleaves_request
    (σ : Shared τ) {t : τ} (hidle : σ.calls t = .none) (hfree : σ.lock = none)
    (r : InterruptRequest) :
    ∃ log, Interleaves σ { σ with cpu := σ.cpu.applyRequest r, log := log } ∧
      log.filterMap Entry.taken? = σ.log.filterMap Entry.taken? := by
  have hback : ∀ (c : Cpu) (log : List (Entry (Level × Word))),
      ({ σ with cpu := c, log := log, lock := none }.setCall t .none) =
        { σ with cpu := c, log := log } := by
    intro c log
    unfold Shared.setCall
    rw [← hidle, Function.update_eq_self, hfree]
  cases r with
  | queue level vector =>
      refine ⟨.put (level, vector) :: σ.log, ?_, rfl⟩
      have hcalled : Interleaves σ _ :=
        .tail .refl (.device t (.queueCall level vector hidle))
      have hlocked := hcalled.tail
        (.device t (.queueLock (Shared.setCall_self ..) hfree))
      have hinserted := hlocked.tail
        (.device t (.queueInsert (Shared.setCall_self ..)))
      have hflagged := hinserted.tail
        (.device t (.queueFlag (Shared.setCall_self ..)))
      have hreturned := hflagged.tail
        (.device t (.queueReturn (Shared.setCall_self ..)))
      rw [← hback]
      simp only [Shared.setCall, Function.update_idem] at hreturned ⊢
      exact hreturned
  | unqueue level vector =>
      refine ⟨σ.log, ?_, rfl⟩
      have hcalled : Interleaves σ _ :=
        .tail .refl (.device t (.unqueueCall level vector hidle))
      have hlocked := hcalled.tail
        (.device t (.unqueueLock (Shared.setCall_self ..) hfree))
      have herased := hlocked.tail
        (.device t (.unqueueErase (Shared.setCall_self ..)))
      have hreturned := herased.tail
        (.device t (.unqueueReturn (Shared.setCall_self ..)))
      rw [← hback]
      simp only [Shared.setCall, Function.update_idem] at hreturned ⊢
      exact hreturned

theorem Mirrors.request
    {t : τ} (hidle : σ.calls t = .none) (h : Mirrors σ none phase s)
    (r : InterruptRequest) :
    Mirrors σ none phase (s.withPSW fun c => c.applyRequest r) := by
  obtain ⟨log, hrun, hlog⟩ := h
  obtain ⟨log', hcall, hlog'⟩ := interleaves_request
    { σ with cpu := s.cpu, lock := none, phase := phase, log := log } hidle
    rfl r
  exact ⟨log', hrun.trans hcall, hlog'.trans hlog⟩

variable [UnibusDevices δ]

/-- What a run of the machine mirrors: between two steps, or in a WAIT. -/
def MirrorsRun (σ : Shared τ) (r : Running δ) : Prop :=
  Mirrors σ none (if r.inWait then .executing else .betweenSteps) r.machine

theorem mirrors_transition
    {t : τ} (hidle : σ.calls t = .none) {r r' : Running δ}
    (h : MirrorsRun σ r) (hr : Transition r r') :
    MirrorsRun σ r' := by
  cases hr with
  | step hs =>
      have hend := step_mirrors.ok h hs
      exact hend.move fun _ => .executed rfl
  | wait hs =>
      exact step_mirrors.error h hs
  | wake hpending =>
      exact h.move fun _ => .executed rfl
  | @other s s' inWait hother =>
      have hphase : (if inWait then Phase.executing else .betweenSteps).isLooking
          = false := by
        cases inWait <;> rfl
      cases hother with
      | devices devices =>
          exact Mirrors.own h hphase rfl
      | memory m =>
          exact Mirrors.own h hphase rfl
      | interrupts requests =>
          have hall : ∀ (rs : List InterruptRequest) (u : Machine δ),
              MirrorsRun σ ⟨u, inWait⟩ →
              MirrorsRun σ ⟨u.withPSW fun c => c.applyRequests rs, inWait⟩ := by
            intro rs
            induction rs with
            | nil =>
                exact fun u hu => hu
            | cons q rs ih =>
                exact fun u hu => ih _ (Mirrors.request hidle hu q)
          exact hall requests s h

/-- Every run of the machine is an interleaving. -/
theorem mirrors_of_reaches
    {t : τ} (hidle : σ.calls t = .none) {r r' : Running δ}
    (h : Reaches r r') (hr : MirrorsRun σ r) :
    MirrorsRun σ r' := by
  induction h with
  | refl =>
      exact hr
  | tail _ hstep ih =>
      exact mirrors_transition hidle ih hstep

/-- The threads at the start of a machine. -/
def Shared.start (c : Cpu) : Shared Unit where
  cpu := c
  lock := none
  calls := fun _ => .none
  phase := .betweenSteps
  log := []

/-- In every run of the machine, the flag tells that something waits. -/
theorem reaches_announced
    {s : Machine δ} (hpending : Cpu.initial.SamePending s.cpu)
    (htrace : s.trace = []) {r : Running δ} (h : Reaches ⟨s, false⟩ r)
    (hwaits : r.machine.cpu.delayedTrap ≠ none ∨
      ∃ i, (r.machine.cpu.queuedInterrupts i).Nonempty) :
    r.machine.cpu.anyQueuedInterrupts = true := by
  have hinitial : (Shared.start s.cpu).Initial :=
    ⟨hpending, rfl, fun _ => rfl, rfl, rfl⟩
  have hstart : MirrorsRun (Shared.start s.cpu) ⟨s, false⟩ :=
    ⟨[], .refl, by simp [Machine.pending, htrace]⟩
  obtain ⟨log, hrun, -⟩ := mirrors_of_reaches (t := ()) rfl h hstart
  have hsound := Coherent.of_interleaves hinitial hrun
  refine hsound.noticed.any_of_quiet ⟨fun _ => rfl, ?_⟩ hwaits
  dsimp only
  split <;> rfl

end Runs

end KekPdp11
