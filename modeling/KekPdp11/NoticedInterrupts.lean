import KekPdp11.InterruptQueues

/-!
# KEK PDP-11: no interrupt is forgotten

any_queued_interrupts is cleared before the queues are looked at, and outside
of the lock.  What waits is announced by the flag, or the processor will come
to it, or a thread is about to set the flag: every step of every thread keeps
this (`Noticed`).

Besides, an interrupt that waits above the priority is approached until one is
delivered (`Phase.Approaches`), and an interrupt is in a queue only when it
has been queued since its last delivery (`Logged`).
-/

namespace KekPdp11

open TakeLog

variable {τ : Type} [DecidableEq τ]

section Flag

/-- The flag is known to be set. -/
def Phase.isFlagged : Phase → Bool
  | .found _ _ _ | .delivering => true
  | _ => false

/-- The delayed trap is going to be looked at. -/
def Phase.willTrap : Phase → Bool
  | .exchanged | .delayedTrap => true
  | _ => false

/-- What waits is announced by the flag, or the processor will come to it, or
a thread is about to announce it. -/
structure Noticed (s : Shared τ) : Prop where
  flagged : s.phase.isFlagged = true → s.cpu.anyQueuedInterrupts = true
  delayed : s.cpu.delayedTrap ≠ none →
    s.cpu.anyQueuedInterrupts = true ∨ s.phase.willTrap = true
  queued : ∀ i, (s.cpu.queuedInterrupts i).Nonempty →
    s.cpu.anyQueuedInterrupts = true ∨ s.phase.WillLook i ∨
      ∃ t, s.calls t = .queueInserted

variable {s s' : Shared τ} {t : τ}

omit [DecidableEq τ] in
theorem Noticed.of_any
    (h : s.cpu.anyQueuedInterrupts = true) :
    Noticed s :=
  ⟨fun _ => h, fun _ => .inl h, fun _ _ => .inl h⟩

omit [DecidableEq τ] in
/-- Nothing is added to what waits, and the processor stays where it is. -/
theorem Noticed.setCpu
    (h : Noticed s) {c : Cpu}
    (hqueued : ∀ i, c.queuedInterrupts i ⊆ s.cpu.queuedInterrupts i)
    (hany : c.anyQueuedInterrupts = s.cpu.anyQueuedInterrupts)
    (hdelayed : c.delayedTrap = s.cpu.delayedTrap) :
    Noticed { s with cpu := c } := by
  constructor
  · exact fun hp => hany.trans (h.flagged hp)
  · intro hd
    rcases h.delayed (hdelayed ▸ hd) with hset | hwill
    · exact .inl (hany.trans hset)
    · exact .inr hwill
  · intro i hi
    rcases h.queued i (hi.mono (hqueued i)) with hset | hrest
    · exact .inl (hany.trans hset)
    · exact .inr hrest

/-- A thread goes on that is not about to announce an interrupt. -/
theorem Noticed.setCall
    (h : Noticed s) (lock : Option (Owner τ)) (call : Call)
    (ht : s.calls t ≠ .queueInserted) :
    Noticed ({ s with lock := lock }.setCall t call) := by
  constructor
  · exact h.flagged
  · exact h.delayed
  · intro i hi
    rcases h.queued i hi with hset | hwill | ⟨u, hu⟩
    · exact .inl hset
    · exact .inr (.inl hwill)
    · have hut : u ≠ t := by
        rintro rfl
        exact ht hu
      exact .inr (.inr ⟨u, (Shared.setCall_of_ne _ _ hut).trans hu⟩)

/-- The lock does not matter. -/
theorem Noticed.deviceStep
    (h : Noticed s) (hs : DeviceStep s t s') :
    Noticed s' := by
  cases hs with
  | queueCall level vector hc =>
      exact h.setCall s.lock _ (by rw [hc]; nofun)
  | queueLock hc hfree =>
      exact h.setCall _ _ (by rw [hc]; nofun)
  | queueInsert hc =>
      constructor
      · exact h.flagged
      · exact h.delayed
      · exact fun i hi => .inr (.inr ⟨t, Shared.setCall_self ..⟩)
  | queueFlag hc =>
      exact .of_any rfl
  | queueReturn hc =>
      exact h.setCall _ _ (by rw [hc]; nofun)
  | unqueueCall level vector hc =>
      exact h.setCall s.lock _ (by rw [hc]; nofun)
  | unqueueLock hc hfree =>
      exact h.setCall _ _ (by rw [hc]; nofun)
  | @unqueueErase level vector hc =>
      have herased :=
        h.setCpu (s.cpu.unqueueInterrupt_subset level vector) rfl rfl
      exact herased.setCall s.lock _ (by dsimp only; rw [hc]; nofun)
  | unqueueReturn hc =>
      exact h.setCall _ _ (by rw [hc]; nofun)

omit [DecidableEq τ] in
/-- The processor goes on, and does not clear the flag. -/
theorem Noticed.setPhase
    (h : Noticed s) (lock : Option (Owner τ)) {phase : Phase}
    (hflagged : phase.isFlagged = true → s.cpu.anyQueuedInterrupts = true)
    (htrap : s.cpu.delayedTrap ≠ none → s.phase.willTrap = true →
      phase.willTrap = true)
    (hlook : ∀ i, (s.cpu.queuedInterrupts i).Nonempty → s.phase.WillLook i →
      phase.WillLook i) :
    Noticed { s with lock := lock, phase := phase } := by
  constructor
  · exact hflagged
  · exact fun hd => (h.delayed hd).imp_right (htrap hd)
  · exact fun i hi => (h.queued i hi).imp_right (.imp_left (hlook i hi))

omit [DecidableEq τ] in
/-- The flag is cleared before the delayed trap and the queues are looked
at. -/
theorem Noticed.processorStep
    (h : Noticed s) (hs : ProcessorStep s s') :
    Noticed s' := by
  cases hs with
  | exchangeSet hp hany =>
      exact ⟨nofun, fun _ => .inr rfl, fun _ _ => .inr (.inl trivial)⟩
  | exchangeClear hp hany =>
      exact h.setPhase s.lock nofun (by rw [hp]; nofun) (by rw [hp]; nofun)
  | noDelayedTrap hp hnone =>
      exact h.setPhase s.lock nofun (fun hd => absurd hnone hd)
        fun _ _ _ => trivial
  | delayedTrap hp hsome =>
      exact h.setPhase s.lock nofun (fun _ _ => rfl) fun _ _ _ => trivial
  | resetDelayedTrap hp =>
      exact ⟨nofun, fun hd => absurd rfl hd, fun _ _ => .inr (.inl trivial)⟩
  | pendingLock hp hfree =>
      refine h.setPhase _ nofun (by rw [hp]; nofun) fun i _ _ => ?_
      exact level_mem i
  | skipEmpty hp hempty =>
      refine h.setPhase s.lock nofun (by rw [hp]; nofun) fun j hj hlook => ?_
      rw [hp] at hlook
      rcases List.mem_cons.mp hlook with rfl | hrest
      · obtain ⟨v, hv⟩ := (firstQueued_isSome_iff s.cpu j).mpr hj
        rw [hempty] at hv
        cases hv
      · exact hrest
  | find hp hfirst =>
      exact .of_any rfl
  | skipBlocked hp hlow =>
      exact .of_any (h.flagged (by rw [hp]; rfl))
  | deliver hp hhigh hfirst =>
      exact .of_any (h.flagged (by rw [hp]; rfl))
  | noneFound hp =>
      exact h.setPhase _ nofun (by rw [hp]; nofun) (by rw [hp]; nofun)
  | delivered hp =>
      exact .of_any (h.flagged (by rw [hp]; rfl))
  | executed hp =>
      exact h.setPhase s.lock nofun (by rw [hp]; nofun) (by rw [hp]; nofun)
  | own hp hsame =>
      exact h.setCpu (fun i => by rw [hsame.queued]) hsame.any hsame.delayed
  | yellowZone hp =>
      exact .of_any rfl
  | initInterruptQueue hp =>
      exact h.setCpu (fun i => Finset.empty_subset _) rfl rfl
  | queueInterrupt hp hlock level vector =>
      exact .of_any rfl
  | unqueueInterrupt hp hlock level vector =>
      exact h.setCpu (s.cpu.unqueueInterrupt_subset _ _) rfl rfl

end Flag

section Log

/-- Only queued interrupts are delivered, and what is in a queue can be. -/
structure Logged (s : Shared τ) : Prop where
  sound : Sound s.log
  available : ∀ i v, v ∈ s.cpu.queuedInterrupts i → Available s.log (i, v)

variable {s s' : Shared τ} {t : τ}

omit [DecidableEq τ] in
theorem Logged.of_subset
    (h : Logged s) (hlog : s'.log = s.log)
    (hqueued : ∀ i, s'.cpu.queuedInterrupts i ⊆ s.cpu.queuedInterrupts i) :
    Logged s' := by
  constructor
  · rw [hlog]
    exact h.sound
  · intro i v hv
    rw [hlog]
    exact h.available i v (hqueued i hv)

omit [DecidableEq τ] in
/-- An interrupt is queued. -/
theorem Logged.put
    (h : Logged s) {level : Level} {vector : Word}
    (hlog : s'.log = .put (level, vector) :: s.log)
    (hqueued : s'.cpu.queuedInterrupts =
      Function.update s.cpu.queuedInterrupts level
        (insert vector (s.cpu.queuedInterrupts level))) :
    Logged s' := by
  constructor
  · rw [hlog]
    exact h.sound.put _
  · intro i v hv
    rw [hlog]
    rw [hqueued] at hv
    by_cases hi : i = level
    · subst hi
      rw [Function.update_self] at hv
      rcases Finset.mem_insert.mp hv with rfl | hold
      · exact available_put _ _
      · exact (h.available i v hold).put _
    · rw [Function.update_of_ne hi] at hv
      exact (h.available i v hv).put _

theorem Logged.deviceStep
    (h : Logged s) (hs : DeviceStep s t s') :
    Logged s' := by
  cases hs with
  | queueInsert hc =>
      exact h.put rfl rfl
  | unqueueErase hc =>
      exact h.of_subset rfl (s.cpu.unqueueInterrupt_subset _ _)
  | _ =>
      exact h.of_subset rfl fun _ => Finset.Subset.refl _

omit [DecidableEq τ] in
theorem Logged.processorStep
    (h : Logged s) (hs : ProcessorStep s s') :
    Logged s' := by
  cases hs with
  | @deliver startLevel i levels vector hp hhigh hfirst =>
      constructor
      · exact h.sound.take (h.available i vector (firstQueued_mem hfirst))
      · intro j v hv
        have hold : v ∈ s.cpu.queuedInterrupts j :=
          s.cpu.unqueueInterrupt_subset i vector j hv
        refine (h.available j v hold).take ?_
        rintro ⟨⟩
        simp [Cpu.eraseInterrupt] at hv
  | own hp hsame =>
      exact h.of_subset rfl fun i => by rw [hsame.queued]
  | initInterruptQueue hp =>
      exact h.of_subset rfl fun _ => Finset.empty_subset _
  | queueInterrupt hp hlock level vector =>
      exact h.put rfl rfl
  | unqueueInterrupt hp hlock level vector =>
      exact h.of_subset rfl (s.cpu.unqueueInterrupt_subset _ _)
  | _ =>
      exact h.of_subset rfl fun _ => Finset.Subset.refl _

end Log

section Seen

/-- On its way to an interrupt that is queued at level `i`, from the exchange
of a flag that is set. -/
def Phase.Approaches (any : Bool) (i : Level) : Phase → Prop
  | .betweenSteps => any = true
  | .exchanged | .delayedTrap | .pendingCalled => True
  | .scanning startLevel levels => startLevel ≤ i.toNat ∧ i ∈ levels
  | .found startLevel j levels => startLevel ≤ i.toNat ∧ (i = j ∨ i ∈ levels)
  | .delivering | .executing => False

/-- A step after which the interrupt is queued, above the priority. -/
def StaysQueued (i : Level) (v : Word) (s s' : Shared τ) : Prop :=
  ThreadStep s s' ∧ v ∈ s'.cpu.queuedInterrupts i ∧ s'.cpu.getPSWspl < i

/-- Something has been delivered on the way from the first state to the
second. -/
def DeliveredSince (s s' : Shared τ) : Prop :=
  ∃ new, s'.log = new ++ s.log ∧ ∃ j w, .take (j, w) ∈ new

variable {s s' u : Shared τ} {t : τ} {i : Level} {v : Word}

/-- The log is only added to. -/
theorem ThreadStep.extends
    (h : ThreadStep s s') :
    AppendLog.Extends Shared.log s s' := by
  cases h with
  | device t h =>
      cases h with
      | queueInsert hc =>
          exact .of_log_cons rfl
      | queueCall level vector hc | queueLock hc hfree | queueFlag hc
        | queueReturn hc | unqueueCall level vector hc | unqueueLock hc hfree
        | unqueueErase hc | unqueueReturn hc =>
          exact .of_log_eq rfl
  | processor h =>
      cases h with
      | deliver hp hhigh hfirst =>
          exact .of_log_cons rfl
      | queueInterrupt hp hlock level vector =>
          exact .of_log_cons rfl
      | _ =>
          exact .of_log_eq rfl

omit [DecidableEq τ] in
theorem DeliveredSince.later
    (h : DeliveredSince s s') (hs : AppendLog.Extends Shared.log s' u) :
    DeliveredSince s u := by
  obtain ⟨new, hnew, j, w, hmem⟩ := h
  obtain ⟨new', hnew'⟩ := hs
  refine ⟨new' ++ new, ?_, j, w, List.mem_append_right _ hmem⟩
  rw [hnew', hnew, List.append_assoc]

omit [DecidableEq τ] in
theorem DeliveredSince.earlier
    (h : DeliveredSince s' u) (hs : AppendLog.Extends Shared.log s s') :
    DeliveredSince s u := by
  obtain ⟨new', hnew', j, w, hmem⟩ := h
  obtain ⟨new, hnew⟩ := hs
  refine ⟨new' ++ new, ?_, j, w, List.mem_append_left _ hmem⟩
  rw [hnew', hnew, List.append_assoc]

/-- A flag that is set may be set again. -/
theorem Phase.Approaches.mono
    {any any' : Bool} {phase : Phase} (h : phase.Approaches any i)
    (hany : any = true → any' = true) :
    phase.Approaches any' i := by
  cases phase with
  | betweenSteps =>
      exact hany h
  | _ =>
      exact h

/-- A device thread does not clear the flag. -/
theorem DeviceStep.any
    (h : DeviceStep s t s') (hany : s.cpu.anyQueuedInterrupts = true) :
    s'.cpu.anyQueuedInterrupts = true := by
  cases h with
  | queueFlag hc =>
      rfl
  | _ =>
      exact hany

theorem DeviceStep.phase
    (h : DeviceStep s t s') :
    s'.phase = s.phase := by
  cases h with
  | _ =>
      rfl

omit [DecidableEq τ] in
/-- The processor comes closer to the level, or delivers something before. -/
theorem ProcessorStep.approaches
    (hs : ProcessorStep s s')
    (h : s.phase.Approaches s.cpu.anyQueuedInterrupts i)
    (hv : v ∈ s.cpu.queuedInterrupts i) (hlevel : s'.cpu.getPSWspl < i) :
    s'.phase.Approaches s'.cpu.anyQueuedInterrupts i ∨
      DeliveredSince s s' := by
  cases hs with
  | exchangeSet hp hany =>
      exact .inl trivial
  | exchangeClear hp hany =>
      rw [hp] at h
      exact absurd (hany.symm.trans h) Bool.false_ne_true
  | noDelayedTrap hp hnone =>
      exact .inl trivial
  | delayedTrap hp hsome =>
      exact .inl trivial
  | resetDelayedTrap hp =>
      exact .inl trivial
  | pendingLock hp hfree =>
      refine .inl ⟨?_, level_mem i⟩
      rw [BitVec.lt_def] at hlevel
      exact hlevel
  | @skipEmpty startLevel j levels hp hempty =>
      rw [hp] at h
      obtain ⟨hstart, hmem⟩ := h
      rcases List.mem_cons.mp hmem with rfl | hrest
      · obtain ⟨w, hw⟩ := (firstQueued_isSome_iff s.cpu i).mpr ⟨v, hv⟩
        rw [hempty] at hw
        cases hw
      · exact .inl ⟨hstart, hrest⟩
  | @find startLevel j levels vector hp hfirst =>
      rw [hp] at h
      exact .inl ⟨h.1, List.mem_cons.mp h.2⟩
  | @skipBlocked startLevel j levels hp hlow =>
      rw [hp] at h
      obtain ⟨hstart, rfl | hrest⟩ := h
      · omega
      · exact .inl ⟨hstart, hrest⟩
  | @deliver startLevel j levels vector hp hhigh hfirst =>
      exact .inr ⟨[.take (j, vector)], rfl, j, vector, List.mem_singleton_self _⟩
  | noneFound hp =>
      rw [hp] at h
      cases h.2
  | delivered hp =>
      rw [hp] at h
      exact h.elim
  | executed hp =>
      rw [hp] at h
      exact h.elim
  | own hp hsame =>
      exact .inl (h.mono fun hany => hsame.any.trans hany)
  | yellowZone hp =>
      exact .inl (h.mono fun _ => rfl)
  | initInterruptQueue hp =>
      exact .inl h
  | queueInterrupt hp hlock level vector =>
      exact .inl (h.mono fun _ => rfl)
  | unqueueInterrupt hp hlock level vector =>
      exact .inl h

/-- An interrupt that stays queued above the priority is on its way to be
looked at until something is delivered. -/
theorem approaches_of_staysQueued
    (h : s.phase.Approaches s.cpu.anyQueuedInterrupts i)
    (hv : v ∈ s.cpu.queuedInterrupts i)
    (hrun : Relation.ReflTransGen (StaysQueued i v) s s') :
    AppendLog.Extends Shared.log s s' ∧ v ∈ s'.cpu.queuedInterrupts i ∧
      (s'.phase.Approaches s'.cpu.anyQueuedInterrupts i ∨
        DeliveredSince s s') := by
  induction hrun with
  | refl =>
      exact ⟨.refl s, hv, .inl h⟩
  | @tail u w _ hstep ih =>
      obtain ⟨hlater, hqueued, hcase⟩ := ih
      obtain ⟨hthread, hstays, hlevel⟩ := hstep
      refine ⟨hlater.trans hthread.extends, hstays, ?_⟩
      rcases hcase with happroaches | hdelivered
      · cases hthread with
        | device t hdevice =>
            left
            rw [hdevice.phase]
            exact happroaches.mono hdevice.any
        | processor hprocessor =>
            exact (hprocessor.approaches happroaches hqueued hlevel).imp_right
              (·.earlier hlater)
      · exact .inr (hdelivered.later hthread.extends)

end Seen

section Runs

/-- What holds in every state of an interleaving. -/
structure Coherent (s : Shared τ) : Prop where
  exclusive : Exclusive s
  noticed : Noticed s
  logged : Logged s

/-- No call of queue_interrupt is in progress, and the processor is not
between clearing the flag and the end of execute_any_pending_interrupt. -/
structure Quiet (s : Shared τ) : Prop where
  calls : ∀ t, (s.calls t).isQueueing = false
  phase : s.phase.isServing = false

variable {s₀ s s' : Shared τ}

omit [DecidableEq τ] in
theorem Coherent.of_initial
    (h : s.Initial) :
    Coherent s where
  exclusive := by
    constructor
    · intro t ht
      rw [h.calls] at ht
      cases ht
    · intro hp
      rw [h.phase] at hp
      cases hp
  noticed := by
    constructor
    · intro hp
      rw [h.phase] at hp
      cases hp
    · intro hd
      exact absurd h.pending.delayed hd
    · intro i hi
      rw [h.pending.queued] at hi
      exact absurd hi Finset.not_nonempty_empty
  logged := by
    constructor
    · rw [h.log]
      exact .nil
    · intro i v hv
      rw [h.pending.queued] at hv
      exact absurd hv (Finset.notMem_empty v)

theorem Coherent.step
    (h : Coherent s) (hs : ThreadStep s s') :
    Coherent s' := by
  cases hs with
  | device t hs =>
      exact ⟨h.exclusive.deviceStep hs, h.noticed.deviceStep hs,
        h.logged.deviceStep hs⟩
  | processor hs =>
      exact ⟨h.exclusive.processorStep hs, h.noticed.processorStep hs,
        h.logged.processorStep hs⟩

theorem Coherent.of_interleaves
    (h₀ : s₀.Initial) (h : Interleaves s₀ s) :
    Coherent s := by
  induction h with
  | refl =>
      exact .of_initial h₀
  | tail _ hs ih =>
      exact ih.step hs

omit [DecidableEq τ] in
/-- In a quiet state the flag tells that something waits. -/
theorem Noticed.any_of_quiet
    (h : Noticed s) (hquiet : Quiet s)
    (hwaits : s.cpu.delayedTrap ≠ none ∨
      ∃ i, (s.cpu.queuedInterrupts i).Nonempty) :
    s.cpu.anyQueuedInterrupts = true := by
  rcases hwaits with hdelayed | ⟨i, hi⟩
  · rcases h.delayed hdelayed with hset | hwill
    · exact hset
    · have hphase := hquiet.phase
      cases hp : s.phase <;> simp_all [Phase.willTrap, Phase.isServing]
  · rcases h.queued i hi with hset | hlook | ⟨t, ht⟩
    · exact hset
    · have hphase := hquiet.phase
      cases hp : s.phase <;> simp_all [Phase.WillLook, Phase.isServing]
    · have hcall := hquiet.calls t
      rw [ht] at hcall
      cases hcall

/-- Wherever device threads and the processor have got to, a quiet state
announces what waits, an interrupt that stays queued above the priority keeps
the next step from its instruction until it has delivered something, and
between two deliveries of an interrupt it has been queued again. -/
theorem no_interrupt_is_forgotten
    (h₀ : s₀.Initial) (h : Interleaves s₀ s) :
    (Quiet s → (s.cpu.delayedTrap ≠ none ∨
        ∃ i, (s.cpu.queuedInterrupts i).Nonempty) →
      s.cpu.anyQueuedInterrupts = true) ∧
    (∀ i v u, Quiet s → s.phase = .betweenSteps →
      v ∈ s.cpu.queuedInterrupts i → s.cpu.getPSWspl < i →
      Relation.ReflTransGen (StaysQueued i v) s u → u.phase = .executing →
      DeliveredSince s u) ∧
    ∀ newer between older i v,
      s.log = newer ++ .take (i, v) :: (between ++ .take (i, v) :: older) →
      .put (i, v) ∈ between := by
  have hsound := Coherent.of_interleaves h₀ h
  refine ⟨hsound.noticed.any_of_quiet, ?_, ?_⟩
  · intro i v u hquiet hphase hv _ hrun hexecuting
    have hany := hsound.noticed.any_of_quiet hquiet (.inr ⟨i, v, hv⟩)
    have hstart : s.phase.Approaches s.cpu.anyQueuedInterrupts i := by
      rw [hphase]
      exact hany
    obtain ⟨-, -, happroaches | hdelivered⟩ :=
      approaches_of_staysQueued hstart hv hrun
    · rw [hexecuting] at happroaches
      exact happroaches.elim
    · exact hdelivered
  · intro newer between older i v hlog
    have hlogged := hsound.logged.sound
    rw [hlog] at hlogged
    exact hlogged.put_between

/-- A processor and one device thread that has nothing to do yet. -/
def idleClock : Shared Unit where
  cpu := Cpu.initial
  lock := none
  calls := fun _ => .none
  phase := .betweenSteps
  log := []

/-- A clock has queued its interrupt; the flag is set. -/
theorem no_interrupt_is_forgotten_clock :
    ∃ s : Shared Unit, Interleaves idleClock s ∧
      0o100 ∈ s.cpu.queuedInterrupts 6 ∧
      s.cpu.anyQueuedInterrupts = true := by
  have hrun : ∃ s : Shared Unit, Interleaves idleClock s ∧ Quiet s ∧
      0o100 ∈ s.cpu.queuedInterrupts 6 := by
    have hcalled : Interleaves idleClock _ :=
      .tail .refl (.device () (.queueCall 6 0o100 rfl))
    have hlocked := hcalled.tail
      (.device () (.queueLock (Shared.setCall_self ..) rfl))
    have hinserted := hlocked.tail
      (.device () (.queueInsert (Shared.setCall_self ..)))
    have hflagged := hinserted.tail
      (.device () (.queueFlag (Shared.setCall_self ..)))
    have hreturned := hflagged.tail
      (.device () (.queueReturn (Shared.setCall_self ..)))
    exact ⟨_, hreturned, ⟨fun _ => rfl, rfl⟩, by decide⟩
  obtain ⟨s, hs, hquiet, hclock⟩ := hrun
  have hinitial : idleClock.Initial :=
    ⟨⟨rfl, rfl, rfl⟩, rfl, fun _ => rfl, rfl, rfl⟩
  exact ⟨s, hs, hclock, (no_interrupt_is_forgotten hinitial hs).1 hquiet
    (.inr ⟨6, 0o100, hclock⟩)⟩

end Runs

end KekPdp11
