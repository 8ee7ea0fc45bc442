import KekPdp11.TrapDelivery
import KekPdp11.InterruptSteps

/-!
# KEK PDP-11: the stack limit

A push in kernel mode compares the stack pointer with the stack limit.  Below
the limit there is a yellow zone of 32 bytes, in which the word is stored and a
trap is left for the next step of the processor.

**Waiting.**  While the trap waits, nothing in an instruction, in a trap or in
the other threads takes it back, and another push in the yellow zone adds
nothing to it.  The next step enters it once, before it fetches an instruction,
and forgets it after its frame is pushed.

**Interrupts.**  A step that takes an interrupt fetches an instruction
afterwards.  A trap that the frame of the interrupt has left therefore waits for
the first instruction of the handler.
-/

namespace KekPdp11

open StateExcept

variable {δ : Type}


section Purpose

variable [UnibusDevices δ]

/-- A trap waits for the next step. -/
def LimitTrapWaits (s : Machine δ) : Prop :=
  s.cpu.delayedTrap = some 0o4 ∧ s.cpu.anyQueuedInterrupts = true

/-- What a push does, by where the stack pointer is. -/
structure ChecksPushes (δ : Type) [UnibusDevices δ] : Prop where
  /-- In the other modes and from the limit upwards it is its store. -/
  unchecked : ∀ (v : Word) (s : Machine δ), s.AboveLimit →
    pushStack v s = storeBelow v s ∧
      ∀ t, pushStack v s = .ok () t → t.cpu.delayedTrap = s.cpu.delayedTrap
  /-- In the yellow zone it is its store, and leaves a trap. -/
  stored : ∀ (v : Word) (s t : Machine δ), InYellowZone s →
    storeBelow v s = .ok () t →
    pushStack v s = .ok () t.leavingTrap ∧ LimitTrapWaits t.leavingTrap
  aborted : ∀ (v : Word) (s t : Machine δ) (e : Stop), InYellowZone s →
    storeBelow v s = .error e t → pushStack v s = .error e t

/-- The trap keeps waiting during the rest of a step, and until the next one. -/
structure KeepsWaiting (δ : Type) [UnibusDevices δ] : Prop where
  push : ∀ v, Keeps LimitTrapWaits (pushStack v : Exec δ Unit)
  trap : ∀ vector newIpl, Keeps LimitTrapWaits (trap vector newIpl : Exec δ Unit)
  interrupt : Keeps LimitTrapWaits (executeAnyPendingInterrupt : Exec δ Unit)
  instruction : Keeps LimitTrapWaits (runInstruction : Exec δ Bool)
  others : ∀ s s' : Machine δ, OtherThreads s s' → LimitTrapWaits s →
    LimitTrapWaits s'

/-- The state in which a step looks whether a trap waits. -/
def Machine.serving (s : Machine δ) : Machine δ :=
  (counted s).scanned false

/-- A trap that is called for in `s` has its vector read and both words of its
frame pushed, without an abort and outside the red zone. -/
structure EntersWhole (s : Machine δ) (vector : Word) (newIpl : Option Level)
    (t : Machine δ) : Prop where
  shallow : s.cpu.processingTrapDepth = 0
  whole : ∃ u v : Machine δ,
    loadVectorVia KekPdp11.trap vector s.cpu.psw newIpl
        (atTrapLevel s vector newIpl) = .ok () u ∧
      ¬ u.BelowYellowZone ∧ pushStack s.cpu.psw u = .ok () v ∧
      ¬ v.BelowYellowZone ∧ pushStack s.cpu.pc v = .ok () t

/-- The trap is forgotten after its frame has been pushed. -/
def Machine.entered (t : Machine δ) : Machine δ :=
  t.withPSW fun c => { c with processingTrapDepth := 0, delayedTrap := none }

/-- What a step from `s` does about the stack limit before it fetches its
instruction. -/
structure ServesLimitTrap (s : Machine δ) : Prop where
  /-- Without a trap that waits, none is entered. -/
  nothing : s.cpu.delayedTrap = none →
    executeDelayedTrap s.serving = .ok () s.serving
  waits : s.cpu.delayedTrap ≠ none → LimitTrapWaits s
  /-- A trap that waits is entered, and no other one. -/
  once : s.cpu.delayedTrap ≠ none → ∀ t, EntersWhole s.serving 0o4 (some 7) t →
    step s = (executeAnyPendingInterrupt >>= fun _ => runInstruction) t.entered ∧
      t.entered.cpu.trapCounter = s.cpu.trapCounter + 1 ∧
      t.entered.cpu.lastTrapVector = 0o4 ∧
      t.entered.cpu.delayedTrap = none
  /-- Its priority lets no interrupt come before the instruction. -/
  undisturbed : s.cpu.delayedTrap ≠ none →
    ∀ t, EntersWhole s.serving 0o4 (some 7) t → t.cpu.getPSWspl = 7 →
    ∃ any, step s = runInstruction (t.entered.scanned any)

end Purpose

section Pushes

variable [UnibusDevices δ]

theorem checksPushes :
    ChecksPushes δ where
  unchecked v s habove := by
    have hpush : pushStack v s = storeBelow v s := pushStack_eq v habove
    refine ⟨hpush, fun t ht => ?_⟩
    exact congrArg TrapNotes.delayed (storeBelow_notes (hpush.symm.trans ht))
  stored v s t hyellow hstore :=
    ⟨pushStack_stored hyellow hstore, rfl, rfl⟩
  aborted _ _ _ _ := pushStack_aborted

end Pushes

section Waiting

variable {s s' : Machine δ}

/-- The trap waits, or there is none. -/
def Settled (s : Machine δ) : Prop :=
  s.cpu.delayedTrap = none ∨ LimitTrapWaits s

theorem LimitTrapWaits.next
    (h : LimitTrapWaits s) (hdelayed : s'.cpu.delayedTrap = s.cpu.delayedTrap)
    (hany : s.cpu.anyQueuedInterrupts = true →
      s'.cpu.anyQueuedInterrupts = true) :
    LimitTrapWaits s' :=
  ⟨hdelayed.trans h.1, hany h.2⟩

theorem Settled.next
    (h : Settled s) (hdelayed : s'.cpu.delayedTrap = s.cpu.delayedTrap)
    (hany : s.cpu.anyQueuedInterrupts = true →
      s'.cpu.anyQueuedInterrupts = true) :
    Settled s' :=
  h.imp hdelayed.trans fun h => h.next hdelayed hany

/-- A request does not take the flag back. -/
theorem request_announces
    (c : Cpu) (r : InterruptRequest) :
    (c.applyRequest r).delayedTrap = c.delayedTrap ∧
      (c.anyQueuedInterrupts = true →
        (c.applyRequest r).anyQueuedInterrupts = true) := by
  cases r with
  | queue level vector =>
      exact ⟨rfl, fun _ => rfl⟩
  | unqueue level vector =>
      exact ⟨rfl, id⟩

theorem waits_rules :
    QueueRules (LimitTrapWaits (δ := δ)) where
  frame _ _ hsame hs :=
    hs.next (congrArg Pending.delayed hsame)
      (congrArg Pending.any hsame).trans
  request s r hs :=
    hs.next (request_announces s.cpu r).1 (request_announces s.cpu r).2
  yellowZone _ _ := ⟨rfl, rfl⟩
  reset _ hs := hs

theorem settled_rules :
    QueueRules (Settled (δ := δ)) where
  frame _ _ hsame hs :=
    hs.next (congrArg Pending.delayed hsame)
      (congrArg Pending.any hsame).trans
  request s r hs :=
    hs.next (request_announces s.cpu r).1 (request_announces s.cpu r).2
  yellowZone _ _ := .inr ⟨rfl, rfl⟩
  reset _ hs := hs

end Waiting

section Steps

variable [UnibusDevices δ] {s t : Machine δ}

theorem executeAnyPendingFrom_keeps
    {I : Machine δ → Prop} (R : QueueRules I)
    (hnext : ∀ s s' : Machine δ, I s →
      s'.cpu.delayedTrap = s.cpu.delayedTrap →
      (s.cpu.anyQueuedInterrupts = true → s'.cpu.anyQueuedInterrupts = true) →
      I s')
    (startLevel : Nat) (levels : List Level) :
    Keeps I (executeAnyPendingFrom startLevel levels : Exec δ Unit) := by
  have hcpu : ∀ f : Cpu → Cpu, (∀ c, (f c).delayedTrap = c.delayedTrap) →
      (∀ c : Cpu, c.anyQueuedInterrupts = true →
        (f c).anyQueuedInterrupts = true) →
      Keeps I (modifyCpu f : Exec δ Unit) :=
    fun f hdelayed hany => .update fun s hs =>
      hnext s { s with cpu := f s.cpu } hs (hdelayed s.cpu) (hany s.cpu)
  induction levels with
  | nil =>
      exact keeps_pure ()
  | cons i levels ih =>
      refine .view_bind_any fun first => ?_
      cases first with
      | none =>
          exact ih
      | some v =>
          refine (hcpu (fun c => { c with anyQueuedInterrupts := true })
            (fun _ => rfl) fun _ _ => rfl).bind fun _ => .ite (fun _ => ih)
            fun _ => ?_
          refine (hcpu (fun c => c.eraseInterrupt i v) (fun _ => rfl)
            fun _ => id).bind fun _ => ?_
          refine Triple.bind ?_ fun _ => R.trap v (some i)
          exact .update fun s hs => hnext s (s.log (.interrupt i v)) hs rfl id

theorem executeAnyPendingInterrupt_waits :
    Keeps LimitTrapWaits (executeAnyPendingInterrupt : Exec δ Unit) :=
  .view_bind_any fun _ =>
    executeAnyPendingFrom_keeps waits_rules (fun _ _ hs => hs.next) _ _

theorem executeAnyPendingInterrupt_settled :
    Keeps Settled (executeAnyPendingInterrupt : Exec δ Unit) :=
  .view_bind_any fun _ =>
    executeAnyPendingFrom_keeps settled_rules (fun _ _ hs => hs.next) _ _

/-- The trap is forgotten, whatever its entry has pushed. -/
theorem executeDelayedTrap_settles :
    Triple (fun _ => True) (executeDelayedTrap : Exec δ Unit)
      (fun _ => Settled) (fun _ _ => False) := by
  refine .view_bind fun delayed => ?_
  cases delayed with
  | none =>
      exact .pure fun s hs => .inl hs.2
  | some vector =>
      refine ((trap_total vector (some 7)).strengthen_pre
        fun _ _ => trivial).bind fun _ => ?_
      exact .update fun s _ => .inl rfl

theorem serviceInterrupts_settled :
    Keeps Settled (serviceInterrupts : Exec δ Unit) := by
  refine .view_bind fun any => ?_
  cases any with
  | false =>
      refine .update fun s hs => .inl ?_
      rcases hs.1 with hnone | hwaits
      · exact hnone
      · exact absurd (hwaits.2.symm.trans hs.2) nofun
  | true =>
      refine Triple.bind (Q := fun _ _ => True) (.update fun _ _ => trivial)
        fun _ => ?_
      refine (executeDelayedTrap_settles.weaken (fun _ hs => hs)
        (fun _ _ hs => hs) fun _ _ h => h.elim).bind fun _ => ?_
      exact executeAnyPendingInterrupt_settled

theorem step_settled :
    Keeps Settled (step : Exec δ Bool) := by
  refine Triple.bind (Q := fun _ => Settled) ?_ fun _ => ?_
  · exact .update fun s hs => (hs.next rfl id : Settled (counted s))
  · exact serviceInterrupts_settled.bind fun _ => settled_rules.runInstruction

omit [UnibusDevices δ] in
/-- The other threads only make requests. -/
theorem others_announce
    {s s' : Machine δ} (h : OtherThreads s s') :
    s'.cpu.delayedTrap = s.cpu.delayedTrap ∧
      (s.cpu.anyQueuedInterrupts = true →
        s'.cpu.anyQueuedInterrupts = true) := by
  cases h with
  | devices d =>
      exact ⟨rfl, id⟩
  | memory m =>
      exact ⟨rfl, id⟩
  | interrupts requests =>
      change (s.cpu.applyRequests requests).delayedTrap = _ ∧
        (_ → (s.cpu.applyRequests requests).anyQueuedInterrupts = true)
      generalize s.cpu = c
      induction requests generalizing c with
      | nil =>
          exact ⟨rfl, id⟩
      | cons r requests ih =>
          obtain ⟨hdelayed, hany⟩ := request_announces c r
          obtain ⟨hdelayed', hany'⟩ := ih (c.applyRequest r)
          exact ⟨hdelayed'.trans hdelayed, fun h => hany' (hany h)⟩

theorem keepsWaiting :
    KeepsWaiting δ where
  push v := waits_rules.pushStack waits_rules.trap v
  trap := waits_rules.trap
  interrupt := executeAnyPendingInterrupt_waits
  instruction := waits_rules.runInstruction
  others _ _ h hs := hs.next (others_announce h).1 (others_announce h).2

/-- In every state of a run, what waits is announced. -/
theorem reaches_settled
    {r₀ r : Running δ} (h : Reaches r₀ r)
    (hstart : r₀.machine.cpu.delayedTrap = none) :
    Settled r.machine := by
  refine h.invariant (.inl hstart) (fun u hu => ?_) fun u u' hother hu => ?_
  · have hend := step_settled u hu
    cases hr : step u with
    | ok a v =>
        rw [hr] at hend
        exact hend
    | error e v =>
        rw [hr] at hend
        exact hend
  · exact hu.next (others_announce hother).1 (others_announce hother).2

/-- A trap that is entered whole is the only one. -/
theorem trap_whole
    {vector : Word} {newIpl : Option Level}
    (h : EntersWhole s vector newIpl t) :
    trap vector newIpl s =
        .ok () (t.withPSW fun c => { c with processingTrapDepth := 0 }) ∧
      t.cpu.trapCounter = s.cpu.trapCounter + 1 ∧
      t.cpu.lastTrapVector = vector := by
  obtain ⟨u, v, hload, hfirst, hpsw, hsecond, hpc⟩ := h.whole
  obtain ⟨⟨pc, vectorPsw, queued, any, hcpu⟩, -, -⟩ := loadVector_returns hload
  have hne : ¬ (s.cpu.processingTrapDepth = 1 ∧ s.cpu.getPSWRunmode = 0) := by
    rw [h.shallow]
    nofun
  have hbased : based s u = u := if_neg hne
  have hdepth : u.cpu.processingTrapDepth = s.cpu.processingTrapDepth + 1 := by
    rw [hcpu]
    rfl
  have hsave : saveFrameVia trap s.cpu.psw s.cpu.pc (based s u) = .ok () t := by
    rw [hbased]
    exact rescue_of_ok ((bind_of_ok hpsw).trans hpc)
  obtain ⟨hcount, hlast⟩ := pushStack_counts hfirst hpsw
  obtain ⟨hcount', hlast'⟩ := pushStack_counts hsecond hpc
  have hshallow : s.cpu.processingTrapDepth ≤ 1 := by
    rw [h.shallow]
    omega
  have hentry : enterTrapVia trap vector newIpl
      (decide (s.cpu.getPSWRunmode = 0)) (atTrapLevel s vector newIpl) =
      .ok () (t.withPSW fun c => { c with processingTrapDepth := 0 }) :=
    enterTrap_of_saved hload hdepth hshallow hsave
  refine ⟨?_, ?_, ?_⟩
  · rw [trap_eq, trapVia_of_first trap vector newIpl h.shallow]
    exact hentry
  · rw [hcount', hcount, hcpu]
    rfl
  · rw [hlast', hlast, hcpu]
    rfl

/-- A trap that waits and is entered whole. -/
theorem scans_entered
    (hwaits : LimitTrapWaits s) (h : EntersWhole s.serving 0o4 (some 7) t) :
    Scans s t.entered := by
  refine ⟨hwaits.2, ?_⟩
  have hdelayed : s.serving.cpu.delayedTrap = some 0o4 := hwaits.1
  change executeDelayedTrap s.serving = _
  unfold executeDelayedTrap
  rw [cpuView_bind_apply, hdelayed]
  exact bind_of_ok (trap_whole h).1

/-- At the highest priority no interrupt is eligible. -/
theorem executeAnyPendingInterrupt_highest
    (h : s.cpu.getPSWspl = 7) :
    ∃ any, executeAnyPendingInterrupt s = .ok () (s.scanned any) := by
  rcases executeAnyPendingInterrupt_cases s with
    ⟨-, any, -, hend⟩ | ⟨i, v, hi, -⟩
  · exact ⟨any, hend⟩
  · have habove := hi.1
    rw [h] at habove
    bv_omega

theorem servesLimitTrap
    (h : Settled s) :
    ServesLimitTrap s where
  nothing hnone := by
    have hdelayed : s.serving.cpu.delayedTrap = none := hnone
    unfold executeDelayedTrap
    rw [cpuView_bind_apply, hdelayed]
    rfl
  waits hsome := h.resolve_left hsome
  once hsome t ht := by
    obtain ⟨-, hcount, hlast⟩ := trap_whole ht
    exact ⟨step_of_scans (scans_entered (h.resolve_left hsome) ht), hcount, hlast,
      rfl⟩
  undisturbed hsome t ht hlevel := by
    have hscans := scans_entered (h.resolve_left hsome) ht
    obtain ⟨any, hany⟩ := executeAnyPendingInterrupt_highest
      (show t.entered.cpu.getPSWspl = 7 from hlevel)
    exact ⟨any, (step_of_scans hscans).trans (bind_of_ok hany)⟩

end Steps

section Result

/-- A program without a value that returned. -/
theorem eq_ok_of_returned_unit
    {m : Exec δ Unit} {s : Machine δ} (h : returned (m s) = true) :
    m s = .ok () (final (m s)) := by
  obtain ⟨_, ha⟩ := eq_ok_of_returned h
  exact ha

variable [UnibusDevices δ]

/-- Pushes are checked as they are to be, and in every state of a run the next
step enters the trap that waits, if there is one, once. -/
theorem stack_limit_checked :
    ChecksPushes δ ∧ KeepsWaiting δ ∧
      ∀ r₀ r : Running δ, r₀.machine.cpu.delayedTrap = none → Reaches r₀ r →
        ServesLimitTrap r.machine :=
  ⟨checksPushes, keepsWaiting, fun _ _ hstart h =>
    servesLimitTrap (reaches_settled h hstart)⟩

/-- A program in kernel mode, with handlers for vector 4 and for the console.
R0 points to a subroutine. -/
def lowStack (instr sp : Word) : Machine LineClock :=
  let s := bareMachine 0o20000
    [(0o4, 0o2000), (0o6, 0o340), (0o60, 0o3000), (0o62, 0o200),
      (0o1000, instr), (0o2000, 0o240), (0o3000, 0o5201)]
  { s with
    cpu :=
      { (s.cpu.setRegister 0 0o1100).setPC 0o1000 with
        psw := 0
        sp := fun _ => sp } }

/-- The state after JSR PC,(R0). -/
def afterJsr (sp : Word) : Machine LineClock :=
  final (step (lowStack 0o4710 sp))

/-- A JSR pushes its link in the yellow zone. -/
theorem stack_limit_checked_jsr :
    (afterJsr 0o376).cpu.delayedTrap = some 0o4 ∧
      ∃ (t : Machine LineClock) (any : Bool),
        step (afterJsr 0o376) = runInstruction (t.entered.scanned any) ∧
        t.cpu.pc = 0o2000 ∧ t.cpu.trapCounter = 1 := by
  have hserves := stack_limit_checked.2.2 ⟨lowStack 0o4710 0o376, false⟩
    ⟨afterJsr 0o376, false⟩ rfl
    (.tail .refl (.of_returned (by decide +kernel)))
  have hsome : (afterJsr 0o376).cpu.delayedTrap = some 0o4 := by
    decide +kernel
  have hwhole : EntersWhole (afterJsr 0o376).serving 0o4 (some 7)
      (final (pushStack (afterJsr 0o376).serving.cpu.pc
        (final (pushStack (afterJsr 0o376).serving.cpu.psw
          (final (loadVectorVia trap 0o4 (afterJsr 0o376).serving.cpu.psw
            (some 7) (atTrapLevel (afterJsr 0o376).serving 0o4
              (some 7)))))))) :=
    ⟨by decide +kernel, _, _, eq_ok_of_returned_unit (by decide +kernel),
      fun h => h.2.2 (by decide +kernel),
      eq_ok_of_returned_unit (by decide +kernel),
      fun h => h.2.2 (by decide +kernel),
      eq_ok_of_returned_unit (by decide +kernel)⟩
  obtain ⟨any, hany⟩ :=
    hserves.undisturbed (hsome ▸ nofun) _ hwhole (by decide +kernel)
  exact ⟨hsome, _, any, hany, by decide +kernel, by decide +kernel⟩

/-- The state after a step that takes an interrupt of the console. -/
def afterInterrupt : Machine LineClock :=
  final (step { lowStack 0o240 0o376 with
    cpu := (lowStack 0o240 0o376).cpu.queueInterrupt 4 0o60 })

/-- The frame of an interrupt is in the yellow zone: the first instruction of
its handler, INC R1, has been executed and the trap still waits.  And after a
push at the end of the zone the frame of the trap runs into the red zone: four
traps are counted, and the machine halts. -/
theorem limit_trap_late_or_repeated :
    (afterInterrupt.cpu.lastTrapVector = 0o60 ∧
      afterInterrupt.cpu.trapCounter = 1 ∧
      afterInterrupt.cpu.getRegister 1 = 1 ∧
      afterInterrupt.cpu.delayedTrap = some 0o4) ∧
    (afterJsr 0o342).cpu.delayedTrap = some 0o4 ∧
    (final (step (afterJsr 0o342))).cpu.trapCounter =
      (afterJsr 0o342).cpu.trapCounter + 4 ∧
    (final (step (afterJsr 0o342))).cpu.event = .eventHalt :=
  ⟨⟨by decide +kernel, by decide +kernel, by decide +kernel,
      by decide +kernel⟩,
    by decide +kernel, by decide +kernel, by decide +kernel⟩

end Result

end KekPdp11
