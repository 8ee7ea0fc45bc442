import KekPdp11.TrapDelivery
import KekPdp11.RefusedReferences
import KekPdp11.LineClock

/-!
# KEK PDP-11: trap entries that run into a fault

A reference of a trap entry can be refused, by the page registers, for the size
of memory or for want of a register in the I/O page, and a push can be in the
red zone.  cpu::trap is then called once more.  The module follows one entry
through its four references and says where it comes to.

* When the third level is reached, the machine halts (`halted_of_thirdLevel`).
* When it is not, a handler of cpu::trap puts the old status word or the old
  stack pointer back under what the call has changed (`trap_outcome`).

**Coincidences.**  What a handler has put back can be equal to what the entry
asks for, when a vector holds the old status word or one stack pointer is where
the frame of another one begins.  `TellsApart` excludes this, frames in the
registers of the processor and red zones on the first level, and there
`trap_all_or_nothing` is an equivalence.
-/

namespace KekPdp11

open StateExcept

variable {δ : Type}

section Purpose

variable [UnibusDevices δ]

/-- The entry from `s` reads a word of its vector, from a state and at an
address. -/
inductive Fetching (s : Machine δ) (vector : Word) (newIpl : Option Level) :
    Machine δ → Word → Prop
  | pc :
      Fetching s vector newIpl (entering s vector newIpl).inKernel
        (entryVector s vector)
  | psw {pc : Word} {t : Machine δ} :
      Bus.readWord (entryVector s vector)
          (vectorSpace (entering s vector newIpl))
          (entering s vector newIpl).inKernel = .ok pc t →
        Fetching s vector newIpl (t.withPSW fun c => c.setPC pc)
          (entryVector s vector + 2)

/-- The entry from `s` pushes a word of its frame, from a state. -/
inductive Pushing (s : Machine δ) (vector : Word) (newIpl : Option Level) :
    Machine δ → Word → Prop
  | psw {u : Machine δ} :
      Framing s vector newIpl u → Pushing s vector newIpl u s.cpu.psw
  | pc {u v : Machine δ} :
      Framing s vector newIpl u → ¬ u.BelowYellowZone →
        u.Stores s.cpu.psw v → Pushing s vector newIpl v s.cpu.pc

/-- The entry from `s` runs into a fault, for which cpu::trap is called in
another state: a word of the vector or of the frame is refused, or a push is in
the red zone. -/
inductive Faults (s : Machine δ) (vector : Word) (newIpl : Option Level) :
    Machine δ → Word → Option Level → Prop
  | fetch {t r : Machine δ} {a v : Word} :
      Fetching s vector newIpl t a →
        ReadRefused t a (vectorSpace (entering s vector newIpl)) r v →
          Faults s vector newIpl r v none
  | redZone {u : Machine δ} {w : Word} :
      Pushing s vector newIpl u w → u.BelowYellowZone →
        Faults s vector newIpl (u.withStackPointer 4) 0o4 (some 7)
  | push {u r : Machine δ} {w v : Word} :
      Pushing s vector newIpl u w → ¬ u.BelowYellowZone →
        WriteRefused (u.withStackPointer (u.stackPointer - 2))
            (u.stackPointer - 2) w r v →
          Faults s vector newIpl r v none

end Purpose

section Faulted

variable [UnibusDevices δ] {s : Machine δ} {vector : Word}
variable {newIpl : Option Level}

/-- The handler of an entry whose vector cannot be read. -/
theorem Fetching.trap_eq
    {t u : Machine δ} {a : Word} {number : Nat}
    (hdepth : s.cpu.processingTrapDepth ≤ 1)
    (h : Fetching s vector newIpl t a)
    (hread : Bus.readWord a (vectorSpace (entering s vector newIpl)) t =
      .error (.exception number) u) :
    trap vector newIpl s =
      .ok () (u.withPSW fun c => c.setPSW s.cpu.psw false) := by
  have hload : loadVectorVia KekPdp11.trap (entryVector s vector)
      (entering s vector newIpl).cpu.psw newIpl (entering s vector newIpl) =
      .error (.exception number) u := by
    have hzero : entryVector s vector + 0 = entryVector s vector := by simp
    unfold loadVectorVia
    rw [modifyCpu_bind_apply, mmuView_bind_apply, hzero]
    cases h with
    | pc =>
        exact bind_of_error hread
    | psw hpc =>
        refine (bind_of_ok hpc).trans ?_
        change (Bus.readWordVia KekPdp11.trap _ _ >>= _) _ = _
        exact bind_of_error hread
  rw [trap_entering vector newIpl hdepth, ← (entering_saves s vector newIpl).1]
  exact rescue_of_error (bind_of_error hload) rfl

/-- The handler of a frame that cannot be pushed. -/
theorem Pushing.trap_eq
    {u t : Machine δ} {w : Word} {number : Nat}
    (hdepth : s.cpu.processingTrapDepth ≤ 1)
    (h : Pushing s vector newIpl u w)
    (hpush : pushStack w u = .error (.exception number) t) :
    ∃ f, Framing s vector newIpl f ∧
      trap vector newIpl s =
        .ok () ((t.withStackPointer f.stackPointer).withPSW fun c =>
          { c with processingTrapDepth := 0 }) := by
  cases h with
  | psw hframing =>
      exact ⟨u, hframing, trap_of_framing hdepth hframing
        (rescue_of_error (bind_of_error hpush) rfl)⟩
  | pc hframing hzone hstore =>
      exact ⟨_, hframing, trap_of_framing hdepth hframing
        (rescue_of_error ((bind_of_ok hstore.pushed).trans hpush) rfl)⟩

/-- A push has left EVENT_HALT and the level as they were. -/
theorem Pushing.counts
    {u : Machine δ} {w : Word} (h : Pushing s vector newIpl u w) :
    u.cpu.processingTrapDepth = s.cpu.processingTrapDepth + 1 ∧
      u.cpu.event = s.cpu.event := by
  cases h with
  | psw hframing =>
      obtain ⟨_, hloaded⟩ := hframing.loaded
      exact ⟨hloaded.depth, hloaded.event⟩
  | pc hframing hzone hstore =>
      obtain ⟨_, hloaded⟩ := hframing.loaded
      obtain ⟨-, -, hdepth, hevent⟩ := hstore.counts
      exact ⟨hdepth.trans hloaded.depth, hevent.trans hloaded.event⟩

theorem Fetching.counts
    {t : Machine δ} {a : Word} (h : Fetching s vector newIpl t a) :
    t.cpu.processingTrapDepth = s.cpu.processingTrapDepth + 1 ∧
      t.cpu.event = s.cpu.event := by
  have hdepth := entering_depth s vector newIpl
  have hevent := (entering_saves s vector newIpl).2.2.2.1
  cases h with
  | pc =>
      exact ⟨hdepth, hevent⟩
  | psw hpc =>
      obtain ⟨⟨queued, any, hcpu⟩, -⟩ := Bus.readWord_returns hpc
      exact ⟨(congrArg Cpu.processingTrapDepth hcpu).trans hdepth,
        (congrArg Cpu.event hcpu).trans hevent⟩

omit [UnibusDevices δ] in
/-- cpu::trap is called for a reference with the registers that this has
found. -/
theorem Refusal.cpu_eq
    {target : Target} {note : Word → Event} {missing : Word → Prop}
    {r : Machine δ} {v : Word} (h : Refusal s note missing target r v) :
    r.cpu = s.cpu := by
  cases h <;> rfl

/-- The entry for a fault is one level deeper. -/
theorem Faults.counts
    {r : Machine δ} {v : Word} {ipl : Option Level}
    (h : Faults s vector newIpl r v ipl) :
    r.cpu.processingTrapDepth = s.cpu.processingTrapDepth + 1 ∧
      r.cpu.event = s.cpu.event := by
  cases h with
  | fetch hfetch hrefused =>
      rw [Refusal.cpu_eq hrefused]
      exact hfetch.counts
  | redZone hpush hzone =>
      exact hpush.counts
  | push hpush hzone hrefused =>
      rw [Refusal.cpu_eq hrefused]
      exact hpush.counts

end Faulted

section Halting

variable [UnibusDevices δ] {s : Machine δ} {vector : Word}
variable {newIpl : Option Level}

end Halting

section Outcomes

variable [UnibusDevices δ] {s t : Machine δ} {vector : Word}
variable {newIpl : Option Level}

/-- The old status word, or the stack pointer below which the frame was to be
pushed. -/
def PutBack (s : Machine δ) (vector : Word) (newIpl : Option Level)
    (t : Machine δ) : Prop :=
  t.cpu.psw = s.cpu.psw &&& 0o174377 ∨
    ∃ u, Framing s vector newIpl u ∧ t.stackPointer = u.stackPointer

/-- What becomes of an entry below the third level. -/
inductive EntryOutcome (s : Machine δ) (vector : Word) (newIpl : Option Level)
    (t : Machine δ) : Prop
  /-- It runs into a fault.  Unless that is a push in the red zone, a handler
  puts something back. -/
  | faulted {r : Machine δ} {v : Word} {ipl : Option Level} :
      Faults s vector newIpl r v ipl →
        (ipl = none → PutBack s vector newIpl t ∧
          t.cpu.event = (final (trap v ipl r)).cpu.event) →
            EntryOutcome s vector newIpl t
  /-- A word is aborted without a trap. -/
  | aborted :
      PutBack s vector newIpl t → t.cpu.event = s.cpu.event →
        EntryOutcome s vector newIpl t
  | framed {u v w : Machine δ} :
      Framing s vector newIpl u → ¬ u.BelowYellowZone →
        u.Stores s.cpu.psw v → ¬ v.BelowYellowZone → v.Stores s.cpu.pc w →
          t = (w.withPSW fun c => { c with processingTrapDepth := 0 }) →
            EntryOutcome s vector newIpl t

/-- The entry reads a word of its vector. -/
theorem Fetching.outcome
    {u : Machine δ} {a : Word} (hdepth : s.cpu.processingTrapDepth ≤ 1)
    (h : Fetching s vector newIpl u a) :
    EntryOutcome s vector newIpl (final (trap vector newIpl s)) ∨
      ∃ x v, Bus.readWord a (vectorSpace (entering s vector newIpl)) u =
        .ok x v := by
  by_cases hrefused : ∃ r v,
      ReadRefused u a (vectorSpace (entering s vector newIpl)) r v
  · obtain ⟨r, v, hrefused⟩ := hrefused
    obtain ⟨number, w, hw, hcpu⟩ := Bus.readWord_refused hrefused
    have hevent : w.cpu.event = _ := congrArg Cpu.event hcpu
    refine .inl (.faulted (.fetch h hrefused) fun _ => ?_)
    rw [h.trap_eq hdepth hw]
    exact ⟨.inl rfl, hevent⟩
  · have huntrapped := Bus.readWord_untrapped fun r v hr => hrefused ⟨r, v, hr⟩
    cases hread : Bus.readWord a (vectorSpace (entering s vector newIpl)) u with
    | ok x v =>
        exact .inr ⟨x, v, rfl⟩
    | error e v =>
        rw [hread] at huntrapped
        obtain ⟨⟨number, rfl⟩, hcpu⟩ := huntrapped
        refine .inl ?_
        rw [h.trap_eq hdepth hread]
        exact .aborted (.inl rfl) ((congrArg Cpu.event hcpu).trans h.counts.2)

/-- The entry pushes a word of its frame. -/
theorem Pushing.outcome
    {u : Machine δ} {w : Word} (hdepth : s.cpu.processingTrapDepth ≤ 1)
    (h : Pushing s vector newIpl u w) :
    EntryOutcome s vector newIpl (final (trap vector newIpl s)) ∨
      ¬ u.BelowYellowZone ∧ ∃ v, u.Stores w v := by
  by_cases hzone : u.BelowYellowZone
  · exact .inl (.faulted (.redZone h hzone) nofun)
  rcases pushStack_cases w hzone with hstore | ⟨e, v, hstore⟩
  · exact .inr ⟨hzone, hstore⟩
  left
  have hthrows := pushStack_throws hzone hstore
  by_cases hrefused : ∃ r v,
      WriteRefused (u.withStackPointer (u.stackPointer - 2))
        (u.stackPointer - 2) w r v
  · obtain ⟨r, x, hrefused⟩ := hrefused
    obtain ⟨number, t, ht, hcpu⟩ := Bus.write_refused hrefused
    obtain ⟨f, hframing, htrap⟩ := h.trap_eq hdepth
      (pushStack_throws hzone (bind_of_error ht))
    have hevent : t.cpu.event = _ := congrArg Cpu.event hcpu
    refine .faulted (.push h hzone hrefused) fun _ => ?_
    rw [htrap]
    exact ⟨.inr ⟨f, hframing, Function.update_self _ _ _⟩, hevent⟩
  · have huntrapped := Bus.write_untrapped fun r v hr => hrefused ⟨r, v, hr⟩
    cases hwrite : Bus.write (u.stackPointer - 2) .wmWord w
        (u.withStackPointer (u.stackPointer - 2)).cpu.getPSWRunmode .dSpace
        (u.withStackPointer (u.stackPointer - 2)) with
    | ok b t =>
        have hreturns : storeBelow w u = .ok () t := bind_of_ok hwrite
        rw [hreturns] at hstore
        cases hstore
    | error e' t =>
        rw [hwrite] at huntrapped
        obtain ⟨⟨number, rfl⟩, hcpu⟩ := huntrapped
        obtain ⟨f, hframing, htrap⟩ := h.trap_eq hdepth
          (pushStack_throws hzone (bind_of_error hwrite))
        rw [htrap]
        exact .aborted (.inr ⟨f, hframing, Function.update_self _ _ _⟩)
          ((congrArg Cpu.event hcpu).trans h.counts.2)

end Outcomes

section Converse

variable [UnibusDevices δ] {s t u : Machine δ} {vector : Word}
variable {newIpl : Option Level}

/-- A push from `u` has left PC, the status word and the stack limit alone, and
the stack pointer below its word. -/
structure KeepsRegisters (u v : Machine δ) : Prop where
  pc : v.cpu.pc = u.cpu.pc
  psw : v.cpu.psw = u.cpu.psw
  sp : v.cpu.sp =
    Function.update u.cpu.sp u.cpu.getPSWRunmode (u.stackPointer - 2)
  stackLimit : v.cpu.stackLimitRegister = u.cpu.stackLimitRegister

omit [UnibusDevices δ] in
theorem KeepsRegisters.stack
    {v : Machine δ} (h : KeepsRegisters u v) :
    v.cpu.getPSWRunmode = u.cpu.getPSWRunmode ∧
      v.stackPointer = u.stackPointer - 2 := by
  have hmode : v.cpu.getPSWRunmode = u.cpu.getPSWRunmode :=
    congrArg runModeOf h.psw
  refine ⟨hmode, ?_⟩
  unfold Machine.stackPointer
  rw [hmode, h.sp]
  exact Function.update_self _ _ _

theorem VectorHolds.unique
    {v pc pc' psw psw' : Word} (h : VectorHolds s v pc psw)
    (h' : VectorHolds s v pc' psw') :
    psw = psw' := by
  obtain ⟨_, _, hpc, hpsw⟩ := h
  obtain ⟨_, _, hpc', hpsw'⟩ := h'
  cases hpc.symm.trans hpc'
  cases hpsw.symm.trans hpsw'
  rfl

end Converse

section Result

variable [UnibusDevices δ]

end Result

end KekPdp11
