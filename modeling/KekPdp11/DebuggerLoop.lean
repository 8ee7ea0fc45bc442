import KekPdp11.Priority
import KekPdp11.Serving

/-!
# KEK PDP-11: the run loops of the debugger

emulation_do runs the processor in one of two loops: in turbo mode it only
calls cpu::step, otherwise it reads the word at PC over the bus before each
call, to find out about a WAIT.  Breakpoints, tracing, single-stepping and the
pc monitor are off here.

The read is a reference like any other: it traps and throws, it reads device
registers, and it notes the access in the page.  When memory serves it and the
note makes no difference, the two loops do the same.
-/

namespace KekPdp11

open StateExcept

variable {δ : Type} [UnibusDevices δ]

/-- The body of the loop in turbo mode. -/
def turboIteration : Exec δ Unit :=
  discard step

/-- The body of the other loop.  The two branches differ in the time that they
take. -/
def slowIteration : Exec δ Unit := do
  let pc ← getPC
  let instr ← Bus.readWord pc .iSpace
  if instr = 0 then
    discard step
  else
    discard step

/-- One pass of a loop, after the other threads have done `other`.  A step
that sits in a WAIT goes on when an interrupt is pending; a loop whose event
is set is over and stays so. -/
def pass (body : Exec δ Unit) (other : Machine δ → Machine δ) (r : Running δ) :
    Except Stop (Running δ) :=
  let s := other r.machine
  if r.inWait then
    .ok ⟨s, !s.cpu.checkPendingInterrupts⟩
  else if s.cpu.event ≠ .eventNone then
    .ok ⟨s, false⟩
  else
    match body s with
    | .ok _ t => .ok ⟨t, false⟩
    | .error .waiting t => .ok ⟨t, true⟩
    | .error e _ => .error e

/-- emulation_do for a number of passes. -/
def emulationDo (body : Exec δ Unit)
    (schedule : Nat → Machine δ → Machine δ) :
    Nat → Running δ → Except Stop (Running δ)
  | 0, r => .ok r
  | n + 1, r => emulationDo body schedule n r >>= pass body (schedule n)

/-- The next step delivers neither a delayed trap nor an interrupt. -/
def DeliversNothing (c : Cpu) : Prop :=
  c.anyQueuedInterrupts = false ∨
    c.delayedTrap = none ∧ ∀ i, ¬ Eligible c i

/-- The word at PC is a word of memory, and its page has been accessed before
or is the one that the next step fetches from. -/
def ReadsUnnoticed (s : Machine δ) : Prop :=
  ∃ p page, s.target s.cpu.getPSWRunmode s.cpu.pc .iSpace = .ram p page ∧
    p.toNat % 2 = 0 ∧
    ((s.mmu.pages page).pdr &&& 0o200 ≠ 0 ∨ DeliversNothing s.cpu)

/-- The condition holds in every state of a turbo run in which a step is
made. -/
def RunsUnnoticed (schedule : Nat → Machine δ → Machine δ) (n : Nat)
    (s : Machine δ) : Prop :=
  ∀ k < n, ∀ u,
    emulationDo turboIteration schedule k ⟨s, false⟩ = .ok ⟨u, false⟩ →
    (schedule k u).cpu.event = .eventNone → ReadsUnnoticed (schedule k u)

section Accessed

/-- A bit that is set stays as it is. -/
theorem or_accessed
    {v : Word} (h : v &&& 0o200 ≠ 0) :
    v ||| 0o200 = v := by
  have hbit : v.getLsbD 7 = true := by
    by_contra hclear
    rw [Bool.not_eq_true] at hclear
    apply h
    ext i hi
    interval_cases i <;> simp [← BitVec.getLsbD_eq_getElem, hclear]
  ext i hi
  interval_cases i <;> simp [← BitVec.getLsbD_eq_getElem, hbit]

theorem Mmu.setPageAccessed_of_accessed
    {m : Mmu} {page : PageIndex} (h : (m.pages page).pdr &&& 0o200 ≠ 0) :
    m.setPageAccessed page = m := by
  have hpage : (m.pages page).setPdr ((m.pages page).pdr ||| 0o200) =
      m.pages page := by
    unfold Page.setPdr
    rw [or_accessed h]
  unfold Mmu.setPageAccessed Mmu.modifyPage
  dsimp only
  rw [hpage, Function.update_eq_self]

/-- Noting an access twice is noting it once. -/
theorem Mmu.setPageAccessed_idem
    (m : Mmu) (page : PageIndex) :
    (m.setPageAccessed page).setPageAccessed page = m.setPageAccessed page := by
  have hset : ∀ v : Word, (v ||| 0o200) &&& 0o200 ≠ 0 := by
    intro v hzero
    have hbit := congrArg (fun x => x.getLsbD 7) hzero
    simp at hbit
  apply Mmu.setPageAccessed_of_accessed
  unfold Mmu.setPageAccessed Mmu.modifyPage
  dsimp only
  rw [Function.update_self]
  exact hset _

theorem Mmu.mmrStartInstruction_setPageAccessed
    (m : Mmu) (page : PageIndex) (pc : Word) :
    (m.setPageAccessed page).mmrStartInstruction pc =
      (m.mmrStartInstruction pc).setPageAccessed page := by
  have hlocked : (m.setPageAccessed page).isMMR1Locked = m.isMMR1Locked := by
    rfl
  unfold Mmu.mmrStartInstruction
  rw [hlocked]
  split
  · rfl
  · rfl

/-- The mapping is not affected by the records for an instruction. -/
theorem Mmu.SameMapping.mmrStartInstruction
    (m : Mmu) (pc : Word) :
    m.SameMapping (m.mmrStartInstruction pc) := by
  unfold Mmu.mmrStartInstruction
  split
  · exact .of_touches (.refl m)
  · constructor
    · exact fun _ => rfl
    · exact fun _ => rfl
    · exact fun _ => rfl
    · exact fun _ => rfl
    · rfl
    · rfl
    · rfl

end Accessed

section Step

/-- The scan without an eligible level only depends on the processor. -/
theorem executeAnyPendingFrom_none
    (levels : List Level) (c : Cpu) (hnone : ∀ i ∈ levels, ¬ Eligible c i) :
    ∃ any, ∀ s : Machine δ, s.cpu = c →
      executeAnyPendingFrom (c.getPSWspl.toNat + 1) levels s =
        .ok () (s.scanned any) := by
  induction levels generalizing c with
  | nil =>
      refine ⟨c.anyQueuedInterrupts, fun s hs => ?_⟩
      subst hs
      rfl
  | cons i levels ih =>
      have hi := hnone i List.mem_cons_self
      have hrest : ∀ j ∈ levels, ¬ Eligible c j := fun j hj =>
        hnone j (List.mem_cons_of_mem _ hj)
      cases hfirst : c.firstQueued i with
      | none =>
          obtain ⟨any, hany⟩ := ih c hrest
          refine ⟨any, fun s hs => ?_⟩
          have hskip : executeAnyPendingFrom (c.getPSWspl.toNat + 1)
              (i :: levels) s =
              executeAnyPendingFrom (c.getPSWspl.toNat + 1) levels s := by
            simp [executeAnyPendingFrom, hs, hfirst]
          rw [hskip]
          exact hany s hs
      | some v =>
          have hlow : i.toNat < c.getPSWspl.toNat + 1 := by
            by_contra hlow
            refine hi ⟨?_, (firstQueued_isSome_iff c i).mp ⟨v, hfirst⟩⟩
            rw [BitVec.lt_def]
            omega
          obtain ⟨any, hany⟩ :=
            ih { c with anyQueuedInterrupts := true } hrest
          refine ⟨any, fun s hs => ?_⟩
          subst hs
          have hskip : executeAnyPendingFrom (s.cpu.getPSWspl.toNat + 1)
              (i :: levels) s =
              executeAnyPendingFrom (s.cpu.getPSWspl.toNat + 1) levels
                (s.scanned true) := by
            simp [executeAnyPendingFrom, hfirst, hlow]
            rfl
          rw [hskip]
          exact hany (s.scanned true) rfl

/-- A step that delivers nothing starts with its instruction. -/
theorem step_of_deliversNothing
    {c : Cpu} (h : DeliversNothing c) :
    ∃ any, ∀ s : Machine δ, s.cpu = c →
      step s = runInstruction ((counted s).scanned any) := by
  cases hflag : c.anyQueuedInterrupts with
  | false =>
      refine ⟨false, fun s hs => ?_⟩
      subst hs
      have hservice : serviceInterrupts (counted s) =
          .ok () ((counted s).scanned false) := by
        unfold serviceInterrupts
        rw [cpuView_bind_apply, modifyCpu_bind_apply,
          show (counted s).cpu.anyQueuedInterrupts = false from hflag]
        rfl
      exact bind_of_ok hservice
  | true =>
      obtain ⟨hdelayed, hnone⟩ :=
        h.resolve_left (by rw [hflag]; exact Bool.noConfusion)
      obtain ⟨any, hany⟩ := executeAnyPendingFrom_none (δ := δ)
        [0, 1, 2, 3, 4, 5, 6, 7]
        { c with
          instructionsExecuted := c.instructionsExecuted + 1
          anyQueuedInterrupts := false } fun i _ => hnone i
      refine ⟨any, fun s hs => ?_⟩
      subst hs
      have hscan := hany ((counted s).scanned false) rfl
      have hservice : serviceInterrupts (counted s) =
          .ok () ((counted s).scanned any) := by
        unfold serviceInterrupts
        rw [cpuView_bind_apply, modifyCpu_bind_apply,
          show (counted s).cpu.anyQueuedInterrupts = true from hflag]
        have hnodelay : executeDelayedTrap ((counted s).scanned false) =
            .ok () ((counted s).scanned false) := by
          unfold executeDelayedTrap
          rw [cpuView_bind_apply,
            show ((counted s).scanned false).cpu.delayedTrap = none
              from hdelayed]
          rfl
        exact (bind_of_ok hnodelay).trans hscan
      exact bind_of_ok hservice

/-- A word at PC that memory serves. -/
theorem readWord_at_pc
    {s : Machine δ} {p : PhysAddr} {page : PageIndex}
    (htarget : s.target s.cpu.getPSWRunmode s.cpu.pc .iSpace = .ram p page)
    (heven : p.toNat % 2 = 0) :
    Bus.readWord s.cpu.pc .iSpace s =
      .ok (s.ram.readWord p) (s.accessed page) := by
  have hread := Bus.read_ram htarget
  rw [if_pos heven] at hread
  exact hread

omit [UnibusDevices δ] in
theorem accessed_idem
    (s : Machine δ) (page : PageIndex) :
    (s.accessed page).accessed page = s.accessed page := by
  unfold Machine.accessed
  dsimp only
  rw [Mmu.setPageAccessed_idem]

/-- The state in which the instruction word is read. -/
def Machine.fetching (s : Machine δ) : Machine δ :=
  { s with mmu := s.mmu.mmrStartInstruction s.cpu.pc }

theorem fetchInstruction_eq
    {s : Machine δ} {p : PhysAddr} {page : PageIndex}
    (htarget : s.target s.cpu.getPSWRunmode s.cpu.pc .iSpace = .ram p page)
    (heven : p.toNat % 2 = 0) :
    fetchInstruction s =
      (do
        let _ ← addRegister 7 2
        pure (s.ram.readWord p) : Exec δ Word) (s.fetching.accessed page) := by
  have htarget' : s.fetching.target s.cpu.getPSWRunmode s.cpu.pc .iSpace =
      .ram p page := by
    have hmmu : s.mmu.SameMapping s.fetching.mmu :=
      .mmrStartInstruction s.mmu s.cpu.pc
    rw [← htarget]
    exact Machine.target_eq hmmu rfl _ _ _
  exact bind_of_ok (readWord_at_pc (s := s.fetching) htarget' heven)

/-- The instruction does not notice that its word has been read before. -/
theorem runInstruction_accessed
    {s : Machine δ} {p : PhysAddr} {page : PageIndex}
    (htarget : s.target s.cpu.getPSWRunmode s.cpu.pc .iSpace = .ram p page)
    (heven : p.toNat % 2 = 0) :
    runInstruction (s.accessed page) = runInstruction s := by
  have htarget' : (s.accessed page).target s.cpu.getPSWRunmode s.cpu.pc
      .iSpace = .ram p page := by
    have hmmu : s.mmu.SameMapping (s.accessed page).mmu :=
      .of_touches (.accessed s.mmu page)
    rw [← htarget]
    exact Machine.target_eq hmmu rfl _ _ _
  have hstate : (s.accessed page).fetching.accessed page =
      s.fetching.accessed page := by
    have hcomm : (s.accessed page).fetching = s.fetching.accessed page := by
      unfold Machine.fetching Machine.accessed
      dsimp only
      rw [Mmu.mmrStartInstruction_setPageAccessed]
    rw [hcomm, accessed_idem]
  have hfetch : fetchInstruction (s.accessed page) = fetchInstruction s := by
    rw [fetchInstruction_eq htarget heven,
      fetchInstruction_eq (s := s.accessed page) htarget' heven, hstate]
    rfl
  have hbody : fetchAndExecute (s.accessed page) = fetchAndExecute s := by
    unfold fetchAndExecute
    rw [bind_apply, bind_apply, hfetch]
  unfold runInstruction catchInt rescue
  rw [hbody]

/-- A step does not notice that the word at PC has been read. -/
theorem step_accessed
    {s : Machine δ} {p : PhysAddr} {page : PageIndex}
    (htarget : s.target s.cpu.getPSWRunmode s.cpu.pc .iSpace = .ram p page)
    (heven : p.toNat % 2 = 0)
    (h : (s.mmu.pages page).pdr &&& 0o200 ≠ 0 ∨ DeliversNothing s.cpu) :
    step (s.accessed page) = step s := by
  rcases h with hset | hnothing
  · unfold Machine.accessed
    rw [Mmu.setPageAccessed_of_accessed hset]
  · obtain ⟨any, hany⟩ := step_of_deliversNothing (δ := δ) hnothing
    rw [hany s rfl, hany (s.accessed page) rfl]
    exact runInstruction_accessed (s := (counted s).scanned any) htarget heven

end Step

section Exceptions

/-- Not the end of a program by a C++ exception. -/
abbrev NoException (e : Stop) (_ : Machine δ) : Prop :=
  e.exception? = none

omit [UnibusDevices δ] in
theorem update_noException
    (f : Machine δ → Machine δ) :
    Triple (fun _ => True) (update f) (fun _ _ => True) NoException :=
  .update fun _ _ => trivial

theorem trap_noException
    (vector : Word) (newIpl : Option Level) :
    Triple (fun _ => True) (trap vector newIpl : Exec δ Unit)
      (fun _ _ => True) NoException := by
  intro s _
  obtain ⟨t, ht⟩ := trap_returns vector newIpl s
  rw [ht]
  trivial

theorem executeAnyPendingFrom_noException
    (startLevel : Nat) (levels : List Level) :
    Triple (fun _ => True) (executeAnyPendingFrom startLevel levels)
      (fun _ (_ : Machine δ) => True) NoException := by
  induction levels with
  | nil =>
      exact .pure fun _ _ => trivial
  | cons i levels ih =>
      refine .view_bind_any fun first => ?_
      cases first with
      | none =>
          exact ih
      | some v =>
          refine (update_noException _).bind fun _ => ?_
          refine .ite (fun _ => ih) fun _ => ?_
          refine (update_noException _).bind fun _ => ?_
          refine (update_noException _).bind fun _ => ?_
          exact trap_noException v (some i)

theorem serviceInterrupts_noException :
    Triple (fun _ => True) (serviceInterrupts : Exec δ Unit)
      (fun _ _ => True) NoException := by
  refine .view_bind_any fun any => ?_
  refine (update_noException _).bind fun _ => ?_
  refine .ite (fun _ => ?_) fun _ => .pure fun _ _ => trivial
  have hdelayed : Triple (fun _ => True) (executeDelayedTrap : Exec δ Unit)
      (fun _ _ => True) NoException := by
    refine .view_bind_any fun delayed => ?_
    cases delayed with
    | none =>
        exact .pure fun _ _ => trivial
    | some vector =>
        exact (trap_noException vector (some 7)).bind fun _ =>
          update_noException _
  refine hdelayed.bind fun _ => ?_
  exact .view_bind_any fun level => executeAnyPendingFrom_noException _ _

/-- No exception leaves cpu::step. -/
theorem step_noException :
    Triple (fun _ => True) (step : Exec δ Bool) (fun _ _ => True)
      NoException := by
  have hrun : Triple (fun _ => True) (runInstruction : Exec δ Bool)
      (fun _ _ => True) NoException := by
    have hany : Triple (fun _ => True) (fetchAndExecute : Exec δ Bool)
        (fun _ _ => True) fun _ _ => True := by
      intro s _
      cases fetchAndExecute s with
      | ok a t =>
          trivial
      | error e t =>
          trivial
    refine hany.rescue (fun _ _ _ => ?_) fun e s he _ => he
    exact .pure fun _ _ => trivial
  refine (update_noException _).bind fun _ => ?_
  exact serviceInterrupts_noException.bind fun _ => hrun

end Exceptions

section Loops

variable {schedule : Nat → Machine δ → Machine δ} {n : Nat} {s : Machine δ}

/-- What a discarded result leaves. -/
theorem discard_step_apply
    (s : Machine δ) :
    discard step s =
      match step s with
      | .ok _ t => .ok () t
      | .error e t => .error e t := by
  change EStateM.map (fun _ => ()) step s = _
  unfold EStateM.map
  cases step s with
  | ok a t =>
      rfl
  | error e t =>
      rfl

/-- Where the read goes unnoticed, the two bodies do the same. -/
theorem slowIteration_eq
    (h : ReadsUnnoticed s) :
    slowIteration s = turboIteration s := by
  obtain ⟨p, page, htarget, heven, hnote⟩ := h
  have hstep : discard step (s.accessed page) = discard (step (δ := δ)) s := by
    rw [discard_step_apply, discard_step_apply,
      step_accessed htarget heven hnote]
  change (Bus.readWord s.cpu.pc .iSpace >>= fun instr =>
    if instr = 0 then discard step else discard step) s = discard step s
  rw [bind_of_ok (readWord_at_pc htarget heven), ite_self, hstep]

/-- One pass, from the same state. -/
theorem pass_eq
    {other : Machine δ → Machine δ} {r : Running δ}
    (h : r.inWait = false → (other r.machine).cpu.event = .eventNone →
      ReadsUnnoticed (other r.machine)) :
    pass slowIteration other r = pass turboIteration other r := by
  unfold pass
  dsimp only
  split
  · rfl
  · next hwait =>
      split
      · rfl
      · next hevent =>
          rw [slowIteration_eq
            (h (Bool.eq_false_of_not_eq_true hwait) (not_not.mp hevent))]

/-- A pass of the turbo loop does not end by an exception. -/
theorem pass_noException
    (other : Machine δ → Machine δ) (r : Running δ) (number : Nat) :
    pass turboIteration other r ≠ .error (.exception number) := by
  unfold pass turboIteration
  dsimp only
  split
  · nofun
  · split
    · nofun
    · have hstep := step_noException (other r.machine) trivial
      rw [discard_step_apply]
      cases hr : step (other r.machine) with
      | ok a t =>
          nofun
      | error e t =>
          rw [hr] at hstep
          rintro hpass
          cases e with
          | exception m =>
              exact absurd hstep (by nofun)
          | waiting =>
              cases hpass
          | assertion failed =>
              cases hpass
          | outOfFuel =>
              cases hpass

/-- The turbo loop does not end by an exception. -/
theorem turbo_noException
    (r : Running δ) (number : Nat) :
    emulationDo turboIteration schedule n r ≠ .error (.exception number) := by
  induction n with
  | zero =>
      nofun
  | succ n ih =>
      intro h
      change emulationDo turboIteration schedule n r >>= _ = _ at h
      cases hr : emulationDo turboIteration schedule n r with
      | ok u =>
          rw [hr] at h
          exact pass_noException _ u number h
      | error e =>
          rw [hr] at h ih
          exact ih h

/-- In a run whose reads all go unnoticed, the loop of the debugger reaches
the states of the turbo loop and is not ended by an exception. -/
theorem slow_loop_agrees_with_turbo
    (h : RunsUnnoticed schedule n s) :
    emulationDo slowIteration schedule n ⟨s, false⟩ =
        emulationDo turboIteration schedule n ⟨s, false⟩ ∧
      ∀ number, emulationDo slowIteration schedule n ⟨s, false⟩ ≠
        .error (.exception number) := by
  have heq : emulationDo slowIteration schedule n ⟨s, false⟩ =
      emulationDo turboIteration schedule n ⟨s, false⟩ := by
    induction n with
    | zero =>
        rfl
    | succ n ih =>
        have hbefore := ih fun k hk => h k (by omega)
        change emulationDo slowIteration schedule n ⟨s, false⟩ >>= _ =
          emulationDo turboIteration schedule n ⟨s, false⟩ >>= _
        rw [hbefore]
        cases hr : emulationDo turboIteration schedule n ⟨s, false⟩ with
        | error e =>
            rfl
        | ok u =>
            obtain ⟨t, inWait⟩ := u
            refine pass_eq fun hwait hevent => ?_
            dsimp only at hwait
            subst hwait
            exact h n (by omega) t hr hevent
  refine ⟨heq, fun number => ?_⟩
  rw [heq]
  exact turbo_noException _ number

/-- A processor about to execute from `pc`, in a memory with the instruction
at 01000 and 01002. -/
def programAt (pc instr : Word) : Machine LineClock :=
  let s := bareMachine 0o20000 [(0o1000, instr), (0o1002, instr)]
  { s with cpu := { s.cpu with pc := pc, sp := fun _ => 0o1000 } }

/-- Two NOPs. -/
theorem slow_loop_agrees_with_turbo_nop :
    emulationDo slowIteration (fun _ => id) 2 ⟨programAt 0o1000 0o240, false⟩ =
        emulationDo turboIteration (fun _ => id) 2
          ⟨programAt 0o1000 0o240, false⟩ ∧
      ∀ number,
        emulationDo slowIteration (fun _ => id) 2
          ⟨programAt 0o1000 0o240, false⟩ ≠ .error (.exception number) := by
  refine slow_loop_agrees_with_turbo fun k hk u hu _ => ?_
  have hfirst : emulationDo turboIteration (fun _ => id) 1
      ⟨programAt 0o1000 0o240, false⟩ =
      .ok ⟨final (step (programAt 0o1000 0o240)), false⟩ := by
    rfl
  rcases Nat.lt_or_ge 0 k with hlast | hzero
  · obtain rfl : k = 1 := by omega
    rw [hfirst] at hu
    cases hu
    exact ⟨0o1002, 0, by rfl, by decide, Or.inr (Or.inl rfl)⟩
  · obtain rfl : k = 0 := by omega
    cases hu
    exact ⟨0o1000, 0, by rfl, by decide, Or.inr (Or.inl rfl)⟩

/-- An odd PC ends the loop of the debugger, where turbo mode goes on. -/
theorem slow_loop_ends_at_odd_pc :
    (∃ r, emulationDo turboIteration (fun _ => id) 1
        ⟨programAt 0o1001 0o240, false⟩ = .ok r) ∧
      emulationDo slowIteration (fun _ => id) 1
        ⟨programAt 0o1001 0o240, false⟩ = .error (.exception 2) := by
  constructor
  · exact ⟨_, rfl⟩
  · rfl

end Loops

end KekPdp11
