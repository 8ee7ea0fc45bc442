import KekPdp11.Watching
import KekPdp11.LineClock

/-!
# KEK PDP-11: which interrupt is granted

cpu::execute_any_pending_interrupt looks at the queues from level 0 upwards
and grants the first one whose level exceeds the processor priority.

**Specification lemma.**  `executeAnyPendingInterrupt_eq` gives the call from
a state as the grant of `lowestEligible`, or as no grant at all.  A grant by
priority would be one of the highest eligible level, so the two agree exactly
when no two levels are eligible.
-/

namespace KekPdp11

open StateExcept

variable {δ : Type} [UnibusDevices δ]

/-- An interrupt is queued at a level above the processor priority. -/
def Eligible (c : Cpu) (i : Level) : Prop :=
  c.getPSWspl < i ∧ (c.queuedInterrupts i).Nonempty

instance (c : Cpu) (i : Level) :
    Decidable (Eligible c i) :=
  inferInstanceAs (Decidable (_ ∧ _))

/-- The state in which cpu::trap is called for an interrupt. -/
def Machine.granted (s : Machine δ) (i : Level) (v : Word) : Machine δ :=
  (s.withPSW fun c =>
    { c with anyQueuedInterrupts := true }.eraseInterrupt i v).log
      (.interrupt i v)

/-- execute_any_pending_interrupt delivers the vector at the level: it notes
so, takes that vector alone off the queues and calls cpu::trap. -/
def Delivers (s : Machine δ) (i : Level) (v : Word) : Prop :=
  ∃ t : Machine δ,
    t.trace = .interrupt i v :: s.trace ∧
      t.cpu.queuedInterrupts =
        Function.update s.cpu.queuedInterrupts i
          ((s.cpu.queuedInterrupts i).erase v) ∧
      executeAnyPendingInterrupt s = trap v (some i) t

/-- The flag that the scan leaves when nothing is eligible. -/
def Machine.scanned (s : Machine δ) (any : Bool) : Machine δ :=
  s.withPSW fun c => { c with anyQueuedInterrupts := any }

/-- Interrupts are delivered from the highest eligible level, and only from
eligible ones. -/
structure GrantsByPriority (s : Machine δ) : Prop where
  delivered : ∀ j, Eligible s.cpu j → ∃ i v, Delivers s i v
  highest : ∀ i v, Delivers s i v →
    Eligible s.cpu i ∧ v ∈ s.cpu.queuedInterrupts i ∧
      ∀ j, Eligible s.cpu j → j ≤ i
  none : (∀ i, ¬ Eligible s.cpu i) →
    ∃ any, executeAnyPendingInterrupt s = .ok () (s.scanned any)

/-- A step from `s` looks for interrupts in `t`. -/
def Scans (s t : Machine δ) : Prop :=
  s.cpu.anyQueuedInterrupts = true ∧
    executeDelayedTrap
      ((counted s).withPSW fun c => { c with anyQueuedInterrupts := false }) =
      .ok () t

section Scan

omit [UnibusDevices δ] in
/-- The smallest vector of a queue is one of it. -/
theorem firstQueued_mem
    {c : Cpu} {i : Level} {v : Word} (h : c.firstQueued i = some v) :
    v ∈ c.queuedInterrupts i := by
  unfold Cpu.firstQueued at h
  split at h
  · cases h
    exact Finset.min'_mem _ _
  · cases h

omit [UnibusDevices δ] in
theorem firstQueued_isSome_iff
    (c : Cpu) (i : Level) :
    (∃ v, c.firstQueued i = some v) ↔ (c.queuedInterrupts i).Nonempty := by
  unfold Cpu.firstQueued
  split
  · simp_all
  · simp_all

/-- The scan grants the first eligible level that it comes to. -/
theorem executeAnyPendingFrom_cases
    (levels : List Level) (s : Machine δ) :
    ((∀ i ∈ levels, ¬ Eligible s.cpu i) ∧
      ∃ any, (any = false → s.cpu.anyQueuedInterrupts = false ∧
          ∀ i ∈ levels, s.cpu.queuedInterrupts i = ∅) ∧
        executeAnyPendingFrom (s.cpu.getPSWspl.toNat + 1) levels s =
          .ok () (s.scanned any)) ∨
    ∃ before i after v, levels = before ++ i :: after ∧
      (∀ j ∈ before, ¬ Eligible s.cpu j) ∧
      Eligible s.cpu i ∧ v ∈ s.cpu.queuedInterrupts i ∧
      executeAnyPendingFrom (s.cpu.getPSWspl.toNat + 1) levels s =
        trap v (some i) (s.granted i v) := by
  induction levels generalizing s with
  | nil =>
      left
      constructor
      · simp
      · exact ⟨s.cpu.anyQueuedInterrupts, fun h => ⟨h, by simp⟩, rfl⟩
  | cons i levels ih =>
      cases hfirst : s.cpu.firstQueued i with
      | none =>
          have hqueue : s.cpu.queuedInterrupts i = ∅ := by
            rw [← Finset.not_nonempty_iff_eq_empty]
            intro hne
            obtain ⟨v, hv⟩ := (firstQueued_isSome_iff s.cpu i).mpr hne
            simp [hv] at hfirst
          have hempty : ¬ Eligible s.cpu i := fun h =>
            Finset.not_nonempty_iff_eq_empty.mpr hqueue h.2
          have hskip :
              executeAnyPendingFrom (s.cpu.getPSWspl.toNat + 1)
                (i :: levels) s =
              executeAnyPendingFrom (s.cpu.getPSWspl.toNat + 1) levels s := by
            simp [executeAnyPendingFrom, hfirst]
          rw [hskip]
          rcases ih s with
            ⟨hnone, any, hany, hend⟩ | ⟨before, j, after, v, rfl, hb, hj⟩
          · left
            refine ⟨by simpa using ⟨hempty, hnone⟩, any, fun h => ?_, hend⟩
            exact ⟨(hany h).1, by simpa using ⟨hqueue, (hany h).2⟩⟩
          · right
            exact ⟨i :: before, j, after, v, rfl,
              by simpa using ⟨hempty, hb⟩, hj⟩
      | some v =>
          have hmem := firstQueued_mem hfirst
          by_cases hlow : i.toNat < s.cpu.getPSWspl.toNat + 1
          · have hlevel : ¬ Eligible s.cpu i := by
              rintro ⟨hlt, -⟩
              rw [BitVec.lt_def] at hlt
              omega
            have hskip :
                executeAnyPendingFrom (s.cpu.getPSWspl.toNat + 1)
                  (i :: levels) s =
                executeAnyPendingFrom (s.cpu.getPSWspl.toNat + 1) levels
                  (s.scanned true) := by
              simp [executeAnyPendingFrom, hfirst, hlow]
              rfl
            rw [hskip]
            rcases ih (s.scanned true) with
              ⟨hnone, any, hany, hend⟩ | ⟨before, j, after, v, rfl, hb, hj⟩
            · left
              refine ⟨by simpa using ⟨hlevel, hnone⟩, any, fun h => ?_, hend⟩
              exact absurd (hany h).1 Bool.noConfusion
            · right
              exact ⟨i :: before, j, after, v, rfl,
                by simpa using ⟨hlevel, hb⟩, hj⟩
          · right
            refine ⟨[], i, levels, v, rfl, by simp, ⟨?_, ⟨v, hmem⟩⟩, hmem, ?_⟩
            · rw [BitVec.lt_def]
              omega
            · simp [executeAnyPendingFrom, hfirst, hlow, logEvent]
              rfl

/-- The levels are looked at from the lowest upwards. -/
theorem executeAnyPendingInterrupt_cases
    (s : Machine δ) :
    ((∀ i, ¬ Eligible s.cpu i) ∧
      ∃ any, (any = false → ∀ i, s.cpu.queuedInterrupts i = ∅) ∧
        executeAnyPendingInterrupt s = .ok () (s.scanned any)) ∨
    ∃ i v, Eligible s.cpu i ∧ v ∈ s.cpu.queuedInterrupts i ∧
      (∀ j, Eligible s.cpu j → i ≤ j) ∧
      executeAnyPendingInterrupt s = trap v (some i) (s.granted i v) := by
  have hmem : ∀ i : Level, i ∈ [(0 : Level), 1, 2, 3, 4, 5, 6, 7] := by
    decide
  have hsorted : [(0 : Level), 1, 2, 3, 4, 5, 6, 7].Pairwise (· < ·) := by
    decide
  rcases executeAnyPendingFrom_cases [0, 1, 2, 3, 4, 5, 6, 7] s with
    ⟨hnone, any, hany, hend⟩ |
      ⟨before, i, after, v, hlevels, hbefore, hi, hv, hend⟩
  · left
    exact ⟨fun i => hnone i (hmem i), any,
      fun h i => (hany h).2 i (hmem i), hend⟩
  · right
    refine ⟨i, v, hi, hv, fun j hj => ?_, hend⟩
    rw [hlevels, List.pairwise_append] at hsorted
    have hafter := (List.pairwise_cons.mp hsorted.2.1).1
    have hj' := hmem j
    rw [hlevels] at hj'
    rcases List.mem_append.mp hj' with hb | hc
    · exact absurd hj (hbefore j hb)
    · rcases List.mem_cons.mp hc with rfl | ha
      · exact BitVec.le_refl _
      · exact BitVec.le_of_lt (hafter j ha)

omit [UnibusDevices δ] in
theorem granted_queues
    (s : Machine δ) (i : Level) (v : Word) :
    (s.granted i v).cpu.queuedInterrupts =
      Function.update s.cpu.queuedInterrupts i
        ((s.cpu.queuedInterrupts i).erase v) := by
  rfl

/-- If a level is eligible, the lowest one is delivered. -/
theorem delivers_lowest
    {s : Machine δ} {j : Level} (hj : Eligible s.cpu j) :
    ∃ i v, Delivers s i v ∧ Eligible s.cpu i ∧
      v ∈ s.cpu.queuedInterrupts i ∧ ∀ k, Eligible s.cpu k → i ≤ k := by
  rcases executeAnyPendingInterrupt_cases s with
    ⟨hnone, -⟩ | ⟨i, v, hi, hv, hlowest, hend⟩
  · exact absurd hj (hnone j)
  · exact ⟨i, v, ⟨s.granted i v, rfl, granted_queues s i v, hend⟩, hi, hv,
      hlowest⟩

/-- The trace tells two deliveries from one state apart. -/
theorem Delivers.unique
    {s : Machine δ} {i j : Level} {v w : Word}
    (h : Delivers s i v) (h' : Delivers s j w) :
    i = j ∧ v = w := by
  obtain ⟨t, ht, -, hrun⟩ := h
  obtain ⟨t', ht', -, hrun'⟩ := h'
  obtain ⟨u, hu⟩ := trap_returns v (some i) t
  have hu' : trap w (some j) t' = .ok () u := by
    rw [← hrun', hrun, hu]
  obtain ⟨new, hnew⟩ := (trap_later hu).extend
  obtain ⟨new', hnew'⟩ := (trap_later hu').extend
  have hlog : u.trace =
      (new ++ [.trapEntry v (some i), .interrupt i v]) ++ s.trace := by
    rw [hnew]
    simp [atTrapLevel, ht]
  have hlog' : u.trace =
      (new' ++ [.trapEntry w (some j), .interrupt j w]) ++ s.trace := by
    rw [hnew']
    simp [atTrapLevel, ht']
  have heq := List.append_cancel_right (hlog.symm.trans hlog')
  have htail := (List.append_inj' heq rfl).2
  simp at htail
  exact ⟨htail.2.1, htail.2.2⟩

/-- Nothing is delivered when no level is eligible. -/
theorem Delivers.eligible
    {s : Machine δ} {i : Level} {v : Word} (h : Delivers s i v) :
    ∃ j, Eligible s.cpu j := by
  by_contra hnone
  rw [not_exists] at hnone
  rcases executeAnyPendingInterrupt_cases s with
    ⟨-, any, -, hend⟩ | ⟨j, w, hj, -⟩
  · obtain ⟨t, htrace, -, hrun⟩ := h
    obtain ⟨u, hu⟩ := trap_returns v (some i) t
    obtain ⟨new, hnew⟩ := (trap_later hu).extend
    rw [← hrun, hend] at hu
    injection hu with _ hu
    subst hu
    have hlength := congrArg List.length hnew
    simp [atTrapLevel, htrace, Machine.scanned, Machine.withPSW] at hlength
    omega
  · exact hnone j hj

end Scan

section Priority

/-- The scan of a step. -/
theorem step_of_scans
    {s t : Machine δ} (h : Scans s t) :
    step s = (executeAnyPendingInterrupt >>= fun _ => runInstruction) t := by
  obtain ⟨hany, hdelayed⟩ := h
  have hservice : serviceInterrupts (counted s) =
      executeAnyPendingInterrupt t := by
    unfold serviceInterrupts
    rw [cpuView_bind_apply, modifyCpu_bind_apply,
      show (counted s).cpu.anyQueuedInterrupts = true from hany]
    exact bind_of_ok hdelayed
  change (serviceInterrupts >>= fun _ => runInstruction) (counted s) = _
  rw [bind_apply, bind_apply, hservice]

/-- A step that looks for interrupts grants them by priority if and only if
no two levels are eligible at that moment. -/
theorem interrupts_by_priority_iff
    {s t : Machine δ} (h : Scans s t) :
    step s = (executeAnyPendingInterrupt >>= fun _ => runInstruction) t ∧
      (GrantsByPriority t ↔
        ∀ i j, Eligible t.cpu i → Eligible t.cpu j → i = j) := by
  refine ⟨step_of_scans h, ?_⟩
  constructor
  · intro hpriority j k hj hk
    obtain ⟨i, v, hi, -, -, hlowest⟩ := delivers_lowest hj
    have hhighest := (hpriority.highest i v hi).2.2
    have hji := BitVec.le_antisymm (hhighest j hj) (hlowest j hj)
    have hki := BitVec.le_antisymm (hhighest k hk) (hlowest k hk)
    exact hji.trans hki.symm
  · intro honly
    constructor
    · intro j hj
      obtain ⟨i, v, hi, -⟩ := delivers_lowest hj
      exact ⟨i, v, hi⟩
    · intro j w hw
      obtain ⟨i, v, hi, heligible, hv, -⟩ := delivers_lowest hw.eligible.choose_spec
      obtain ⟨rfl, rfl⟩ := hi.unique hw
      refine ⟨heligible, hv, fun k hk => ?_⟩
      rw [honly k i hk heligible]
    · intro hnone
      rcases executeAnyPendingInterrupt_cases t with
        ⟨-, any, -, hend⟩ | ⟨i, v, hi, -⟩
      · exact ⟨any, hend⟩
      · exact absurd hi (hnone i)

end Priority

section Examples

/-- Interrupts of the clock, at level 6, and of a disk, at level 5. -/
def twoPending (disk : Bool) : Machine LineClock :=
  let s := bareMachine 0o20000
    [(0o100, 0o2000), (0o102, 0o340), (0o220, 0o3000), (0o222, 0o340)]
  let clock := s.cpu.queueInterrupt 6 0o100
  { s with
    cpu :=
      { if disk then clock.queueInterrupt 5 0o220 else clock with
        sp := fun _ => 0o1000 } }

/-- The state in which a step from there looks for interrupts. -/
def twoPendingScanned (disk : Bool) : Machine LineClock :=
  (counted (twoPending disk)).withPSW fun c =>
    { c with anyQueuedInterrupts := false }

theorem twoPending_scans
    (disk : Bool) :
    Scans (twoPending disk) (twoPendingScanned disk) := by
  cases disk <;> exact ⟨rfl, rfl⟩

/-- The clock alone is granted. -/
theorem interrupts_by_priority_clock :
    GrantsByPriority (twoPendingScanned false) := by
  refine (interrupts_by_priority_iff (twoPending_scans false)).2.mpr ?_
  decide +kernel

/-- The disk is granted before the clock. -/
theorem lower_level_granted_first :
    Scans (twoPending true) (twoPendingScanned true) ∧
      ¬ GrantsByPriority (twoPendingScanned true) := by
  refine ⟨twoPending_scans true, fun h => ?_⟩
  have hclock : Eligible (twoPendingScanned true).cpu 6 := by
    decide +kernel
  have hdisk : Eligible (twoPendingScanned true).cpu 5 := by
    decide +kernel
  obtain ⟨i, v, hi, -, -, hlowest⟩ := delivers_lowest hclock
  have hfive := hlowest 5 hdisk
  have hsix := (h.highest i v hi).2.2 6 hclock
  exact absurd (BitVec.le_trans hsix hfive) (by decide)

end Examples

end KekPdp11
