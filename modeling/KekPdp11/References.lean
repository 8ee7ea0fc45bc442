import KekPdp11.TrapRecursion

/-!
# KEK PDP-11: where a reference goes

What decides the course of a bus reference is a function of the state it
starts in: the page registers may refuse it, it may lie past the end of
memory, it may go to the I/O page, and otherwise it goes to a byte or a word of
memory.  `Machine.target` is that function.

**Specification lemmas.**  `Bus.read_eq` and `Bus.write_eq` give a read and a
write from a state as the service of its target.  Later modules use these two
and do not unfold the translation again.
-/

namespace KekPdp11

open StateExcept

variable {δ : Type}

/-- Where a reference goes. -/
inductive Target where
  | accessFault (page : PageIndex)
  | lengthFault (page : PageIndex)
  | boundsFault (page : PageIndex)
  | io (a : Word)
  | ram (p : PhysAddr) (page : PageIndex)
deriving DecidableEq, Repr

namespace Mmu

/-- The physical address of a reference that the page registers allow. -/
def physical (m : Mmu) (runMode : RunMode) (a : Word) (spaceIn : Space) :
    PhysAddr :=
  if m.isEnabled then m.relocate (m.referencePage runMode a spaceIn) a
  else a.setWidth 32

/-- The page that such a reference is accounted to. -/
def physicalPage (m : Mmu) (runMode : RunMode) (a : Word) (spaceIn : Space) :
    PageIndex :=
  if m.isEnabled then m.referencePage runMode a spaceIn
  else (activePageField a).setWidth 6

/-- The target of a physical address. -/
def dispatch (m : Mmu) (size p : PhysAddr) (page : PageIndex) : Target :=
  if m.ioBase ≤ p then .io (Bus.ioAddress p m.ioBase)
  else if size ≤ p then .boundsFault page
  else .ram p page

/-- The access check and the length check let the reference pass. -/
def Permits (m : Mmu) (runMode : RunMode) (a : Word) (spaceIn : Space) : Prop :=
  m.isEnabled = true →
    m.getTrapAction (m.referencePage runMode a spaceIn) false = .tProceed ∧
      m.pageLengthFault a (m.referencePage runMode a spaceIn) = false

/-- The target of a virtual address. -/
def target (m : Mmu) (size : PhysAddr) (runMode : RunMode) (a : Word)
    (spaceIn : Space) : Target :=
  let page := m.referencePage runMode a spaceIn
  if m.isEnabled = true ∧ m.getTrapAction page false ≠ .tProceed then
    .accessFault page
  else if m.isEnabled = true ∧ m.pageLengthFault a page = true then
    .lengthFault page
  else
    m.dispatch size (m.physical runMode a spaceIn)
      (m.physicalPage runMode a spaceIn)

theorem target_of_permits
    {m : Mmu} {runMode : RunMode} {a : Word} {spaceIn : Space}
    (h : m.Permits runMode a spaceIn) (size : PhysAddr) :
    m.target size runMode a spaceIn =
      m.dispatch size (m.physical runMode a spaceIn)
        (m.physicalPage runMode a spaceIn) := by
  have haccess :
      ¬ (m.isEnabled = true ∧
        m.getTrapAction (m.referencePage runMode a spaceIn) false ≠
          .tProceed) :=
    fun hf => hf.2 (h hf.1).1
  have hlength :
      ¬ (m.isEnabled = true ∧
        m.pageLengthFault a (m.referencePage runMode a spaceIn) = true) := by
    intro hf
    rw [(h hf.1).2] at hf
    cases hf.2
  unfold target
  rw [if_neg haccess, if_neg hlength]

/-- A reference that memory serves has passed every check. -/
theorem target_ram
    {m : Mmu} {size : PhysAddr} {runMode : RunMode} {a : Word}
    {spaceIn : Space} {p : PhysAddr} {page : PageIndex}
    (h : m.target size runMode a spaceIn = .ram p page) :
    m.Permits runMode a spaceIn ∧ p = m.physical runMode a spaceIn ∧
      page = m.physicalPage runMode a spaceIn ∧ ¬ m.ioBase ≤ p ∧
      ¬ size ≤ p := by
  unfold target dispatch at h
  dsimp only at h
  split_ifs at h with haccess hlength hio hsize
  injection h with hp hpage
  subst hp
  refine ⟨fun henabled => ⟨?_, ?_⟩, rfl, hpage.symm, hio, hsize⟩
  · exact not_not.mp fun hne => haccess ⟨henabled, hne⟩
  · exact Bool.eq_false_of_not_eq_true fun ht => hlength ⟨henabled, ht⟩

end Mmu

/-- The target of a reference made in a state. -/
def Machine.target (s : Machine δ) (runMode : RunMode) (a : Word)
    (spaceIn : Space) : Target :=
  s.mmu.target s.ram.size runMode a spaceIn

variable [UnibusDevices δ]

section Service

variable {α : Type}

/-- What verify_page_access does with a reference it refuses. -/
def abortAccess (page : PageIndex) : Exec δ α := do
  modifyMmu fun m =>
    m.latchMMR0
      (Mmu.accessAbortMMR0 m.mmr0 page false (m.getAccessControl page))
  mmuTrapVia trap
  modifyMmu fun m => m.setCPUERRBit 10
  throwInt 5

/-- What verify_page_length does with a reference it refuses. -/
def abortLength (page : PageIndex) : Exec δ α := do
  modifyMmu fun m => m.latchMMR0 (Mmu.lengthAbortMMR0 m.mmr0 page)
  mmuTrapVia trap
  modifyMmu fun m => m.setCPUERRBit 10
  throwInt 7

/-- What verify_pointer_bounds does with a reference past the memory. -/
def abortBounds (page : PageIndex) : Exec δ α := do
  modifyMmu fun m => m.latchMMR0 (Mmu.boundsAbortMMR0 m.mmr0 page)
  mmuTrapVia trap
  throwInt 6

/-- The part of a read that only concerns memory. -/
def readRam (p : PhysAddr) (page : PageIndex) (wordMode : WordMode)
    (apf : BitVec 3) : Exec δ Word := do
  modifyMmu fun m => m.setPageAccessed page
  match wordMode with
  | .wmByte => view fun s => (s.ram.readByte p).setWidth 16
  | .wmWord =>
      if p &&& 1 ≠ 0 then oddAbort apf 2
      else view fun s => s.ram.readWord p

/-- The part of a write that only concerns memory. -/
def writeRam (p : PhysAddr) (page : PageIndex) (wordMode : WordMode)
    (apf : BitVec 3) (value : Word) : Exec δ Bool := do
  modifyMmu fun m => m.setPageWrittenTo page
  match wordMode with
  | .wmByte => do
      update fun s => { s with ram := s.ram.writeByte p (value.setWidth 8) }
      pure false
  | .wmWord =>
      if p &&& 1 ≠ 0 then oddAbort apf 10
      else do
        update fun s => { s with ram := s.ram.writeWord p value }
        pure false

/-- A read at a target. -/
def serveRead (target : Target) (wordMode : WordMode) (apf : BitVec 3) :
    Exec δ Word :=
  match target with
  | .accessFault page => abortAccess page
  | .lengthFault page => abortLength page
  | .boundsFault page => abortBounds page
  | .io a => readIoVia trap a wordMode apf
  | .ram p page => readRam p page wordMode apf

/-- A write at a target. -/
def serveWrite (target : Target) (wordMode : WordMode) (apf : BitVec 3)
    (value : Word) : Exec δ Bool :=
  match target with
  | .accessFault page => abortAccess page
  | .lengthFault page => abortLength page
  | .boundsFault page => abortBounds page
  | .io a => writeIoVia trap a wordMode apf value
  | .ram p page => writeRam p page wordMode apf value

end Service

section Specification

omit [UnibusDevices δ] in
/-- noteAbort only looks at what the reference does from the state at hand. -/
theorem noteAbort_congr
    {α : Type} {m m' : Exec δ α} {s : Machine δ} (h : m s = m' s) :
    noteAbort m s = noteAbort m' s := by
  unfold noteAbort
  rw [h]

omit [UnibusDevices δ] in
theorem noteAbort_of_ok
    {α : Type} {m : Exec δ α} {s t : Machine δ} {a : α}
    (h : m s = .ok a t) :
    noteAbort m s = .ok a t := by
  unfold noteAbort
  rw [h]

omit [UnibusDevices δ] in
theorem noteAbort_of_error
    {α : Type} {m : Exec δ α} {s t : Machine δ} {e : Stop}
    (h : m s = .error e t) :
    noteAbort m s =
      .error e
        { t with
          trace :=
            .aborted (decide (s.cpu.trapCounter < t.cpu.trapCounter)) ::
              t.trace } := by
  unfold noteAbort
  rw [h]

theorem verifyPointerBounds_apply
    (p : PhysAddr) (page : PageIndex) (s : Machine δ) :
    verifyPointerBoundsVia trap p page s =
      if s.ram.size ≤ p then abortBounds page s else .ok () s := by
  unfold verifyPointerBoundsVia
  rw [view_bind_apply]
  split <;> rfl

theorem verifyPageAccess_apply
    (page : PageIndex) (s : Machine δ) :
    verifyPageAccessVia trap page false s =
      if s.mmu.getTrapAction page false = .tProceed then .ok () s
      else abortAccess page s := by
  unfold verifyPageAccessVia mmuView
  rw [view_bind_apply]
  split <;> rfl

theorem verifyPageLength_apply
    (a : Word) (page : PageIndex) (s : Machine δ) :
    verifyPageLengthVia trap a page s =
      if s.mmu.pageLengthFault a page = true then abortLength page s
      else .ok () s := by
  unfold verifyPageLengthVia mmuView
  rw [view_bind_apply]
  split <;> rfl

omit [UnibusDevices δ] in
theorem throwInt_bind
    {α β : Type} (number : Nat) (k : α → Exec δ β) :
    (throwInt number >>= k) = throwInt number := by
  rfl

/-- What follows an abort is not run. -/
theorem abortAccess_bind
    {α β : Type} (page : PageIndex) (k : α → Exec δ β) :
    (abortAccess page >>= k) = abortAccess page := by
  simp only [abortAccess, bind_assoc, throwInt_bind]

theorem abortLength_bind
    {α β : Type} (page : PageIndex) (k : α → Exec δ β) :
    (abortLength page >>= k) = abortLength page := by
  simp only [abortLength, bind_assoc, throwInt_bind]

theorem abortBounds_bind
    {α β : Type} (page : PageIndex) (k : α → Exec δ β) :
    (abortBounds page >>= k) = abortBounds page := by
  simp only [abortBounds, bind_assoc, throwInt_bind]

/-- An abort traps and then throws. -/
theorem abortAccess_throws
    {α : Type} (page : PageIndex) (s : Machine δ) :
    ∃ t, (abortAccess page : Exec δ α) s = .error (.exception 5) t := by
  obtain ⟨u, hu⟩ := trap_returns 0o250 none
    { s with
      mmu := s.mmu.latchMMR0 (Mmu.accessAbortMMR0 s.mmu.mmr0 page false
        (s.mmu.getAccessControl page))
      trace := .mmuFault s.cpu (s.mmu.latchMMR0 (Mmu.accessAbortMMR0
        s.mmu.mmr0 page false (s.mmu.getAccessControl page))) :: s.trace }
  exact ⟨_, bind_of_ok hu⟩

theorem abortLength_throws
    {α : Type} (page : PageIndex) (s : Machine δ) :
    ∃ t, (abortLength page : Exec δ α) s = .error (.exception 7) t := by
  obtain ⟨u, hu⟩ := trap_returns 0o250 none
    { s with
      mmu := s.mmu.latchMMR0 (Mmu.lengthAbortMMR0 s.mmu.mmr0 page)
      trace := .mmuFault s.cpu
        (s.mmu.latchMMR0 (Mmu.lengthAbortMMR0 s.mmu.mmr0 page)) :: s.trace }
  exact ⟨_, bind_of_ok hu⟩

theorem abortBounds_throws
    {α : Type} (page : PageIndex) (s : Machine δ) :
    ∃ t, (abortBounds page : Exec δ α) s = .error (.exception 6) t := by
  obtain ⟨u, hu⟩ := trap_returns 0o250 none
    { s with
      mmu := s.mmu.latchMMR0 (Mmu.boundsAbortMMR0 s.mmu.mmr0 page)
      trace := .mmuFault s.cpu
        (s.mmu.latchMMR0 (Mmu.boundsAbortMMR0 s.mmu.mmr0 page)) :: s.trace }
  exact ⟨_, bind_of_ok hu⟩

/-- What translation does, by what the page registers allow. -/
theorem calculatePhysicalAddress_apply
    (runMode : RunMode) (a : Word) (spaceIn : Space) (s : Machine δ) :
    calculatePhysicalAddressVia trap runMode a false
        (s.mmu.referenceSpace runMode spaceIn) s =
      if s.mmu.isEnabled = true ∧
          s.mmu.getTrapAction (s.mmu.referencePage runMode a spaceIn) false ≠
            .tProceed then
        abortAccess (s.mmu.referencePage runMode a spaceIn) s
      else if s.mmu.isEnabled = true ∧
          s.mmu.pageLengthFault a (s.mmu.referencePage runMode a spaceIn) =
            true then
        abortLength (s.mmu.referencePage runMode a spaceIn) s
      else
        .ok
          (s.mmu.physical runMode a spaceIn,
            s.mmu.physicalPage runMode a spaceIn) s := by
  unfold calculatePhysicalAddressVia Mmu.physical Mmu.physicalPage mmuView
  rw [view_bind_apply]
  cases henabled : s.mmu.isEnabled with
  | false =>
      simp [henabled]
  | true =>
      simp only [henabled, Bool.true_or, if_true, true_and, view_bind_apply]
      change (verifyPageAccessVia trap (s.mmu.referencePage runMode a spaceIn)
        false >>= _) s = _
      by_cases haccess :
          s.mmu.getTrapAction (s.mmu.referencePage runMode a spaceIn) false =
            .tProceed
      · have h := verifyPageAccess_apply
          (s.mmu.referencePage runMode a spaceIn) s
        rw [if_pos haccess] at h
        rw [bind_of_ok h, if_neg (not_not_intro haccess)]
        by_cases hlength :
            s.mmu.pageLengthFault a (s.mmu.referencePage runMode a spaceIn) =
              true
        · have h := verifyPageLength_apply a
            (s.mmu.referencePage runMode a spaceIn) s
          rw [if_pos hlength] at h
          rw [if_pos hlength]
          exact (bind_apply_congr h _).trans
            (congrFun (abortLength_bind _ _) s)
        · have h := verifyPageLength_apply a
            (s.mmu.referencePage runMode a spaceIn) s
          rw [if_neg hlength] at h
          rw [if_neg hlength]
          exact bind_of_ok h
      · have h := verifyPageAccess_apply
          (s.mmu.referencePage runMode a spaceIn) s
        rw [if_neg haccess] at h
        rw [if_pos haccess]
        exact (bind_apply_congr h _).trans (congrFun (abortAccess_bind _ _) s)

/-- Translation returns when the page registers allow the reference. -/
theorem calculatePhysicalAddress_of_permits
    {s : Machine δ} {runMode : RunMode} {a : Word} {spaceIn : Space}
    (h : s.mmu.Permits runMode a spaceIn) :
    calculatePhysicalAddressVia trap runMode a false
        (s.mmu.referenceSpace runMode spaceIn) s =
      .ok
        (s.mmu.physical runMode a spaceIn,
          s.mmu.physicalPage runMode a spaceIn) s := by
  rw [calculatePhysicalAddress_apply, if_neg fun hf => hf.2 (h hf.1).1,
    if_neg fun hf => absurd hf.2 (by simp [(h hf.1).2])]

/-- A reference goes where its target says. -/
theorem calculatePhysicalAddress_bind
    {β : Type} (runMode : RunMode) (a : Word) (spaceIn : Space)
    (k : PhysAddr × PageIndex → Exec δ β) (s : Machine δ) :
    (calculatePhysicalAddressVia trap runMode a false
        (s.mmu.referenceSpace runMode spaceIn) >>= k) s =
      if s.mmu.isEnabled = true ∧
          s.mmu.getTrapAction (s.mmu.referencePage runMode a spaceIn) false ≠
            .tProceed then
        abortAccess (s.mmu.referencePage runMode a spaceIn) s
      else if s.mmu.isEnabled = true ∧
          s.mmu.pageLengthFault a (s.mmu.referencePage runMode a spaceIn) =
            true then
        abortLength (s.mmu.referencePage runMode a spaceIn) s
      else
        k
          (s.mmu.physical runMode a spaceIn,
            s.mmu.physicalPage runMode a spaceIn) s := by
  have h := calculatePhysicalAddress_apply runMode a spaceIn s
  split at h
  · next haccess =>
      rw [bind_apply_congr h, abortAccess_bind, if_pos haccess]
  · next haccess =>
      rw [if_neg haccess]
      split at h
      · next hlength =>
          rw [bind_apply_congr h, abortLength_bind, if_pos hlength]
      · next hlength =>
          rw [if_neg hlength]
          exact bind_of_ok h

theorem readAt_apply
    (addrIn : Word) (wordMode : WordMode) (p : PhysAddr) (page : PageIndex)
    (s : Machine δ) :
    Bus.readAtVia trap addrIn wordMode p page s =
      serveRead (s.mmu.dispatch s.ram.size p page) wordMode
        (activePageField addrIn) s := by
  unfold Bus.readAtVia Mmu.dispatch mmuView
  rw [view_bind_apply]
  split
  · rfl
  · have h := verifyPointerBounds_apply p page s
    by_cases hsize : s.ram.size ≤ p
    · rw [if_pos hsize] at h ⊢
      exact (bind_apply_congr h _).trans (congrFun (abortBounds_bind _ _) s)
    · rw [if_neg hsize] at h ⊢
      exact bind_of_ok h

theorem writeAt_apply
    (addrIn : Word) (wordMode : WordMode) (value : Word) (p : PhysAddr)
    (page : PageIndex) (s : Machine δ) :
    Bus.writeAtVia trap addrIn wordMode value p page s =
      serveWrite (s.mmu.dispatch s.ram.size p page) wordMode
        (activePageField addrIn) value s := by
  unfold Bus.writeAtVia Mmu.dispatch mmuView
  rw [view_bind_apply]
  split
  · rfl
  · have h := verifyPointerBounds_apply p page s
    by_cases hsize : s.ram.size ≤ p
    · rw [if_pos hsize] at h ⊢
      exact (bind_apply_congr h _).trans (congrFun (abortBounds_bind _ _) s)
    · rw [if_neg hsize] at h ⊢
      exact bind_of_ok h

/-- bus::read serves the target of the reference. -/
theorem Bus.read_eq
    (addrIn : Word) (wordMode : WordMode) (runMode : RunMode)
    (spaceIn : Space) (s : Machine δ) :
    Bus.read addrIn wordMode runMode spaceIn s =
      noteAbort
        (serveRead (s.target runMode addrIn spaceIn) wordMode
          (activePageField addrIn)) s := by
  refine noteAbort_congr ?_
  unfold mmuView
  rw [view_bind_apply, calculatePhysicalAddress_bind]
  unfold Machine.target Mmu.target
  dsimp only
  split
  · rfl
  · split
    · rfl
    · exact readAt_apply _ _ _ _ _

/-- bus::write serves the target of the reference. -/
theorem Bus.write_eq
    (addrIn : Word) (wordMode : WordMode) (value : Word) (runMode : RunMode)
    (spaceIn : Space) (s : Machine δ) :
    Bus.write addrIn wordMode value runMode spaceIn s =
      noteAbort
        (serveWrite (s.target runMode addrIn spaceIn) wordMode
          (activePageField addrIn) value) s := by
  refine noteAbort_congr ?_
  unfold mmuView
  rw [view_bind_apply, calculatePhysicalAddress_bind]
  unfold Machine.target Mmu.target
  dsimp only
  split
  · rfl
  · split
    · rfl
    · exact writeAt_apply _ _ _ _ _ _

end Specification

end KekPdp11
