import KekPdp11.Protection

/-!
# KEK PDP-11: what MMR0 says about an aborted reference

A reference that the MMU aborts is to leave its page number, its mode and its
space in MMR0, whatever was there before, and to leave the control bits alone.

**Three abort paths.**  verify_page_length sets all three fields.
verify_page_access clears mode and space and sets neither.
verify_pointer_bounds keeps the old space bit.
-/

namespace KekPdp11

open StateExcept

variable {δ : Type} [UnibusDevices δ]

/-- Bit 0 and bits 7 to 11 of MMR0. -/
def controlBits : Word := 0o7601

/-- What MMR0 has to say about a reference that is aborted. -/
structure Identifies (before record : Word) (runMode : RunMode) (a : Word)
    (space : Space) : Prop where
  page : (record >>> 1) &&& 7 = (activePageField a).setWidth 16
  mode : (record >>> 5) &&& 3 = runMode.setWidth 16
  space : record &&& 16 ≠ 0 ↔ space = .dSpace
  control : record &&& controlBits = before &&& controlBits

/-- The abort that `r` ends with was recorded before anything else was
logged. -/
def FirstRecord {α : Type} (s : Machine δ)
    (r : EStateM.Result Stop (Machine δ) α) (record : Mmu) : Prop :=
  ∃ e t c new, r = .error e t ∧ t.trace = new ++ .mmuFault c record :: s.trace

section Fields

variable (mmr0 : Word) (runMode : RunMode) (a : Word) (space : Space)

/-- A page index is taken apart into what it was put together from. -/
theorem explode_calcParPdrIndex
    (apf : BitVec 3) :
    Mmu.explodePageIndex (Mmu.calcParPdrIndex runMode space apf) =
      (runMode, decide (space = .dSpace), apf) := by
  cases space with
  | iSpace =>
      revert runMode apf
      decide
  | dSpace =>
      revert runMode apf
      decide

/-- A value of MMR0 put together from its fields. -/
def abortWord (flags mmr0 : Word) (runMode : RunMode) (d : Bool)
    (apf : BitVec 3) : Word :=
  (flags <<< 12) ||| (mmr0 &&& controlBits) ||| (runMode.setWidth 16 <<< 5) |||
    ((BitVec.ofBool d).setWidth 16 <<< 4) ||| (apf.setWidth 16 <<< 1)

variable (flags : Word) (d : Bool) (apf : BitVec 3)

theorem abortWord_page :
    (abortWord flags mmr0 runMode d apf >>> 1) &&& 7 = apf.setWidth 16 := by
  ext i hi
  interval_cases i <;> simp [abortWord, controlBits]

theorem abortWord_mode :
    (abortWord flags mmr0 runMode d apf >>> 5) &&& 3 =
      runMode.setWidth 16 := by
  ext i hi
  interval_cases i <;> simp [abortWord, controlBits]

theorem abortWord_control :
    abortWord flags mmr0 runMode d apf &&& controlBits =
      mmr0 &&& controlBits := by
  ext i hi
  interval_cases i <;> simp [abortWord, controlBits]

theorem abortWord_space :
    abortWord flags mmr0 runMode d apf &&& (16 : Word) =
      (BitVec.ofBool d).setWidth 16 <<< 4 := by
  ext i hi
  interval_cases i <;> simp [abortWord, controlBits]

/-- Such a value identifies the reference if mode and space are its own. -/
theorem identifies_abortWord_iff
    (runMode' : RunMode) :
    Identifies mmr0
        (abortWord flags mmr0 runMode' d (activePageField a)) runMode a space ↔
      runMode' = runMode ∧ d = decide (space = .dSpace) := by
  have hspace :
      abortWord flags mmr0 runMode' d (activePageField a) &&& (16 : Word) ≠ 0 ↔
        d = true := by
    rw [abortWord_space]
    cases d <;> decide
  constructor
  · intro h
    constructor
    · have hmode : runMode'.setWidth 16 = runMode.setWidth 16 :=
        (abortWord_mode _ _ _ _ _).symm.trans h.mode
      have hinj : ∀ x y : RunMode, x.setWidth 16 = y.setWidth 16 → x = y := by
        decide
      exact hinj runMode' runMode hmode
    · rw [Bool.eq_iff_iff, decide_eq_true_eq, ← hspace]
      exact h.space
  · rintro ⟨rfl, rfl⟩
    exact ⟨abortWord_page _ _ _ _ _, abortWord_mode _ _ _ _ _,
      hspace.trans decide_eq_true_iff, abortWord_control _ _ _ _ _⟩

/-- The flags are what remains above the other fields. -/
theorem eq_abortWord_of_low
    {w : Word} (h : w &&& 0o7777 = abortWord 0 mmr0 runMode d apf) :
    ∃ flags, w = abortWord flags mmr0 runMode d apf := by
  have hsplit : w = ((w >>> 12) <<< 12) ||| (w &&& 0o7777) := by
    ext i hi
    interval_cases i <;> simp
  refine ⟨w >>> 12, hsplit.trans ?_⟩
  rw [h]
  simp [abortWord, BitVec.or_assoc]

theorem low_or_flag
    (w : Word) {flag : Word} (h : flag &&& 0o7777 = 0) :
    (w ||| flag) &&& 0o7777 = w &&& 0o7777 := by
  rw [BitVec.and_or_distrib_right, h]
  exact BitVec.or_zero

/-- verify_page_access: mode and space are always zero. -/
theorem accessAbortMMR0_eq
    (accessControl : BitVec 3) :
    ∃ flags,
      Mmu.accessAbortMMR0 mmr0 (Mmu.calcParPdrIndex runMode space apf) false
        accessControl = abortWord flags mmr0 0 false apf := by
  apply eq_abortWord_of_low
  unfold Mmu.accessAbortMMR0
  rw [explode_calcParPdrIndex]
  have hwrite := fun w : Word =>
    low_or_flag w (by decide : 1#16 <<< 13 &&& 0o7777 = 0)
  have habsent := fun w : Word =>
    low_or_flag w (by decide : 1#16 <<< 15 &&& 0o7777 = 0)
  dsimp only
  rw [BitVec.and_or_distrib_right]
  have hfields :
      mmr0 &&& ~~~0o170176#16 &&& (0o7777 : Word) |||
          apf.setWidth 16 <<< 1 &&& (0o7777 : Word) =
        abortWord 0 mmr0 0 false apf := by
    ext i hi
    interval_cases i <;> simp [abortWord, controlBits]
  -- the flags of all branches are above the fields
  split_ifs <;> simp only [hwrite, habsent, hfields]

/-- verify_page_length. -/
theorem lengthAbortMMR0_eq :
    ∃ flags,
      Mmu.lengthAbortMMR0 mmr0 (Mmu.calcParPdrIndex runMode space apf) =
        abortWord flags mmr0 runMode (decide (space = .dSpace)) apf := by
  apply eq_abortWord_of_low
  unfold Mmu.lengthAbortMMR0
  rw [explode_calcParPdrIndex]
  ext i hi
  interval_cases i <;> simp [abortWord, controlBits]

/-- verify_pointer_bounds: the space is the one that was there. -/
theorem boundsAbortMMR0_eq :
    ∃ flags,
      Mmu.boundsAbortMMR0 mmr0 (Mmu.calcParPdrIndex runMode space apf) =
        abortWord flags mmr0 runMode (mmr0.getLsbD 4) apf := by
  apply eq_abortWord_of_low
  unfold Mmu.boundsAbortMMR0
  rw [explode_calcParPdrIndex]
  ext i hi
  interval_cases i <;> simp [abortWord, controlBits]

end Fields

section Records

variable {α : Type}

/-- A latched fault is logged before the trap. -/
theorem firstRecord_of_latch
    (s : Machine δ) (value : Mmu → Word) (k : Exec δ α)
    (hk : ∀ u : Machine δ, ∃ number v,
      k u = .error (.exception number) v ∧ v.trace = u.trace) :
    FirstRecord s
      (noteAbort
        (do
          modifyMmu fun m => m.latchMMR0 (value m)
          mmuTrapVia trap
          k) s) (s.mmu.latchMMR0 (value s.mmu)) := by
  obtain ⟨u, hu⟩ := trap_returns 0o250 none (s.faulted (value s.mmu))
  obtain ⟨number, v, hthrow, htrace⟩ := hk u
  obtain ⟨new, hnew⟩ := (trap_later hu).extend
  have hbody :
      (do
        modifyMmu fun m => m.latchMMR0 (value m)
        mmuTrapVia trap
        k : Exec δ α) s = .error (.exception number) v := by
    rw [← hthrow]
    exact bind_of_ok hu
  rw [noteAbort_of_error hbody]
  refine ⟨_, _, s.cpu,
    .aborted (decide (s.cpu.trapCounter < v.cpu.trapCounter)) ::
      (new ++ [.trapEntry 0o250 none]), rfl, ?_⟩
  have htop : v.trace = new ++ .trapEntry 0o250 none ::
      .mmuFault s.cpu (s.mmu.latchMMR0 (value s.mmu)) :: s.trace :=
    htrace.trans hnew
  simp [htop]

theorem firstRecord_abortAccess
    (s : Machine δ) (page : PageIndex) :
    FirstRecord s (noteAbort (abortAccess page : Exec δ α) s)
      (s.mmu.latchMMR0 (Mmu.accessAbortMMR0 s.mmu.mmr0 page false
        (s.mmu.getAccessControl page))) :=
  firstRecord_of_latch s (fun m => Mmu.accessAbortMMR0 m.mmr0 page false
    (m.getAccessControl page)) _ fun _ => ⟨5, _, rfl, rfl⟩

theorem firstRecord_abortLength
    (s : Machine δ) (page : PageIndex) :
    FirstRecord s (noteAbort (abortLength page : Exec δ α) s)
      (s.mmu.latchMMR0 (Mmu.lengthAbortMMR0 s.mmu.mmr0 page)) :=
  firstRecord_of_latch s (fun m => Mmu.lengthAbortMMR0 m.mmr0 page) _
    fun _ => ⟨7, _, rfl, rfl⟩

theorem firstRecord_abortBounds
    (s : Machine δ) (page : PageIndex) :
    FirstRecord s (noteAbort (abortBounds page : Exec δ α) s)
      (s.mmu.latchMMR0 (Mmu.boundsAbortMMR0 s.mmu.mmr0 page)) :=
  firstRecord_of_latch s (fun m => Mmu.boundsAbortMMR0 m.mmr0 page) _
    fun _ => ⟨6, _, rfl, rfl⟩

omit [UnibusDevices δ] in
/-- A fault is accounted to the page of the reference. -/
theorem target_fault_page
    {s : Machine δ} {runMode : RunMode} {a : Word} {spaceIn : Space}
    {page : PageIndex} (henabled : s.mmu.isEnabled = true)
    (h : s.target runMode a spaceIn = .accessFault page ∨
      s.target runMode a spaceIn = .lengthFault page ∨
      s.target runMode a spaceIn = .boundsFault page) :
    page = s.mmu.referencePage runMode a spaceIn := by
  unfold Machine.target Mmu.target Mmu.dispatch at h
  have hpage : s.mmu.physicalPage runMode a spaceIn =
      s.mmu.referencePage runMode a spaceIn := by
    unfold Mmu.physicalPage
    rw [if_pos henabled]
  rw [hpage] at h
  dsimp only at h
  split_ifs at h <;> simp_all

/-- The mode and the space that MMR0 is left with are those of the
reference. -/
def FieldsFit (s : Machine δ) (runMode : RunMode) (a : Word)
    (spaceIn : Space) : Prop :=
  match s.target runMode a spaceIn with
  | .accessFault _ =>
      runMode = 0 ∧ s.mmu.referenceSpace runMode spaceIn = .iSpace
  | .boundsFault _ =>
      s.mmu.mmr0.getLsbD 4 =
        decide (s.mmu.referenceSpace runMode spaceIn = .dSpace)
  | _ => True

/-- A reference that is aborted for access, for length or for an address past
the memory records itself in MMR0 if and only if it is one for length, one for
access in kernel mode and instruction space, or one past the memory with the
space bit already right. -/
theorem abort_record_identifies_iff
    (s : Machine δ) (runMode : RunMode) (a : Word) (spaceIn : Space)
    (henabled : s.mmu.isEnabled = true) (hfree : s.mmu.isLocked = false)
    (hfault : ∃ page, s.target runMode a spaceIn = .accessFault page ∨
      s.target runMode a spaceIn = .lengthFault page ∨
      s.target runMode a spaceIn = .boundsFault page) :
    ∃ record,
      (∀ wordMode,
        FirstRecord s (Bus.read a wordMode runMode spaceIn s) record) ∧
      (∀ wordMode value,
        FirstRecord s (Bus.write a wordMode value runMode spaceIn s) record) ∧
      (Identifies s.mmu.mmr0 record.mmr0 runMode a
          (s.mmu.referenceSpace runMode spaceIn) ↔
        FieldsFit s runMode a spaceIn) := by
  obtain ⟨page, hpage⟩ := hfault
  have hreference := target_fault_page henabled hpage
  have hlatch : ∀ value, (s.mmu.latchMMR0 value).mmr0 = value := by
    intro value
    unfold Mmu.latchMMR0
    rw [if_neg (by simp [hfree])]
    rfl
  unfold Mmu.referencePage at hreference
  unfold FieldsFit
  rcases hpage with htarget | htarget | htarget
  · refine ⟨s.mmu.latchMMR0 (Mmu.accessAbortMMR0 s.mmu.mmr0 page false
      (s.mmu.getAccessControl page)),
      fun wordMode => ?_, fun wordMode value => ?_, ?_⟩
    · rw [Bus.read_eq, htarget]
      exact firstRecord_abortAccess s page
    · rw [Bus.write_eq, htarget]
      exact firstRecord_abortAccess s page
    · rw [htarget, hlatch]
      subst hreference
      obtain ⟨flags, heq⟩ := accessAbortMMR0_eq s.mmu.mmr0 runMode
        (s.mmu.referenceSpace runMode spaceIn) (activePageField a)
        (s.mmu.getAccessControl (Mmu.calcParPdrIndex runMode
          (s.mmu.referenceSpace runMode spaceIn) (activePageField a)))
      rw [heq, identifies_abortWord_iff]
      refine and_congr eq_comm ?_
      cases s.mmu.referenceSpace runMode spaceIn <;> decide
  · refine ⟨s.mmu.latchMMR0 (Mmu.lengthAbortMMR0 s.mmu.mmr0 page),
      fun wordMode => ?_, fun wordMode value => ?_, ?_⟩
    · rw [Bus.read_eq, htarget]
      exact firstRecord_abortLength s page
    · rw [Bus.write_eq, htarget]
      exact firstRecord_abortLength s page
    · rw [htarget, hlatch]
      subst hreference
      obtain ⟨flags, heq⟩ := lengthAbortMMR0_eq s.mmu.mmr0 runMode
        (s.mmu.referenceSpace runMode spaceIn) (activePageField a)
      rw [heq, identifies_abortWord_iff]
      simp
  · refine ⟨s.mmu.latchMMR0 (Mmu.boundsAbortMMR0 s.mmu.mmr0 page),
      fun wordMode => ?_, fun wordMode value => ?_, ?_⟩
    · rw [Bus.read_eq, htarget]
      exact firstRecord_abortBounds s page
    · rw [Bus.write_eq, htarget]
      exact firstRecord_abortBounds s page
    · rw [htarget, hlatch]
      subst hreference
      obtain ⟨flags, heq⟩ := boundsAbortMMR0_eq s.mmu.mmr0 runMode
        (s.mmu.referenceSpace runMode spaceIn) (activePageField a)
      rw [heq, identifies_abortWord_iff]
      simp

end Records

section Examples

/-- A missing page of the kernel's instruction space is identified. -/
theorem abort_record_identifies_kernel :
    ∃ record,
      FirstRecord (pageZeroMachine 0)
        (Bus.read 0o100 .wmWord 0 .iSpace (pageZeroMachine 0)) record ∧
      Identifies (pageZeroMachine 0).mmu.mmr0 record.mmr0 0 0o100 .iSpace := by
  obtain ⟨record, hread, -, hidentifies⟩ :=
    abort_record_identifies_iff (pageZeroMachine 0) 0 0o100 .iSpace (by decide)
      (by decide) ⟨0, Or.inl (by decide)⟩
  exact ⟨record, hread .wmWord, hidentifies.mpr ⟨rfl, by decide⟩⟩

/-- A missing page of user mode is recorded as one of the kernel. -/
theorem user_abort_names_kernel :
    (pageZeroMachine 0).mmu.isEnabled = true ∧
      (pageZeroMachine 0).mmu.isLocked = false ∧
      ∃ record,
        FirstRecord (pageZeroMachine 0)
          (Bus.read 0o100 .wmWord 3 .iSpace (pageZeroMachine 0)) record ∧
        ¬ Identifies (pageZeroMachine 0).mmu.mmr0 record.mmr0 3 0o100
          .iSpace := by
  have htarget : (pageZeroMachine 0).target 3 0o100 .iSpace =
      .accessFault 0o60 := by
    decide
  have hread := Bus.read_eq 0o100 .wmWord 3 .iSpace (pageZeroMachine 0)
  rw [htarget] at hread
  rw [hread]
  refine ⟨by decide, by decide, _,
    firstRecord_abortAccess (pageZeroMachine 0) 0o60, ?_⟩
  intro h
  exact absurd h.mode (by decide)

end Examples

end KekPdp11
