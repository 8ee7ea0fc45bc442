import KekPdp11.References
import KekPdp11.Watching
import KekPdp11.LineClock

/-!
# KEK PDP-11: write protection

A page whose access control field has a write entry other than T_PROCEED is to
refuse every write through it: nothing is stored, a trap is entered and the
reference throws.

**What refuses a write.**  bus::write asks for the translation of a read, so
the write entry of get_trap_action's table is never looked at.  A write through
such a page is refused when something else refuses it: the read entry of the
table, the length check, the end of memory, or an I/O page in which nothing
answers at the address.  In all other cases it is carried out, or it throws
for an odd address without a trap.
-/

namespace KekPdp11

open StateExcept

variable {δ : Type} [UnibusDevices δ]

/-- A reference that only enters a trap, with at most MMR0 and the trace
changed before and CPUERR and the trace after it, and then throws. -/
def Refused {α : Type} (s : Machine δ)
    (r : EStateM.Result Stop (Machine δ) α) : Prop :=
  ∃ vector mmr0 before u number cpuerr after,
    trap vector none
        { s with
          mmu := s.mmu.setMMR0AsIs mmr0
          trace := before ++ s.trace } = .ok () u ∧
      r = .error (.exception number)
        { u with
          mmu := { u.mmu with cpuerr := cpuerr }
          trace := after ++ u.trace }

/-- No register and no device answers a write of the I/O page. -/
def unanswered (s : Machine δ) (a : Word) (wordMode : WordMode)
    (value : Word) : Prop :=
  (match wordMode with
    | .wmByte => (writeByteRegister a value : Option (Exec δ Bool))
    | .wmWord => writeWordRegister a value) = none ∧
  (writeCommonRegister a value : Option (Exec δ Unit)) = none ∧
  a ≠ addrLfc ∧
  deviceAt s.attached a = none ∧
  (writeTail a value wordMode : Option (Exec δ Unit)) = none

section Refusals

variable {α : Type}

omit [UnibusDevices δ] in
/-- The I/O base is the one that MMR0 and MMR3 determine. -/
theorem setMMR0AsIs_mmr0
    (m : Mmu) :
    m.setMMR0AsIs m.mmr0 = m := by
  obtain ⟨pages, mmr0, mmr1, mmr2, mmr3, cpuerr, pir, csr, ioBase, heq⟩ := m
  subst heq
  rfl

omit [UnibusDevices δ] in
/-- Latching an abort is a write of MMR0, with its old value if it is locked. -/
theorem latchMMR0_eq
    (m : Mmu) (value : Word) :
    ∃ mmr0, m.latchMMR0 value = m.setMMR0AsIs mmr0 := by
  unfold Mmu.latchMMR0
  split
  · exact ⟨m.mmr0, (setMMR0AsIs_mmr0 m).symm⟩
  · exact ⟨value, rfl⟩

/-- An MMU fault that is latched, trapped and then thrown. -/
theorem refused_fault
    (s : Machine δ) (value : Mmu → Word) (k : Exec δ α)
    (hk : ∀ u : Machine δ, ∃ number cpuerr,
      k u = .error (.exception number)
        { u with mmu := { u.mmu with cpuerr := cpuerr } }) :
    Refused s
      (noteAbort
        (do
          modifyMmu fun m => m.latchMMR0 (value m)
          mmuTrapVia trap
          k) s) := by
  obtain ⟨mmr0, hlatch⟩ := latchMMR0_eq s.mmu (value s.mmu)
  obtain ⟨u, hu⟩ := trap_returns 0o250 none (s.faulted (value s.mmu))
  obtain ⟨number, cpuerr, hthrow⟩ := hk u
  have hbody :
      (do
        modifyMmu fun m => m.latchMMR0 (value m)
        mmuTrapVia trap
        k : Exec δ α) s =
      .error (.exception number)
        { u with mmu := { u.mmu with cpuerr := cpuerr } } := by
    rw [← hthrow]
    exact bind_of_ok hu
  refine ⟨0o250, mmr0, [.mmuFault s.cpu (s.mmu.latchMMR0 (value s.mmu))], u,
    number, cpuerr,
    [.aborted (decide (s.cpu.trapCounter < u.cpu.trapCounter))], ?_, ?_⟩
  · rw [← hlatch]
    exact hu
  · exact noteAbort_of_error hbody

theorem refused_abortAccess
    (s : Machine δ) (page : PageIndex) :
    Refused s (noteAbort (abortAccess page : Exec δ α) s) :=
  refused_fault s _ _ fun _ => ⟨5, _, rfl⟩

theorem refused_abortLength
    (s : Machine δ) (page : PageIndex) :
    Refused s (noteAbort (abortLength page : Exec δ α) s) :=
  refused_fault s _ _ fun _ => ⟨7, _, rfl⟩

theorem refused_abortBounds
    (s : Machine δ) (page : PageIndex) :
    Refused s (noteAbort (abortBounds page : Exec δ α) s) :=
  refused_fault s _ _ fun u => ⟨6, u.mmu.cpuerr, rfl⟩

/-- What is refused has not returned. -/
theorem not_refused_of_ok
    {s t : Machine δ} {a : α} :
    ¬ Refused s (.ok a t) := by
  rintro ⟨_, _, _, _, _, _, _, -, h⟩
  cases h

/-- What throws for an odd address has not trapped. -/
theorem not_refused_oddAbort
    {s u : Machine δ} {m : Exec δ α} {apf : BitVec 3} {number : Nat}
    (hm : m s = oddAbort apf number u)
    (hcounter : u.cpu.trapCounter = s.cpu.trapCounter) :
    ¬ Refused s (noteAbort m s) := by
  rintro ⟨_, _, _, v, _, _, _, htrap, h⟩
  rw [oddAbort_apply] at hm
  rw [noteAbort_of_error hm] at h
  have hcpu : u.cpu = v.cpu := congrArg (fun r => (final r).cpu) h
  have hcounted := trap_counted htrap
  change s.cpu.trapCounter < v.cpu.trapCounter at hcounted
  rw [← hcpu, hcounter] at hcounted
  exact absurd hcounted (Nat.lt_irrefl _)

end Refusals

section InputOutput

variable (a : Word) (wordMode : WordMode) (value : Word)

/-- No run of the program from `I` throws. -/
abbrev Returns {α : Type} (I : Machine δ → Prop) (m : Exec δ α) : Prop :=
  Triple I m (fun _ _ => True) (fun _ _ => False)

variable {I : Machine δ → Prop}

omit [UnibusDevices δ] in
theorem writeByteRegister_returns
    {write : Exec δ Bool} (h : writeByteRegister a value = some write) :
    Returns I write := by
  unfold writeByteRegister at h
  split_ifs at h <;> cases h <;> exact fun _ _ => trivial

omit [UnibusDevices δ] in
theorem writeWordRegister_returns
    {write : Exec δ Bool} (h : writeWordRegister a value = some write) :
    Returns I write := by
  rcases writeWordRegister_cases h with ⟨-, rfl⟩ | ⟨m, rfl, hm⟩
  · exact fun _ _ => trivial
  rcases hm with rfl | ⟨nr, rfl⟩ | ⟨runMode, rfl⟩ | rfl | rfl <;>
    exact fun _ _ => trivial

omit [UnibusDevices δ] in
theorem writeCommonRegister_returns
    {write : Exec δ Unit} (h : writeCommonRegister a value = some write) :
    Returns I write := by
  unfold writeCommonRegister at h
  split_ifs at h <;> cases h <;> exact fun _ _ => trivial

omit [UnibusDevices δ] in
theorem writeTail_returns
    {write : Exec δ Unit} (h : writeTail a value wordMode = some write) :
    Returns I write := by
  rcases writeTail_cases h with rfl | ⟨f, rfl, -⟩ | rfl <;>
    exact fun _ _ => trivial

theorem deviceWrite_returns
    (slot : Slot) :
    Returns I (deviceWrite slot a wordMode value) := by
  cases wordMode with
  | wmByte =>
      exact fun _ _ => trivial
  | wmWord =>
      exact fun _ _ => trivial

omit [UnibusDevices δ] in
theorem thenPure_returns
    {m : Exec δ Unit} (h : Returns I m) (b : Bool) :
    Returns I (do m; pure b) :=
  h.bind fun _ => .pure fun _ _ => trivial

/-- write_IO at an address that nothing answers at. -/
theorem writeIo_of_unanswered
    {s : Machine δ} (h : unanswered s a wordMode value) (page : BitVec 3) :
    writeIoVia trap a wordMode page value s =
      (if wordMode = .wmWord ∧ isOdd a then oddAbort page 8
      else do
        trap 0o4 none
        throwInt 9) (s.log (.writeIo a wordMode)) := by
  obtain ⟨hfirst, hcommon, hlfc, hdevice, htail⟩ := h
  cases wordMode with
  | wmByte =>
      change writeByteRegister a value = none at hfirst
      simp only [writeIoVia, hfirst, hcommon, htail, if_neg hlfc, logEvent,
        update_bind_apply, view_bind_apply, hdevice]
      rfl
  | wmWord =>
      change writeWordRegister a value = none at hfirst
      simp only [writeIoVia, hfirst, hcommon, htail, if_neg hlfc, logEvent,
        update_bind_apply, view_bind_apply, hdevice]
      rfl

/-- write_IO anywhere else. -/
theorem writeIo_of_answered
    {s : Machine δ} (h : ¬ unanswered s a wordMode value) (page : BitVec 3) :
    ∃ b t, writeIoVia trap a wordMode page value s = .ok b t := by
  have hreturns :
      Returns (fun u : Machine δ => u.attached = s.attached)
        (writeIoVia trap a wordMode page value) := by
    have hlog :
        Triple (fun u : Machine δ => u.attached = s.attached)
          (logEvent (.writeIo a wordMode))
          (fun _ u => u.attached = s.attached) (fun _ _ => False) :=
      .update fun _ hu => hu
    refine hlog.bind fun _ => ?_
    dsimp only
    split
    · next write hfirst =>
        cases wordMode with
        | wmByte =>
            exact writeByteRegister_returns a value hfirst
        | wmWord =>
            exact writeWordRegister_returns a value hfirst
    · next hfirst =>
        split
        · next write hcommon =>
            exact thenPure_returns
              (writeCommonRegister_returns a value hcommon) _
        · next hcommon =>
            refine .ite (fun _ => ?_) fun hlfc => .view_bind fun slot => ?_
            · exact thenPure_returns (deviceWrite_returns a .wmWord value _) _
            · cases slot with
              | some slot =>
                  exact thenPure_returns (deviceWrite_returns a _ value _) _
              | none =>
                  dsimp only
                  split
                  · next write htail =>
                      exact thenPure_returns
                        (writeTail_returns a wordMode value htail) _
                  · next htail =>
                      rintro u ⟨hattached, hslot⟩
                      rw [hattached] at hslot
                      exact absurd ⟨hfirst, hcommon, hlfc, hslot, htail⟩ h
  have hend := hreturns s rfl
  cases hr : writeIoVia trap a wordMode page value s with
  | ok b t =>
      exact ⟨b, t, rfl⟩
  | error e t =>
      rw [hr] at hend
      exact hend.elim

/-- A write of the I/O page is refused when nothing answers, unless it is one
of a word at an odd address. -/
theorem refused_writeIo_iff
    (s : Machine δ) (page : BitVec 3) :
    Refused s (noteAbort (writeIoVia trap a wordMode page value) s) ↔
      unanswered s a wordMode value ∧ ¬ (wordMode = .wmWord ∧ isOdd a) := by
  by_cases h : unanswered s a wordMode value
  · have hio := writeIo_of_unanswered a wordMode value h page
    by_cases hodd : wordMode = .wmWord ∧ isOdd a
    · rw [if_pos hodd] at hio
      exact iff_of_false (not_refused_oddAbort hio rfl) fun hn => hn.2 hodd
    · rw [if_neg hodd] at hio
      refine iff_of_true ?_ ⟨h, hodd⟩
      obtain ⟨u, hu⟩ := trap_returns 0o4 none (s.log (.writeIo a wordMode))
      rw [bind_of_ok hu] at hio
      refine ⟨0o4, s.mmu.mmr0, [.writeIo a wordMode], u, 9, u.mmu.cpuerr,
        [.aborted (decide (s.cpu.trapCounter < u.cpu.trapCounter))], ?_, ?_⟩
      · rw [setMMR0AsIs_mmr0]
        exact hu
      · exact noteAbort_of_error hio
  · obtain ⟨b, t, hio⟩ := writeIo_of_answered a wordMode value h page
    refine iff_of_false ?_ fun hn => h hn.1
    rw [noteAbort_of_ok hio]
    exact not_refused_of_ok

end InputOutput

section Writes

variable (s : Machine δ) (a : Word) (wordMode : WordMode) (value : Word)
variable (runMode : RunMode) (spaceIn : Space)

/-- A write that memory takes, or that throws for its odd address. -/
theorem not_refused_writeRam
    (p : PhysAddr) (page : PageIndex) (apf : BitVec 3) :
    ¬ Refused s (noteAbort (writeRam p page wordMode apf value) s) := by
  cases wordMode with
  | wmByte =>
      exact not_refused_of_ok
  | wmWord =>
      by_cases hodd : p &&& 1 ≠ 0
      · have habort :
            writeRam p page .wmWord apf value s =
              oddAbort apf 10 { s with mmu := s.mmu.setPageWrittenTo page } := by
          simp only [writeRam, modifyMmu_bind_apply]
          rw [if_pos hodd]
        exact not_refused_oddAbort habort rfl
      · have hok : ∃ t, writeRam p page .wmWord apf value s = .ok false t := by
          simp only [writeRam, modifyMmu_bind_apply]
          rw [if_neg hodd]
          exact ⟨_, rfl⟩
        obtain ⟨t, ht⟩ := hok
        rw [noteAbort_of_ok ht]
        exact not_refused_of_ok

/-- What refuses a write, by its target. -/
theorem refused_write_iff :
    Refused s (Bus.write a wordMode value runMode spaceIn s) ↔
      match s.target runMode a spaceIn with
      | .io r => unanswered s r wordMode value ∧
          ¬ (wordMode = .wmWord ∧ isOdd r)
      | .ram _ _ => False
      | _ => True := by
  rw [Bus.write_eq]
  cases s.target runMode a spaceIn with
  | accessFault page =>
      exact iff_of_true (refused_abortAccess s page) trivial
  | lengthFault page =>
      exact iff_of_true (refused_abortLength s page) trivial
  | boundsFault page =>
      exact iff_of_true (refused_abortBounds s page) trivial
  | io r =>
      exact refused_writeIo_iff r wordMode value s _
  | ram p page =>
      exact iff_of_false (not_refused_writeRam s wordMode value p page _) id

/-- With relocation enabled, a write through a page whose write entry is not
T_PROCEED is refused if and only if the read entry is not T_PROCEED either, or
the length check fails, or the address is past the memory, or nothing answers
in the I/O page, other than for a word at an odd address. -/
theorem protected_write_refused_iff
    (henabled : s.mmu.isEnabled = true) :
    (s.mmu.getTrapAction (s.mmu.referencePage runMode a spaceIn) true ≠
        .tProceed →
      Refused s (Bus.write a wordMode value runMode spaceIn s)) ↔
      (s.mmu.getTrapAction (s.mmu.referencePage runMode a spaceIn) true ≠
          .tProceed →
        s.mmu.getTrapAction (s.mmu.referencePage runMode a spaceIn) false ≠
            .tProceed ∨
          s.mmu.pageLengthFault a (s.mmu.referencePage runMode a spaceIn) =
            true ∨
          (∃ page, s.target runMode a spaceIn = .boundsFault page) ∨
          ∃ r, s.target runMode a spaceIn = .io r ∧
            unanswered s r wordMode value ∧
            ¬ (wordMode = .wmWord ∧ isOdd r)) := by
  refine imp_congr_right fun _ => (refused_write_iff s a wordMode value
    runMode spaceIn).trans ?_
  have htarget : s.target runMode a spaceIn =
      s.mmu.target s.ram.size runMode a spaceIn := rfl
  unfold Mmu.target at htarget
  dsimp only at htarget
  by_cases haccess : s.mmu.getTrapAction
      (s.mmu.referencePage runMode a spaceIn) false ≠ .tProceed
  · rw [if_pos ⟨henabled, haccess⟩] at htarget
    rw [htarget]
    exact iff_of_true trivial (Or.inl haccess)
  · rw [if_neg fun h => haccess h.2] at htarget
    by_cases hlength : s.mmu.pageLengthFault a
        (s.mmu.referencePage runMode a spaceIn) = true
    · rw [if_pos ⟨henabled, hlength⟩] at htarget
      rw [htarget]
      exact iff_of_true trivial (Or.inr (Or.inl hlength))
    · rw [if_neg fun h => hlength h.2] at htarget
      unfold Mmu.dispatch at htarget
      split_ifs at htarget <;> rw [htarget] <;>
        simp [haccess, hlength]

end Writes

section Examples

/-- A machine with relocation in which kernel page 0 has the given access
control field. -/
def pageZeroMachine (accessControl : Word) : Machine LineClock :=
  let s := bareMachine 0o20000 []
  let page := Page.zero.setPdr (0o77400 ||| accessControl)
  { s with
    mmu := { s.mmu with
      pages := Function.update s.mmu.pages 0 page }.setMMR0AsIs 1 }

/-- A write through a page that is not resident is refused. -/
theorem protected_write_refused_nonresident :
    (pageZeroMachine 0).mmu.isEnabled = true ∧
      Refused (pageZeroMachine 0)
        (Bus.write 0o100 .wmWord 7 0 .iSpace (pageZeroMachine 0)) :=
  ⟨by decide, (protected_write_refused_iff (pageZeroMachine 0) 0o100 .wmWord 7
    0 .iSpace (by decide)).mpr (fun _ => Or.inl (by decide)) (by decide)⟩

/-- A write through a read-only page changes memory. -/
theorem read_only_page_is_written :
    (pageZeroMachine 2).mmu.isEnabled = true ∧
      (pageZeroMachine 2).mmu.getTrapAction
        ((pageZeroMachine 2).mmu.referencePage 0 0o100 .iSpace) true ≠
          .tProceed ∧
      ¬ Refused (pageZeroMachine 2)
        (Bus.write 0o100 .wmWord 7 0 .iSpace (pageZeroMachine 2)) ∧
      (pageZeroMachine 2).ram.readWord 0o100 = 0 ∧
      (final (Bus.write 0o100 .wmWord 7 0 .iSpace
        (pageZeroMachine 2))).ram.readWord 0o100 = 7 := by
  refine ⟨by decide, by decide, ?_, by decide, by decide +kernel⟩
  have hreturned :
      returned (Bus.write 0o100 .wmWord 7 0 .iSpace (pageZeroMachine 2)) =
        true := by
    decide +kernel
  obtain ⟨b, hb⟩ := eq_ok_of_returned hreturned
  rw [hb]
  exact not_refused_of_ok

end Examples

end KekPdp11
