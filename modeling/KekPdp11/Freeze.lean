import KekPdp11.Watching
import KekPdp11.LineClock

/-!
# KEK PDP-11: the abort record in MMR0 to MMR2

An abort sets one of the bits 15 to 13 of MMR0.  From then on MMR0, MMR1 and
MMR2 are to keep what the first abort left there, until the guest writes MMR0
or the bus is reset.

**Reading the trace.**  `latched` finds in the trace what the first abort since
the last release left in the registers.  The invariant compares the registers
with it.

**The exception.**  trap_if_odd writes the page number field of MMR0 without a
look at the lock.  The invariant holds in the runs in which it is not called
while a record is held, and fails in others.
-/

namespace KekPdp11

open StateExcept

variable {δ : Type}

/-- What the first abort since the last release left, from the log. -/
def latched : List Event → Option Mmu
  | [] => none
  | .mmuFault _ m :: older => some ((latched older).getD m)
  | .writeIo a wordMode :: older =>
      if addressesMMR0 a wordMode then none else latched older
  | .busReset :: _ => none
  | .trapEntry _ _ :: older => latched older
  | .interrupt _ _ :: older => latched older
  | .oddAddress :: older => latched older
  | .readIo _ _ :: older => latched older
  | .aborted _ :: older => latched older

/-- trap_if_odd is not called while an abort is recorded. -/
def oddFree : List Event → Bool
  | [] => true
  | .oddAddress :: older => (latched older).isNone && oddFree older
  | .mmuFault _ _ :: older => oddFree older
  | .writeIo _ _ :: older => oddFree older
  | .busReset :: older => oddFree older
  | .trapEntry _ _ :: older => oddFree older
  | .interrupt _ _ :: older => oddFree older
  | .readIo _ _ :: older => oddFree older
  | .aborted _ :: older => oddFree older

/-- An abort is recorded and the three registers are those of the record. -/
structure Frozen (record m : Mmu) : Prop where
  locked : m.isLocked = true
  mmr0 : m.mmr0 = record.mmr0
  mmr1 : m.mmr1 = record.mmr1
  mmr2 : m.mmr2 = record.mmr2

theorem Frozen.of_eq
    {record m m' : Mmu} (h : Frozen record m)
    (h₀ : m'.mmr0 = m.mmr0) (h₁ : m'.mmr1 = m.mmr1) (h₂ : m'.mmr2 = m.mmr2) :
    Frozen record m' where
  locked := by
    have hl := h.locked
    unfold Mmu.isLocked at hl ⊢
    rw [h₀]
    exact hl
  mmr0 := h₀.trans h.mmr0
  mmr1 := h₁.trans h.mmr1
  mmr2 := h₂.trans h.mmr2

/-- The registers are those of the record that the log holds since `s₀`. -/
def KeepsRecord (s₀ s : Machine δ) : Prop :=
  ∃ new, s.trace = new ++ s₀.trace ∧
    (oddFree new = true → ∀ record, latched new = some record →
      Frozen record s.mmu)

theorem KeepsRecord.refl
    (s : Machine δ) :
    KeepsRecord s s :=
  ⟨[], rfl, fun _ _ h => by cases h⟩

namespace KeepsRecord

variable {s₀ s s' : Machine δ}

theorem log
    {e : Event} (h : KeepsRecord s₀ s)
    (htrace : s'.trace = e :: s.trace)
    (hnext : ∀ older, oddFree (e :: older) = true →
      (oddFree older = true → ∀ record, latched older = some record →
        Frozen record s.mmu) →
      ∀ record, latched (e :: older) = some record →
        Frozen record s'.mmu) :
    KeepsRecord s₀ s' := by
  obtain ⟨new, hnew, hr⟩ := h
  refine ⟨e :: new, by rw [htrace, hnew]; rfl, fun hodd => ?_⟩
  exact hnext new hodd hr

/-- Nothing is logged. -/
theorem silent
    (h : KeepsRecord s₀ s) (htrace : s'.trace = s.trace)
    (hnext : ∀ record, Frozen record s.mmu → Frozen record s'.mmu) :
    KeepsRecord s₀ s' := by
  obtain ⟨new, hnew, hr⟩ := h
  exact ⟨new, htrace.trans hnew, fun hodd record hl =>
    hnext record (hr hodd record hl)⟩

/-- An entry that is no abort, no release and no call of trap_if_odd. -/
theorem other
    {e : Event} (h : KeepsRecord s₀ s)
    (htrace : s'.trace = e :: s.trace)
    (hlatched : ∀ older, latched (e :: older) = latched older)
    (hodd : ∀ older, oddFree (e :: older) = oddFree older)
    (hnext : ∀ record, Frozen record s.mmu → Frozen record s'.mmu) :
    KeepsRecord s₀ s' := by
  refine h.log htrace fun older ho hr record hl => ?_
  rw [hlatched older] at hl
  exact hnext record (hr ((hodd older).symm.trans ho) record hl)

/-- A release. -/
theorem released
    {e : Event} (h : KeepsRecord s₀ s)
    (htrace : s'.trace = e :: s.trace)
    (hlatched : ∀ older, latched (e :: older) = none) :
    KeepsRecord s₀ s' := by
  refine h.log htrace fun older _ _ record hl => ?_
  rw [hlatched older] at hl
  cases hl

/-- A write_IO that does not go to MMR0 changes none of the registers. -/
theorem writeIo
    (h : KeepsRecord s₀ s) {a : Word} {wordMode : WordMode}
    (htrace : s'.trace = .writeIo a wordMode :: s.trace)
    (hnext : ∀ record, Frozen record s.mmu → Frozen record s'.mmu) :
    KeepsRecord s₀ s' := by
  refine h.log htrace fun older ho hr record hl => ?_
  unfold latched at hl
  split at hl
  · cases hl
  · exact hnext record (hr ho record hl)

/-- A fault is latched if nothing was, and changes nothing otherwise. -/
theorem fault
    (h : KeepsRecord s₀ s) {value : Word}
    (hvalue : value &&& 0o160000 ≠ 0) :
    KeepsRecord s₀ (s.faulted value) := by
  refine h.log rfl fun older ho hr record hl => ?_
  cases hold : latched older with
  | some first =>
      have hfrozen := hr ho first hold
      have hfirst : first = record := by
        simpa [latched, hold] using hl
      subst hfirst
      have hsame : s.mmu.latchMMR0 value = s.mmu := by
        unfold Mmu.latchMMR0
        rw [if_pos hfrozen.locked]
      change Frozen first (s.mmu.latchMMR0 value)
      rw [hsame]
      exact hfrozen
  | none =>
      have hrecord : s.mmu.latchMMR0 value = record := by
        simpa [latched, hold] using hl
      subst hrecord
      refine ⟨?_, rfl, rfl, rfl⟩
      change (s.mmu.latchMMR0 value).isLocked = true
      unfold Mmu.latchMMR0
      split
      · assumption
      · exact decide_eq_true hvalue

/-- trap_if_odd is harmless while nothing is recorded. -/
theorem odd
    (h : KeepsRecord s₀ s) (apf : BitVec 3) :
    KeepsRecord s₀ (s.oddNoted apf) := by
  refine h.log rfl fun older ho _ record hl => ?_
  have hnone : latched older = none := by
    simp only [oddFree, Bool.and_eq_true] at ho
    exact Option.isNone_iff_eq_none.mp ho.1
  rw [show latched (.oddAddress :: older) = latched older from rfl, hnone]
    at hl
  cases hl

end KeepsRecord

/-- MMRStartInstruction respects the lock. -/
theorem Frozen.start
    {record m : Mmu} (h : Frozen record m) (pc : Word) :
    Frozen record (m.mmrStartInstruction pc) := by
  have hsame : m.mmrStartInstruction pc = m := by
    unfold Mmu.mmrStartInstruction
    exact if_pos h.locked
  rw [hsame]
  exact h

theorem keepsRecord_rules
    (s₀ : Machine δ) :
    StepRules (KeepsRecord s₀) where
  frame s s' hw hs :=
    hs.silent (congrArg Watched.trace hw) fun record hf =>
      hf.of_eq (congrArg Watched.mmr0 hw) (congrArg Watched.mmr1 hw)
        (congrArg Watched.mmr2 hw)
  logReadIo _ _ _ hs :=
    hs.other rfl (fun _ => rfl) (fun _ => rfl) fun _ hf => hf
  logWriteIo _ _ _ hs := hs.writeIo rfl fun _ hf => hf
  writePSW _ _ _ _ _ hs := hs.writeIo rfl fun _ hf => hf
  writeMMR0 s a wordMode v ha hs := hs.released rfl fun _ => if_pos ha
  fault _ _ hvalue hs := hs.fault hvalue
  odd _ apf hs := hs.odd apf
  halt _ hs := hs.silent rfl fun _ hf => hf
  entry _ _ _ hs :=
    hs.other rfl (fun _ => rfl) (fun _ => rfl) fun _ hf => hf
  kernel _ hs := hs.silent rfl fun _ hf => hf
  load _ _ hs := hs.silent rfl fun _ hf => hf
  flag _ _ _ _ hs := hs.silent rfl fun _ hf => hf
  spl _ _ _ hs := hs.silent rfl fun _ hf => hf
  rti _ _ hs := hs.silent rfl fun _ hf => hf
  record s v hfree hs := hs.silent rfl fun _ hf =>
    absurd hf.locked (by simp [hfree])
  start _ pc hs := hs.silent rfl fun _ hf => hf.start pc
  reset s s' hw hs :=
    hs.released (congrArg Watched.trace hw) fun _ => rfl
  interrupt _ _ _ hs :=
    hs.other rfl (fun _ => rfl) (fun _ => rfl) fun _ hf => hf
  aborted _ _ hs :=
    hs.other rfl (fun _ => rfl) (fun _ => rfl) fun _ hf => hf

variable [UnibusDevices δ]

theorem keepsRecord_reaches
    {s t : Running δ} (h : Reaches s t) :
    KeepsRecord s.machine t.machine := by
  refine h.invariant (KeepsRecord.refl s.machine) (fun u hu => ?_)
    fun u u' hother hu => ?_
  · exact guards_final (keepsRecord_rules s.machine).step hu
  · cases hother with
    | devices devices =>
        exact hu
    | memory m =>
        exact hu
    | interrupts requests =>
        exact hu

/-- No step trips over the assertion that MMR1 is not locked, and in every run
in which trap_if_odd is not called while an abort is recorded, MMR0, MMR1 and
MMR2 keep what the first abort left there. -/
theorem abort_record_is_kept :
    (∀ s t : Machine δ, step s ≠ .error (.assertion .mmr1NotLocked) t) ∧
    (∀ (s : Machine δ) (t : Running δ) (new : List Event) (record : Mmu),
      Reaches ⟨s, false⟩ t →
      t.machine.trace = new ++ s.trace →
      oddFree new = true →
      latched new = some record →
      t.machine.mmu.mmr0 = record.mmr0 ∧
        t.machine.mmu.mmr1 = record.mmr1 ∧
        t.machine.mmu.mmr2 = record.mmr2) := by
  constructor
  · intro s t h
    exact ((keepsRecord_rules s).step.error (KeepsRecord.refl s) h).1 rfl
  · intro s t new record hreach hnew hodd hlatched
    obtain ⟨new', hnew', hr⟩ := keepsRecord_reaches hreach
    have heq : new' = new := List.append_cancel_right (hnew'.symm.trans hnew)
    subst heq
    have hf := hr hodd record hlatched
    exact ⟨hf.mmr0, hf.mmr1, hf.mmr2⟩

section Examples

/-- A kernel with page 1 missing, whose fault handler reads an odd address in
page 3. -/
def oddHandler : Machine LineClock :=
  let s := bareMachine 0o20000
    [(0o250, 0o2000), (0o252, 0o340),
     (0o1000, 0o13700), (0o1002, 0o20000), -- MOV @#20000,R0
     (0o2000, 0o13700), (0o2002, 0o60001)] -- MOV @#60001,R0
  let resident := Page.zero.setPdr 0o77406
  let pages := Function.update
    (Function.update s.mmu.pages 0 resident) 3 resident
  { s with
    cpu := { s.cpu with pc := 0o1000, sp := fun _ => 0o1000 }
    mmu := { s.mmu with pages := pages }.setMMR0AsIs 1 }

/-- The machine after the aborted instruction and after the next step. -/
def oddHandlerFaulted : Machine LineClock :=
  final (step oddHandler)

def oddHandlerOdd : Machine LineClock :=
  final (step oddHandlerFaulted)

theorem oddHandler_trace :
    oddHandler.trace = [] := by
  rfl

theorem oddHandlerFaulted_reached :
    Reaches ⟨oddHandler, false⟩ ⟨oddHandlerFaulted, false⟩ :=
  .tail .refl (.of_returned (by decide +kernel))

/-- The record of the fault, in the step that takes it. -/
theorem abort_record_is_kept_faulted :
    oddHandlerFaulted.mmu.mmr0 = 0o100003 ∧
      ∃ record, latched oddHandlerFaulted.trace = some record ∧
        oddHandlerFaulted.mmu.mmr0 = record.mmr0 ∧
        oddHandlerFaulted.mmu.mmr1 = record.mmr1 ∧
        oddHandlerFaulted.mmu.mmr2 = record.mmr2 := by
  have hsome : (latched oddHandlerFaulted.trace).isSome = true := by
    decide +kernel
  have hodd : oddFree oddHandlerFaulted.trace = true := by
    decide +kernel
  have hmmr0 : oddHandlerFaulted.mmu.mmr0 = 0o100003 := by
    decide +kernel
  have hreach := oddHandlerFaulted_reached
  -- only these four facts of the state are used
  generalize oddHandlerFaulted = t at hsome hodd hmmr0 hreach ⊢
  obtain ⟨record, hrecord⟩ := Option.isSome_iff_exists.mp hsome
  have hnew : t.trace = t.trace ++ oddHandler.trace := by
    rw [oddHandler_trace, List.append_nil]
  exact ⟨hmmr0, record, hrecord,
    abort_record_is_kept.2 oddHandler ⟨t, false⟩ t.trace record hreach hnew
      hodd hrecord⟩

/-- The odd address in the handler overwrites the page number of the fault. -/
theorem odd_address_overwrites_record :
    ∃ record,
      Reaches ⟨oddHandler, false⟩ ⟨oddHandlerOdd, false⟩ ∧
      latched oddHandlerOdd.trace = some record ∧
      oddHandlerOdd.mmu.mmr0 ≠ record.mmr0 := by
  have hsome : (latched oddHandlerOdd.trace).isSome = true := by
    decide +kernel
  have hmmr0 : (latched oddHandlerOdd.trace).map (·.mmr0) = some 0o100003 := by
    decide +kernel
  obtain ⟨record, hrecord⟩ := Option.isSome_iff_exists.mp hsome
  refine ⟨record, ?_, hrecord, ?_⟩
  · exact .tail oddHandlerFaulted_reached (.of_returned (by decide +kernel))
  · rw [hrecord] at hmmr0
    have hfirst : record.mmr0 = 0o100003 := by simpa using hmmr0
    rw [hfirst]
    decide +kernel

end Examples

end KekPdp11
