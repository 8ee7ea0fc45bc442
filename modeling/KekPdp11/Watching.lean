import KekPdp11.Lib.AppendLog
import KekPdp11.InstructionRules
import KekPdp11.TrapRecursion

/-!
# KEK PDP-11: invariants of the status word, the MMU records and the trace

Most of what execution does leaves alone the status word, MMR0 to MMR2, the
trap counter and the trace.  This module lists the places that do not, as the
fields of three structures, and shows that an invariant which passes them is
kept by every reference, every trap, every instruction and every step.

* `ReferenceRules`: what read_IO, write_IO and the abort paths do.
* `EntryRules`: what cpu::trap does.
* `ExecutionRules`: what instructions and the delivery of interrupts do.

Along the way no program trips over the assertion that MMR1 is not locked:
each caller of mmu::add_to_MMR1 tests the lock right before the call.
-/

namespace KekPdp11

open StateExcept

variable {δ : Type}

/-- The part of the state that the invariants of this module look at. -/
structure Watched where
  psw : Word
  trapCounter : Nat
  event : StopEvent
  mmr0 : Word
  mmr1 : Word
  mmr2 : Word
  trace : List Event

namespace Machine

def watched (s : Machine δ) : Watched where
  psw := s.cpu.psw
  trapCounter := s.cpu.trapCounter
  event := s.cpu.event
  mmr0 := s.mmu.mmr0
  mmr1 := s.mmu.mmr1
  mmr2 := s.mmu.mmr2
  trace := s.trace

def log (s : Machine δ) (e : Event) : Machine δ :=
  { s with trace := e :: s.trace }

/-- The state in which an MMU fault is logged. -/
def faulted (s : Machine δ) (value : Word) : Machine δ :=
  { s with
    mmu := s.mmu.latchMMR0 value
    trace := .mmuFault s.cpu (s.mmu.latchMMR0 value) :: s.trace }

/-- The state after trap_if_odd. -/
def oddNoted (s : Machine δ) (apf : BitVec 3) : Machine δ :=
  { s with
    mmu := s.mmu.trapIfOdd apf
    trace := .oddAddress :: s.trace }

/-- A change of the status word alone. -/
def withPSW (s : Machine δ) (f : Cpu → Cpu) : Machine δ :=
  { s with cpu := f s.cpu }

end Machine

theorem oddAbort_apply
    {α : Type} (apf : BitVec 3) (number : Nat) (s : Machine δ) :
    (oddAbort apf number : Exec δ α) s =
      .error (.exception number) (s.oddNoted apf) := by
  rfl

/-- A write_IO that changes the status word. -/
def addressesPSW (a : Word) (wordMode : WordMode) : Prop :=
  a = addrPsw ∨ (a = addrPsw + 1 ∧ wordMode = .wmByte)

/-- A write_IO that changes MMR0. -/
def addressesMMR0 (a : Word) (wordMode : WordMode) : Prop :=
  a = addrMmr0 ∨ (a = addrMmr0 + 1 ∧ wordMode = .wmByte)

instance (a : Word) (wordMode : WordMode) :
    Decidable (addressesMMR0 a wordMode) :=
  inferInstanceAs (Decidable (_ ∨ _))

/-- How a guarded program ends if it throws. -/
def Ends (I : Machine δ → Prop) (e : Stop) (s : Machine δ) : Prop :=
  e ≠ .assertion .mmr1NotLocked ∧ I s

/-- The program keeps `I` and never finds MMR1 locked in mmu::add_to_MMR1. -/
abbrev Guards {α : Type} (I : Machine δ → Prop) (m : Exec δ α) : Prop :=
  Triple I m (fun _ => I) (Ends I)

section LockBits

theorem locked_of_bit
    {v : Word} (i : Nat) (hi : 13 ≤ i) (hv : v.getLsbD i = true) :
    v &&& 0o160000 ≠ 0 := by
  intro h
  have hlt : i < 16 := by
    by_contra hge
    rw [BitVec.getLsbD_of_ge _ _ (by omega)] at hv
    cases hv
  have hbit := congrArg (fun x : Word => x.getLsbD i) h
  simp only [BitVec.getLsbD_and, hv, Bool.true_and] at hbit
  interval_cases i <;> simp at hbit

/-- A refused access is recorded in the lock bits. -/
theorem accessAbortMMR0_locked
    (mmr0 : Word) (page : PageIndex) {isWrite : Bool}
    {accessControl : BitVec 3}
    (h : Mmu.trapActionTable accessControl isWrite ≠ .tProceed) :
    Mmu.accessAbortMMR0 mmr0 page isWrite accessControl &&& 0o160000 ≠ 0 := by
  have hcases : ∀ c : BitVec 3,
      c = 0 ∨ c = 1 ∨ c = 2 ∨ c = 3 ∨ c = 4 ∨ c = 5 ∨ c = 6 ∨ c = 7 := by
    decide
  rcases hcases accessControl with
    rfl | rfl | rfl | rfl | rfl | rfl | rfl | rfl
  · refine locked_of_bit 15 (by omega) ?_
    cases isWrite <;> simp [Mmu.accessAbortMMR0]
  · refine locked_of_bit 13 (by omega) ?_
    cases isWrite <;> simp [Mmu.accessAbortMMR0]
  · refine locked_of_bit 13 (by omega) ?_
    cases isWrite <;> simp [Mmu.accessAbortMMR0]
  · refine locked_of_bit 15 (by omega) ?_
    cases isWrite <;> simp [Mmu.accessAbortMMR0]
  · refine locked_of_bit 15 (by omega) ?_
    cases isWrite <;> simp [Mmu.accessAbortMMR0]
  · cases isWrite with
    | false =>
        exact absurd rfl h
    | true =>
        refine locked_of_bit 13 (by omega) ?_
        simp [Mmu.accessAbortMMR0]
  · cases isWrite <;> exact absurd rfl h
  · refine locked_of_bit 15 (by omega) ?_
    cases isWrite <;> simp [Mmu.accessAbortMMR0]

theorem lengthAbortMMR0_locked
    (mmr0 : Word) (page : PageIndex) :
    Mmu.lengthAbortMMR0 mmr0 page &&& 0o160000 ≠ 0 := by
  refine locked_of_bit 14 (by omega) ?_
  simp [Mmu.lengthAbortMMR0, Mmu.explodePageIndex]

theorem boundsAbortMMR0_locked
    (mmr0 : Word) (page : PageIndex) :
    Mmu.boundsAbortMMR0 mmr0 page &&& 0o160000 ≠ 0 := by
  refine locked_of_bit 15 (by omega) ?_
  simp [Mmu.boundsAbortMMR0, Mmu.explodePageIndex]

end LockBits

section Rules

/-- What references do to the watched part of the state. -/
structure ReferenceRules (I : Machine δ → Prop) : Prop where
  frame : ∀ s s' : Machine δ, s'.watched = s.watched → I s → I s'
  logReadIo : ∀ s a wordMode, I s → I (s.log (.readIo a wordMode))
  logWriteIo : ∀ s a wordMode, I s → I (s.log (.writeIo a wordMode))
  writePSW : ∀ s a wordMode v, addressesPSW a wordMode → I s →
    I ((s.log (.writeIo a wordMode)).withPSW fun c => c.setPSW v false)
  writeMMR0 : ∀ s a wordMode v, addressesMMR0 a wordMode → I s →
    I { s.log (.writeIo a wordMode) with mmu := s.mmu.setMMR0 v }
  fault : ∀ s value, value &&& 0o160000 ≠ 0 → I s → I (s.faulted value)
  odd : ∀ s apf, I s → I (s.oddNoted apf)
  halt : ∀ s, I s → I (s.withPSW fun c => { c with event := .eventHalt })

/-- What cpu::trap itself does to it. -/
structure EntryRules (I : Machine δ → Prop) : Prop where
  entry : ∀ s vector newIpl, I s → I (atTrapLevel s vector newIpl)
  kernel : ∀ s, I s →
    I (s.withPSW fun c => { c with psw := c.psw &&& 0o37777 })
  load : ∀ s v, I s → I (s.withPSW fun c => c.setPSW v false)

/-- What instructions and the delivery of interrupts do to it. -/
structure ExecutionRules (I : Machine δ → Prop) : Prop where
  flag : ∀ s bit v, bit < 4 → I s → I (s.withPSW fun c => c.setBitPSW bit v)
  spl : ∀ s v, s.cpu.getPSWRunmode = 0 → I s →
    I (s.withPSW fun c => c.setPSWspl v)
  rti : ∀ s v, I s →
    I (s.withPSW fun c => c.setPSW v (decide (s.cpu.getPSWRunmode ≠ 0)))
  record : ∀ s v, s.mmu.isLocked = false → I s →
    I { s with mmu := s.mmu.setMMR1 v }
  start : ∀ s pc, I s → I { s with mmu := s.mmu.mmrStartInstruction pc }
  reset : ∀ s s' : Machine δ,
    s'.watched =
      { s.watched with
        mmr0 := 0, mmr1 := 0, mmr2 := 0, trace := .busReset :: s.trace } →
    I s → I s'
  interrupt : ∀ s level vector, I s → I (s.log (.interrupt level vector))

/-- write_IO has just been entered from a state of `I`. -/
def JustLogged (I : Machine δ → Prop) (a : Word) (wordMode : WordMode)
    (s : Machine δ) : Prop :=
  ∃ u, I u ∧ s = u.log (.writeIo a wordMode)

/-- References that call `t` keep `I`. -/
structure Referring [UnibusDevices δ] (I : Machine δ → Prop)
    (t : TrapCall δ) : Prop where
  read : ∀ addrIn wordMode runMode spaceIn,
    Guards I (Bus.readVia t addrIn wordMode runMode spaceIn)
  write : ∀ addrIn wordMode value runMode spaceIn,
    Guards I (Bus.writeVia t addrIn wordMode value runMode spaceIn)

end Rules

section Guards

variable {I : Machine δ → Prop} {α β : Type}

/-- Whichever way it ends, a guarded program ends in `I`. -/
theorem guards_final
    {m : Exec δ α} (h : Guards I m) {s : Machine δ} (hs : I s) :
    I (final (m s)) := by
  have hend := h s hs
  cases hm : m s with
  | ok a t =>
      rw [hm] at hend
      exact hend
  | error e t =>
      rw [hm] at hend
      exact hend.2

theorem guards_pure
    (a : α) :
    Guards I (pure a : Exec δ α) :=
  .pure fun _ hs => hs

theorem guards_view
    (f : Machine δ → α) :
    Guards I (view f) :=
  .view fun _ hs => hs

theorem guards_update
    {f : Machine δ → Machine δ} (hf : ∀ s, I s → I (f s)) :
    Guards I (update f) :=
  .update hf

theorem guards_throwInt
    (number : Nat) :
    Guards I (throwInt number : Exec δ α) :=
  .raise fun _ hs => ⟨by simp, hs⟩

theorem guards_onlyIf
    (c : Bool) {m : Exec δ Unit} (h : Guards I m) :
    Guards I (onlyIf c m) :=
  .ite (fun _ => h) fun _ => guards_pure ()

theorem guards_thenPure
    {m : Exec δ Unit} (h : Guards I m) (b : β) :
    Guards I (do m; pure b) :=
  h.bind fun _ => guards_pure b

/-- A handler that keeps `I` as well. -/
theorem guards_catchInt
    {body : Exec δ α} {handler : Nat → Exec δ α}
    (hbody : Guards I body) (hhandler : ∀ number, Guards I (handler number)) :
    Guards I (catchInt body handler) := by
  refine hbody.rescue ?_ fun _ _ _ he => he
  intro e number _
  exact (hhandler number).strengthen_pre fun _ he => he.2

theorem guards_noteAbort
    {m : Exec δ α} (h : Guards I m)
    (haborted : ∀ s b, I s → I (s.log (.aborted b))) :
    Guards I (noteAbort m) := by
  intro s hs
  have hr := h s hs
  unfold noteAbort
  cases hm : m s with
  | ok a t =>
      rw [hm] at hr
      exact hr
  | error e t =>
      rw [hm] at hr
      exact ⟨hr.1, haborted t _ hr.2⟩

end Guards

namespace ReferenceRules

variable {I : Machine δ → Prop} (R : ReferenceRules I)
variable {t : TrapCall δ} (ht : ∀ vector newIpl, Guards I (t vector newIpl))
variable {α β : Type}

include R

theorem update
    {f : Machine δ → Machine δ} (hf : ∀ s, (f s).watched = s.watched) :
    Guards I (update f) :=
  .update fun s hs => R.frame s (f s) (hf s) hs

theorem modifyCpu
    {f : Cpu → Cpu} (hpsw : ∀ c, (f c).psw = c.psw)
    (hcounter : ∀ c, (f c).trapCounter = c.trapCounter)
    (hevent : ∀ c, (f c).event = c.event) :
    Guards I (modifyCpu f) :=
  R.update fun s => by
    simp only [Machine.watched, hpsw, hcounter, hevent]

theorem setRegister
    (nr : RegNr) (value : Word) :
    Guards I (setRegister nr value) :=
  R.modifyCpu (fun c => c.setRegister_psw nr value)
    (fun c => c.setRegister_trapCounter nr value)
    fun c => c.setRegister_event nr value

theorem addRegister
    (nr : RegNr) (value : Word) :
    Guards I (addRegister nr value) := by
  refine Triple.bind (R.modifyCpu (fun c => c.setRegister_psw nr _)
    (fun c => c.setRegister_trapCounter nr _)
    fun c => c.setRegister_event nr _) fun _ => guards_view _

theorem modifyMmu
    {f : Mmu → Mmu} (h₀ : ∀ m, (f m).mmr0 = m.mmr0)
    (h₁ : ∀ m, (f m).mmr1 = m.mmr1) (h₂ : ∀ m, (f m).mmr2 = m.mmr2) :
    Guards I (modifyMmu f) :=
  R.update fun s => by
    simp only [Machine.watched, h₀, h₁, h₂]

theorem setCPUERRBit
    (bit : Nat) :
    Guards I (KekPdp11.modifyMmu fun m => m.setCPUERRBit bit) :=
  R.modifyMmu (fun _ => rfl) (fun _ => rfl) fun _ => rfl

theorem setPageAccessed
    (page : PageIndex) :
    Guards I (KekPdp11.modifyMmu fun m => m.setPageAccessed page) :=
  R.modifyMmu (fun _ => rfl) (fun _ => rfl) fun _ => rfl

theorem setPageWrittenTo
    (page : PageIndex) :
    Guards I (KekPdp11.modifyMmu fun m => m.setPageWrittenTo page) :=
  R.modifyMmu (fun _ => rfl) (fun _ => rfl) fun _ => rfl

theorem oddAbort
    (apf : BitVec 3) (number : Nat) :
    Guards I (oddAbort apf number : Exec δ α) := by
  intro s hs
  exact guards_throwInt number _ (R.odd s apf hs)

include ht

/-- A fault is latched and trapped; the rest keeps `I`. -/
theorem latchAndTrap
    {s : Machine δ} (value : Mmu → Word)
    (hvalue : value s.mmu &&& 0o160000 ≠ 0) {k : Exec δ α}
    (hk : Guards I k) (hs : I s) :
    After (fun _ => I) (Ends I)
      ((do
        KekPdp11.modifyMmu fun m => m.latchMMR0 (value m)
        mmuTrapVia t
        k) s) :=
  (ht 0o250 none).bind (fun _ => hk) _ (R.fault s _ hvalue hs)

theorem verifyPageAccess
    (page : PageIndex) (isWrite : Bool) :
    Guards I (verifyPageAccessVia t page isWrite) := by
  refine .view_bind fun action => .ite (fun _ => ?_) fun haction => ?_
  · exact .pure fun _ hs => hs.1
  · rintro s ⟨hs, rfl⟩
    refine R.latchAndTrap ht _ (accessAbortMMR0_locked _ _ haction) ?_ hs
    exact (R.setCPUERRBit 10).bind fun _ => guards_throwInt 5

theorem verifyPageLength
    (virtAddr : Word) (page : PageIndex) :
    Guards I (verifyPageLengthVia t virtAddr page) := by
  refine .view_bind_any fun fault => .ite (fun _ => ?_) fun _ => ?_
  · intro s hs
    refine R.latchAndTrap ht _ (lengthAbortMMR0_locked _ _) ?_ hs
    exact (R.setCPUERRBit 10).bind fun _ => guards_throwInt 7
  · exact guards_pure ()

theorem calculatePhysicalAddress
    (runMode : RunMode) (a : Word) (isWrite : Bool) (space : Space) :
    Guards I (calculatePhysicalAddressVia t runMode a isWrite space) := by
  refine .view_bind_any fun relocated => .ite (fun _ => ?_) fun _ => ?_
  · refine .view_bind_any fun mOffset => ?_
    refine (R.verifyPageAccess ht _ _).bind fun _ => ?_
    exact (R.verifyPageLength ht _ _).bind fun _ => guards_pure _
  · exact guards_pure _

theorem verifyPointerBounds
    (mOffset : PhysAddr) (page : PageIndex) :
    Guards I (verifyPointerBoundsVia t mOffset page) := by
  refine .view_bind_any fun size => .ite (fun _ => ?_) fun _ => ?_
  · intro s hs
    exact R.latchAndTrap ht _ (boundsAbortMMR0_locked _ _) (guards_throwInt 6)
      hs
  · exact guards_pure ()

omit ht

theorem takeReply
    (r : DeviceReply δ α) :
    Guards I (takeReply r) :=
  (R.update fun s => by simp [Machine.watched]).bind fun _ => guards_pure _

theorem writeByteRegister
    (a value : Word) {write : Exec δ Bool}
    (h : writeByteRegister a value = some write) :
    Triple (JustLogged I a .wmByte) write (fun _ => I) (Ends I) := by
  rintro _ ⟨s, hs, rfl⟩
  have hlog := R.logWriteIo s a .wmByte hs
  unfold KekPdp11.writeByteRegister at h
  split_ifs at h with hpsw hlim hbreak hmmr0 <;> cases h
  · exact R.writePSW s a .wmByte _ (hpsw.imp_right fun h => ⟨h, rfl⟩) hs
  · refine guards_thenPure ?_ _ _ hlog
    exact R.modifyCpu (fun _ => rfl) (fun _ => rfl) fun _ => rfl
  · refine guards_thenPure ?_ _ _ hlog
    exact R.update fun _ => rfl
  · exact R.writeMMR0 s a .wmByte _ (hmmr0.imp_right fun h => ⟨h, rfl⟩) hs

theorem writeWordRegister
    (a value : Word) {write : Exec δ Bool}
    (h : writeWordRegister a value = some write) :
    Triple (JustLogged I a .wmWord) write (fun _ => I) (Ends I) := by
  rintro _ ⟨s, hs, rfl⟩
  have hlog := R.logWriteIo s a .wmWord hs
  rcases writeWordRegister_cases h with ⟨hpsw, rfl⟩ | ⟨m, rfl, hm⟩
  · exact R.writePSW s a .wmWord _ (Or.inl hpsw) hs
  refine guards_thenPure ?_ _ _ hlog
  rcases hm with rfl | ⟨nr, rfl⟩ | ⟨runMode, rfl⟩ | rfl | rfl
  · exact R.modifyCpu (fun _ => rfl) (fun _ => rfl) fun _ => rfl
  · exact R.setRegister nr value
  · exact R.modifyCpu (fun _ => rfl) (fun _ => rfl) fun _ => rfl
  · exact R.modifyCpu (fun _ => rfl) (fun _ => rfl) fun _ => rfl
  · exact R.update fun _ => rfl

theorem writeCommonRegister
    (a value : Word) (wordMode : WordMode) {write : Exec δ Unit}
    (h : writeCommonRegister a value = some write) :
    Triple (JustLogged I a wordMode) write (fun _ => I) (Ends I) := by
  rintro _ ⟨s, hs, rfl⟩
  have hlog := R.logWriteIo s a wordMode hs
  unfold KekPdp11.writeCommonRegister at h
  split_ifs at h with hcpuerr hmmr3 hmmr0 <;> cases h
  · exact R.frame _ _ (by rfl) hlog
  · exact R.frame _ _ (by rfl) hlog
  · exact R.writeMMR0 s a wordMode _ (Or.inl hmmr0) hs
  · exact R.frame _ _ (by rfl) hlog

theorem writeTail
    (a value : Word) (wordMode : WordMode) {write : Exec δ Unit}
    (h : writeTail a value wordMode = some write) :
    Guards I write := by
  rcases writeTail_cases h with rfl | ⟨f, rfl, hf⟩ | rfl
  · exact guards_pure ()
  · refine R.update fun s => ?_
    obtain ⟨pages, hp⟩ := hf s.mmu
    simp only [hp, Machine.watched]
  · exact R.update fun _ => rfl

section Devices

variable [UnibusDevices δ]

theorem deviceRead
    (slot : Slot) (a : Word) (wordMode : WordMode) :
    Guards I (deviceRead slot a wordMode) := by
  cases wordMode with
  | wmByte =>
      refine Triple.bind (.view_bind_any fun r => R.takeReply r) fun v => ?_
      exact guards_pure _
  | wmWord =>
      exact .view_bind_any fun r => R.takeReply r

theorem deviceWrite
    (slot : Slot) (a : Word) (wordMode : WordMode) (value : Word) :
    Guards I (deviceWrite slot a wordMode value) := by
  cases wordMode with
  | wmByte =>
      exact .view_bind_any fun e => R.update fun s => by simp [Machine.watched]
  | wmWord =>
      exact .view_bind_any fun e => R.update fun s => by simp [Machine.watched]

theorem readIo
    (ht : ∀ vector newIpl, Guards I (t vector newIpl))
    (a : Word) (wordMode : WordMode) (apf : BitVec 3) :
    Guards I (readIoVia t a wordMode apf) := by
  have hlog : Guards I (logEvent (.readIo a wordMode)) :=
    .update fun s hs => R.logReadIo s a wordMode hs
  refine hlog.bind fun _ => .view_bind_any fun register => ?_
  cases register with
  | some v =>
      exact guards_pure _
  | none =>
      refine .ite (fun _ => R.oddAbort _ _) fun _ =>
        .ite (fun _ => guards_view _) fun _ =>
        .ite (fun _ => guards_pure _) fun _ =>
        .ite (fun _ => guards_view _) fun _ =>
        .ite (fun _ => guards_view _) fun _ =>
        .ite (fun _ => guards_pure _) fun _ =>
        .ite (fun _ => R.deviceRead _ _ .wmWord) fun _ =>
        .ite (fun _ => guards_pure _) fun _ =>
        .ite (fun _ => guards_view _) fun _ =>
        .ite (fun _ => guards_pure _) fun _ =>
        .ite (fun _ => guards_pure _) fun _ =>
        .ite (fun _ => guards_pure _) fun _ => ?_
      refine .view_bind_any fun plain => ?_
      cases plain with
      | some v =>
          exact guards_pure v
      | none =>
          refine .view_bind_any fun slot => ?_
          cases slot with
          | some slot =>
              exact R.deviceRead slot a wordMode
          | none =>
              refine .view_bind_any fun size => .ite (fun _ => guards_pure _)
                fun _ => .ite (fun _ => guards_pure _) fun _ => ?_
              exact (ht _ _).bind fun _ => guards_throwInt 1

theorem writeIo
    (ht : ∀ vector newIpl, Guards I (t vector newIpl))
    (a : Word) (wordMode : WordMode) (page : BitVec 3) (value : Word) :
    Guards I (writeIoVia t a wordMode page value) := by
  have hlog : Triple I (logEvent (.writeIo a wordMode))
      (fun _ => JustLogged I a wordMode) (Ends I) :=
    .update fun s hs => ⟨s, hs, rfl⟩
  have hlogged : ∀ s, JustLogged I a wordMode s → I s := by
    rintro _ ⟨s, hs, rfl⟩
    exact R.logWriteIo s a wordMode hs
  refine hlog.bind fun _ => ?_
  dsimp only
  split
  · next write hfirst =>
      cases wordMode with
      | wmByte =>
          exact R.writeByteRegister a value hfirst
      | wmWord =>
          exact R.writeWordRegister a value hfirst
  · split
    · next write hcommon =>
        exact (R.writeCommonRegister a value wordMode hcommon).bind
          fun _ => guards_pure _
    · refine Triple.strengthen_pre ?_ hlogged
      refine .ite (fun _ => guards_thenPure (R.deviceWrite _ _ .wmWord _) _)
        fun _ => .view_bind_any fun slot => ?_
      cases slot with
      | some slot =>
          exact guards_thenPure (R.deviceWrite _ _ _ _) _
      | none =>
          dsimp only
          split
          · next write htail =>
              exact guards_thenPure (R.writeTail a value wordMode htail) _
          · refine .ite (fun _ => R.oddAbort _ _) fun _ => ?_
            exact (ht _ _).bind fun _ => guards_throwInt 9

theorem readAt
    (ht : ∀ vector newIpl, Guards I (t vector newIpl))
    (addrIn : Word) (wordMode : WordMode) (mOffset : PhysAddr)
    (page : PageIndex) :
    Guards I (Bus.readAtVia t addrIn wordMode mOffset page) := by
  refine .view_bind_any fun ioBase => .ite (fun _ => R.readIo ht _ _ _)
    fun _ => (R.verifyPointerBounds ht _ _).bind fun _ => ?_
  refine (R.setPageAccessed page).bind fun _ => ?_
  cases wordMode with
  | wmByte =>
      exact guards_view _
  | wmWord =>
      exact .ite (fun _ => R.oddAbort _ _) fun _ => guards_view _

theorem writeAt
    (ht : ∀ vector newIpl, Guards I (t vector newIpl))
    (addrIn : Word) (wordMode : WordMode) (value : Word)
    (mOffset : PhysAddr) (page : PageIndex) :
    Guards I (Bus.writeAtVia t addrIn wordMode value mOffset page) := by
  refine .view_bind_any fun ioBase => .ite (fun _ => R.writeIo ht _ _ _ _)
    fun _ => (R.verifyPointerBounds ht _ _).bind fun _ => ?_
  refine (R.setPageWrittenTo page).bind fun _ => ?_
  cases wordMode with
  | wmByte =>
      exact guards_thenPure (R.update fun _ => by rfl) _
  | wmWord =>
      refine .ite (fun _ => R.oddAbort _ _) fun _ => ?_
      exact guards_thenPure (R.update fun _ => by rfl) _

/-- Abort notes included, references keep what passes these rules. -/
theorem referring
    (ht : ∀ vector newIpl, Guards I (t vector newIpl))
    (haborted : ∀ s b, I s → I (s.log (.aborted b))) :
    Referring I t where
  read addrIn wordMode runMode spaceIn := by
    refine guards_noteAbort (.view_bind_any fun space => ?_) haborted
    refine (R.calculatePhysicalAddress ht _ _ _ _).bind fun target => ?_
    exact R.readAt ht _ _ _ _
  write addrIn wordMode value runMode spaceIn := by
    refine guards_noteAbort (.view_bind_any fun space => ?_) haborted
    refine (R.calculatePhysicalAddress ht _ _ _ _).bind fun target => ?_
    exact R.writeAt ht _ _ _ _ _

end Devices

end ReferenceRules

section TrapEntry

variable [UnibusDevices δ] {I : Machine δ → Prop} {t : TrapCall δ}
variable (R : ReferenceRules I) (F : Referring I t)
variable (ht : ∀ vector newIpl, Guards I (t vector newIpl))

include F

theorem Referring.readWord
    (a : Word) (s : Space) :
    Guards I (Bus.readWordVia t a s) :=
  .view_bind_any fun _ => F.read _ _ _ _

include R

theorem Referring.storeOnStack
    (v : Word) :
    Guards I (storeOnStackVia t v) := by
  refine (R.addRegister _ _).bind fun a => .view_bind_any fun _ => ?_
  exact (F.write _ _ _ _ _).bind fun _ => guards_pure ()

theorem Referring.popStack :
    Guards I (popStackVia t) := by
  refine .view_bind_any fun a => (F.readWord _ _).bind fun temp => ?_
  exact (R.addRegister _ _).bind fun _ => guards_pure _

include ht

theorem Referring.pushStack
    (v : Word) :
    Guards I (pushStackVia t v) := by
  refine .view_bind_any fun _ => .view_bind_any fun _ =>
    .view_bind_any fun _ => .ite (fun _ => .ite (fun _ => ?_) fun _ => ?_)
      fun _ => F.storeOnStack R v
  · refine (F.storeOnStack R v).bind fun _ => ?_
    refine Triple.bind ?_ fun _ => R.setCPUERRBit 14
    exact R.modifyCpu (fun _ => rfl) (fun _ => rfl) fun _ => rfl
  · refine (R.setRegister _ _).bind fun _ => (ht _ _).bind fun _ => ?_
    refine Triple.bind ?_ fun _ => R.setCPUERRBit 15
    exact R.modifyCpu (fun _ => rfl) (fun _ => rfl) fun _ => rfl

variable (T : EntryRules I)

include T

/-- The invariant is only needed once the trap has been entered. -/
theorem Referring.entered
    (vector : Word) (newIpl : Option Level) {s : Machine δ}
    (hs : I (atTrapLevel s vector newIpl)) :
    After (fun _ => I) (Ends I) (trapVia t vector newIpl s) := by
  have hload : ∀ vector beforePsw,
      Guards I (loadVectorVia t vector beforePsw newIpl) := by
    intro vector beforePsw
    have hkernel : Guards I
        (modifyCpu fun c => { c with psw := c.psw &&& 0o37777 }) :=
      .update fun s hs => T.kernel s hs
    refine hkernel.bind fun _ => .view_bind_any fun space => ?_
    refine (F.readWord _ _).bind fun newPC => ?_
    refine Triple.bind (R.modifyCpu (fun _ => rfl) (fun _ => rfl) fun _ => rfl)
      fun _ => ?_
    refine (F.readWord _ _).bind fun vectorPsw => ?_
    exact .update fun s hs => T.load s _ hs
  have henter : ∀ vector kernelMode,
      Guards I (enterTrapVia t vector newIpl kernelMode) := by
    intro vector kernelMode
    refine .view_bind_any fun beforePsw => .view_bind_any fun beforePC => ?_
    refine guards_catchInt ?_ fun _ => .update fun s hs => T.load s _ hs
    refine (hload _ _).bind fun _ => .view_bind_any fun depth => ?_
    refine (guards_onlyIf _ (R.setRegister _ _)).bind fun _ => ?_
    refine Triple.bind (.view_bind_any fun prevSp => ?_) fun _ =>
      R.modifyCpu (fun _ => rfl) (fun _ => rfl) fun _ => rfl
    refine guards_catchInt ?_ fun _ => R.setRegister _ _
    exact (F.pushStack R ht _).bind fun _ => F.pushStack R ht _
  rcases Nat.lt_trichotomy s.cpu.processingTrapDepth 1 with h | h | h
  · rw [trapVia_of_first t vector newIpl (by omega)]
    exact henter _ _ _ hs
  · rw [trapVia_of_nested t vector newIpl h]
    exact (R.setRegister 6 4).bind (fun _ => henter _ _) _ hs
  · rw [trapVia_of_deep t vector newIpl h]
    exact R.halt _ hs

theorem Referring.trap
    (vector : Word) (newIpl : Option Level) :
    Guards I (trapVia t vector newIpl) :=
  fun s hs => F.entered R ht T vector newIpl (T.entry s vector newIpl hs)

end TrapEntry

section Closed

variable [UnibusDevices δ] {I : Machine δ → Prop}

/-- The recursion between traps and references keeps what one round keeps. -/
theorem trap_guards
    (R : ReferenceRules I) (T : EntryRules I)
    (F : ∀ t : TrapCall δ, (∀ vector newIpl, Guards I (t vector newIpl)) →
      Referring I t)
    (vector : Word) (newIpl : Option Level) :
    Guards I (trap vector newIpl) := by
  have h : ∀ n vector newIpl,
      Guards I (trapFuel n vector newIpl : Exec δ Unit) := by
    intro n
    induction n with
    | zero =>
        exact fun _ _ => .raise fun _ hs => ⟨by simp, hs⟩
    | succ n ih =>
        exact (F _ ih).trap R ih T
  exact h 3 vector newIpl

end Closed

section Execution

variable {I : Machine δ → Prop}

theorem ExecutionRules.addToMMR1
    (X : ExecutionRules I) (reg : RegNr) {delta : Int}
    (hdelta : -2 ≤ delta ∧ delta ≤ 2) :
    Guards I (addToMMR1 reg delta) := by
  intro s hs
  rw [addToMMR1_apply reg s hdelta]
  change I _
  split
  · exact hs
  · next hlock =>
      exact X.record s _ (by simpa using hlock) hs

theorem ExecutionRules.setPSWFlagsNzv
    (X : ExecutionRules I) (value : Word) (wordMode : WordMode) :
    Guards I (setPSWFlagsNzv value wordMode) :=
  .update fun s hs =>
    X.flag _ 1 _ (by omega) (X.flag _ 2 _ (by omega)
      (X.flag s 3 _ (by omega) hs))

variable [UnibusDevices δ]
variable (R : ReferenceRules I) (X : ExecutionRules I)
variable (F : Referring I (trap : TrapCall δ))

section Operands

include R X F

theorem gamAddress_guards
    (mode reg : RegNr) (wordMode : WordMode) (runMode : RunMode) :
    Guards I (gamAddress mode reg wordMode runMode) := by
  unfold gamAddress
  dsimp only
  split
  · exact .view_bind_any fun addr => guards_pure _
  · refine .view_bind_any fun addr => (R.addRegister _ _).bind fun _ => ?_
    exact (X.addToMMR1 _ (autoDelta_range _ _)).bind fun _ => guards_pure _
  · refine .view_bind_any fun pointer => (F.read _ _ _ _).bind fun addr => ?_
    refine (X.addToMMR1 _ (by omega)).bind fun _ => ?_
    exact (R.addRegister _ _).bind fun _ => guards_pure _
  · refine (R.addRegister _ _).bind fun addr => ?_
    exact (X.addToMMR1 _ (neg_autoDelta_range _ _)).bind fun _ =>
      guards_pure _
  · refine (R.addRegister _ _).bind fun pointer => ?_
    refine (X.addToMMR1 _ (by omega)).bind fun _ => ?_
    exact (F.read _ _ _ _).bind fun addr => guards_pure _
  · refine .view_bind_any fun pc => (F.read _ _ _ _).bind fun nextWord => ?_
    refine (R.addRegister _ _).bind fun _ => .view_bind_any fun base => ?_
    exact guards_pure _
  · refine .view_bind_any fun pc => (F.read _ _ _ _).bind fun nextWord => ?_
    refine (R.addRegister _ _).bind fun _ => .view_bind_any fun base => ?_
    exact (F.read _ _ _ _).bind fun addr => guards_pure _

theorem getGAM_guards
    (mode reg : RegNr) (wordMode : WordMode) (readValue : Bool) :
    Guards I (getGAM mode reg wordMode readValue) := by
  refine .ite (fun _ => .view_bind_any fun v => guards_pure _) fun _ => ?_
  refine .view_bind_any fun runMode => ?_
  refine (gamAddress_guards R X F _ _ _ _).bind fun target => ?_
  refine Triple.bind (.ite (fun _ => F.read _ _ _ _) fun _ => guards_pure 0)
    fun value => ?_
  refine Triple.bind (.ite (fun _ => guards_pure ()) fun _ => ?_) fun _ =>
    guards_pure _
  exact .raise fun _ hs => ⟨by simp, hs⟩

end Operands

theorem Referring.writeOperand
    (F : Referring I (KekPdp11.trap : TrapCall δ)) (g : GamRc) (value : Word) :
    Guards I (writeOperand g value) :=
  .view_bind_any fun _ => (F.write _ _ _ _ _).bind fun _ => guards_pure _

/-- The reset of the bus zeroes the MMR registers and notes itself. -/
theorem Bus.reset_watched
    (s : Machine δ) :
    ∃ t, Bus.reset true s = .ok () t ∧
      t.watched =
        { s.watched with
          mmr0 := 0, mmr1 := 0, mmr2 := 0, trace := .busReset :: s.trace } := by
  let w : Watched :=
    { s.watched with
      mmr0 := 0, mmr1 := 0, mmr2 := 0, trace := .busReset :: s.trace }
  have hdevices : ∀ slot : Slot,
      Triple (fun u : Machine δ => u.watched = w)
        (do
          let attached ← view fun u => u.attached slot
          if attached then deviceReset slot true else pure ())
        (fun _ u => u.watched = w) (fun _ _ => False) :=
    fun slot => .view_bind_any fun attached =>
      .ite (fun _ => .update fun u hu => hu) fun _ => .pure fun u hu => hu
  have hregisters :
      Triple (fun u : Machine δ => u.watched = w)
        (do
          modifyMmu fun m => m.setMMR0 0
          modifyMmu fun m => m.setMMR3 0)
        (fun _ u => u.watched = w) (fun _ _ => False) := by
    intro u hu
    have hzero : u.mmu.mmr0 = 0 := congrArg Watched.mmr0 hu
    change Machine.watched { u with mmu := (u.mmu.setMMR0 0).setMMR3 0 } = w
    rw [← hu]
    simp [Machine.watched, Mmu.setMMR3, Mmu.setMMR0, Mmu.setMMR0AsIs,
      Mmu.guestMMR0, hzero]
  have hall := (Triple.forM hdevices
    [Slot.tm11, .rk05, .rl02, .tty, .kw11l, .dz11, .dc11, .rp06,
      .deqna]).bind fun _ => hregisters
  let u : Machine δ :=
    { s with mmu := s.mmu.reset true, trace := .busReset :: s.trace }
  have hend := hall u rfl
  change After _ _ (Bus.reset true s) at hend
  cases hr : Bus.reset true s with
  | ok _ t =>
      rw [hr] at hend
      exact ⟨t, rfl, hend⟩
  | error e t =>
      rw [hr] at hend
      exact hend.elim

variable (ht : ∀ vector newIpl, Guards I (trap vector newIpl : Exec δ Unit))

include R X F ht

/-- Whole instructions, from what they do to the watched state. -/
theorem instructionRules :
    InstructionRules I I I I (Ends I) where
  one _ hs := hs
  two _ hs := hs
  last _ hs := hs
  getGAM₀ := getGAM_guards R X F
  getGAM₁ := getGAM_guards R X F
  writeOperand := F.writeOperand
  flag₂ bit v hbit := .update fun s hs => X.flag s bit v hbit hs
  flag bit v hbit := .update fun s hs => X.flag s bit v hbit hs
  setRegister := R.setRegister
  byteOperand _ hs := ⟨by simp, hs⟩
  waiting _ hs := ⟨by simp, hs⟩
  trap vector := ht vector none
  halt s hs := R.halt s hs
  opMfp dstMode dstReg wordMode := by
    refine Triple.bind (.ite (fun _ => .ite (fun _ => guards_view _) fun _ =>
      guards_view _) fun _ => ?_) fun v => ?_
    · refine (getGAM_guards R X F _ _ _ _).bind fun a => ?_
      exact .view_bind_any fun prev => F.read _ _ _ _
    · refine (X.setPSWFlagsNzv _ _).bind fun _ => ?_
      exact (F.pushStack R ht v).bind fun _ => .pure fun _ hs => hs
  opMtp dstMode dstReg wordMode := by
    refine (F.popStack R).bind fun v => ?_
    refine Triple.bind (.ite (fun _ => ?_) fun _ => ?_) fun setFlags =>
      (guards_onlyIf _ (X.setPSWFlagsNzv _ _)).bind fun _ =>
        .pure fun _ hs => hs
    · refine Triple.bind (.ite (fun _ => ?_) fun _ => R.setRegister _ _)
        fun _ => guards_pure _
      exact R.modifyCpu (fun _ => rfl) (fun _ => rfl) fun _ => rfl
    · refine (getGAM_guards R X F _ _ _ _).bind fun a => ?_
      refine .view_bind_any fun prev => (F.write _ _ _ _ _).bind fun isPsw => ?_
      exact guards_pure _
  opMark dst := by
    refine .view_bind_any fun pc => (R.setRegister _ _).bind fun _ => ?_
    refine .view_bind_any fun r5 => (R.setRegister 7 r5).bind fun _ => ?_
    refine (F.popStack R).bind fun v => (R.setRegister _ _).bind fun _ => ?_
    exact .pure fun _ hs => hs
  opSpl instr := by
    refine .view_bind fun runMode => ?_
    refine Triple.bind (.ite (fun hkernel => ?_) fun _ => ?_) fun _ =>
      .pure fun _ hs => hs
    · refine .update fun s hs => X.spl s _ ?_ hs.1
      exact hs.2.trans (of_decide_eq_true hkernel)
    · exact .pure fun s hs => hs.1
  opRti := by
    refine (F.popStack R).bind fun pc => (R.setRegister 7 pc).bind fun _ => ?_
    refine (F.popStack R).bind fun v => .view_bind fun runMode => ?_
    rintro s ⟨hs, rfl⟩
    exact X.rti s v hs
  opReset := by
    refine .view_bind_any fun runMode => ?_
    refine (guards_onlyIf _ ?_).bind fun _ => .pure fun _ hs => hs
    refine Triple.bind ?_ fun _ =>
      R.modifyCpu (fun _ => rfl) (fun _ => rfl) fun _ => rfl
    intro s hs
    obtain ⟨t, ht, hw⟩ := Bus.reset_watched s
    rw [ht]
    exact X.reset s t hw hs
  opJsr linkReg dstMode dstReg := by
    refine .ite (fun _ => .pure fun _ hs => hs) fun _ => ?_
    refine (getGAM_guards R X F _ _ _ _).bind fun a => ?_
    refine .view_bind_any fun link => (F.pushStack R ht link).bind fun _ => ?_
    refine .view_bind fun locked => ?_
    refine Triple.bind ?_ fun _ => .view_bind_any fun pc =>
      (R.setRegister linkReg pc).bind fun _ => (R.setRegister 7 a.addr).bind
      fun _ => .pure fun _ hs => hs
    refine .ite (fun _ => .pure fun _ hs => hs.1) fun hlocked => ?_
    rintro s ⟨hs, rfl⟩
    have hfree : s.mmu.isLocked = false := Bool.eq_false_of_not_eq_true hlocked
    rw [mmuAddToMMR1_apply 6 (by omega) hfree]
    exact X.record s _ hfree hs
  opRts linkReg := by
    refine .view_bind_any fun link => (R.setRegister 7 link).bind fun _ => ?_
    refine .view_bind_any fun sp => (F.readWord _ _).bind fun v => ?_
    refine (R.setRegister _ _).bind fun _ => ?_
    refine (guards_onlyIf _ ?_).bind fun _ => .pure fun _ hs => hs
    exact (R.addRegister _ _).bind fun _ => guards_pure _

omit ht in
theorem fetchInstruction_guards :
    Guards I (fetchInstruction : Exec δ Word) := by
  refine .view_bind_any fun pc => ?_
  refine Triple.bind (guards_update fun s hs => X.start s pc hs) fun _ => ?_
  refine (F.readWord _ _).bind fun instr => ?_
  exact (R.addRegister _ _).bind fun _ => guards_pure _

theorem fetchAndExecute_guards :
    Guards I (fetchAndExecute : Exec δ Bool) :=
  (instructionRules R X F ht).fetchAndExecute
    (fetchInstruction_guards R X F)

theorem runInstruction_guards :
    Guards I (runInstruction : Exec δ Bool) :=
  guards_catchInt (fetchAndExecute_guards R X F ht) fun _ => guards_pure true

omit F in
theorem executeAnyPendingFrom_guards
    (startLevel : Nat) (levels : List Level) :
    Guards I (executeAnyPendingFrom startLevel levels : Exec δ Unit) := by
  induction levels with
  | nil =>
      exact guards_pure ()
  | cons i levels ih =>
      refine .view_bind_any fun first => ?_
      cases first with
      | none =>
          exact ih
      | some v =>
          refine Triple.bind (R.modifyCpu (fun _ => by rfl) (fun _ => by rfl)
            fun _ => by rfl) fun _ => .ite (fun _ => ih) fun _ => ?_
          refine Triple.bind (R.modifyCpu (fun _ => by rfl) (fun _ => by rfl)
            fun _ => by rfl) fun _ => ?_
          refine Triple.bind (guards_update fun s hs => X.interrupt s i v hs)
            fun _ => ht _ _

omit X F in
theorem executeDelayedTrap_guards :
    Guards I (executeDelayedTrap : Exec δ Unit) := by
  refine .view_bind_any fun delayed => ?_
  cases delayed with
  | none =>
      exact guards_pure ()
  | some vector =>
      refine (ht _ _).bind fun _ => ?_
      exact R.modifyCpu (fun _ => rfl) (fun _ => rfl) fun _ => rfl

omit F in
theorem serviceInterrupts_guards :
    Guards I (serviceInterrupts : Exec δ Unit) := by
  refine .view_bind_any fun any => ?_
  refine Triple.bind (R.modifyCpu (fun _ => by rfl) (fun _ => by rfl)
    fun _ => by rfl) fun _ => guards_onlyIf _ ?_
  refine (executeDelayedTrap_guards R ht).bind fun _ => ?_
  exact .view_bind_any fun level => executeAnyPendingFrom_guards R X ht _ _

/-- One step of the processor. -/
theorem step_guards :
    Guards I (step : Exec δ Bool) := by
  refine Triple.bind (R.modifyCpu (fun _ => by rfl) (fun _ => by rfl)
    fun _ => by rfl) fun _ => ?_
  refine (serviceInterrupts_guards R X ht).bind fun _ => ?_
  exact runInstruction_guards R X F ht

end Execution

/-- All the rules, and the notes on aborted references. -/
structure StepRules (I : Machine δ → Prop) : Prop
    extends ReferenceRules I, EntryRules I, ExecutionRules I where
  aborted : ∀ s b, I s → I (s.log (.aborted b))

namespace StepRules

variable [UnibusDevices δ] {I : Machine δ → Prop} (h : StepRules I)

include h

theorem trap
    (vector : Word) (newIpl : Option Level) :
    Guards I (trap vector newIpl : Exec δ Unit) :=
  trap_guards h.toReferenceRules h.toEntryRules
    (fun _ ht => h.toReferenceRules.referring ht h.aborted) vector newIpl

theorem referring :
    Referring I (KekPdp11.trap : TrapCall δ) :=
  h.toReferenceRules.referring h.trap h.aborted

theorem entered
    (vector : Word) (newIpl : Option Level) {s : Machine δ}
    (hs : I (atTrapLevel s vector newIpl)) :
    After (fun _ => I) (Ends I) (KekPdp11.trap vector newIpl s) := by
  rw [trap_eq]
  exact h.referring.entered h.toReferenceRules h.trap h.toEntryRules vector
    newIpl hs

theorem step :
    Guards I (step : Exec δ Bool) :=
  step_guards h.toReferenceRules h.toExecutionRules h.referring h.trap

end StepRules

section Later

/-- The trace only grows and traps are only counted up. -/
structure Later (s₀ s : Machine δ) : Prop where
  extend : AppendLog.Extends Machine.trace s₀ s
  counted : s₀.cpu.trapCounter ≤ s.cpu.trapCounter

theorem Later.refl
    (s : Machine δ) :
    Later s s :=
  ⟨AppendLog.Extends.refl s, le_refl _⟩

/-- A state that logs one entry more, or none, and counts no less. -/
theorem Later.next
    {s₀ s s' : Machine δ} (h : Later s₀ s)
    (htrace : AppendLog.Extends Machine.trace s s')
    (hcounter : s.cpu.trapCounter ≤ s'.cpu.trapCounter) :
    Later s₀ s' :=
  ⟨h.extend.trans htrace, h.counted.trans hcounter⟩

theorem Later.entry
    {s₀ s s' : Machine δ} {e : Event} (h : Later s₀ s)
    (htrace : s'.trace = e :: s.trace)
    (hcounter : s.cpu.trapCounter ≤ s'.cpu.trapCounter) :
    Later s₀ s' :=
  h.next (AppendLog.Extends.of_log_cons htrace) hcounter

theorem Later.same
    {s₀ s s' : Machine δ} (h : Later s₀ s)
    (htrace : s'.trace = s.trace)
    (hcounter : s'.cpu.trapCounter = s.cpu.trapCounter) :
    Later s₀ s' :=
  h.next (AppendLog.Extends.of_log_eq htrace) hcounter.ge

theorem later_rules
    (s₀ : Machine δ) :
    StepRules (Later s₀) where
  frame s s' hw hs :=
    hs.same (congrArg Watched.trace hw) (congrArg Watched.trapCounter hw)
  logReadIo _ _ _ hs := hs.entry rfl le_rfl
  logWriteIo _ _ _ hs := hs.entry rfl le_rfl
  writePSW _ _ _ _ _ hs := hs.entry rfl le_rfl
  writeMMR0 _ _ _ _ _ hs := hs.entry rfl le_rfl
  fault _ _ _ hs := hs.entry rfl le_rfl
  odd _ _ hs := hs.entry rfl le_rfl
  halt _ hs := hs.same rfl rfl
  entry _ _ _ hs := hs.entry rfl (Nat.le_succ _)
  kernel _ hs := hs.same rfl rfl
  load _ _ hs := hs.same rfl rfl
  flag _ _ _ _ hs := hs.same rfl rfl
  spl _ _ _ hs := hs.same rfl rfl
  rti s v hs := hs.same rfl (by
    simp only [Machine.withPSW]
    rw [Cpu.setPSW_eq])
  record _ _ _ hs := hs.same rfl rfl
  start _ _ hs := hs.same rfl rfl
  reset s s' hw hs :=
    hs.entry (congrArg Watched.trace hw)
      (congrArg Watched.trapCounter hw).ge
  interrupt _ _ _ hs := hs.entry rfl le_rfl
  aborted _ _ hs := hs.entry rfl le_rfl

variable [UnibusDevices δ]

/-- A trap logs its entry first and is counted. -/
theorem trap_later
    {vector : Word} {newIpl : Option Level} {s t : Machine δ}
    (h : trap vector newIpl s = .ok () t) :
    Later (atTrapLevel s vector newIpl) t := by
  have hend := (later_rules (atTrapLevel s vector newIpl)).entered vector
    newIpl (Later.refl _)
  rw [h] at hend
  exact hend

/-- A step only adds to the trace. -/
theorem step_extends
    (s : Machine δ) :
    AppendLog.Extends Machine.trace s (final (step s)) := by
  exact (guards_final (later_rules s).step (Later.refl s)).extend

theorem trap_counted
    {vector : Word} {newIpl : Option Level} {s t : Machine δ}
    (h : trap vector newIpl s = .ok () t) :
    s.cpu.trapCounter < t.cpu.trapCounter :=
  (trap_later h).counted

end Later

end KekPdp11
