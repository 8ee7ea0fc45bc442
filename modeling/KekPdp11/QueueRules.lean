import KekPdp11.InterruptQueues

/-!
# KEK PDP-11: what execution does to the interrupt queues

References, traps and instructions leave the queues, the flag and the delayed
trap alone, with three exceptions: a push in the yellow zone, RESET, and the
requests of a device whose register is accessed.  `QueueRules` lists what an
invariant has to pass; it is then kept by all of them, however they end.
-/

namespace KekPdp11

open StateExcept

variable {δ : Type}

/-- The interrupt that an event notes to be invoked. -/
def Event.delivered? : Event → Option (Level × Word)
  | .interrupt level vector => some (level, vector)
  | _ => none

/-- What there is to deliver, and what has been delivered. -/
structure Pending where
  queued : Level → Finset Word
  any : Bool
  delayed : Option Word
  delivered : List (Level × Word)

def Machine.pending (s : Machine δ) : Pending where
  queued := s.cpu.queuedInterrupts
  any := s.cpu.anyQueuedInterrupts
  delayed := s.cpu.delayedTrap
  delivered := s.trace.filterMap Event.delivered?

/-- What execution does to the pending interrupts. -/
structure QueueRules (I : Machine δ → Prop) : Prop where
  frame : ∀ s s' : Machine δ, s'.pending = s.pending → I s → I s'
  request : ∀ s r, I s → I (s.withPSW fun c => c.applyRequest r)
  yellowZone : ∀ s, I s → I (s.withPSW Cpu.delayTrap)
  reset : ∀ s, I s → I (s.withPSW Cpu.initInterruptQueue)

section Frame

theorem Cpu.SamePending.refl
    (c : Cpu) :
    c.SamePending c :=
  ⟨rfl, rfl, rfl⟩

theorem Cpu.samePending_setRegister
    (c : Cpu) (nr : RegNr) (value : Word) :
    c.SamePending (c.setRegister nr value) := by
  obtain ⟨regs05, sp, pc, h⟩ := c.setRegister_eq nr value
  rw [h]
  exact ⟨rfl, rfl, rfl⟩

theorem Cpu.samePending_setPSW
    (c : Cpu) (v : Word) (limited : Bool) :
    c.SamePending (c.setPSW v limited) := by
  rw [Cpu.setPSW_eq]
  exact ⟨rfl, rfl, rfl⟩

/-- Only the processor matters, and of it only what is pending. -/
theorem Machine.pending_congr
    {s s' : Machine δ} (hcpu : s.cpu.SamePending s'.cpu)
    (htrace : s'.trace.filterMap Event.delivered? =
      s.trace.filterMap Event.delivered?) :
    s'.pending = s.pending := by
  unfold Machine.pending
  rw [hcpu.queued, hcpu.any, hcpu.delayed, htrace]

end Frame

namespace QueueRules

variable {I : Machine δ → Prop} (R : QueueRules I)
variable {t : TrapCall δ} (ht : ∀ vector newIpl, Keeps I (t vector newIpl))
variable {α β : Type}

section Primitives

include R

theorem update
    {f : Machine δ → Machine δ} (hf : ∀ s, (f s).pending = s.pending) :
    Keeps I (update f : Exec δ Unit) :=
  .update fun s hs => R.frame s (f s) (hf s) hs

theorem modifyCpu
    {f : Cpu → Cpu} (hf : ∀ c : Cpu, c.SamePending (f c)) :
    Keeps I (modifyCpu f) :=
  R.update fun s => Machine.pending_congr (hf s.cpu) rfl

theorem modifyMmu
    (f : Mmu → Mmu) :
    Keeps I (modifyMmu f) :=
  R.update fun _ => rfl

theorem logEvent
    {e : Event} (he : e.delivered? = none) :
    Keeps I (logEvent e) :=
  R.update fun s => Machine.pending_congr (.refl _) (by
    rw [List.filterMap_cons_none he])

theorem setRegister
    (nr : RegNr) (value : Word) :
    Keeps I (setRegister nr value) :=
  R.modifyCpu fun c => c.samePending_setRegister nr value

theorem addRegister
    (nr : RegNr) (value : Word) :
    Keeps I (addRegister nr value) :=
  Triple.bind (R.modifyCpu fun c => c.samePending_setRegister nr _) fun _ =>
    keeps_view _

theorem setPSW
    (v : Word) (limited : Bool) :
    Keeps I (KekPdp11.modifyCpu fun c => c.setPSW v limited) :=
  R.modifyCpu fun c => c.samePending_setPSW v limited

theorem oddAbort
    (apf : BitVec 3) (number : Nat) :
    Keeps I (oddAbort apf number : Exec δ α) := by
  refine (R.logEvent rfl).bind fun _ => (R.modifyMmu _).bind fun _ => ?_
  exact keeps_raise _

theorem noteAbort
    {m : Exec δ α} (h : Keeps I m) :
    Keeps I (noteAbort m) := by
  intro s hs
  have hr := h s hs
  unfold KekPdp11.noteAbort
  cases hm : m s with
  | ok a u =>
      rw [hm] at hr
      exact hr
  | error e u =>
      rw [hm] at hr
      refine R.frame u _ ?_ hr
      exact Machine.pending_congr (.refl _) (List.filterMap_cons_none rfl)

/-- Requests are made one after the other. -/
theorem requests
    (rs : List InterruptRequest) {s : Machine δ} (hs : I s) :
    I (s.withPSW fun c => c.applyRequests rs) := by
  induction rs generalizing s with
  | nil =>
      exact hs
  | cons r rs ih =>
      exact ih (R.request s r hs)

end Primitives

section Faults

include R ht

/-- A fault is latched and trapped before the throw. -/
theorem latchAndTrap
    (value : Mmu → Word) {k : Exec δ α} (hk : Keeps I k) :
    Keeps I
      (do
        KekPdp11.modifyMmu fun m => m.latchMMR0 (value m)
        mmuTrapVia t
        k) := by
  refine (R.modifyMmu _).bind fun _ => Triple.bind ?_ fun _ => hk
  refine .view_bind_any fun c => .view_bind_any fun m => ?_
  exact (R.logEvent rfl).bind fun _ => ht _ _

theorem verifyPageAccess
    (page : PageIndex) (isWrite : Bool) :
    Keeps I (verifyPageAccessVia t page isWrite) := by
  refine .view_bind_any fun action => .ite (fun _ => keeps_pure ()) fun _ => ?_
  exact R.latchAndTrap ht _ ((R.modifyMmu _).bind fun _ => keeps_raise _)

theorem verifyPageLength
    (virtAddr : Word) (page : PageIndex) :
    Keeps I (verifyPageLengthVia t virtAddr page) := by
  refine .view_bind_any fun fault => .ite (fun _ => ?_) fun _ => keeps_pure ()
  exact R.latchAndTrap ht _ ((R.modifyMmu _).bind fun _ => keeps_raise _)

theorem calculatePhysicalAddress
    (runMode : RunMode) (a : Word) (isWrite : Bool) (space : Space) :
    Keeps I (calculatePhysicalAddressVia t runMode a isWrite space) := by
  refine .view_bind_any fun relocated => .ite (fun _ => ?_) fun _ =>
    keeps_pure _
  refine .view_bind_any fun mOffset => ?_
  refine (R.verifyPageAccess ht _ _).bind fun _ => ?_
  exact (R.verifyPageLength ht _ _).bind fun _ => keeps_pure _

theorem verifyPointerBounds
    (mOffset : PhysAddr) (page : PageIndex) :
    Keeps I (verifyPointerBoundsVia t mOffset page) := by
  refine .view_bind_any fun size => .ite (fun _ => ?_) fun _ => keeps_pure ()
  exact R.latchAndTrap ht _ (keeps_raise _)

end Faults

section Registers

include R

theorem writeByteRegister
    (a value : Word) {write : Exec δ Bool}
    (h : writeByteRegister a value = some write) :
    Keeps I write := by
  unfold KekPdp11.writeByteRegister at h
  split_ifs at h <;> cases h
  all_goals refine keeps_thenPure ?_ _
  · exact R.modifyCpu fun c => c.samePending_setPSW _ _
  · exact R.modifyCpu fun c => ⟨rfl, rfl, rfl⟩
  · exact R.update fun _ => rfl
  · exact R.modifyMmu _

theorem writeWordRegister
    (a value : Word) {write : Exec δ Bool}
    (h : writeWordRegister a value = some write) :
    Keeps I write := by
  rcases writeWordRegister_cases h with ⟨-, rfl⟩ | ⟨m, rfl, hm⟩
  · exact keeps_thenPure (R.setPSW _ _) true
  refine keeps_thenPure ?_ false
  rcases hm with rfl | ⟨nr, rfl⟩ | ⟨runMode, rfl⟩ | rfl | rfl
  · exact R.modifyCpu fun c => ⟨rfl, rfl, rfl⟩
  · exact R.setRegister nr value
  · exact R.modifyCpu fun c => ⟨rfl, rfl, rfl⟩
  · exact R.modifyCpu fun c => ⟨rfl, rfl, rfl⟩
  · exact R.update fun _ => rfl

theorem writeCommonRegister
    (a value : Word) {write : Exec δ Unit}
    (h : writeCommonRegister a value = some write) :
    Keeps I write := by
  unfold KekPdp11.writeCommonRegister at h
  split_ifs at h <;> cases h
  · exact R.modifyMmu _
  · exact R.modifyMmu _
  · exact R.modifyMmu _
  · exact R.modifyMmu _

theorem writeTail
    (a value : Word) (wordMode : WordMode) {write : Exec δ Unit}
    (h : writeTail a value wordMode = some write) :
    Keeps I write := by
  rcases writeTail_cases h with rfl | ⟨f, rfl, -⟩ | rfl
  · exact keeps_pure ()
  · exact R.modifyMmu f
  · exact R.update fun _ => rfl

theorem takeReply
    (r : DeviceReply δ α) :
    Keeps I (takeReply r) := by
  refine Triple.bind (.update fun s hs => ?_) fun _ => keeps_pure _
  exact R.frame (s.withPSW fun c => c.applyRequests r.requests) _ rfl
    (R.requests r.requests hs)

theorem takeEffect
    (e : DeviceEffect δ) :
    Keeps I (takeEffect e) :=
  .update fun s hs =>
    R.frame (s.withPSW fun c => c.applyRequests e.requests) _ rfl
      (R.requests e.requests hs)

end Registers

section Bus

variable [UnibusDevices δ]

include R

theorem deviceRead
    (slot : Slot) (a : Word) (wordMode : WordMode) :
    Keeps I (deviceRead slot a wordMode) := by
  cases wordMode with
  | wmByte =>
      refine Triple.bind (.view_bind_any fun r => R.takeReply r) fun v => ?_
      exact keeps_pure _
  | wmWord =>
      exact .view_bind_any fun r => R.takeReply r

theorem deviceWrite
    (slot : Slot) (a : Word) (wordMode : WordMode) (value : Word) :
    Keeps I (deviceWrite slot a wordMode value) := by
  cases wordMode with
  | wmByte =>
      exact .view_bind_any fun e => R.takeEffect e
  | wmWord =>
      exact .view_bind_any fun e => R.takeEffect e

include ht

theorem readIo
    (a : Word) (wordMode : WordMode) (apf : BitVec 3) :
    Keeps I (readIoVia t a wordMode apf) := by
  refine (R.logEvent rfl).bind fun _ => .view_bind_any fun register => ?_
  cases register with
  | some v =>
      exact keeps_pure _
  | none =>
      refine .ite (fun _ => R.oddAbort _ _) fun _ =>
        .ite (fun _ => keeps_view _) fun _ =>
        .ite (fun _ => keeps_pure _) fun _ =>
        .ite (fun _ => keeps_view _) fun _ =>
        .ite (fun _ => keeps_view _) fun _ =>
        .ite (fun _ => keeps_pure _) fun _ =>
        .ite (fun _ => R.deviceRead _ _ .wmWord) fun _ =>
        .ite (fun _ => keeps_pure _) fun _ =>
        .ite (fun _ => keeps_view _) fun _ =>
        .ite (fun _ => keeps_pure _) fun _ =>
        .ite (fun _ => keeps_pure _) fun _ =>
        .ite (fun _ => keeps_pure _) fun _ => ?_
      refine .view_bind_any fun plain => ?_
      cases plain with
      | some v =>
          exact keeps_pure v
      | none =>
          refine .view_bind_any fun slot => ?_
          cases slot with
          | some slot =>
              exact R.deviceRead slot a wordMode
          | none =>
              refine .view_bind_any fun size => .ite (fun _ => keeps_pure _)
                fun _ => .ite (fun _ => keeps_pure _) fun _ => ?_
              exact (ht _ _).bind fun _ => keeps_raise _

theorem writeIo
    (a : Word) (wordMode : WordMode) (page : BitVec 3) (value : Word) :
    Keeps I (writeIoVia t a wordMode page value) := by
  refine (R.logEvent rfl).bind fun _ => ?_
  dsimp only
  split
  · next write hfirst =>
      cases wordMode with
      | wmByte =>
          exact R.writeByteRegister a value hfirst
      | wmWord =>
          exact R.writeWordRegister a value hfirst
  · split
    · next write hcommon =>
        exact keeps_thenPure (R.writeCommonRegister a value hcommon) _
    · refine .ite (fun _ => keeps_thenPure (R.deviceWrite _ _ .wmWord _) _)
        fun _ => .view_bind_any fun slot => ?_
      cases slot with
      | some slot =>
          exact keeps_thenPure (R.deviceWrite _ _ _ _) _
      | none =>
          dsimp only
          split
          · next write htail =>
              exact keeps_thenPure (R.writeTail a value wordMode htail) _
          · refine .ite (fun _ => R.oddAbort _ _) fun _ => ?_
            exact (ht _ _).bind fun _ => keeps_raise _

theorem read
    (addrIn : Word) (wordMode : WordMode) (runMode : RunMode)
    (spaceIn : Space) :
    Keeps I (Bus.readVia t addrIn wordMode runMode spaceIn) := by
  refine R.noteAbort (.view_bind_any fun space => ?_)
  refine (R.calculatePhysicalAddress ht _ _ _ _).bind fun target => ?_
  refine .view_bind_any fun ioBase => .ite (fun _ => R.readIo ht _ _ _)
    fun _ => (R.verifyPointerBounds ht _ _).bind fun _ => ?_
  refine (R.modifyMmu _).bind fun _ => ?_
  cases wordMode with
  | wmByte =>
      exact keeps_view _
  | wmWord =>
      exact .ite (fun _ => R.oddAbort _ _) fun _ => keeps_view _

theorem write
    (addrIn : Word) (wordMode : WordMode) (value : Word) (runMode : RunMode)
    (spaceIn : Space) :
    Keeps I (Bus.writeVia t addrIn wordMode value runMode spaceIn) := by
  refine R.noteAbort (.view_bind_any fun space => ?_)
  refine (R.calculatePhysicalAddress ht _ _ _ _).bind fun target => ?_
  refine .view_bind_any fun ioBase => .ite (fun _ => R.writeIo ht _ _ _ _)
    fun _ => (R.verifyPointerBounds ht _ _).bind fun _ => ?_
  refine (R.modifyMmu _).bind fun _ => ?_
  cases wordMode with
  | wmByte =>
      refine keeps_thenPure ?_ _
      exact R.update fun _ => rfl
  | wmWord =>
      refine .ite (fun _ => R.oddAbort _ _) fun _ => keeps_thenPure ?_ _
      exact R.update fun _ => rfl

end Bus

section Traps

variable [UnibusDevices δ]

include R ht

theorem readWord
    (a : Word) (space : Space) :
    Keeps I (Bus.readWordVia t a space) :=
  .view_bind_any fun _ => R.read ht _ _ _ _

theorem storeOnStack
    (v : Word) :
    Keeps I (storeOnStackVia t v) := by
  refine (R.addRegister _ _).bind fun a => .view_bind_any fun _ => ?_
  exact (R.write ht _ _ _ _ _).bind fun _ => keeps_pure ()

theorem popStack :
    Keeps I (popStackVia t) := by
  refine .view_bind_any fun a => (R.readWord ht _ _).bind fun temp => ?_
  exact (R.addRegister _ _).bind fun _ => keeps_pure _

theorem pushStack
    (v : Word) :
    Keeps I (pushStackVia t v) := by
  refine .view_bind_any fun _ => .view_bind_any fun _ =>
    .view_bind_any fun _ => .ite (fun _ => .ite (fun _ => ?_) fun _ => ?_)
      fun _ => R.storeOnStack ht v
  · -- the yellow zone
    refine (R.storeOnStack ht v).bind fun _ => ?_
    exact Triple.bind (.update R.yellowZone) fun _ => R.modifyMmu _
  · refine (R.setRegister _ _).bind fun _ => (ht _ _).bind fun _ => ?_
    exact Triple.bind (R.modifyCpu fun c => ⟨rfl, rfl, rfl⟩) fun _ =>
      R.modifyMmu _

theorem loadVector
    (vector beforePsw : Word) (newIpl : Option Level) :
    Keeps I (loadVectorVia t vector beforePsw newIpl) := by
  refine Triple.bind (R.modifyCpu fun c => ⟨rfl, rfl, rfl⟩) fun _ => ?_
  refine .view_bind_any fun space => (R.readWord ht _ _).bind fun newPC => ?_
  refine Triple.bind (R.modifyCpu fun c => ⟨rfl, rfl, rfl⟩) fun _ => ?_
  exact (R.readWord ht _ _).bind fun vectorPsw => R.setPSW _ _

theorem enterTrap
    (vector : Word) (newIpl : Option Level) (kernelMode : Bool) :
    Keeps I (enterTrapVia t vector newIpl kernelMode) := by
  refine .view_bind_any fun beforePsw => .view_bind_any fun beforePC => ?_
  refine keeps_catchInt ?_ fun _ => R.setPSW _ _
  refine (R.loadVector ht _ _ _).bind fun _ => .view_bind_any fun depth => ?_
  refine (keeps_onlyIf _ (R.setRegister _ _)).bind fun _ => ?_
  refine Triple.bind (.view_bind_any fun prevSp => ?_) fun _ =>
    R.modifyCpu fun c => ⟨rfl, rfl, rfl⟩
  refine keeps_catchInt ?_ fun _ => R.setRegister _ _
  exact (R.pushStack ht _).bind fun _ => R.pushStack ht _

/-- One round of the recursion between traps and references. -/
theorem trapVia
    (vector : Word) (newIpl : Option Level) :
    Keeps I (trapVia t vector newIpl) := by
  refine (R.logEvent rfl).bind fun _ => ?_
  refine Triple.bind (R.modifyCpu fun c => ⟨rfl, rfl, rfl⟩) fun _ => ?_
  refine Triple.bind (R.modifyCpu fun c => ⟨rfl, rfl, rfl⟩) fun _ => ?_
  refine .view_bind_any fun kernelMode => .view_bind_any fun depth => ?_
  refine .ite (fun _ => R.modifyCpu fun c => ⟨rfl, rfl, rfl⟩) fun _ => ?_
  refine .ite (fun _ => ?_) fun _ => R.enterTrap ht _ _ _
  exact (R.setRegister _ _).bind fun _ => R.enterTrap ht _ _ _

omit ht in
theorem trap
    (vector : Word) (newIpl : Option Level) :
    Keeps I (trap vector newIpl : Exec δ Unit) := by
  have h : ∀ n vector newIpl,
      Keeps I (trapFuel n vector newIpl : Exec δ Unit) := by
    intro n
    induction n with
    | zero =>
        exact fun _ _ => keeps_raise _
    | succ n ih =>
        exact R.trapVia ih
  exact h 3 vector newIpl

end Traps

section Operands

variable [UnibusDevices δ]

include R

omit [UnibusDevices δ] in
theorem mmuAddToMMR1
    (delta : Int) (reg : RegNr) :
    Keeps I (mmuAddToMMR1 delta reg : Exec δ Unit) := by
  refine (keeps_assertThat _ _).bind fun _ => .view_bind_any fun locked => ?_
  exact (keeps_assertThat _ _).bind fun _ => R.modifyMmu _

omit [UnibusDevices δ] in
theorem addToMMR1
    (reg : RegNr) (delta : Int) :
    Keeps I (addToMMR1 reg delta : Exec δ Unit) := by
  refine (keeps_assertThat _ _).bind fun _ => .view_bind_any fun locked => ?_
  exact .ite (fun _ => keeps_pure ()) fun _ => R.mmuAddToMMR1 _ _

theorem gamAddress
    (mode reg : RegNr) (wordMode : WordMode) (runMode : RunMode) :
    Keeps I (gamAddress mode reg wordMode runMode) := by
  unfold KekPdp11.gamAddress
  dsimp only
  split
  · exact .view_bind_any fun addr => keeps_pure _
  · refine .view_bind_any fun addr => (R.addRegister _ _).bind fun _ => ?_
    exact (R.addToMMR1 _ _).bind fun _ => keeps_pure _
  · refine .view_bind_any fun pointer => (R.read R.trap _ _ _ _).bind
      fun addr => (R.addToMMR1 _ _).bind fun _ => ?_
    exact (R.addRegister _ _).bind fun _ => keeps_pure _
  · refine (R.addRegister _ _).bind fun addr => ?_
    exact (R.addToMMR1 _ _).bind fun _ => keeps_pure _
  · refine (R.addRegister _ _).bind fun pointer => ?_
    refine (R.addToMMR1 _ _).bind fun _ => ?_
    exact (R.read R.trap _ _ _ _).bind fun addr => keeps_pure _
  · refine .view_bind_any fun pc => (R.read R.trap _ _ _ _).bind
      fun nextWord => ?_
    refine (R.addRegister _ _).bind fun _ => .view_bind_any fun base => ?_
    exact keeps_pure _
  · refine .view_bind_any fun pc => (R.read R.trap _ _ _ _).bind
      fun nextWord => ?_
    refine (R.addRegister _ _).bind fun _ => .view_bind_any fun base => ?_
    exact (R.read R.trap _ _ _ _).bind fun addr => keeps_pure _

theorem getGAM
    (mode reg : RegNr) (wordMode : WordMode) (readValue : Bool) :
    Keeps I (getGAM mode reg wordMode readValue) := by
  refine .ite (fun _ => .view_bind_any fun v => keeps_pure _) fun _ => ?_
  refine .view_bind_any fun runMode => (R.gamAddress _ _ _ _).bind
    fun target => ?_
  refine Triple.bind
    (.ite (fun _ => R.read R.trap _ _ _ _) fun _ => keeps_pure 0)
    fun value => ?_
  exact (keeps_assertThat _ _).bind fun _ => keeps_pure _

theorem writeOperand
    (g : GamRc) (value : Word) :
    Keeps I (writeOperand g value) :=
  .view_bind_any fun _ => (R.write R.trap _ _ _ _ _).bind fun _ =>
    keeps_pure _

omit [UnibusDevices δ] in
theorem flag
    (bit : Nat) (v : Bool) :
    Keeps I (KekPdp11.modifyCpu fun c => c.setBitPSW bit v) :=
  R.modifyCpu fun _ => ⟨rfl, rfl, rfl⟩

omit [UnibusDevices δ] in
theorem setPSWFlagsNzv
    (value : Word) (wordMode : WordMode) :
    Keeps I (setPSWFlagsNzv value wordMode) :=
  R.modifyCpu fun _ => ⟨rfl, rfl, rfl⟩

end Operands

section Execution

variable [UnibusDevices δ]

include R

/-- The devices and the MMU are reset. -/
theorem busReset
    (hard : Bool) :
    Keeps I (KekPdp11.Bus.reset hard : Exec δ Unit) := by
  refine (R.logEvent rfl).bind fun _ => (R.modifyMmu _).bind fun _ => ?_
  refine Triple.bind (Triple.forM (fun slot => ?_) _) fun _ =>
    (R.modifyMmu _).bind fun _ => R.modifyMmu _
  refine .view_bind_any fun attached => .ite (fun _ => ?_) fun _ =>
    keeps_pure _
  exact R.update fun _ => rfl

/-- Whole instructions. -/
theorem instructionRules :
    InstructionRules I I I I (fun _ => I) where
  one _ hs := hs
  two _ hs := hs
  last _ hs := hs
  getGAM₀ := R.getGAM
  getGAM₁ := R.getGAM
  writeOperand := R.writeOperand
  flag₂ bit v _ := R.flag bit v
  flag bit v _ := R.flag bit v
  setRegister := R.setRegister
  byteOperand _ hs := hs
  waiting _ hs := hs
  trap vector := R.trap vector none
  halt s hs := R.frame s _ rfl hs
  opMfp dstMode dstReg wordMode := by
    refine Triple.bind (.ite (fun _ => .ite (fun _ => keeps_view _) fun _ =>
      keeps_view _) fun _ => ?_) fun v => ?_
    · refine (R.getGAM _ _ _ _).bind fun a => ?_
      exact .view_bind_any fun prev => R.read R.trap _ _ _ _
    · refine (R.setPSWFlagsNzv _ _).bind fun _ => ?_
      exact (R.pushStack R.trap v).bind fun _ => .pure fun _ hs => hs
  opMtp dstMode dstReg wordMode := by
    refine (R.popStack R.trap).bind fun v => ?_
    refine Triple.bind (.ite (fun _ => ?_) fun _ => ?_) fun setFlags =>
      (keeps_onlyIf _ (R.setPSWFlagsNzv _ _)).bind fun _ =>
        .pure fun _ hs => hs
    · refine Triple.bind (.ite (fun _ => ?_) fun _ => R.setRegister _ _)
        fun _ => keeps_pure _
      exact R.modifyCpu fun _ => ⟨rfl, rfl, rfl⟩
    · refine (R.getGAM _ _ _ _).bind fun a => .view_bind_any fun prev => ?_
      exact (R.write R.trap _ _ _ _ _).bind fun isPsw => keeps_pure _
  opMark dst := by
    refine .view_bind_any fun pc => (R.setRegister _ _).bind fun _ => ?_
    refine .view_bind_any fun r5 => (R.setRegister 7 r5).bind fun _ => ?_
    refine (R.popStack R.trap).bind fun v => ?_
    exact (R.setRegister _ _).bind fun _ => .pure fun _ hs => hs
  opSpl instr := by
    refine .view_bind_any fun runMode => ?_
    refine (keeps_onlyIf _ ?_).bind fun _ => .pure fun _ hs => hs
    exact R.modifyCpu fun _ => ⟨rfl, rfl, rfl⟩
  opRti := by
    refine (R.popStack R.trap).bind fun pc => ?_
    refine (R.setRegister 7 pc).bind fun _ => ?_
    refine (R.popStack R.trap).bind fun v => .view_bind_any fun runMode => ?_
    exact (R.setPSW _ _).bind fun _ => .pure fun _ hs => hs
  opReset := by
    refine .view_bind_any fun runMode => ?_
    refine (keeps_onlyIf _ ?_).bind fun _ => .pure fun _ hs => hs
    exact (R.busReset true).bind fun _ => .update R.reset
  opJsr linkReg dstMode dstReg := by
    refine .ite (fun _ => .pure fun _ hs => hs) fun _ => ?_
    refine (R.getGAM _ _ _ _).bind fun a => .view_bind_any fun link => ?_
    refine (R.pushStack R.trap link).bind fun _ => .view_bind_any
      fun locked => ?_
    refine Triple.bind (.ite (fun _ => keeps_pure ()) fun _ =>
      R.mmuAddToMMR1 _ _) fun _ => .view_bind_any fun pc => ?_
    refine (R.setRegister linkReg pc).bind fun _ => ?_
    exact (R.setRegister 7 a.addr).bind fun _ => .pure fun _ hs => hs
  opRts linkReg := by
    refine .view_bind_any fun link => (R.setRegister 7 link).bind fun _ => ?_
    refine .view_bind_any fun sp => (R.readWord R.trap _ _).bind fun v => ?_
    refine (R.setRegister _ _).bind fun _ => ?_
    refine (keeps_onlyIf _ ?_).bind fun _ => .pure fun _ hs => hs
    exact (R.addRegister _ _).bind fun _ => keeps_pure _

theorem fetchInstruction :
    Keeps I (fetchInstruction : Exec δ Word) := by
  refine .view_bind_any fun pc => (R.modifyMmu _).bind fun _ => ?_
  refine (R.readWord R.trap _ _).bind fun instr => ?_
  exact (R.addRegister _ _).bind fun _ => keeps_pure _

/-- The part of a step after the interrupts. -/
theorem runInstruction :
    Keeps I (runInstruction : Exec δ Bool) :=
  keeps_catchInt (R.instructionRules.fetchAndExecute R.fetchInstruction)
    fun _ => keeps_pure true

end Execution

end QueueRules

end KekPdp11
