import KekPdp11.Isolation

/-!
# KEK PDP-11: the steps of user mode

No instruction of user mode leaves what the module Isolation allows it to
change.  HALT traps, SPL and RESET do nothing, and the previous mode of MFPI,
MFPD, MTPI and MTPD is user mode again; RTI and RTT store the status word
through the limited form of setPSW.

**Result.**  A step of user mode in which nothing traps and no reference is
aborted leaves the rest of the machine alone.
-/

namespace KekPdp11

open StateExcept

variable {δ : Type}

section Operands

variable [UnibusDevices δ] {returns : Prop} {s₀ : Machine δ}
variable (hs₀ : InUserMode s₀)

include hs₀

theorem isolatedUnless_readWord
    (a : Word) (space : Space) :
    Keeps (IsolatedUnless returns s₀) (Bus.readWord a space) :=
  keeps_view_user hs₀ (fun _ hs => hs.mode)
    (fun s => (later_rules s).referring.readWord _ _)
    fun _ hs => isolatedUnless_read hs _ _ _

theorem isolatedUnless_popStack :
    Keeps (IsolatedUnless returns s₀) popStack := by
  refine .view_bind_any fun a => ?_
  refine (isolatedUnless_readWord hs₀ _ _).bind fun temp => ?_
  exact (isolatedUnless_addRegister hs₀ _ _).bind fun _ => keeps_pure _

theorem isolatedUnless_storeOnStack
    (v : Word) :
    Keeps (IsolatedUnless returns s₀) (storeOnStackVia trap v) := by
  refine (isolatedUnless_addRegister hs₀ _ _).bind fun a => ?_
  refine keeps_view_user hs₀ (fun _ hs => hs.mode) (fun s => ?_) fun _ hs =>
    (isolatedUnless_write hs _ _ _ _).bind fun _ => keeps_pure _
  exact .view_bind_any fun runMode =>
    ((later_rules s).referring.write _ _ _ _ _).bind fun _ => guards_pure _

/-- User mode has no stack limit. -/
theorem isolatedUnless_pushStack
    (v : Word) :
    Keeps (IsolatedUnless returns s₀) (pushStack v) := by
  refine keeps_view_user hs₀ (fun _ hs => hs.mode) (fun s => ?_) fun s hs =>
    .view_bind_any fun limit => .view_bind_any fun sp =>
      .ite (fun h => ?_) fun _ => isolatedUnless_storeOnStack hs v
  · have L := later_rules s
    exact L.referring.pushStack L.toReferenceRules L.trap v
  · exact absurd h.1 (by decide)

theorem isolatedUnless_gamAddress
    (mode reg : RegNr) (wordMode : WordMode) :
    Keeps (IsolatedUnless returns s₀) (gamAddress mode reg wordMode 3) := by
  unfold gamAddress
  dsimp only
  split
  · exact .view_bind_any fun addr => keeps_pure _
  · refine .view_bind_any fun addr => ?_
    refine (isolatedUnless_addRegister hs₀ _ _).bind fun _ => ?_
    exact (isolatedUnless_addToMMR1 hs₀ _ _).bind fun _ => keeps_pure _
  · refine .view_bind_any fun pointer => ?_
    refine (isolatedUnless_read hs₀ _ _ _).bind fun addr => ?_
    refine (isolatedUnless_addToMMR1 hs₀ _ _).bind fun _ => ?_
    exact (isolatedUnless_addRegister hs₀ _ _).bind fun _ => keeps_pure _
  · refine (isolatedUnless_addRegister hs₀ _ _).bind fun addr => ?_
    exact (isolatedUnless_addToMMR1 hs₀ _ _).bind fun _ => keeps_pure _
  · refine (isolatedUnless_addRegister hs₀ _ _).bind fun pointer => ?_
    refine (isolatedUnless_addToMMR1 hs₀ _ _).bind fun _ => ?_
    exact (isolatedUnless_read hs₀ _ _ _).bind fun addr => keeps_pure _
  · refine .view_bind_any fun pc => ?_
    refine (isolatedUnless_read hs₀ _ _ _).bind fun nextWord => ?_
    refine (isolatedUnless_addRegister hs₀ _ _).bind fun _ => ?_
    exact .view_bind_any fun base => keeps_pure _
  · refine .view_bind_any fun pc => ?_
    refine (isolatedUnless_read hs₀ _ _ _).bind fun nextWord => ?_
    refine (isolatedUnless_addRegister hs₀ _ _).bind fun _ => ?_
    refine .view_bind_any fun base => ?_
    exact (isolatedUnless_read hs₀ _ _ _).bind fun addr => keeps_pure _

theorem isolatedUnless_getGAM
    (mode reg : RegNr) (wordMode : WordMode) (readValue : Bool) :
    Keeps (IsolatedUnless returns s₀) (getGAM mode reg wordMode readValue) := by
  by_cases hmode : mode = 0
  · subst hmode
    exact .view_bind_any fun v => keeps_pure _
  · have hguards : ∀ s : Machine δ,
        Guards (Later s) (getGAM mode reg wordMode readValue) := fun s =>
      getGAM_guards (later_rules s).toReferenceRules
        (later_rules s).toExecutionRules (later_rules s).referring _ _ _ _
    unfold getGAM at hguards ⊢
    rw [if_neg hmode] at hguards ⊢
    refine keeps_view_user hs₀ (fun _ hs => hs.mode) hguards fun s hs => ?_
    refine (isolatedUnless_gamAddress hs _ _ _).bind fun target => ?_
    refine Triple.bind (.ite (fun _ => isolatedUnless_read hs _ _ _) fun _ =>
      keeps_pure 0) fun value => ?_
    exact (keeps_assertThat _ _).bind fun _ => keeps_pure _

theorem isolatedUnless_writeOperand
    (g : GamRc) (value : Word) :
    Keeps (IsolatedUnless returns s₀) (writeOperand g value) :=
  keeps_view_user hs₀ (fun _ hs => hs.mode)
    (fun s => (later_rules s).referring.writeOperand g value)
    fun _ hs => (isolatedUnless_write hs _ _ _ _).bind fun _ => keeps_pure _

end Operands

section Execution

variable {returns : Prop} {s₀ : Machine δ}

theorem guards_of_outcome
    {I : Machine δ → Prop} {m : Exec δ Bool}
    (h : Triple I m (Outcome I I) (Ends I)) :
    Guards I m := by
  refine h.weaken_post fun done _ hs => ?_
  cases done with
  | true =>
      exact hs
  | false =>
      exact hs

theorem outcome_of_keeps
    {I : Machine δ → Prop} {m : Exec δ Bool} (h : Keeps I m) :
    Triple I m (Outcome I I) (fun _ => I) := by
  refine h.weaken_post fun done _ hs => ?_
  cases done with
  | true =>
      exact hs
  | false =>
      exact hs

theorem isolatedUnless_setPSWFlagsNzv
    (hs₀ : InUserMode s₀) (value : Word) (wordMode : WordMode) :
    Keeps (IsolatedUnless returns s₀) (setPSWFlagsNzv value wordMode) :=
  keeps_modifyCpu hs₀ fun c _ _ =>
    ((CpuIsolated.setBitPSW c _ (by omega)).trans
      (.setBitPSW _ _ (by omega))).trans (.setBitPSW _ _ (by omega))

variable [UnibusDevices δ]

/-- Whole instructions only add to the log. -/
theorem later_instructions
    (s : Machine δ) :
    InstructionRules (Later s) (Later s) (Later s) (Later s) (Ends (Later s)) :=
  instructionRules (later_rules s).toReferenceRules
    (later_rules s).toExecutionRules (later_rules s).referring
    (later_rules s).trap

variable (hs₀ : InUserMode s₀)

include hs₀

theorem isolatedUnless_mfpValue
    (dstMode dstReg : RegNr) (wordMode : WordMode) :
    Keeps (IsolatedUnless returns s₀) (mfpValue dstMode dstReg wordMode) := by
  refine .ite (fun _ => .ite (fun _ => keeps_view _) fun _ => keeps_view _)
    fun _ => (isolatedUnless_getGAM hs₀ _ _ _ _).bind fun a => ?_
  exact keeps_view_user hs₀ (fun _ hs => hs.previousMode)
    (fun s => .view_bind_any fun prev =>
      (later_rules s).referring.read _ _ _ _)
    fun _ hs => isolatedUnless_read hs _ _ _

theorem isolatedUnless_mtpStore
    (dstMode dstReg : RegNr) (wordMode : WordMode) (v : Word) :
    Keeps (IsolatedUnless returns s₀) (mtpStore dstMode dstReg wordMode v) := by
  refine .ite (fun _ => ?_) fun _ => ?_
  · refine keeps_thenPure (.ite (fun _ => ?_) fun _ =>
      isolatedUnless_setRegister hs₀ _ _) true
    refine keeps_modifyCpu hs₀ fun c _ hprev => ?_
    rw [hprev]
    exact .setStackpointer c v
  · refine (isolatedUnless_getGAM hs₀ _ _ _ _).bind fun a => ?_
    exact keeps_view_user hs₀ (fun _ hs => hs.previousMode)
      (fun s => .view_bind_any fun prev =>
        ((later_rules s).referring.write _ _ _ _ _).bind fun _ =>
          guards_pure _)
      fun _ hs => (isolatedUnless_write hs _ _ _ _).bind fun _ => keeps_pure _

/-- SPL has no effect in user mode. -/
theorem isolatedUnless_opSpl
    (instr : Word) :
    Keeps (IsolatedUnless returns s₀) (opSpl instr) :=
  keeps_view_user hs₀ (fun _ hs => hs.mode)
    (fun s => guards_of_outcome ((later_instructions s).opSpl instr))
    fun _ _ => keeps_pure true

/-- RESET has no effect in user mode. -/
theorem isolatedUnless_opReset :
    Keeps (IsolatedUnless returns s₀) opReset :=
  keeps_view_user hs₀ (fun _ hs => hs.mode)
    (fun s => guards_of_outcome (later_instructions s).opReset)
    fun _ _ => keeps_pure true

/-- HALT is a reserved instruction in user mode. -/
theorem isolatedUnless_opHalt :
    Keeps (IsolatedUnless returns s₀) opHalt :=
  keeps_view_user hs₀ (fun _ hs => hs.mode)
    (fun s => guards_of_outcome (later_instructions s).opHalt)
    fun _ _ => keeps_thenPure (isolatedUnless_trap _ _) true

/-- RTI and RTT use the limited form of setPSW in user mode. -/
theorem isolatedUnless_opRti
    (hreturns : returns) :
    Keeps (IsolatedUnless returns s₀) opRti := by
  refine (isolatedUnless_popStack hs₀).bind fun pc => ?_
  refine (isolatedUnless_setRegister hs₀ 7 pc).bind fun _ => ?_
  refine (isolatedUnless_popStack hs₀).bind fun v => ?_
  refine keeps_view_user hs₀ (fun _ hs => hs.mode) (fun s => ?_) fun s hs => ?_
  · refine .view_bind fun runMode => ?_
    rintro u ⟨hu, rfl⟩
    exact (later_rules s).rti u v hu
  · exact keeps_thenPure (keeps_modifyCpu hs fun c hmode hprev =>
      .setPSW hreturns hmode hprev v) true

theorem isolatedUnless_opJsr
    (linkReg dstMode dstReg : RegNr) :
    Keeps (IsolatedUnless returns s₀) (opJsr linkReg dstMode dstReg) := by
  refine .ite (fun _ => keeps_pure _) fun _ => ?_
  refine (isolatedUnless_getGAM hs₀ _ _ _ _).bind fun a => ?_
  refine .view_bind_any fun link => ?_
  refine (isolatedUnless_pushStack hs₀ link).bind fun _ => ?_
  refine .view_bind_any fun locked => ?_
  refine Triple.bind (.ite (fun _ => keeps_pure ()) fun _ => ?_) fun _ => ?_
  · refine (keeps_assertThat _ _).bind fun _ => .view_bind_any fun locked => ?_
    refine (keeps_assertThat _ _).bind fun _ => ?_
    exact keeps_modifyMmu hs₀ fun m => .setMMR1 m _
  · refine .view_bind_any fun pc => ?_
    refine (isolatedUnless_setRegister hs₀ linkReg pc).bind fun _ => ?_
    exact keeps_thenPure (isolatedUnless_setRegister hs₀ 7 a.addr) true

/-- The instructions of user mode other than HALT, RTI and RTT. -/
theorem isolatedUnless_instructions :
    OperandRules (IsolatedUnless returns s₀) (IsolatedUnless returns s₀)
      (IsolatedUnless returns s₀) (IsolatedUnless returns s₀)
      (fun _ => IsolatedUnless returns s₀) where
  one _ hs := hs
  two _ hs := hs
  last _ hs := hs
  getGAM₀ := isolatedUnless_getGAM hs₀
  getGAM₁ := isolatedUnless_getGAM hs₀
  writeOperand := isolatedUnless_writeOperand hs₀
  flag₂ := isolatedUnless_flag hs₀
  flag := isolatedUnless_flag hs₀
  setRegister := isolatedUnless_setRegister hs₀
  byteOperand _ hs := hs
  waiting _ hs := hs
  trap vector := isolatedUnless_trap vector none
  opMfp dstMode dstReg wordMode := by
    refine (isolatedUnless_mfpValue hs₀ _ _ _).bind fun v => ?_
    refine (isolatedUnless_setPSWFlagsNzv hs₀ _ _).bind fun _ => ?_
    exact (isolatedUnless_pushStack hs₀ v).bind fun _ => .pure fun _ hs => hs
  opMtp dstMode dstReg wordMode := by
    refine (isolatedUnless_popStack hs₀).bind fun v => ?_
    refine (isolatedUnless_mtpStore hs₀ _ _ _ v).bind fun setFlags => ?_
    refine (keeps_onlyIf _ (isolatedUnless_setPSWFlagsNzv hs₀ _ _)).bind
      fun _ => ?_
    exact .pure fun _ hs => hs
  opMark dst := by
    refine .view_bind_any fun pc => ?_
    refine (isolatedUnless_setRegister hs₀ 6 _).bind fun _ => ?_
    refine .view_bind_any fun r5 => ?_
    refine (isolatedUnless_setRegister hs₀ 7 r5).bind fun _ => ?_
    refine (isolatedUnless_popStack hs₀).bind fun v => ?_
    refine (isolatedUnless_setRegister hs₀ 5 v).bind fun _ => ?_
    exact .pure fun _ hs => hs
  opSpl instr := outcome_of_keeps (isolatedUnless_opSpl hs₀ instr)
  opReset := outcome_of_keeps (isolatedUnless_opReset hs₀)
  opJsr linkReg dstMode dstReg :=
    outcome_of_keeps (isolatedUnless_opJsr hs₀ linkReg dstMode dstReg)
  opRts linkReg := by
    refine .view_bind_any fun link => ?_
    refine (isolatedUnless_setRegister hs₀ 7 link).bind fun _ => ?_
    refine .view_bind_any fun sp => ?_
    refine (isolatedUnless_readWord hs₀ _ _).bind fun v => ?_
    refine (isolatedUnless_setRegister hs₀ _ v).bind fun _ => ?_
    refine (keeps_onlyIf _ ?_).bind fun _ => .pure fun _ hs => hs
    exact (isolatedUnless_addRegister hs₀ 6 _).bind fun _ => keeps_pure _

/-- The fetch of the instruction word. -/
theorem isolatedUnless_fetchInstruction :
    Keeps (IsolatedUnless returns s₀) (fetchInstruction : Exec δ Word) := by
  refine .view_bind_any fun pc => ?_
  refine Triple.bind (keeps_modifyMmu hs₀ fun m => .mmrStartInstruction m pc)
    fun _ => ?_
  refine (isolatedUnless_readWord hs₀ _ _).bind fun instr => ?_
  exact (isolatedUnless_addRegister hs₀ 7 2).bind fun _ => keeps_pure _

end Execution

section Steps

variable {returns : Prop} {s : Machine δ}

/-- The flag alone, as long as it does not hide an interrupt. -/
theorem isolated_scanned
    {any : Bool} (h : any = s.cpu.anyQueuedInterrupts ∨
      ∀ i, s.cpu.queuedInterrupts i = ∅) :
    IsolatedUnless returns s (s.scanned any) :=
  .silent rfl (.of_cpu ⟨⟨_, _, _, _, _, _, rfl⟩, rfl, fun _ _ => rfl, .inl rfl, h⟩)

variable [UnibusDevices δ]

/-- The part of a step before the instruction. -/
theorem isolatedUnless_serviceInterrupts
    (s : Machine δ) :
    IsolatedUnless returns s (final (serviceInterrupts s)) := by
  cases hflag : s.cpu.anyQueuedInterrupts with
  | false =>
      have hservice : serviceInterrupts s = .ok () (s.scanned false) := by
        unfold serviceInterrupts
        rw [cpuView_bind_apply, modifyCpu_bind_apply, hflag]
        rfl
      rw [hservice]
      exact isolated_scanned (.inl hflag.symm)
  | true =>
      have hservice : serviceInterrupts s =
          (executeDelayedTrap >>= fun _ => executeAnyPendingInterrupt)
            (s.scanned false) := by
        unfold serviceInterrupts
        rw [cpuView_bind_apply, modifyCpu_bind_apply, hflag]
        rfl
      rw [hservice]
      cases hdelayed : s.cpu.delayedTrap with
      | none =>
          have hnone : executeDelayedTrap (s.scanned false) =
              .ok () (s.scanned false) := by
            unfold executeDelayedTrap
            rw [cpuView_bind_apply,
              show (s.scanned false).cpu.delayedTrap = none from hdelayed]
            rfl
          rw [bind_of_ok hnone]
          rcases executeAnyPendingInterrupt_cases (s.scanned false) with
            ⟨-, any, hany, hend⟩ | ⟨i, v, -, -, -, hend⟩
          · rw [hend]
            refine isolated_scanned ?_
            cases any with
            | true =>
                exact .inl hflag.symm
            | false =>
                exact .inr (hany rfl)
          · have hgranted : IsolatedUnless returns s
                ((s.scanned false).granted i v) :=
              .entry rfl fun hquiet => absurd trivial hquiet
            rw [hend]
            exact hgranted.trans (trap_disturbs v (some i) _)
      | some vector =>
          obtain ⟨t, ht⟩ := trap_returns vector (some 7) (s.scanned false)
          have hdelivered : executeDelayedTrap (s.scanned false) =
              .ok () (t.withPSW fun c => { c with delayedTrap := none }) := by
            unfold executeDelayedTrap
            rw [cpuView_bind_apply,
              show (s.scanned false).cpu.delayedTrap = some vector
                from hdelayed]
            exact bind_of_ok ht
          have L := later_rules
            (atTrapLevel (s.scanned false) vector (some 7))
          have hpending : Guards
              (Later (atTrapLevel (s.scanned false) vector (some 7)))
              (executeAnyPendingInterrupt : Exec δ Unit) :=
            .view_bind_any fun level =>
              executeAnyPendingFrom_guards L.toReferenceRules
                L.toExecutionRules L.trap _ _
          have hcleared : Later (atTrapLevel (s.scanned false) vector (some 7))
              (t.withPSW fun c => { c with delayedTrap := none }) :=
            (trap_later ht).same rfl rfl
          have hlater := guards_final hpending hcleared
          have hloud : Disturbs (.trapEntry vector (some 7)) := trivial
          rw [bind_of_ok hdelivered]
          exact .of_loud rfl hloud hlater.extend

/-- The instruction of a step; `returns` covers RTI and RTT. -/
theorem isolatedUnless_runInstruction
    (hs : InUserMode s)
    (hreturns : ∀ instr t, fetchInstruction s = .ok instr t →
      instr = 0o2 ∨ instr = 0o6 → returns) :
    IsolatedUnless returns s (final (runInstruction s)) := by
  have R : OperandRules (IsolatedUnless returns s) _ _ _ _ :=
    isolatedUnless_instructions hs
  refine final_rescue ?_ fun _ _ hu => hu
  have hfetch : IsolatedUnless returns s
      (final (fetchInstruction s : EStateM.Result Stop (Machine δ) Word)) :=
    (isolatedUnless_fetchInstruction hs).final (.refl s)
  change IsolatedUnless returns s (final ((fetchInstruction >>= _) s))
  cases hfetched : (fetchInstruction s : EStateM.Result Stop (Machine δ) Word)
    with
  | error e u =>
      rw [hfetched] at hfetch
      rw [bind_of_error hfetched]
      exact hfetch
  | ok instr u =>
      rw [hfetched] at hfetch
      rw [bind_of_ok hfetched]
      have hexecute := R.executeInstruction
        (outcome_of_keeps (isolatedUnless_opHalt hs)) instr fun hinstr =>
        outcome_of_keeps
          (isolatedUnless_opRti hs (hreturns instr u hfetched hinstr))
      exact Keeps.final (R.executed hexecute) hfetch

/-- A whole step of user mode. -/
theorem isolatedUnless_step
    (hs : InUserMode s) :
    IsolatedUnless (Fetches s 0o2 ∨ Fetches s 0o6) s (final (step s)) := by
  have hcount : IsolatedUnless (Fetches s 0o2 ∨ Fetches s 0o6) s
      (counted s) :=
    .silent rfl (.of_cpu ⟨⟨_, _, _, _, _, _, rfl⟩, rfl, fun _ _ => rfl,
      .inl rfl, .inl rfl⟩)
  have hservice := hcount.trans
    (isolatedUnless_serviceInterrupts (counted s))
  change IsolatedUnless _ s
    (final ((serviceInterrupts >>= fun _ => runInstruction) (counted s)))
  cases hserviced : (serviceInterrupts (counted s) :
    EStateM.Result Stop (Machine δ) Unit) with
  | error e t =>
      rw [hserviced] at hservice
      rw [bind_of_error hserviced]
      exact hservice
  | ok _ t =>
      rw [hserviced] at hservice
      rw [bind_of_ok hserviced]
      have L := later_rules t
      have hlater := guards_final (runInstruction_guards L.toReferenceRules
        L.toExecutionRules L.referring L.trap) (Later.refl t)
      refine hservice.next hs hlater.extend fun ht =>
        isolatedUnless_runInstruction ht fun instr u hfetch hinstr => ?_
      rcases hinstr with rfl | rfl
      · exact .inl ⟨t, u, hserviced, hfetch⟩
      · exact .inr ⟨t, u, hserviced, hfetch⟩

/-- In user mode, with no page of it in the I/O page, a step that takes no
interrupt and ends without a trap and without an aborted reference leaves the
rest of the machine alone. -/
theorem user_mode_isolated
    (hs : InUserMode s)
    (hquiet : AppendLog.Quiet Machine.trace Disturbs s (final (step s))) :
    Isolated (Fetches s 0o2 ∨ Fetches s 0o6) s (final (step s)) :=
  (isolatedUnless_step hs).of_quiet hquiet

end Steps

section Examples

/-- A program in user mode whose one page starts at 4000, with MOV #5,@#100
as its next instruction. -/
def userStore : Machine LineClock :=
  let s := bareMachine 0o20000
    [(0o4000, 0o12737), (0o4002, 5), (0o4004, 0o100)]
  { s with
    cpu := { s.cpu with psw := 0o170000 }
    mmu := (s.mmu.setMMR0AsIs 1).modifyPage 0o60 fun p =>
      (p.setPar 0o40).setPdr 0o77406 }

theorem userStore_inUserMode :
    InUserMode userStore := by
  refine .of_pages (by decide) (by decide) (by decide) fun page _ a hio => ?_
  have hall : ∀ page, (userStore.mmu.pages page).par.toNat ≤ 0o40 := by
    decide +kernel
  have hpar := hall page
  have hlow := relocate_toNat userStore.mmu page a
  unfold Mmu.relocatedSum at hlow
  rw [if_pos (by decide)] at hlow
  have hbase : (0o760000 : PhysAddr).toNat ≤
      (userStore.mmu.relocate page a).toNat := hio
  change 0o760000 ≤ _ at hbase
  omega

/-- The program has no way to the bytes below its page. -/
theorem userStore_maps
    {p : Nat} (h : UserMaps userStore p) :
    0o4000 ≤ p := by
  obtain ⟨a, space, q, page, htarget, rfl⟩ := h
  obtain ⟨hpermits, hq, -⟩ := Mmu.target_ram htarget
  have henabled : userStore.mmu.isEnabled = true := by decide
  have honly : ∀ page, userStore.mmu.getTrapAction page false = .tProceed →
      page = 0o60 := by
    decide +kernel
  have hpage := honly _ (hpermits henabled).1
  rw [hq, Mmu.physical, if_pos henabled, hpage, relocate_toNat,
    if_pos (by decide)]
  have hpar : (userStore.mmu.pages 0o60).par.toNat = 0o40 := by decide +kernel
  unfold Mmu.relocatedSum
  omega

/-- The word is stored, and the rest of the machine is left alone, the memory
below its page included. -/
theorem user_mode_isolated_store :
    (final (step userStore)).ram.readWord 0o4100 = 5 ∧
      Isolated (Fetches userStore 0o2 ∨ Fetches userStore 0o6) userStore
        (final (step userStore)) ∧
      ∀ p < 0o4000, ¬ UserMaps userStore p :=
  ⟨by decide +kernel, user_mode_isolated userStore_inUserMode
    (.of_length_eq (step_extends userStore) (by decide +kernel)),
    fun _ hlow hmaps => absurd (userStore_maps hmaps) (Nat.not_le.mpr hlow)⟩

end Examples

end KekPdp11
