import KekPdp11.Serving
import KekPdp11.LineClock

/-!
# KEK PDP-11: RTI and RTT after a trap

A trap that enters kernel mode with its frame in memory, followed by RTI or
RTT, leaves PC, the status word, the stack pointers and the general registers
as they were.

**The two halves.**  `trap_frame` describes the state after the trap by the
state before: the two words of the frame, the kernel stack pointer below them,
everything else of the processor's registers as it was.  `opRti_frame` is the
return from any state with such a frame.  Between them lie the delivery of no
interrupt and the fetch of the instruction, which leave the frame alone.
-/

namespace KekPdp11

open StateExcept

variable {δ : Type} [UnibusDevices δ]

/-- A nested trap, an aborted reference or a delivered interrupt. -/
def Disturbs : Event → Prop
  | .trapEntry _ _ => True
  | .aborted _ => True
  | .interrupt _ _ => True
  | _ => False

/-- In kernel mode, with a frame for `before` on top of the kernel stack. -/
structure FrameFor (before s : Machine δ) : Prop where
  kernel : s.cpu.getPSWRunmode = 0
  sp : s.cpu.sp =
    Function.update before.cpu.sp 0 (before.cpu.sp 0 - 4)
  regs05 : s.cpu.regs05 = before.cpu.regs05
  pcSlot : ∃ p page,
    s.target 0 (before.cpu.sp 0 - 4) .dSpace = .ram p page ∧
      p.toNat % 2 = 0 ∧ s.ram.readWord p = before.cpu.pc
  pswSlot : ∃ p page,
    s.target 0 (before.cpu.sp 0 - 2) .dSpace = .ram p page ∧
      p.toNat % 2 = 0 ∧ s.ram.readWord p = before.cpu.psw

section KernelStack

variable {s : Machine δ}

omit [UnibusDevices δ] in
/-- In kernel mode the stack pointer in use is the kernel's. -/
theorem stackPointer_of_kernel
    (h : s.cpu.getPSWRunmode = 0) :
    s.stackPointer = s.cpu.sp 0 := by
  unfold Machine.stackPointer
  rw [h]

omit [UnibusDevices δ] in
theorem popped_sp_of_kernel
    (h : s.cpu.getPSWRunmode = 0) (page : PageIndex) :
    (s.popped page).cpu.sp =
      Function.update s.cpu.sp 0 (s.cpu.sp 0 + 2) := by
  change Function.update s.cpu.sp s.cpu.getPSWRunmode (s.stackPointer + 2) = _
  rw [stackPointer_of_kernel h, h]

omit [UnibusDevices δ] in
/-- A status word without reserved bits survives setPSW. -/
theorem setPSW_of_reserved
    {v : Word} (h : v &&& 0o3400 = 0) :
    v &&& 0o174377 = v := by
  ext i hi
  have hbit := congrArg (fun x : Word => x.getLsbD i) h
  interval_cases i <;> simp at hbit ⊢ <;> exact hbit

end KernelStack

namespace FrameFor

variable {before s t : Machine δ}

omit [UnibusDevices δ] in
/-- What leaves the stack, the registers, memory and the mapping alone. -/
theorem frame
    (h : FrameFor before s)
    (hpsw : t.cpu.psw = s.cpu.psw) (hsp : t.cpu.sp = s.cpu.sp)
    (hregs : t.cpu.regs05 = s.cpu.regs05) (hram : t.ram = s.ram)
    (hmmu : s.mmu.SameMapping t.mmu) :
    FrameFor before t where
  kernel := by
    have hk := h.kernel
    unfold Cpu.getPSWRunmode at hk ⊢
    rw [hpsw]
    exact hk
  sp := hsp.trans h.sp
  regs05 := hregs.trans h.regs05
  pcSlot := by
    obtain ⟨p, page, htarget, heven, hword⟩ := h.pcSlot
    refine ⟨p, page, ?_, heven, by rw [hram]; exact hword⟩
    rw [Machine.target_eq hmmu (by rw [hram]), htarget]
  pswSlot := by
    obtain ⟨p, page, htarget, heven, hword⟩ := h.pswSlot
    refine ⟨p, page, ?_, heven, by rw [hram]; exact hword⟩
    rw [Machine.target_eq hmmu (by rw [hram]), htarget]

omit [UnibusDevices δ] in
/-- A read leaves the frame alone. -/
theorem reads
    (h : FrameFor before s) (hread : s.ReadsTo t) :
    FrameFor before t := by
  obtain ⟨queued, any, hcpu⟩ := hread.cpu
  exact h.frame (by rw [hcpu]) (by rw [hcpu]) (by rw [hcpu]) hread.ram
    (.of_touches hread.mmu)

/-- RTI and RTT take the frame off. -/
theorem opRti
    (h : FrameFor before s)
    (hreserved : before.cpu.psw &&& 0o3400 = 0) :
    ∃ t, opRti s = .ok true t ∧ t.cpu.pc = before.cpu.pc ∧
      t.cpu.psw = before.cpu.psw ∧ t.cpu.sp = before.cpu.sp ∧
      t.cpu.regs05 = before.cpu.regs05 := by
  obtain ⟨p, page, htarget, heven, hpc⟩ := h.pcSlot
  obtain ⟨p', page', htarget', heven', hpsw⟩ := h.pswSlot
  have hsp : s.stackPointer = before.cpu.sp 0 - 4 := by
    rw [stackPointer_of_kernel h.kernel, h.sp, Function.update_self]
  have hfirst : popStack s = .ok before.cpu.pc (s.popped page) := by
    rw [← hpc]
    exact popStack_ram (by rw [h.kernel, hsp]; exact htarget) heven
  let s₁ : Machine δ :=
    (s.popped page).withPSW fun c => c.setPC before.cpu.pc
  have hkernel₁ : s₁.cpu.getPSWRunmode = 0 := h.kernel
  have hsps₁ : s₁.cpu.sp =
      Function.update before.cpu.sp 0 (before.cpu.sp 0 - 2) := by
    change (s.popped page).cpu.sp = _
    rw [popped_sp_of_kernel h.kernel, h.sp, Function.update_self,
      Function.update_idem]
    congr 1
    bv_omega
  have hsp₁ : s₁.stackPointer = before.cpu.sp 0 - 2 := by
    rw [stackPointer_of_kernel hkernel₁, hsps₁, Function.update_self]
  have hsecond : popStack s₁ = .ok before.cpu.psw (s₁.popped page') := by
    have hword : s₁.ram.readWord p' = before.cpu.psw := hpsw
    rw [← hword]
    refine popStack_ram ?_ heven'
    rw [hkernel₁, hsp₁, ← htarget']
    have htouched : s.mmu.SameMapping s₁.mmu :=
      .of_touches (.accessed s.mmu page)
    exact Machine.target_eq htouched rfl _ _ _
  have hkernel₂ : (s₁.popped page').cpu.getPSWRunmode = 0 := h.kernel
  have hsps₂ : (s₁.popped page').cpu.sp = before.cpu.sp := by
    rw [popped_sp_of_kernel hkernel₁, hsps₁, Function.update_self,
      Function.update_idem]
    refine Function.update_eq_self_iff.mpr ?_
    bv_omega
  refine ⟨(s₁.popped page').withPSW fun c =>
    c.setPSW before.cpu.psw false, ?_, rfl, ?_, hsps₂, h.regs05⟩
  · change (popStack >>= _ : Exec δ Bool) s = _
    rw [bind_of_ok hfirst]
    change (popStack >>= _ : Exec δ Bool) s₁ = _
    rw [bind_of_ok hsecond]
    change EStateM.Result.ok true ((s₁.popped page').withPSW fun c =>
      c.setPSW before.cpu.psw
        (decide ((s₁.popped page').cpu.getPSWRunmode ≠ 0))) = _
    rw [hkernel₂]
    rfl
  · exact setPSW_of_reserved hreserved

end FrameFor

section Entry

variable {s loaded t : Machine δ} {vector : Word} {newIpl : Option Level}

/-- The pushes of a first-level trap whose vector has been loaded. -/
theorem enterTrap_of_loaded
    {kernelMode : Bool} {u saved : Machine δ}
    (hload : loadVectorVia trap vector u.cpu.psw newIpl u = .ok () loaded)
    (hdepth : loaded.cpu.processingTrapDepth = 1)
    (hsave : saveFrameVia trap u.cpu.psw u.cpu.pc loaded = .ok () saved) :
    enterTrapVia trap vector newIpl kernelMode u =
      .ok () (saved.withPSW fun c => { c with processingTrapDepth := 0 }) := by
  have hview : (cpuView (fun c => c.processingTrapDepth) : Exec δ Nat) loaded =
      .ok 1 loaded := by
    rw [← hdepth]
    rfl
  have hskip :
      (onlyIf (decide (1 ≥ 2) && kernelMode) (setRegister 6 4) :
        Exec δ Unit) loaded = .ok () loaded := by
    rfl
  refine (rescue_bind_of_ok hload).trans ?_
  refine (rescue_bind_of_ok hview).trans ?_
  refine (rescue_bind_of_ok hskip).trans ?_
  exact rescue_of_ok (bind_of_ok hsave)

/-- The frame that a trap leaves. -/
theorem trap_frame
    (hdepth : s.cpu.processingTrapDepth = 0)
    (htrap : trap vector newIpl s = .ok () t)
    (hload : loadVectorVia trap vector s.cpu.psw newIpl
      (atTrapLevel s vector newIpl) = .ok () loaded)
    (hkernel : loaded.cpu.getPSWRunmode = 0)
    (hlimit : ¬ s.cpu.sp 0 < useLimit s.cpu.stackLimitRegister)
    (hlimit' : ¬ s.cpu.sp 0 - 2 < useLimit s.cpu.stackLimitRegister)
    (hframe : ∃ p page, s.target 0 (s.cpu.sp 0 - 2) .dSpace = .ram p page)
    (hframe' : ∃ p page, s.target 0 (s.cpu.sp 0 - 4) .dSpace = .ram p page)
    (hquiet : AppendLog.Quiet Machine.trace Disturbs
      (atTrapLevel s vector newIpl) t) :
    FrameFor s t := by
  obtain ⟨⟨pc, vectorPsw, queued, any, hcpu⟩, hmmu, hram⟩ :=
    loadVector_returns hload
  have hsp : loaded.cpu.sp = s.cpu.sp := by rw [hcpu]; rfl
  have hregs : loaded.cpu.regs05 = s.cpu.regs05 := by rw [hcpu]; rfl
  have hregister : loaded.cpu.stackLimitRegister =
      s.cpu.stackLimitRegister := by rw [hcpu]; rfl
  have hone : loaded.cpu.processingTrapDepth = 1 := by
    rw [hcpu]
    exact congrArg Nat.succ hdepth
  have htop : loaded.stackPointer = s.cpu.sp 0 := by
    rw [stackPointer_of_kernel hkernel, hsp]
  have hmap : s.mmu.SameMapping loaded.mmu := .of_touches hmmu
  have hsize : loaded.ram.size = s.ram.size := congrArg Ram.size hram
  obtain ⟨p, page, htarget⟩ := hframe
  obtain ⟨p', page', htarget'⟩ := hframe'
  have hpush : loaded.target loaded.cpu.getPSWRunmode
      (loaded.stackPointer - 2) .dSpace = .ram p page := by
    rw [hkernel, htop, Machine.target_eq hmap hsize]
    exact htarget
  have hpush' : loaded.target loaded.cpu.getPSWRunmode
      (loaded.stackPointer - 4) .dSpace = .ram p' page' := by
    rw [hkernel, htop, Machine.target_eq hmap hsize]
    exact htarget'
  have habove : loaded.AboveLimit := by
    intro _
    rw [htop, hregister]
    exact hlimit
  rw [trap_eq, trapVia_of_first trap vector newIpl hdepth] at htrap
  by_cases heven : p.toNat % 2 = 0
  · have habove' : (loaded.pushed p page s.cpu.psw).AboveLimit := by
      intro _
      rw [pushed_stackPointer, htop]
      change ¬ _ < useLimit loaded.cpu.stackLimitRegister
      rw [hregister]
      exact hlimit'
    have hsave := saveFrame_ram s.cpu.psw s.cpu.pc habove habove' hpush
      hpush' heven
    have hend := (enterTrap_of_loaded hload hone hsave).symm.trans htrap
    injection hend with _ hstate
    subst hstate
    obtain ⟨heven', hpc, hpsw⟩ := framed_readWord s.cpu.psw s.cpu.pc hpush
      hpush' heven
    have hframed : s.mmu.SameMapping
        (loaded.framed p page s.cpu.psw p' page' s.cpu.pc).mmu :=
      hmap.trans (.of_touches (framed_touches _ _))
    have hsps : (loaded.framed p page s.cpu.psw p' page' s.cpu.pc).cpu.sp =
        Function.update s.cpu.sp 0 (s.cpu.sp 0 - 4) := by
      rw [framed_sp, hkernel, hsp, htop]
    refine ⟨hkernel, hsps, hregs, ⟨p', page', ?_, heven', hpc⟩,
      ⟨p, page, ?_, heven, hpsw⟩⟩
    · exact (Machine.target_eq hframed hsize _ _ _).trans htarget'
    · exact (Machine.target_eq hframed hsize _ _ _).trans htarget
  · obtain ⟨x, older, herror, htrace⟩ := pushStack_odd s.cpu.psw habove hpush
      heven
    have hsave : saveFrameVia trap s.cpu.psw s.cpu.pc loaded =
        .ok () (x.withPSW fun c => c.setRegister 6 loaded.stackPointer) :=
      rescue_of_error (bind_of_error herror) rfl
    have hend := (enterTrap_of_loaded hload hone hsave).symm.trans htrap
    injection hend with _ hstate
    subst hstate
    -- the aborted push is on top of the log
    obtain ⟨new, hnew, hq⟩ := hquiet
    have hlog : .aborted false :: older =
        new ++ .trapEntry vector newIpl :: s.trace :=
      htrace.symm.trans hnew
    cases new with
    | nil =>
        cases hlog
    | cons e new =>
        injection hlog with he
        exact absurd (he ▸ trivial) (hq e List.mem_cons_self)

end Entry

section Return

/-- The next step fetches `instr`. -/
def Fetches (s : Machine δ) (instr : Word) : Prop :=
  ∃ t u, serviceInterrupts (counted s) = .ok () t ∧
    fetchInstruction t = .ok instr u

/-- What an instruction that delivers no interrupt starts from. -/
structure FrameKept (s t : Machine δ) : Prop where
  psw : t.cpu.psw = s.cpu.psw
  sp : t.cpu.sp = s.cpu.sp
  regs05 : t.cpu.regs05 = s.cpu.regs05
  ram : t.ram = s.ram
  mmu : t.mmu = s.mmu

/-- Unless something disturbs it. -/
def Undisturbed (s t : Machine δ) : Prop :=
  AppendLog.UnlessLogged Machine.trace Disturbs FrameKept s t

omit [UnibusDevices δ] in
theorem Undisturbed.refl
    (s : Machine δ) :
    Undisturbed s s :=
  AppendLog.UnlessLogged.refl (fun _ => ⟨rfl, rfl, rfl, rfl, rfl⟩) s

omit [UnibusDevices δ] in
theorem Undisturbed.next
    {s t u : Machine δ} (h : Undisturbed s t) (hnext : Undisturbed t u) :
    Undisturbed s u :=
  AppendLog.UnlessLogged.trans
    (fun hst htu =>
      ⟨htu.psw.trans hst.psw, htu.sp.trans hst.sp,
        htu.regs05.trans hst.regs05, htu.ram.trans hst.ram,
        htu.mmu.trans hst.mmu⟩) h hnext

/-- A trap disturbs. -/
theorem undisturbed_trap
    (s : Machine δ) (vector : Word) (newIpl : Option Level) :
    Keeps (Undisturbed s) (trap vector newIpl) := by
  intro u hu
  obtain ⟨t, ht⟩ := trap_returns vector newIpl u
  rw [ht]
  have hloud : Disturbs (.trapEntry vector newIpl) := trivial
  exact hu.next (.of_loud rfl hloud (trap_later ht).extend)

omit [UnibusDevices δ] in
/-- A change of the bookkeeping of interrupts. -/
theorem undisturbed_modifyCpu
    (s : Machine δ) {f : Cpu → Cpu}
    (hpsw : ∀ c, (f c).psw = c.psw) (hsp : ∀ c, (f c).sp = c.sp)
    (hregs : ∀ c, (f c).regs05 = c.regs05) :
    Keeps (Undisturbed s) (modifyCpu f) :=
  .update fun u hu =>
    hu.next (.silent rfl ⟨hpsw u.cpu, hsp u.cpu, hregs u.cpu, rfl, rfl⟩)

theorem undisturbed_executeAnyPendingFrom
    (s : Machine δ) (startLevel : Nat) (levels : List Level) :
    Keeps (Undisturbed s) (executeAnyPendingFrom startLevel levels) := by
  induction levels with
  | nil =>
      exact .pure fun _ hu => hu
  | cons i levels ih =>
      refine .view_bind_any fun first => ?_
      cases first with
      | none =>
          exact ih
      | some v =>
          refine Triple.bind (undisturbed_modifyCpu s (fun _ => by rfl)
            (fun _ => by rfl) fun _ => by rfl) fun _ => .ite (fun _ => ih)
            fun _ => ?_
          refine Triple.bind (undisturbed_modifyCpu s (fun _ => by rfl)
            (fun _ => by rfl) fun _ => by rfl) fun _ => ?_
          have hloud : Disturbs (.interrupt i v) := trivial
          have hlog : Keeps (Undisturbed s) (logEvent (.interrupt i v)) :=
            .update fun u hu =>
              hu.next (.entry rfl fun hquiet => absurd hloud hquiet)
          exact hlog.bind fun _ => undisturbed_trap s v (some i)

theorem undisturbed_serviceInterrupts
    (s : Machine δ) :
    Keeps (Undisturbed s) serviceInterrupts := by
  refine .view_bind_any fun any => ?_
  refine Triple.bind (undisturbed_modifyCpu s (fun _ => by rfl)
    (fun _ => by rfl) fun _ => by rfl) fun _ => .ite (fun _ => ?_)
    fun _ => .pure fun _ hu => hu
  refine Triple.bind ?_ fun _ => .view_bind_any fun level =>
    undisturbed_executeAnyPendingFrom s _ _
  refine .view_bind_any fun delayed => ?_
  cases delayed with
  | none =>
      exact .pure fun _ hu => hu
  | some vector =>
      exact (undisturbed_trap s vector _).bind fun _ =>
        undisturbed_modifyCpu s (fun _ => rfl) (fun _ => rfl) fun _ => rfl

/-- RTI and RTT. -/
theorem executeInstruction_rti
    {instr : Word} (h : instr = 2 ∨ instr = 6) :
    (executeInstruction instr : Exec δ Bool) = opRti := by
  rcases h with rfl | rfl <;> rfl

omit [UnibusDevices δ] in
theorem mmrStartInstruction_sameMapping
    (m : Mmu) (pc : Word) :
    m.SameMapping (m.mmrStartInstruction pc) := by
  unfold Mmu.mmrStartInstruction
  split
  · exact .of_touches (.refl m)
  · exact ⟨fun _ => rfl, fun _ => rfl, fun _ => rfl, fun _ => rfl, rfl, rfl,
      rfl⟩

/-- A fetch keeps the frame. -/
theorem FrameFor.fetch
    {before s t : Machine δ} {instr : Word} (h : FrameFor before s)
    (hfetch : fetchInstruction s = .ok instr t) :
    FrameFor before t := by
  let started : Machine δ :=
    { s with mmu := s.mmu.mmrStartInstruction s.cpu.pc }
  have hstarted : FrameFor before started :=
    h.frame rfl rfl rfl rfl (mmrStartInstruction_sameMapping _ _)
  obtain ⟨instr', u, hread, hend⟩ := bind_eq_ok
    (show (Bus.readWord s.cpu.pc .iSpace >>= _) started = .ok instr t
      from hfetch)
  have hu : FrameFor before u := hstarted.reads (Bus.readWord_returns hread)
  injection hend with _ hstate
  subst hstate
  exact hu.frame rfl rfl rfl rfl (.of_touches (.refl _))

/-- After a trap that enters kernel mode with its frame in memory and without
a fault, RTI or RTT as the next instruction brings back PC, the status word,
the stack pointers and the general registers. -/
theorem rti_undoes_trap
    {s loaded t u : Machine δ} {vector instr : Word}
    {newIpl : Option Level} {result : Bool}
    (hreserved : s.cpu.psw &&& 0o3400 = 0)
    (hdepth : s.cpu.processingTrapDepth = 0)
    (htrap : trap vector newIpl s = .ok () t)
    (hload : loadVectorVia trap vector s.cpu.psw newIpl
      (atTrapLevel s vector newIpl) = .ok () loaded)
    (hkernel : loaded.cpu.getPSWRunmode = 0)
    (hlimit : ¬ s.cpu.sp 0 < useLimit s.cpu.stackLimitRegister)
    (hlimit' : ¬ s.cpu.sp 0 - 2 < useLimit s.cpu.stackLimitRegister)
    (hframe : ∃ p page, s.target 0 (s.cpu.sp 0 - 2) .dSpace = .ram p page)
    (hframe' : ∃ p page, s.target 0 (s.cpu.sp 0 - 4) .dSpace = .ram p page)
    (hquiet : AppendLog.Quiet Machine.trace Disturbs
      (atTrapLevel s vector newIpl) t)
    (hinstr : instr = 2 ∨ instr = 6)
    (hfetch : Fetches t instr)
    (hstep : step t = .ok result u)
    (hquiet' : AppendLog.Quiet Machine.trace Disturbs t u) :
    u.cpu.pc = s.cpu.pc ∧ u.cpu.psw = s.cpu.psw ∧ u.cpu.sp = s.cpu.sp ∧
      u.cpu.regs05 = s.cpu.regs05 := by
  have hframed : FrameFor s t := trap_frame hdepth htrap hload hkernel hlimit
    hlimit' hframe hframe' hquiet
  obtain ⟨serviced, fetched, hservice, hfetched⟩ := hfetch
  -- the part of the step before the instruction
  have hundisturbed : Undisturbed t serviced :=
    (undisturbed_serviceInterrupts t).ok
      (show Undisturbed t (counted t) from
        (Undisturbed.refl t).next (.silent rfl ⟨rfl, rfl, rfl, rfl, rfl⟩))
      hservice
  have hrest : runInstruction serviced = .ok result u := by
    have hsplit : (serviceInterrupts >>= fun _ => runInstruction) (counted t) =
        .ok result u := hstep
    rw [bind_of_ok hservice] at hsplit
    exact hsplit
  have hlater : AppendLog.Extends Machine.trace serviced u := by
    have R := later_rules serviced
    have hend := (runInstruction_guards R.toReferenceRules
      R.toExecutionRules R.referring R.trap).ok (Later.refl serviced) hrest
    exact hend.extend
  have hkept := hundisturbed.of_quiet
    (hquiet'.left hundisturbed.extends hlater)
  have hserviced : FrameFor s serviced :=
    hframed.frame hkept.psw hkept.sp hkept.regs05 hkept.ram
      (by rw [hkept.mmu]; exact .of_touches (.refl _))
  -- the instruction
  obtain ⟨v, hrti, hpc, hpsw, hsp, hregs⟩ :=
    (hserviced.fetch hfetched).opRti hreserved
  have hexecute : fetchAndExecute serviced = .ok true v := by
    refine (bind_of_ok hfetched).trans ?_
    rw [executeInstruction_rti hinstr]
    exact (bind_of_ok hrti).trans rfl
  have hrun : runInstruction serviced = .ok true v := rescue_of_ok hexecute
  injection hrest.symm.trans hrun with _ hstate
  subst hstate
  exact ⟨hpc, hpsw, hsp, hregs⟩

end Return

section Examples

/-- A program in user mode with the second register set, and a handler of
TRAP in the kernel that consists of an RTI. -/
def userProgram : Machine LineClock :=
  let s := bareMachine 0o20000
    [(0o34, 0o2000), (0o36, 0o340), (0o2000, 2)]
  { s with
    cpu := { s.cpu with pc := 0o1002, psw := 0o174017, sp := fun _ => 0o1000 } }

/-- The same inside the handler. -/
def userTrapped : Machine LineClock :=
  final (trap 0o34 (some 5) userProgram)

theorem rti_undoes_trap_user :
    (final (step userTrapped)).cpu.pc = 0o1002 ∧
      (final (step userTrapped)).cpu.psw = 0o174017 ∧
      (final (step userTrapped)).cpu.sp = userProgram.cpu.sp ∧
      (final (step userTrapped)).cpu.regs05 = userProgram.cpu.regs05 := by
  have htrap : trap 0o34 (some 5) userProgram = .ok () userTrapped :=
    eq_ok_of_value (by decide +kernel)
  have hstep : step userTrapped = .ok true (final (step userTrapped)) :=
    eq_ok_of_value (by decide +kernel)
  have hfetch : Fetches userTrapped 2 :=
    ⟨_, _, eq_ok_of_value (by decide +kernel),
      eq_ok_of_value (by decide +kernel)⟩
  exact rti_undoes_trap (by decide) (by decide) htrap
    (eq_ok_of_value (by decide +kernel)) (by decide +kernel)
    (by decide) (by decide) ⟨0o776, 0, by decide +kernel⟩
    ⟨0o774, 0, by decide +kernel⟩
    (.of_length_eq (trap_later htrap).extend (by decide +kernel))
    (.inl rfl) hfetch hstep
    (.of_length_eq (step_extends userTrapped) (by decide +kernel))

end Examples

end KekPdp11
