import KekPdp11.Pushes

/-!
# KEK PDP-11: what a trap entry leaves

A trap entry is to be all or nothing: either the machine halts, or PC and the
status word are those of one vector and the ones from before are the top two
words of the new stack.

**Unhindered entries.**  An entry is carried out when both words of its vector
can be read and both words of its frame are taken and kept: they go to memory at
even addresses, or to words of the I/O page that take them and give them back,
and none of the two pushes is in the red zone.

**The state before the entry.**  All of this is said of the state in which
cpu::trap is called: of the vector's words, of the targets of the stack's
addresses and of the zone that they are in.  What becomes of an entry that is
hindered is in the module TrapFaults.
-/

namespace KekPdp11

open StateExcept

variable {δ : Type} [UnibusDevices δ]

section Purpose

/-- The status word that an entry loads. -/
def enteredPSW (s : Machine δ) (vectorPsw : Word) (newIpl : Option Level) :
    Word :=
  trapPSW vectorPsw s.cpu.psw newIpl &&& 0o174377

/-- The run mode of a status word. -/
def runModeOf (psw : Word) : RunMode :=
  (psw >>> 14).setWidth 2

/-- The state in which a level below the third begins. -/
def entering (s : Machine δ) (vector : Word) (newIpl : Option Level) :
    Machine δ :=
  if s.cpu.processingTrapDepth = 1 then
    (atTrapLevel s vector newIpl).withPSW fun c => c.setRegister 6 4
  else
    atTrapLevel s vector newIpl

/-- The state in which its vector is read, in kernel mode. -/
def Machine.inKernel (s : Machine δ) : Machine δ :=
  s.withPSW fun c => { c with psw := c.psw &&& 0o37777 }

/-- The space in which vectors are. -/
def vectorSpace (s : Machine δ) : Space :=
  if s.mmu.getUseDataSpace 0 then Space.dSpace else Space.iSpace

/-- The two words of a vector, read one after the other from the state in
which an entry begins, and the state that this leaves. -/
def VectorRead (s : Machine δ) (vector pc psw : Word) (u : Machine δ) : Prop :=
  ∃ t,
    Bus.readWord vector (vectorSpace s) s.inKernel = .ok pc t ∧
      Bus.readWord (vector + 2) (vectorSpace s)
        (t.withPSW fun c => c.setPC pc) = .ok psw u

/-- The two words of a vector. -/
def VectorHolds (s : Machine δ) (vector pc psw : Word) : Prop :=
  ∃ u, VectorRead s vector pc psw u

/-- The word at an address of the stack of the mode in use, as a reference
reads it. -/
def OnStack (t : Machine δ) (a v : Word) : Prop :=
  ∃ u, Bus.readWord a .dSpace t = .ok v u

/-- The entry from `s`, which reads its vector from `start`, is carried out in
`t`. -/
structure Delivered (s start : Machine δ) (vector : Word)
    (newIpl : Option Level) (t : Machine δ) : Prop where
  /-- PC and the status word are those of the vector. -/
  vector : ∃ vectorPsw, VectorHolds start vector t.cpu.pc vectorPsw ∧
    t.cpu.psw = enteredPSW s vectorPsw newIpl
  /-- The old PC and the old status word are the top two words of the stack. -/
  pcSaved : OnStack t t.stackPointer s.cpu.pc
  pswSaved : OnStack t (t.stackPointer + 2) s.cpu.psw
  /-- No other mode gets another stack pointer than the one of a nested entry. -/
  otherStacks : ∀ runMode, runMode ≠ t.cpu.getPSWRunmode →
    t.cpu.sp runMode = s.cpu.sp runMode ∨ t.cpu.sp runMode = 4
  ownStack : t.stackPointer + 4 = s.cpu.sp t.cpu.getPSWRunmode ∨
    t.stackPointer + 4 = 4

end Purpose

section Condition

/-- The vector that a level below the third enters through: in kernel mode a
nested fault takes vector 4. -/
def entryVector (s : Machine δ) (vector : Word) : Word :=
  if s.cpu.processingTrapDepth = 1 ∧ s.cpu.getPSWRunmode = 0 then 4 else vector

/-- The stack pointer below which the frame is pushed.  A nested entry sets the
one of the interrupted mode to 4, and from kernel mode the one of the new mode
as well. -/
def frameBase (s : Machine δ) (runMode : RunMode) : Word :=
  if s.cpu.processingTrapDepth = 1 ∧
      (s.cpu.getPSWRunmode = 0 ∨ runMode = s.cpu.getPSWRunmode) then
    4
  else
    s.cpu.sp runMode

/-- The vector has been loaded into `u`, and a nested entry from kernel mode
sets the stack pointer once more. -/
def based (s u : Machine δ) : Machine δ :=
  if s.cpu.processingTrapDepth = 1 ∧ s.cpu.getPSWRunmode = 0 then
    u.withStackPointer 4
  else u

/-- The entry has loaded its vector, and pushes its frame from `u`. -/
def Framing (s : Machine δ) (vector : Word) (newIpl : Option Level)
    (u : Machine δ) : Prop :=
  ∃ pc vectorPsw t,
    VectorRead (entering s vector newIpl) (entryVector s vector) pc vectorPsw
        t ∧
      u = based s (t.withPSW fun c =>
        c.setPSW (trapPSW vectorPsw s.cpu.psw newIpl) false)

/-- Both words of a frame go to memory, outside the red zone. -/
structure FrameFits (s : Machine δ) (runMode : RunMode) (a : Word) : Prop where
  psw : ∃ p page, s.target runMode (a - 2) .dSpace = .ram p page
  pc : ∃ p page, s.target runMode (a - 4) .dSpace = .ram p page
  even : a.toNat % 2 = 0
  first : ¬ InRedZone (useLimit s.cpu.stackLimitRegister) runMode a
  second : ¬ InRedZone (useLimit s.cpu.stackLimitRegister) runMode (a - 2)

/-- Both words of a frame are taken, wherever they go, and `t` keeps them as
well as PC, the status word and the stack pointers. -/
structure FrameTaken (u : Machine δ) (psw pc : Word) (t : Machine δ) :
    Prop where
  stores : ∃ v w,
    ¬ u.BelowYellowZone ∧ u.Stores psw v ∧
      ¬ v.BelowYellowZone ∧ v.Stores pc w ∧
        t = w.withPSW fun c => { c with processingTrapDepth := 0 }
  samePC : t.cpu.pc = u.cpu.pc
  samePSW : t.cpu.psw = u.cpu.psw
  sp : t.cpu.sp =
    Function.update u.cpu.sp u.cpu.getPSWRunmode (u.stackPointer - 4)
  pcSaved : OnStack t (u.stackPointer - 4) pc
  pswSaved : OnStack t (u.stackPointer - 2) psw

end Condition

section Entry

variable {s : Machine δ}

omit [UnibusDevices δ] in
/-- An entry does not change what it saves. -/
theorem entering_saves
    (s : Machine δ) (vector : Word) (newIpl : Option Level) :
    (entering s vector newIpl).cpu.psw = s.cpu.psw ∧
      (entering s vector newIpl).cpu.pc = s.cpu.pc ∧
      (entering s vector newIpl).cpu.stackLimitRegister =
        s.cpu.stackLimitRegister ∧
      (entering s vector newIpl).cpu.event = s.cpu.event ∧
      (entering s vector newIpl).mmu = s.mmu ∧
      (entering s vector newIpl).ram = s.ram := by
  unfold entering
  split
  · exact ⟨rfl, rfl, rfl, rfl, rfl, rfl⟩
  · exact ⟨rfl, rfl, rfl, rfl, rfl, rfl⟩

omit [UnibusDevices δ] in
theorem entering_depth
    (s : Machine δ) (vector : Word) (newIpl : Option Level) :
    (entering s vector newIpl).cpu.processingTrapDepth =
      s.cpu.processingTrapDepth + 1 := by
  unfold entering
  split
  · exact Cpu.setRegister_processingTrapDepth _ _ _
  · rfl

omit [UnibusDevices δ] in
/-- The stack pointers when an entry begins. -/
theorem entering_sp
    (s : Machine δ) (vector : Word) (newIpl : Option Level) :
    (entering s vector newIpl).cpu.sp =
      if s.cpu.processingTrapDepth = 1 then
        Function.update s.cpu.sp s.cpu.getPSWRunmode 4
      else s.cpu.sp := by
  unfold entering
  split <;> rfl

/-- A level below the third. -/
theorem trap_entering
    (vector : Word) (newIpl : Option Level)
    (hdepth : s.cpu.processingTrapDepth ≤ 1) :
    trap vector newIpl s =
      enterTrapVia trap (entryVector s vector) newIpl
        (decide (s.cpu.getPSWRunmode = 0)) (entering s vector newIpl) := by
  rw [trap_eq]
  by_cases hfirst : s.cpu.processingTrapDepth = 0
  · have hne : ¬ s.cpu.processingTrapDepth = 1 := by omega
    rw [trapVia_of_first trap vector newIpl hfirst, ← trap_eq]
    unfold entryVector entering
    rw [if_neg fun h => hne h.1, if_neg hne]
  · have hone : s.cpu.processingTrapDepth = 1 := by omega
    rw [trapVia_of_nested trap vector newIpl hone, ← trap_eq]
    unfold entryVector entering
    rw [if_pos hone]
    simp only [hone, true_and, decide_eq_true_eq]
    rfl

/-- A vector whose words can be read is loaded. -/
theorem loadVector_of_read
    {vector pc psw : Word} {u : Machine δ} (beforePsw : Word)
    (newIpl : Option Level) (h : VectorRead s vector pc psw u) :
    loadVectorVia trap vector beforePsw newIpl s =
      .ok () (u.withPSW fun c =>
        c.setPSW (trapPSW psw beforePsw newIpl) false) := by
  obtain ⟨t, hpc, hpsw⟩ := h
  have hzero : vector + 0 = vector := by simp
  unfold loadVectorVia
  rw [modifyCpu_bind_apply, mmuView_bind_apply, hzero]
  refine (bind_of_ok hpc).trans ?_
  exact bind_of_ok hpsw

omit [UnibusDevices δ] in
/-- It differs from the one in which the vector was loaded in the stack pointer
only. -/
theorem based_eq
    (s u : Machine δ) :
    ∃ sp, based s u = { u with cpu := { u.cpu with sp := sp } } ∧
      ∀ runMode, runMode ≠ u.cpu.getPSWRunmode →
        sp runMode = u.cpu.sp runMode := by
  unfold based
  split
  · exact ⟨_, rfl, fun _ hne => Function.update_of_ne hne _ _⟩
  · exact ⟨_, rfl, fun _ _ => rfl⟩

omit [UnibusDevices δ] in
theorem based_stackPointer
    {u : Machine δ} {vector : Word} {newIpl : Option Level}
    (hsp : u.cpu.sp = (entering s vector newIpl).cpu.sp) :
    (based s u).stackPointer = frameBase s u.cpu.getPSWRunmode := by
  rw [entering_sp] at hsp
  unfold based frameBase Machine.stackPointer
  by_cases hone : s.cpu.processingTrapDepth = 1
  · rw [if_pos hone] at hsp
    by_cases hkernel : s.cpu.getPSWRunmode = 0
    · rw [if_pos ⟨hone, hkernel⟩, if_pos ⟨hone, .inl hkernel⟩]
      exact Function.update_self _ _ _
    · rw [if_neg fun h => hkernel h.2, hsp]
      by_cases hmode : u.cpu.getPSWRunmode = s.cpu.getPSWRunmode
      · rw [if_pos ⟨hone, .inr hmode⟩, hmode]
        exact Function.update_self _ _ _
      · rw [if_neg fun h => h.2.elim hkernel hmode]
        exact Function.update_of_ne hmode _ _
  · rw [if_neg hone] at hsp
    rw [if_neg fun h => hone h.1, if_neg fun h => hone h.1, hsp]

/-- What the entry has changed when it pushes its frame. -/
structure VectorLoaded (s : Machine δ) (vector : Word) (newIpl : Option Level)
    (vectorPsw : Word) (u : Machine δ) : Prop where
  vector : VectorHolds (entering s vector newIpl) (entryVector s vector)
    u.cpu.pc vectorPsw
  psw : u.cpu.psw = enteredPSW s vectorPsw newIpl
  stackPointer : u.stackPointer = frameBase s u.cpu.getPSWRunmode
  otherStacks : ∀ runMode, runMode ≠ u.cpu.getPSWRunmode →
    u.cpu.sp runMode = s.cpu.sp runMode ∨ u.cpu.sp runMode = 4
  stackLimit : u.cpu.stackLimitRegister = s.cpu.stackLimitRegister
  depth : u.cpu.processingTrapDepth = s.cpu.processingTrapDepth + 1
  event : u.cpu.event = s.cpu.event
  target : ∀ runMode a, u.target runMode a .dSpace = s.target runMode a .dSpace

/-- What reading a vector leaves, once its status word is set. -/
theorem VectorRead.loads
    {vector pc psw : Word} {u : Machine δ} (v : Word)
    (h : VectorRead s vector pc psw u) :
    (∃ queued any,
      u.cpu.setPSW v false =
        { s.cpu with
          pc := pc
          psw := v &&& 0o174377
          queuedInterrupts := queued
          anyQueuedInterrupts := any }) ∧
      s.mmu.Touches u.mmu ∧ u.ram = s.ram := by
  obtain ⟨t, hpc, hpsw⟩ := h
  obtain ⟨⟨queued, any, hcpu⟩, hmmu, hram⟩ := Bus.readWord_returns hpc
  obtain ⟨⟨queued', any', hcpu'⟩, hmmu', hram'⟩ := Bus.readWord_returns hpsw
  refine ⟨⟨queued', any', ?_⟩, hmmu.trans hmmu', hram'.trans hram⟩
  simp only [hcpu', Machine.withPSW, hcpu]
  rfl

theorem VectorLoaded.of_read
    {vector pc vectorPsw : Word} {newIpl : Option Level} {t : Machine δ}
    (h : VectorRead (entering s vector newIpl) (entryVector s vector) pc
      vectorPsw t) :
    VectorLoaded s vector newIpl vectorPsw
      (based s (t.withPSW fun c =>
        c.setPSW (trapPSW vectorPsw s.cpu.psw newIpl) false)) := by
  obtain ⟨-, -, hlimit, hevent, hmmu, hram⟩ := entering_saves s vector newIpl
  obtain ⟨⟨queued, any, hcpu⟩, htouches, hmemory⟩ :=
    h.loads (trapPSW vectorPsw s.cpu.psw newIpl)
  rw [hmmu] at htouches
  generalize hv : (t.withPSW fun c =>
    c.setPSW (trapPSW vectorPsw s.cpu.psw newIpl) false) = v
  have hvCpu : v.cpu = t.cpu.setPSW (trapPSW vectorPsw s.cpu.psw newIpl) false :=
    congrArg Machine.cpu hv.symm
  have hvSp : v.cpu.sp = (entering s vector newIpl).cpu.sp := by
    rw [hvCpu, hcpu]
  have hvMmu : v.mmu = t.mmu := by
    rw [← hv]
    rfl
  have hvRam : v.ram = t.ram := by
    rw [← hv]
    rfl
  have hbase := based_stackPointer hvSp
  obtain ⟨sp, heq, hothers⟩ := based_eq s v
  have hmode : (based s v).cpu.getPSWRunmode = v.cpu.getPSWRunmode := by
    rw [heq]
    rfl
  refine ⟨?_, ?_, hbase.trans (by rw [hmode]), fun runMode hne => ?_, ?_, ?_,
    ?_, fun runMode a => ?_⟩
  · rw [heq]
    change VectorHolds _ _ v.cpu.pc _
    rw [hvCpu, hcpu]
    exact ⟨t, h⟩
  · rw [heq]
    change v.cpu.psw = _
    rw [hvCpu, hcpu]
    rfl
  · rw [hmode] at hne
    rw [heq]
    change sp runMode = _ ∨ sp runMode = _
    rw [hothers runMode hne, hvSp, entering_sp]
    split
    · by_cases hsame : runMode = s.cpu.getPSWRunmode
      · rw [hsame]
        exact .inr (Function.update_self _ _ _)
      · exact .inl (Function.update_of_ne hsame _ _)
    · exact .inl rfl
  · rw [heq]
    change v.cpu.stackLimitRegister = _
    rw [hvCpu, hcpu]
    exact hlimit
  · rw [heq]
    change v.cpu.processingTrapDepth = _
    rw [hvCpu, hcpu]
    exact entering_depth s vector newIpl
  · rw [heq]
    change v.cpu.event = _
    rw [hvCpu, hcpu]
    exact hevent
  · rw [heq]
    refine Machine.target_eq (.of_touches ?_) ?_ runMode a _
    · change s.mmu.Touches v.mmu
      rw [hvMmu]
      exact htouches
    · change v.ram.size = s.ram.size
      rw [hvRam, hmemory, hram]

/-- An entry whose vector is loaded and whose frame is saved. -/
theorem enterTrap_of_saved
    {start u t : Machine δ} {vector : Word} {newIpl : Option Level}
    (hload : loadVectorVia trap vector start.cpu.psw newIpl start = .ok () u)
    (hdepth : u.cpu.processingTrapDepth = s.cpu.processingTrapDepth + 1)
    (hshallow : s.cpu.processingTrapDepth ≤ 1)
    (hsave : saveFrameVia trap start.cpu.psw start.cpu.pc (based s u) =
      .ok () t) :
    enterTrapVia trap vector newIpl (decide (s.cpu.getPSWRunmode = 0)) start =
      .ok () (t.withPSW fun c => { c with processingTrapDepth := 0 }) := by
  have hview : (cpuView (fun c => c.processingTrapDepth) : Exec δ Nat) u =
      .ok (s.cpu.processingTrapDepth + 1) u := by
    rw [← hdepth]
    rfl
  have hbased :
      (onlyIf (decide (s.cpu.processingTrapDepth + 1 ≥ 2) &&
        decide (s.cpu.getPSWRunmode = 0)) (setRegister 6 4) : Exec δ Unit) u =
      .ok () (based s u) := by
    unfold onlyIf based
    by_cases hboth : s.cpu.processingTrapDepth = 1 ∧ s.cpu.getPSWRunmode = 0
    · rw [if_pos hboth, if_pos (by simp [hboth])]
      rfl
    · rw [if_neg hboth, if_neg]
      · rfl
      · rw [Bool.and_eq_true, decide_eq_true_eq, decide_eq_true_eq]
        rintro ⟨hdeep, hkernel⟩
        exact hboth ⟨by omega, hkernel⟩
  refine (rescue_bind_of_ok hload).trans ?_
  refine (rescue_bind_of_ok hview).trans ?_
  refine (rescue_bind_of_ok hbased).trans ?_
  exact rescue_of_ok (bind_of_ok hsave)

theorem Framing.loaded
    {vector : Word} {newIpl : Option Level} {u : Machine δ}
    (h : Framing s vector newIpl u) :
    ∃ vectorPsw, VectorLoaded s vector newIpl vectorPsw u := by
  obtain ⟨pc, vectorPsw, t, hread, rfl⟩ := h
  exact ⟨vectorPsw, .of_read hread⟩

/-- The rest of an entry whose vector is loaded. -/
theorem trap_of_framing
    {vector : Word} {newIpl : Option Level} {u t : Machine δ}
    (hdepth : s.cpu.processingTrapDepth ≤ 1) (h : Framing s vector newIpl u)
    (hsave : saveFrameVia trap s.cpu.psw s.cpu.pc u = .ok () t) :
    trap vector newIpl s =
      .ok () (t.withPSW fun c => { c with processingTrapDepth := 0 }) := by
  obtain ⟨pc, vectorPsw, v, hread, rfl⟩ := h
  obtain ⟨hpsw, hpc, -⟩ := entering_saves s vector newIpl
  have hload := loadVector_of_read s.cpu.psw newIpl hread
  rw [← hpsw, ← hpc] at hsave
  rw [← hpsw] at hload
  obtain ⟨⟨queued, any, hcpu⟩, -, -⟩ :=
    hread.loads (trapPSW vectorPsw (entering s vector newIpl).cpu.psw newIpl)
  refine (trap_entering vector newIpl hdepth).trans
    (enterTrap_of_saved hload ?_ hdepth hsave)
  change (v.cpu.setPSW _ false).processingTrapDepth = _
  rw [hcpu]
  exact entering_depth s vector newIpl

end Entry

section Pushes

variable {s u : Machine δ} {p : PhysAddr} {page : PageIndex}

/-- A push that memory has taken. -/
structure Pushed (s : Machine δ) (p : PhysAddr) (v : Word) (t : Machine δ) :
    Prop where
  cpu : ∃ delayed any, t.cpu =
    { s.cpu with
      sp := Function.update s.cpu.sp s.cpu.getPSWRunmode (s.stackPointer - 2)
      delayedTrap := delayed
      anyQueuedInterrupts := any }
  mmu : s.mmu.SameMapping t.mmu
  ram : t.ram = s.ram.writeWord p v

omit [UnibusDevices δ] in
theorem Pushed.stackPointer
    {v : Word} {t : Machine δ} (h : Pushed s p v t) :
    t.stackPointer = s.stackPointer - 2 := by
  obtain ⟨delayed, any, hcpu⟩ := h.cpu
  unfold Machine.stackPointer
  rw [hcpu]
  exact Function.update_self _ _ _

theorem storeBelow_ram
    (v : Word)
    (htarget : s.target s.cpu.getPSWRunmode (s.stackPointer - 2) .dSpace =
      .ram p page)
    (heven : p.toNat % 2 = 0) :
    storeBelow v s = .ok () (s.pushed p page v) := by
  have hwrite := Bus.write_ram v
    (show (s.withStackPointer (s.stackPointer - 2)).target
      s.cpu.getPSWRunmode (s.stackPointer - 2) .dSpace = .ram p page
      from htarget)
  rw [if_pos heven] at hwrite
  exact bind_of_ok hwrite

/-- A push to an even address of memory. -/
theorem Pushed.of_stores
    {v : Word} {t : Machine δ}
    (htarget : s.target s.cpu.getPSWRunmode (s.stackPointer - 2) .dSpace =
      .ram p page)
    (heven : p.toNat % 2 = 0) (h : s.Stores v t) :
    Pushed s p v t := by
  obtain ⟨u, hstore, hend⟩ := h
  cases (storeBelow_ram v htarget heven).symm.trans hstore
  have hmapping : s.mmu.SameMapping (s.pushed p page v).mmu :=
    .of_touches (.writtenTo s.mmu page)
  rcases hend with ⟨-, rfl⟩ | ⟨-, rfl⟩
  · exact ⟨⟨_, _, rfl⟩, hmapping, rfl⟩
  · -- the yellow zone leaves a trap for later
    exact ⟨⟨_, _, rfl⟩, ⟨hmapping.accessControl, hmapping.pdrLen,
      hmapping.pdrDirection, hmapping.par, hmapping.isEnabled, hmapping.mmr3,
      hmapping.ioBase⟩, rfl⟩

/-- Outside the red zone it is done. -/
theorem stores_ram
    (v : Word) (hzone : ¬ s.BelowYellowZone)
    (htarget : s.target s.cpu.getPSWRunmode (s.stackPointer - 2) .dSpace =
      .ram p page)
    (heven : p.toNat % 2 = 0) :
    ∃ t, s.Stores v t ∧ Pushed s p v t := by
  rcases pushStack_cases v hzone with ⟨t, ht⟩ | ⟨e, t, ht⟩
  · exact ⟨t, ht, .of_stores htarget heven ht⟩
  · cases (storeBelow_ram v htarget heven).symm.trans ht

/-- A word of the stack that is in memory. -/
theorem onStack_of_ram
    {t : Machine δ} {a v : Word} (page : PageIndex)
    (htarget : t.target t.cpu.getPSWRunmode a .dSpace = .ram p page)
    (heven : p.toNat % 2 = 0) (hword : t.ram.readWord p = v) :
    OnStack t a v := by
  have hread := Bus.read_ram htarget
  rw [if_pos heven, hword] at hread
  exact ⟨_, hread⟩

/-- A frame that fits is kept. -/
theorem FrameFits.kept
    {vector vectorPsw : Word} {newIpl : Option Level}
    (h : FrameFits s u.cpu.getPSWRunmode (frameBase s u.cpu.getPSWRunmode))
    (hloaded : VectorLoaded s vector newIpl vectorPsw u) (psw pc : Word) :
    ∃ t, FrameTaken u psw pc t := by
  have hbase := hloaded.stackPointer
  rw [← hbase] at h
  obtain ⟨p, page, htarget⟩ := h.psw
  obtain ⟨p', page', htarget'⟩ := h.pc
  have heven : p.toNat % 2 = 0 := by
    have hmod := target_ram_mod htarget
    have := h.even
    bv_omega
  obtain ⟨hparity, hne⟩ := frame_slots htarget htarget'
  have heven' : p'.toNat % 2 = 0 := hparity.trans heven
  rw [← hloaded.target] at htarget htarget'
  have hfirst : ¬ u.BelowYellowZone := by
    unfold Machine.BelowYellowZone
    rw [hloaded.stackLimit]
    exact h.first
  obtain ⟨v, hstore, hpushed⟩ := stores_ram psw hfirst htarget heven
  obtain ⟨delayed, any, hcpu⟩ := hpushed.cpu
  have hsp := hpushed.stackPointer
  have hmode : v.cpu.getPSWRunmode = u.cpu.getPSWRunmode := by
    rw [hcpu]
    rfl
  have hsize : v.ram.size = u.ram.size := by
    rw [hpushed.ram]
    rfl
  have hbelow : v.stackPointer - 2 = u.stackPointer - 4 := by
    rw [hsp]
    bv_omega
  have hsecond : ¬ v.BelowYellowZone := by
    have hlimit : v.cpu.stackLimitRegister = s.cpu.stackLimitRegister := by
      rw [hcpu]
      exact hloaded.stackLimit
    unfold Machine.BelowYellowZone
    rw [hlimit, hmode, hsp]
    exact h.second
  obtain ⟨w, hstore', hpushed'⟩ := stores_ram (s := v) (p := p') pc hsecond
    (by rw [hmode, hbelow, Machine.target_eq hpushed.mmu hsize]; exact htarget')
    heven'
  obtain ⟨delayed', any', hcpu'⟩ := hpushed'.cpu
  have hmapping : u.mmu.SameMapping w.mmu := hpushed.mmu.trans hpushed'.mmu
  have hsize' : w.ram.size = u.ram.size := by
    rw [hpushed'.ram]
    exact hsize
  have hmode' : w.cpu.getPSWRunmode = u.cpu.getPSWRunmode := by
    rw [hcpu']
    exact hmode
  refine ⟨w.withPSW fun c => { c with processingTrapDepth := 0 },
    ⟨v, w, hfirst, hstore, hsecond, hstore', rfl⟩, ?_, ?_, ?_, ?_, ?_⟩
  · change w.cpu.pc = _
    rw [hcpu', hcpu]
  · change w.cpu.psw = _
    rw [hcpu', hcpu]
  · change w.cpu.sp = _
    rw [hcpu', hmode, hbelow, hcpu]
    exact Function.update_idem _ _ _
  · refine onStack_of_ram (p := p') page' ?_ heven' ?_
    · change w.target w.cpu.getPSWRunmode _ _ = _
      rw [hmode', Machine.target_eq hmapping hsize']
      exact htarget'
    · change w.ram.readWord p' = pc
      rw [hpushed'.ram]
      exact Ram.readWord_writeWord _ _
  · refine onStack_of_ram (p := p) page ?_ heven ?_
    · change w.target w.cpu.getPSWRunmode _ _ = _
      rw [hmode', Machine.target_eq hmapping hsize']
      exact htarget
    · change w.ram.readWord p = psw
      rw [hpushed'.ram, Ram.readWord_writeWord_of_ne _ pc heven' heven hne,
        hpushed.ram]
      exact Ram.readWord_writeWord _ _

end Pushes

section Delivery

variable {s : Machine δ}

/-- A frame that is taken is saved. -/
theorem saveFrame_of_stores
    {u v w : Machine δ} {psw pc : Word} (hstore : u.Stores psw v)
    (hstore' : v.Stores pc w) :
    saveFrameVia trap psw pc u = .ok () w :=
  rescue_of_ok ((bind_of_ok hstore.pushed).trans hstore'.pushed)

/-- An entry whose frame is kept is carried out. -/
theorem FrameTaken.delivered
    {vector vectorPsw : Word} {newIpl : Option Level} {u t : Machine δ}
    (h : FrameTaken u s.cpu.psw s.cpu.pc t)
    (hloaded : VectorLoaded s vector newIpl vectorPsw u) :
    Delivered s (entering s vector newIpl) (entryVector s vector) newIpl t := by
  have hmode : t.cpu.getPSWRunmode = u.cpu.getPSWRunmode :=
    congrArg runModeOf h.samePSW
  have htop : t.stackPointer = u.stackPointer - 4 := by
    unfold Machine.stackPointer
    rw [hmode, h.sp]
    exact Function.update_self _ _ _
  refine ⟨⟨vectorPsw, ?_, h.samePSW.trans hloaded.psw⟩, ?_, ?_,
    fun runMode hne => ?_, ?_⟩
  · rw [h.samePC]
    exact hloaded.vector
  · rw [htop]
    exact h.pcSaved
  · have hupper : u.stackPointer - 4 + 2 = u.stackPointer - 2 := by
      bv_omega
    rw [htop, hupper]
    exact h.pswSaved
  · rw [hmode] at hne
    rw [h.sp, Function.update_of_ne hne]
    exact hloaded.otherStacks runMode hne
  · have hlower : u.stackPointer - 4 + 4 = u.stackPointer := by
      bv_omega
    rw [htop, hlower, hmode, hloaded.stackPointer]
    unfold frameBase
    split
    · exact .inr rfl
    · exact .inl rfl

end Delivery

end KekPdp11
