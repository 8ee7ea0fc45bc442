import KekPdp11.References
import KekPdp11.Watching
import KekPdp11.Translation

/-!
# KEK PDP-11: references that return

What a reference leaves when it returns.

* Served by memory, a word read leaves the page's accessed bit and a word
  write leaves the word and the page's written bit.
* Whatever serves it, a read leaves memory, the registers and the mapping as
  they are.

**Mapping.**  `Mmu.Touches` relates two states of the MMU that differ in the
accessed and written bits of their pages only.  Targets do not depend on them.
-/

namespace KekPdp11

open StateExcept

variable {δ : Type}

/-- A word is its high byte and its low byte. -/
theorem append_bytes
    (w : Word) :
    ((w >>> 8).setWidth 8 : Byte) ++ (w.setWidth 8 : Byte) = w := by
  ext i hi
  rw [BitVec.getElem_append]
  split
  · rw [BitVec.getElem_setWidth]
    exact BitVec.getLsbD_eq_getElem hi
  · rw [BitVec.getElem_setWidth, BitVec.getLsbD_ushiftRight,
      show 8 + (i - 8) = i by omega]
    exact BitVec.getLsbD_eq_getElem hi

namespace Ram

variable (r : Ram) {a b : PhysAddr} (v : Word)

theorem readWord_writeWord :
    (r.writeWord a v).readWord a = v := by
  have hlow : (r.writeWord a v).m a.toNat = v.setWidth 8 := by
    simp [writeWord, Function.update_of_ne]
  have hhigh : (r.writeWord a v).m (a.toNat + 1) =
      (v >>> 8).setWidth 8 := by
    simp [writeWord]
  unfold readWord
  rw [hlow, hhigh]
  exact append_bytes v

/-- Words at different even addresses do not overlap. -/
theorem readWord_writeWord_of_ne
    (ha : a.toNat % 2 = 0) (hb : b.toNat % 2 = 0) (h : a.toNat ≠ b.toNat) :
    (r.writeWord a v).readWord b = r.readWord b := by
  have hm : ∀ i, i ≠ a.toNat → i ≠ a.toNat + 1 →
      (r.writeWord a v).m i = r.m i := by
    intro i h₀ h₁
    simp [writeWord, Function.update_of_ne, h₀, h₁]
  unfold readWord
  rw [hm b.toNat (by omega) (by omega), hm (b.toNat + 1) (by omega) (by omega)]

end Ram

namespace Mmu

/-- Accessed and written bits aside, the two are the same. -/
def Touches (m m' : Mmu) : Prop :=
  ∃ pages, m' = { m with pages := pages } ∧
    ∀ page, (pages page).parPreshifted = (m.pages page).parPreshifted ∧
      (pages page).pdr &&& ~~~0o300#16 =
        (m.pages page).pdr &&& ~~~0o300#16

namespace Touches

variable {m m' m'' : Mmu}

theorem refl
    (m : Mmu) :
    m.Touches m :=
  ⟨m.pages, rfl, fun _ => ⟨rfl, rfl⟩⟩

theorem trans
    (h : m.Touches m') (h' : m'.Touches m'') :
    m.Touches m'' := by
  obtain ⟨pages, rfl, hp⟩ := h
  obtain ⟨pages', rfl, hp'⟩ := h'
  exact ⟨pages', rfl, fun page =>
    ⟨(hp' page).1.trans (hp page).1, (hp' page).2.trans (hp page).2⟩⟩

/-- A change of one page's descriptor in these bits. -/
theorem of_modifyPage
    (m : Mmu) (page : PageIndex) {bits : Word}
    (hbits : bits &&& ~~~0o300#16 = 0) :
    m.Touches (m.modifyPage page fun p => p.setPdr (p.pdr ||| bits)) := by
  refine ⟨_, rfl, fun page' => ?_⟩
  by_cases h : page' = page
  · subst h
    rw [Function.update_self]
    refine ⟨rfl, ?_⟩
    change ((m.pages page').pdr ||| bits) &&& ~~~0o300#16 = _
    rw [BitVec.and_or_distrib_right, hbits]
    exact BitVec.or_zero
  · rw [Function.update_of_ne h]
    exact ⟨rfl, rfl⟩

theorem accessed
    (m : Mmu) (page : PageIndex) :
    m.Touches (m.setPageAccessed page) :=
  of_modifyPage m page (by decide)

theorem writtenTo
    (m : Mmu) (page : PageIndex) :
    m.Touches (m.setPageWrittenTo page) :=
  of_modifyPage m page (by decide)

/-- A descriptor field outside these bits. -/
theorem pdr_and
    (h : m.Touches m') (page : PageIndex) {mask : Word}
    (hmask : ~~~0o300#16 &&& mask = mask) :
    (m'.pages page).pdr &&& mask = (m.pages page).pdr &&& mask := by
  obtain ⟨pages, rfl, hp⟩ := h
  have hsame : ∀ w : Word, (w &&& ~~~0o300#16) &&& mask = w &&& mask := by
    intro w
    rw [BitVec.and_assoc, hmask]
  change (pages page).pdr &&& mask = _
  rw [← hsame (pages page).pdr, (hp page).2, hsame]

theorem getAccessControl_eq
    (h : m.Touches m') (page : PageIndex) :
    m'.getAccessControl page = m.getAccessControl page := by
  have hfield : ∀ w : Word, (w.setWidth 3 : BitVec 3) =
      (w &&& 7).setWidth 3 := by
    intro w
    ext i hi
    interval_cases i <;> simp
  unfold getAccessControl
  rw [hfield, h.pdr_and page (by decide), ← hfield]

theorem getPdrLen_eq
    (h : m.Touches m') (page : PageIndex) :
    m'.getPdrLen page = m.getPdrLen page := by
  have hfield : ∀ w : Word,
      (w >>> 8) &&& (127 : Word) = (w &&& 0o77400) >>> 8 := by
    intro w
    ext i hi
    interval_cases i <;> simp
  unfold getPdrLen
  rw [hfield, h.pdr_and page (by decide), ← hfield]

theorem getPdrDirection_eq
    (h : m.Touches m') (page : PageIndex) :
    m'.getPdrDirection page = m.getPdrDirection page := by
  unfold getPdrDirection
  rw [h.pdr_and page (by decide)]

/-- The registers other than the pages. -/
theorem registers
    (h : m.Touches m') :
    m'.mmr0 = m.mmr0 ∧ m'.mmr1 = m.mmr1 ∧ m'.mmr2 = m.mmr2 ∧
      m'.mmr3 = m.mmr3 ∧ m'.ioBase = m.ioBase := by
  obtain ⟨pages, rfl, -⟩ := h
  exact ⟨rfl, rfl, rfl, rfl, rfl⟩

theorem parPreshifted_eq
    (h : m.Touches m') (page : PageIndex) :
    (m'.pages page).parPreshifted = (m.pages page).parPreshifted := by
  obtain ⟨pages, rfl, hp⟩ := h
  exact (hp page).1

end Touches

/-- What decides where references go: the mapping without its records. -/
structure SameMapping (m m' : Mmu) : Prop where
  accessControl : ∀ page, m'.getAccessControl page = m.getAccessControl page
  pdrLen : ∀ page, m'.getPdrLen page = m.getPdrLen page
  pdrDirection : ∀ page, m'.getPdrDirection page = m.getPdrDirection page
  par : ∀ page, (m'.pages page).parPreshifted = (m.pages page).parPreshifted
  isEnabled : m'.isEnabled = m.isEnabled
  mmr3 : m'.mmr3 = m.mmr3
  ioBase : m'.ioBase = m.ioBase

namespace SameMapping

variable {m m' m'' : Mmu}

theorem of_touches
    (h : m.Touches m') :
    m.SameMapping m' where
  accessControl := h.getAccessControl_eq
  pdrLen := h.getPdrLen_eq
  pdrDirection := h.getPdrDirection_eq
  par := h.parPreshifted_eq
  isEnabled := by
    unfold Mmu.isEnabled
    rw [h.registers.1]
  mmr3 := h.registers.2.2.2.1
  ioBase := h.registers.2.2.2.2

theorem trans
    (h : m.SameMapping m') (h' : m'.SameMapping m'') :
    m.SameMapping m'' where
  accessControl page := (h'.accessControl page).trans (h.accessControl page)
  pdrLen page := (h'.pdrLen page).trans (h.pdrLen page)
  pdrDirection page := (h'.pdrDirection page).trans (h.pdrDirection page)
  par page := (h'.par page).trans (h.par page)
  isEnabled := h'.isEnabled.trans h.isEnabled
  mmr3 := h'.mmr3.trans h.mmr3
  ioBase := h'.ioBase.trans h.ioBase

theorem getUseDataSpace_eq
    (h : m.SameMapping m') (runMode : RunMode) :
    m'.getUseDataSpace runMode = m.getUseDataSpace runMode := by
  unfold getUseDataSpace
  rw [h.mmr3]

theorem referencePage_eq
    (h : m.SameMapping m') (runMode : RunMode) (a : Word) (spaceIn : Space) :
    m'.referencePage runMode a spaceIn = m.referencePage runMode a spaceIn := by
  unfold referencePage referenceSpace
  rw [h.getUseDataSpace_eq]

theorem relocate_eq
    (h : m.SameMapping m') (page : PageIndex) (a : Word) :
    m'.relocate page a = m.relocate page a := by
  unfold relocate getPhysicalMemoryOffset
  rw [h.par, h.mmr3]

theorem physical_eq
    (h : m.SameMapping m') (runMode : RunMode) (a : Word) (spaceIn : Space) :
    m'.physical runMode a spaceIn = m.physical runMode a spaceIn := by
  unfold physical
  rw [h.isEnabled, h.referencePage_eq, h.relocate_eq]

/-- References go where they went before. -/
theorem target_eq
    (h : m.SameMapping m') (size : PhysAddr) (runMode : RunMode) (a : Word)
    (spaceIn : Space) :
    m'.target size runMode a spaceIn = m.target size runMode a spaceIn := by
  have haction : ∀ page, m'.getTrapAction page false =
      m.getTrapAction page false := by
    intro page
    unfold getTrapAction
    rw [h.accessControl]
  have hlength : ∀ page, m'.pageLengthFault a page =
      m.pageLengthFault a page := by
    intro page
    unfold pageLengthFault
    rw [h.pdrLen, h.pdrDirection]
  unfold target dispatch physicalPage
  simp only [h.referencePage_eq, h.isEnabled, haction, hlength, h.physical_eq,
    h.ioBase]

end SameMapping

end Mmu

/-- Where a reference goes does not depend on what the target does not see. -/
theorem Machine.target_eq
    {s t : Machine δ} (hmmu : s.mmu.SameMapping t.mmu)
    (hsize : t.ram.size = s.ram.size) (runMode : RunMode) (a : Word)
    (spaceIn : Space) :
    t.target runMode a spaceIn = s.target runMode a spaceIn := by
  unfold Machine.target
  rw [hsize, hmmu.target_eq]

/-- Pages start at multiples of 64 bytes. -/
theorem target_ram_mod
    {s : Machine δ} {runMode : RunMode} {a : Word} {spaceIn : Space}
    {p : PhysAddr} {page : PageIndex}
    (h : s.target runMode a spaceIn = .ram p page) :
    p.toNat % 64 = a.toNat % 64 := by
  obtain ⟨-, rfl, -⟩ := Mmu.target_ram h
  unfold Mmu.physical
  split
  · rw [relocate_toNat]
    unfold Mmu.relocatedSum
    split <;> omega
  · rw [BitVec.toNat_setWidth]
    have := a.isLt
    omega

theorem and_one_eq_zero_iff
    (p : PhysAddr) :
    p &&& 1 = 0 ↔ p.toNat % 2 = 0 := by
  rw [BitVec.toNat_eq, BitVec.toNat_and]
  change p.toNat &&& (2 ^ 1 - 1) = 0 ↔ _
  rw [Nat.and_two_pow_sub_one_eq_mod]

variable [UnibusDevices δ]

section Memory

variable {s : Machine δ} {runMode : RunMode} {a : Word} {spaceIn : Space}
variable {p : PhysAddr} {page : PageIndex}

namespace Machine

/-- The state after a read that memory served. -/
def accessed (s : Machine δ) (page : PageIndex) : Machine δ :=
  { s with mmu := s.mmu.setPageAccessed page }

/-- The state after a write of a word that memory served. -/
def stored (s : Machine δ) (p : PhysAddr) (page : PageIndex) (v : Word) :
    Machine δ :=
  { s with
    mmu := s.mmu.setPageWrittenTo page
    ram := s.ram.writeWord p v }

end Machine

theorem Bus.read_ram
    (h : s.target runMode a spaceIn = .ram p page) :
    Bus.read a .wmWord runMode spaceIn s =
      if p.toNat % 2 = 0 then .ok (s.ram.readWord p) (s.accessed page)
      else .error (.exception 2)
        (((s.accessed page).oddNoted (activePageField a)).log
          (.aborted false)) := by
  have hserve : readRam p page .wmWord (activePageField a) s =
      if p.toNat % 2 = 0 then .ok (s.ram.readWord p) (s.accessed page)
      else .error (.exception 2)
        ((s.accessed page).oddNoted (activePageField a)) := by
    simp only [readRam, modifyMmu_bind_apply, ite_apply_state,
      oddAbort_apply, ne_eq, ite_not, and_one_eq_zero_iff]
    rfl
  rw [Bus.read_eq, h]
  change noteAbort (readRam p page .wmWord (activePageField a)) s = _
  split
  · next heven =>
      rw [if_pos heven] at hserve
      exact noteAbort_of_ok hserve
  · next hodd =>
      rw [if_neg hodd] at hserve
      rw [noteAbort_of_error hserve]
      simp [Machine.log, Machine.oddNoted, Machine.accessed]

theorem Bus.write_ram
    (v : Word) (h : s.target runMode a spaceIn = .ram p page) :
    Bus.write a .wmWord v runMode spaceIn s =
      if p.toNat % 2 = 0 then .ok false (s.stored p page v)
      else .error (.exception 10)
        (({ s with mmu := s.mmu.setPageWrittenTo page }.oddNoted
          (activePageField a)).log (.aborted false)) := by
  have hserve : writeRam p page .wmWord (activePageField a) v s =
      if p.toNat % 2 = 0 then .ok false (s.stored p page v)
      else .error (.exception 10)
        ({ s with mmu := s.mmu.setPageWrittenTo page }.oddNoted
          (activePageField a)) := by
    simp only [writeRam, modifyMmu_bind_apply, ite_apply_state,
      oddAbort_apply, ne_eq, ite_not, and_one_eq_zero_iff]
    rfl
  rw [Bus.write_eq, h]
  change noteAbort (writeRam p page .wmWord (activePageField a) v) s = _
  split
  · next heven =>
      rw [if_pos heven] at hserve
      exact noteAbort_of_ok hserve
  · next hodd =>
      rw [if_neg hodd] at hserve
      rw [noteAbort_of_error hserve]
      simp [Machine.log, Machine.oddNoted]

end Memory

section Stack

variable {s : Machine δ} {p : PhysAddr} {page : PageIndex}

namespace Machine

/-- The stack pointer of the current mode. -/
def stackPointer (s : Machine δ) : Word :=
  s.cpu.sp s.cpu.getPSWRunmode

/-- The current stack pointer moved. -/
def withStackPointer (s : Machine δ) (a : Word) : Machine δ :=
  s.withPSW fun c => c.setStackpointer c.getPSWRunmode a

/-- The state after a push that memory served. -/
def pushed (s : Machine δ) (p : PhysAddr) (page : PageIndex) (v : Word) :
    Machine δ :=
  (s.withStackPointer (s.stackPointer - 2)).stored p page v

/-- The state after a pop that memory served. -/
def popped (s : Machine δ) (page : PageIndex) : Machine δ :=
  (s.accessed page).withStackPointer (s.stackPointer + 2)

/-- A push does not run into one of the zones below the stack limit. -/
def AboveLimit (s : Machine δ) : Prop :=
  s.cpu.getPSWRunmode = 0 →
    ¬ s.stackPointer < useLimit s.cpu.stackLimitRegister

end Machine

/-- A push above the stack limit is a write below the stack pointer. -/
theorem pushStack_eq
    (v : Word) (hlimit : s.AboveLimit) :
    pushStack v s =
      (do
        let _ ← Bus.write (s.stackPointer - 2) .wmWord v
          s.cpu.getPSWRunmode .dSpace
        pure () : Exec δ Unit)
        (s.withStackPointer (s.stackPointer - 2)) := by
  have hzone : ¬ (s.cpu.getPSWRunmode = 0 ∧
      s.stackPointer < useLimit s.cpu.stackLimitRegister) :=
    fun h => hlimit h.1 h.2
  have hmoved : s.stackPointer + -2 = s.stackPointer - 2 := by
    rw [BitVec.sub_eq_add_neg]
  have hsp : (s.withStackPointer (s.stackPointer - 2)).stackPointer =
      s.stackPointer - 2 :=
    Function.update_self _ _ _
  change (if s.cpu.getPSWRunmode = 0 ∧
    s.stackPointer < useLimit s.cpu.stackLimitRegister then _ else _ :
    Exec δ Unit) s = _
  rw [if_neg hzone]
  change Bus.writeWordVia trap
    (s.withStackPointer (s.stackPointer + -2)).stackPointer v .dSpace
    (s.withStackPointer (s.stackPointer + -2)) = _
  rw [hmoved, hsp]
  rfl

/-- A push that memory serves. -/
theorem pushStack_ram
    (v : Word) (hlimit : s.AboveLimit)
    (htarget : s.target s.cpu.getPSWRunmode (s.stackPointer - 2) .dSpace =
      .ram p page)
    (heven : p.toNat % 2 = 0) :
    pushStack v s = .ok () (s.pushed p page v) := by
  have hwrite := Bus.write_ram v
    (show (s.withStackPointer (s.stackPointer - 2)).target
      s.cpu.getPSWRunmode (s.stackPointer - 2) .dSpace = .ram p page
      from htarget)
  rw [if_pos heven] at hwrite
  rw [pushStack_eq v hlimit]
  exact bind_of_ok hwrite

/-- A push to an odd address of memory. -/
theorem pushStack_odd
    (v : Word) (hlimit : s.AboveLimit)
    (htarget : s.target s.cpu.getPSWRunmode (s.stackPointer - 2) .dSpace =
      .ram p page)
    (hodd : ¬ p.toNat % 2 = 0) :
    ∃ t older, pushStack v s = .error (.exception 10) t ∧
      t.trace = .aborted false :: older := by
  have hwrite := Bus.write_ram v
    (show (s.withStackPointer (s.stackPointer - 2)).target
      s.cpu.getPSWRunmode (s.stackPointer - 2) .dSpace = .ram p page
      from htarget)
  rw [if_neg hodd] at hwrite
  rw [pushStack_eq v hlimit]
  exact ⟨_, _, bind_of_error hwrite, rfl⟩

section Frames

variable {p' : PhysAddr} {page' : PageIndex} (psw pc : Word)

/-- The state after both words of a frame are pushed. -/
def Machine.framed (s : Machine δ) (p : PhysAddr) (page : PageIndex)
    (psw : Word) (p' : PhysAddr) (page' : PageIndex) (pc : Word) : Machine δ :=
  (s.pushed p page psw).pushed p' page' pc

omit [UnibusDevices δ] in
theorem pushed_stackPointer
    (v : Word) :
    (s.pushed p page v).stackPointer = s.stackPointer - 2 :=
  Function.update_self _ _ _

omit [UnibusDevices δ] in
theorem framed_sp :
    (s.framed p page psw p' page' pc).cpu.sp =
      Function.update s.cpu.sp s.cpu.getPSWRunmode (s.stackPointer - 4) := by
  change Function.update (Function.update s.cpu.sp s.cpu.getPSWRunmode _)
    s.cpu.getPSWRunmode ((s.pushed p page psw).stackPointer - 2) = _
  rw [Function.update_idem, pushed_stackPointer]
  congr 1
  bv_omega

omit [UnibusDevices δ] in
theorem framed_touches :
    s.mmu.Touches (s.framed p page psw p' page' pc).mmu :=
  .trans (.writtenTo s.mmu page) (.writtenTo _ page')

omit [UnibusDevices δ] in
/-- The two words of a frame are different words of memory, and both at even
addresses or both at odd ones. -/
theorem frame_slots
    {runMode : RunMode} {a : Word}
    (htarget : s.target runMode (a - 2) .dSpace = .ram p page)
    (htarget' : s.target runMode (a - 4) .dSpace = .ram p' page') :
    p'.toNat % 2 = p.toNat % 2 ∧ p'.toNat ≠ p.toNat := by
  have hm := target_ram_mod htarget
  have hm' := target_ram_mod htarget'
  have := a.isLt
  rw [BitVec.toNat_sub] at hm hm'
  change _ = (2 ^ 16 - 2 + _) % 2 ^ 16 % 64 at hm
  change _ = (2 ^ 16 - 4 + _) % 2 ^ 16 % 64 at hm'
  omega

/-- Both words of a frame are pushed to memory. -/
theorem saveFrame_ram
    (hlimit : s.AboveLimit)
    (hlimit' : (s.pushed p page psw).AboveLimit)
    (htarget : s.target s.cpu.getPSWRunmode (s.stackPointer - 2) .dSpace =
      .ram p page)
    (htarget' : s.target s.cpu.getPSWRunmode (s.stackPointer - 4) .dSpace =
      .ram p' page')
    (heven : p.toNat % 2 = 0) :
    saveFrameVia trap psw pc s =
      .ok () (s.framed p page psw p' page' pc) := by
  have hbelow : (s.pushed p page psw).stackPointer - 2 =
      s.stackPointer - 4 := by
    rw [pushed_stackPointer]
    bv_omega
  have hsecond : (s.pushed p page psw).target s.cpu.getPSWRunmode
      ((s.pushed p page psw).stackPointer - 2) .dSpace = .ram p' page' := by
    have hmap : s.mmu.SameMapping (s.pushed p page psw).mmu :=
      .of_touches (.writtenTo s.mmu page)
    rw [hbelow, ← htarget']
    exact Machine.target_eq hmap rfl _ _ _
  have heven' : p'.toNat % 2 = 0 :=
    (frame_slots htarget htarget').1.trans heven
  exact rescue_of_ok ((bind_of_ok (pushStack_ram psw hlimit htarget
    heven)).trans (pushStack_ram pc hlimit' hsecond heven'))

omit [UnibusDevices δ] in
/-- Both words of a frame in memory can be read back. -/
theorem framed_readWord
    (htarget : s.target s.cpu.getPSWRunmode (s.stackPointer - 2) .dSpace =
      .ram p page)
    (htarget' : s.target s.cpu.getPSWRunmode (s.stackPointer - 4) .dSpace =
      .ram p' page')
    (heven : p.toNat % 2 = 0) :
    p'.toNat % 2 = 0 ∧
      (s.framed p page psw p' page' pc).ram.readWord p' = pc ∧
      (s.framed p page psw p' page' pc).ram.readWord p = psw := by
  obtain ⟨hparity, hne⟩ := frame_slots htarget htarget'
  have heven' : p'.toNat % 2 = 0 := hparity.trans heven
  refine ⟨heven', Ram.readWord_writeWord _ _, ?_⟩
  exact (Ram.readWord_writeWord_of_ne _ pc heven' heven hne).trans
    (Ram.readWord_writeWord _ _)

end Frames

/-- A pop that memory serves. -/
theorem popStack_ram
    (htarget : s.target s.cpu.getPSWRunmode s.stackPointer .dSpace =
      .ram p page)
    (heven : p.toNat % 2 = 0) :
    popStack s = .ok (s.ram.readWord p) (s.popped page) := by
  have hread := Bus.read_ram htarget
  rw [if_pos heven] at hread
  change (Bus.readWord s.stackPointer .dSpace >>= fun temp => do
    let _ ← addRegister 6 2
    pure temp : Exec δ Word) s = _
  have hword : Bus.readWord s.stackPointer .dSpace s =
      .ok (s.ram.readWord p) (s.accessed page) := hread
  rw [bind_of_ok hword]
  rfl

end Stack

section Reads

/-- What a read that returns leaves as it was: memory, the mapping and all of
the processor but its interrupt queues. -/
structure Machine.ReadsTo (s t : Machine δ) : Prop where
  cpu : ∃ queued any,
    t.cpu =
      { s.cpu with queuedInterrupts := queued, anyQueuedInterrupts := any }
  mmu : s.mmu.Touches t.mmu
  ram : t.ram = s.ram

/-- Every return of the program from `s` is such a read. -/
abbrev ReadsFrom {α : Type} (s : Machine δ) (m : Exec δ α) : Prop :=
  Triple (fun u => s.ReadsTo u) m (fun _ t => s.ReadsTo t) (fun _ _ => True)

variable {s : Machine δ} {α : Type}

omit [UnibusDevices δ] in
theorem Machine.ReadsTo.refl
    (s : Machine δ) :
    s.ReadsTo s :=
  ⟨⟨_, _, rfl⟩, .refl _, rfl⟩

omit [UnibusDevices δ] in
theorem Machine.ReadsTo.trans
    {t u : Machine δ} (h : s.ReadsTo t) (h' : t.ReadsTo u) :
    s.ReadsTo u := by
  obtain ⟨queued, any, hc⟩ := h.cpu
  obtain ⟨queued', any', hc'⟩ := h'.cpu
  refine ⟨⟨queued', any', ?_⟩, h.mmu.trans h'.mmu, h'.ram.trans h.ram⟩
  rw [hc', hc]

omit [UnibusDevices δ] in
theorem readsFrom_takeReply
    (r : DeviceReply δ α) :
    ReadsFrom s (takeReply r) := by
  refine Triple.bind (.update fun u hu => hu.trans ?_) fun _ => .pure fun _ hu =>
    hu
  obtain ⟨queued, any, hr⟩ := u.cpu.applyRequests_eq r.requests
  exact ⟨⟨queued, any, hr⟩, .refl _, rfl⟩

theorem readsFrom_deviceRead
    (slot : Slot) (a : Word) (wordMode : WordMode) :
    ReadsFrom s (deviceRead slot a wordMode) := by
  cases wordMode with
  | wmByte =>
      refine Triple.bind (.view_bind_any fun r => readsFrom_takeReply r)
        fun v => .pure fun _ hu => hu
  | wmWord =>
      exact .view_bind_any fun r => readsFrom_takeReply r

omit [UnibusDevices δ] in
/-- A throw is no return. -/
theorem readsFrom_throwInt
    {I : Machine δ → Prop} (number : Nat) :
    Triple I (throwInt number : Exec δ α) (fun _ t => s.ReadsTo t)
      (fun _ _ => True) :=
  .raise fun _ _ => trivial

omit [UnibusDevices δ] in
theorem readsFrom_oddAbort
    (apf : BitVec 3) (number : Nat) :
    ReadsFrom s (oddAbort apf number : Exec δ α) :=
  fun _ _ => trivial

/-- read_IO. -/
theorem readsFrom_readIo
    (a : Word) (wordMode : WordMode) (apf : BitVec 3) :
    ReadsFrom s (readIoVia trap a wordMode apf) := by
  have hlog : ReadsFrom s (logEvent (.readIo a wordMode)) :=
    .update fun u hu => hu.trans ⟨⟨_, _, rfl⟩, .refl _, rfl⟩
  have hview : ∀ {β : Type} (f : Machine δ → β), ReadsFrom s (view f) :=
    fun f => .view fun _ hu => hu
  have hpure : ∀ {β : Type} (b : β), ReadsFrom s (pure b) :=
    fun b => .pure fun _ hu => hu
  refine hlog.bind fun _ => .view_bind_any fun register => ?_
  cases register with
  | some v =>
      exact hpure _
  | none =>
      refine .ite (fun _ => readsFrom_oddAbort _ _) fun _ =>
        .ite (fun _ => hview _) fun _ => .ite (fun _ => hpure _) fun _ =>
        .ite (fun _ => hview _) fun _ => .ite (fun _ => hview _) fun _ =>
        .ite (fun _ => hpure _) fun _ =>
        .ite (fun _ => readsFrom_deviceRead _ _ .wmWord) fun _ =>
        .ite (fun _ => hpure _) fun _ => .ite (fun _ => hview _) fun _ =>
        .ite (fun _ => hpure _) fun _ => .ite (fun _ => hpure _) fun _ =>
        .ite (fun _ => hpure _) fun _ => .view_bind_any fun plain => ?_
      cases plain with
      | some v =>
          exact hpure v
      | none =>
          refine .view_bind_any fun slot => ?_
          cases slot with
          | some slot =>
              exact readsFrom_deviceRead slot a wordMode
          | none =>
              refine .view_bind_any fun size => .ite (fun _ => hpure _)
                fun _ => .ite (fun _ => hpure _) fun _ => ?_
              exact (trap_total 0o4 none).bind fun _ => readsFrom_throwInt 1

/-- A read that returns. -/
theorem Bus.read_returns
    {a v : Word} {wordMode : WordMode} {runMode : RunMode} {spaceIn : Space}
    {s t : Machine δ} (h : Bus.read a wordMode runMode spaceIn s = .ok v t) :
    s.ReadsTo t := by
  have hserve : ReadsFrom s
      (serveRead (s.target runMode a spaceIn) wordMode (activePageField a)) := by
    cases s.target runMode a spaceIn with
    | accessFault page =>
        exact .of_throws fun u => ⟨_, abortAccess_throws page u⟩
    | lengthFault page =>
        exact .of_throws fun u => ⟨_, abortLength_throws page u⟩
    | boundsFault page =>
        exact .of_throws fun u => ⟨_, abortBounds_throws page u⟩
    | io r =>
        exact readsFrom_readIo r wordMode _
    | ram p page =>
        have haccessed : ReadsFrom s
            (modifyMmu fun m => m.setPageAccessed page) :=
          .update fun u hu =>
            hu.trans ⟨⟨_, _, rfl⟩, .accessed u.mmu page, rfl⟩
        refine haccessed.bind fun _ => ?_
        cases wordMode with
        | wmByte =>
            exact .view fun _ hu => hu
        | wmWord =>
            exact .ite (fun _ => readsFrom_oddAbort _ _) fun _ =>
              .view fun _ hu => hu
  have hend := hserve s (.refl s)
  rw [Bus.read_eq] at h
  cases hr : serveRead (s.target runMode a spaceIn) wordMode
      (activePageField a) s with
  | ok v' t' =>
      rw [hr] at hend
      rw [noteAbort_of_ok hr] at h
      cases h
      exact hend
  | error e t' =>
      rw [noteAbort_of_error hr] at h
      cases h

theorem Bus.readWord_returns
    {a v : Word} {space : Space} {s t : Machine δ}
    (h : Bus.readWordVia trap a space s = .ok v t) :
    s.ReadsTo t :=
  Bus.read_returns
    (show Bus.read a .wmWord s.cpu.getPSWRunmode space s = .ok v t from h)

/-- A vector that is loaded gives PC and the status word; the rest of the
processor, memory and the mapping stay. -/
theorem loadVector_returns
    {vector beforePsw : Word} {newIpl : Option Level} {s t : Machine δ}
    (h : loadVectorVia trap vector beforePsw newIpl s = .ok () t) :
    (∃ pc vectorPsw queued any,
      t.cpu =
        { s.cpu with
          pc := pc
          psw := trapPSW vectorPsw beforePsw newIpl &&& 0o174377
          queuedInterrupts := queued
          anyQueuedInterrupts := any }) ∧
      s.mmu.Touches t.mmu ∧ t.ram = s.ram := by
  unfold loadVectorVia at h
  rw [modifyCpu_bind_apply, mmuView_bind_apply] at h
  obtain ⟨pc, s₁, h₁, h⟩ := bind_eq_ok h
  obtain ⟨⟨queued, any, hcpu⟩, hmmu, hram⟩ := Bus.readWord_returns h₁
  obtain ⟨vectorPsw, s₂, h₂, h⟩ := bind_eq_ok
    (show (Bus.readWordVia trap (vector + 2) _ >>= _)
      (s₁.withPSW fun c => c.setPC pc) = .ok () t from h)
  obtain ⟨⟨queued', any', hcpu'⟩, hmmu', hram'⟩ := Bus.readWord_returns h₂
  injection h with _ hstate
  subst hstate
  refine ⟨⟨pc, vectorPsw, queued', any', ?_⟩, hmmu.trans hmmu',
    hram'.trans hram⟩
  change s₂.cpu.setPSW _ false = _
  simp only [hcpu', Machine.withPSW, hcpu]
  rfl

end Reads

end KekPdp11
