import KekPdp11.Serving

/-!
# KEK PDP-11: the inspecting translation

The const overload of calculate_physical_address, which the disassembler and
the breakpoints use through bus::peek_word, against the overload that executes
references.

**The page index.**  The const overload starts from the index of the data page
of the mode, where the instruction page is meant, and adds another 8 for the
data page.  It thus reads the data page for instructions and the instruction
page of the next mode for data.  For user mode that is past the end of the
array, which `pageAt` makes visible as a missing value.
-/

namespace KekPdp11

open StateExcept

/-- What the const overload returns, memory_addresses_t. -/
structure MemoryAddresses where
  virtualAddress : Word
  apf : BitVec 3
  physicalInstruction : PhysAddr
  physicalInstructionIsPsw : Bool
  physicalData : PhysAddr
  physicalDataIsPsw : Bool

namespace Mmu

/-- An entry of the array pages[64]. -/
def pageAt (m : Mmu) (index : Nat) : Option Page :=
  if index < 64 then some (m.pages (BitVec.ofNat 6 index)) else none

/-- mmu::calculate_physical_address, the const overload; none if it reads past
the array of pages. -/
def calculatePhysicalAddressConst (m : Mmu) (runMode : RunMode) (a : Word) :
    Option MemoryAddresses := do
  let apf := activePageField a
  if m.isEnabled = false then
    let isPsw := decide (a = addrPsw)
    pure
      { virtualAddress := a
        apf := apf
        physicalInstruction := a.setWidth 32
        physicalInstructionIsPsw := isPsw
        physicalData := a.setWidth 32
        physicalDataIsPsw := isPsw }
  else do
    let pageIndex := (calcParPdrIndex runMode .dSpace apf).toNat
    let instructionPage ← m.pageAt (pageIndex + 0)
    let dataPage ←
      (if m.getUseDataSpace runMode then m.pageAt (pageIndex + 8)
      else some instructionPage)
    let pOffset := pageOffset a
    let cut := fun p : PhysAddr => if m.mmr3 &&& 16 = 0 then p &&& 0x3ffff else p
    let physicalInstruction := cut (instructionPage.parPreshifted + pOffset)
    let physicalData := cut (dataPage.parPreshifted + pOffset)
    pure
      { virtualAddress := a
        apf := apf
        physicalInstruction := physicalInstruction
        physicalInstructionIsPsw :=
          decide (physicalInstruction - m.ioBase + 0o160000 =
            addrPsw.setWidth 32)
        physicalData := physicalData
        physicalDataIsPsw :=
          decide (physicalData - m.ioBase + 0o160000 = addrPsw.setWidth 32) }

/-- The page of the instruction space and that of the data space. -/
def instructionPage (runMode : RunMode) (a : Word) : PageIndex :=
  calcParPdrIndex runMode .iSpace (activePageField a)

def dataPage (runMode : RunMode) (a : Word) : PageIndex :=
  calcParPdrIndex runMode .dSpace (activePageField a)

/-- The access and the length check let a read of `a` through a page pass. -/
def Passes (m : Mmu) (page : PageIndex) (a : Word) : Prop :=
  m.getTrapAction page false = .tProceed ∧ m.pageLengthFault a page = false

/-- Two pages have the same base, as far as the address width lets it show. -/
def SameBase (m : Mmu) (page page' : PageIndex) : Prop :=
  if m.mmr3 &&& 16 = 0 then
    (m.pages page).par.toNat % 4096 = (m.pages page').par.toNat % 4096
  else
    (m.pages page).par = (m.pages page').par

end Mmu

variable {δ : Type} [UnibusDevices δ]

/-- bus::peek_word; the outer value is missing if the translation reads past
the array of pages. -/
def Bus.peekWord (runMode : RunMode) (a : Word) (s : Machine δ) :
    Option (Option Word) := do
  let addresses ← s.mmu.calculatePhysicalAddressConst runMode a
  if s.mmu.ioBase ≤ addresses.physicalInstruction then
    pure none
  else if s.ram.size ≤ addresses.physicalInstruction then
    pure none
  else
    pure (some (s.ram.readWord addresses.physicalInstruction))

/-- The inspecting translation of `a` agrees with the executing one. -/
structure Inspects (s : Machine δ) (runMode : RunMode) (a : Word)
    (addresses : MemoryAddresses) : Prop where
  inspected : s.mmu.calculatePhysicalAddressConst runMode a = some addresses
  instruction : ∀ p page t,
    calculatePhysicalAddressVia trap runMode a false .iSpace s =
      .ok (p, page) t →
    addresses.physicalInstruction = p
  data : ∀ p page t,
    calculatePhysicalAddressVia trap runMode a false
        (if s.mmu.getUseDataSpace runMode then .dSpace else .iSpace) s =
      .ok (p, page) t →
    addresses.physicalData = p
  peek : a &&& 1 = 0 → ∀ p page v t,
    s.target runMode a .iSpace = .ram p page →
    Bus.read a .wmWord runMode .iSpace s = .ok v t →
    Bus.peekWord runMode a s = some (some v)

namespace Mmu

variable (m : Mmu) (runMode : RunMode) (a : Word)

/-- Two pages relocate an address alike if and only if their bases agree. -/
theorem relocate_eq_iff
    (page page' : PageIndex) :
    m.relocate page a = m.relocate page' a ↔ m.SameBase page page' := by
  rw [BitVec.toNat_eq, relocate_toNat, relocate_toNat]
  unfold SameBase relocatedSum
  split
  · constructor
    · intro h
      omega
    · intro h
      omega
  · constructor
    · intro h
      exact BitVec.eq_of_toNat_eq (by omega)
    · intro h
      rw [h]

/-- The indices that the const overload reads. -/
theorem dataPage_toNat :
    (dataPage runMode a).toNat =
      (activePageField a).toNat + 8 + 16 * runMode.toNat := by
  unfold dataPage
  generalize activePageField a = apf
  revert runMode apf
  decide

theorem pageAt_dataPage :
    m.pageAt ((dataPage runMode a).toNat + 0) =
      some (m.pages (dataPage runMode a)) := by
  unfold pageAt
  rw [Nat.add_zero, if_pos (dataPage runMode a).isLt, BitVec.ofNat_toNat,
    BitVec.setWidth_eq]

/-- The second index is inside the array for all modes but user mode. -/
theorem pageAt_next :
    m.pageAt ((dataPage runMode a).toNat + 8) =
      if runMode = 3 then none
      else some (m.pages (dataPage runMode a + 8)) := by
  have hindex := dataPage_toNat runMode a
  have hapf := (activePageField a).isLt
  have hmode := runMode.isLt
  unfold pageAt
  by_cases huser : runMode = 3
  · subst huser
    rw [if_pos rfl, if_neg]
    rw [hindex]
    change ¬ (_ + 8 + 16 * 3) + 8 < 64
    omega
  · have hlow : runMode.toNat < 3 := by
      have hne : runMode.toNat ≠ 3 := fun h =>
        huser (BitVec.eq_of_toNat_eq h)
      omega
    rw [if_neg huser, if_pos (by omega)]
    refine congrArg (fun i => some (m.pages i)) (BitVec.eq_of_toNat_eq ?_)
    rw [BitVec.toNat_ofNat, BitVec.toNat_add]
    rfl

/-- The const overload reads past the array for user data. -/
theorem calculatePhysicalAddressConst_outside
    (henabled : m.isEnabled = true)
    (huse : m.getUseDataSpace 3 = true) :
    m.calculatePhysicalAddressConst 3 a = none := by
  have hfirst := m.pageAt_dataPage 3 a
  have hnext := m.pageAt_next 3 a
  unfold dataPage at hfirst hnext
  rw [if_pos rfl] at hnext
  unfold calculatePhysicalAddressConst
  dsimp only
  rw [if_neg (by simp [henabled]), hfirst]
  simp only [huse, if_true, hnext]
  rfl

/-- The page that the const overload takes for the one of the data space. -/
def inspectedDataPage : PageIndex :=
  if m.getUseDataSpace runMode then dataPage runMode a + 8
  else dataPage runMode a

/-- The const overload with relocation, where it stays inside the array. -/
theorem calculatePhysicalAddressConst_inside
    (henabled : m.isEnabled = true)
    (hinside : m.getUseDataSpace runMode = true → runMode ≠ 3) :
    ∃ addresses, m.calculatePhysicalAddressConst runMode a = some addresses ∧
      addresses.physicalInstruction = m.relocate (dataPage runMode a) a ∧
      addresses.physicalData =
        m.relocate (m.inspectedDataPage runMode a) a := by
  have hfirst := m.pageAt_dataPage runMode a
  have hnext := m.pageAt_next runMode a
  unfold inspectedDataPage
  unfold dataPage at hfirst hnext ⊢
  unfold calculatePhysicalAddressConst
  dsimp only
  rw [if_neg (by simp [henabled]), hfirst]
  cases huse : m.getUseDataSpace runMode with
  | false =>
      exact ⟨_, rfl, rfl, rfl⟩
  | true =>
      simp only [if_true, hnext, if_neg (hinside huse)]
      exact ⟨_, rfl, rfl, rfl⟩

end Mmu

section Executing

variable {runMode : RunMode} {a : Word} {space : Space}

/-- The executing translation returns when the checks pass, and then the
relocated address. -/
theorem calculatePhysicalAddress_ok_iff
    {s t : Machine δ} {p : PhysAddr} {page : PageIndex}
    (henabled : s.mmu.isEnabled = true) :
    calculatePhysicalAddressVia trap runMode a false space s =
        .ok (p, page) t ↔
      s.mmu.Passes (Mmu.calcParPdrIndex runMode space (activePageField a)) a ∧
        p = s.mmu.relocate
          (Mmu.calcParPdrIndex runMode space (activePageField a)) a ∧
        page = Mmu.calcParPdrIndex runMode space (activePageField a) ∧
        t = s := by
  let target := Mmu.calcParPdrIndex runMode space (activePageField a)
  have hprogram :
      calculatePhysicalAddressVia trap runMode a false space s =
        (do
          verifyPageAccessVia trap target false
          verifyPageLengthVia trap a target
          pure (s.mmu.relocate target a, target) :
          Exec δ (PhysAddr × PageIndex)) s := by
    unfold calculatePhysicalAddressVia
    rw [mmuView_bind_apply]
    simp only [henabled, Bool.true_or, if_true]
    rfl
  have haccess := verifyPageAccess_apply target s
  have hlength := verifyPageLength_apply a target s
  rw [hprogram]
  change _ ↔ s.mmu.Passes target a ∧ _
  unfold Mmu.Passes
  by_cases hproceed : s.mmu.getTrapAction target false = .tProceed
  · rw [if_pos hproceed] at haccess
    rw [bind_of_ok haccess]
    cases hfault : s.mmu.pageLengthFault a target with
    | true =>
        obtain ⟨u, hu⟩ := (abortLength_throws target s :
          ∃ t, (_ : Exec δ Unit) s = .error (.exception 7) t)
        rw [if_pos hfault, hu] at hlength
        rw [bind_of_error hlength]
        exact iff_of_false (fun h => by cases h) fun h => by cases h.1.2
    | false =>
        rw [if_neg (by simp [hfault])] at hlength
        rw [bind_of_ok hlength]
        constructor
        · intro h
          injection h with hpair hstate
          injection hpair with hp hpage
          exact ⟨⟨hproceed, rfl⟩, hp.symm, hpage.symm, hstate.symm⟩
        · rintro ⟨-, rfl, rfl, rfl⟩
          rfl
  · obtain ⟨u, hu⟩ := (abortAccess_throws target s :
      ∃ t, (_ : Exec δ Unit) s = .error (.exception 5) t)
    rw [if_neg hproceed, hu] at haccess
    rw [bind_of_error haccess]
    exact iff_of_false (fun h => by cases h) fun h => hproceed h.1.1

/-- The executing translation without relocation. -/
theorem calculatePhysicalAddress_disabled
    {s : Machine δ} (hdisabled : s.mmu.isEnabled = false) :
    calculatePhysicalAddressVia trap runMode a false space s =
      .ok (a.setWidth 32, (activePageField a).setWidth 6) s := by
  unfold calculatePhysicalAddressVia
  rw [mmuView_bind_apply]
  simp [hdisabled]

end Executing

section Agreement

variable {s : Machine δ} {runMode : RunMode} {a : Word}

/-- A read in instruction space that memory serves returns the word there. -/
theorem read_of_ram
    {p : PhysAddr} {page : PageIndex} {v : Word} {t : Machine δ}
    (htarget : s.target runMode a .iSpace = .ram p page)
    (hread : Bus.read a .wmWord runMode .iSpace s = .ok v t) :
    v = s.ram.readWord p := by
  rw [Bus.read_ram htarget] at hread
  split at hread
  · injection hread with hv
    exact hv.symm
  · cases hread

omit [UnibusDevices δ] in
/-- peek_word, from the address that the const overload gives. -/
theorem peekWord_of_ram
    {addresses : MemoryAddresses}
    (h : s.mmu.calculatePhysicalAddressConst runMode a = some addresses)
    (hio : ¬ s.mmu.ioBase ≤ addresses.physicalInstruction)
    (hsize : ¬ s.ram.size ≤ addresses.physicalInstruction) :
    Bus.peekWord runMode a s =
      some (some (s.ram.readWord addresses.physicalInstruction)) := by
  unfold Bus.peekWord
  rw [h]
  change (if s.mmu.ioBase ≤ addresses.physicalInstruction then _ else _) = _
  rw [if_neg hio, if_neg hsize]
  rfl

/-- Agreement on the instruction address is enough for peek_word. -/
theorem inspects_of_addresses
    {addresses : MemoryAddresses}
    (hinspected : s.mmu.calculatePhysicalAddressConst runMode a =
      some addresses)
    (hinstruction : ∀ p page t,
      calculatePhysicalAddressVia trap runMode a false .iSpace s =
        .ok (p, page) t → addresses.physicalInstruction = p)
    (hdata : ∀ p page t,
      calculatePhysicalAddressVia trap runMode a false
          (if s.mmu.getUseDataSpace runMode then .dSpace else .iSpace) s =
        .ok (p, page) t → addresses.physicalData = p) :
    Inspects s runMode a addresses where
  inspected := hinspected
  instruction := hinstruction
  data := hdata
  peek := by
    intro _ p page v t htarget hread
    obtain ⟨hpermits, hp, -, hio, hsize⟩ := Mmu.target_ram htarget
    have hexecuted := calculatePhysicalAddress_of_permits hpermits
    rw [show s.mmu.referenceSpace runMode .iSpace = .iSpace from ite_self _]
      at hexecuted
    have haddress : addresses.physicalInstruction = p :=
      (hinstruction _ _ _ hexecuted).trans hp.symm
    rw [read_of_ram htarget hread, ← haddress]
    rw [← haddress] at hio hsize
    exact peekWord_of_ram hinspected hio hsize

/-- The inspecting translation agrees with the executing one if and only if
the MMU is off, or it stays inside the array of pages, the data page has the
base of the instruction page it is taken for, and in split space the
instruction page of the next mode has the base of the data page. -/
theorem inspection_agrees_iff
    (s : Machine δ) (runMode : RunMode) (a : Word) :
    (∃ addresses, Inspects s runMode a addresses) ↔
      s.mmu.isEnabled = false ∨
        ((s.mmu.getUseDataSpace runMode = true → runMode ≠ 3) ∧
          (s.mmu.Passes (Mmu.instructionPage runMode a) a →
            s.mmu.SameBase (Mmu.dataPage runMode a)
              (Mmu.instructionPage runMode a)) ∧
          (s.mmu.getUseDataSpace runMode = true →
            s.mmu.Passes (Mmu.dataPage runMode a) a →
            s.mmu.SameBase (Mmu.dataPage runMode a + 8)
              (Mmu.dataPage runMode a))) := by
  cases henabled : s.mmu.isEnabled with
  | false =>
      refine iff_of_true ?_ (Or.inl rfl)
      refine ⟨_, inspects_of_addresses (if_pos henabled) ?_ ?_⟩
      · intro p page t h
        rw [calculatePhysicalAddress_disabled henabled] at h
        cases h
        rfl
      · intro p page t h
        rw [calculatePhysicalAddress_disabled henabled] at h
        cases h
        rfl
  | true =>
      rw [or_iff_right (by simp)]
      constructor
      · rintro ⟨addresses, h⟩
        have huser : s.mmu.getUseDataSpace runMode = true → runMode ≠ 3 := by
          rintro huse rfl
          cases (s.mmu.calculatePhysicalAddressConst_outside a henabled
            huse).symm.trans h.inspected
        obtain ⟨found, hfound, hpi, hpd⟩ :=
          s.mmu.calculatePhysicalAddressConst_inside runMode a henabled huser
        obtain rfl : found = addresses :=
          Option.some.inj (hfound.symm.trans h.inspected)
        refine ⟨huser, fun hpasses => ?_, fun huse hpasses => ?_⟩
        · have hexecuted := h.instruction _ _ s
            ((calculatePhysicalAddress_ok_iff henabled).mpr
              ⟨hpasses, rfl, rfl, rfl⟩)
          exact (s.mmu.relocate_eq_iff a _ _).mp (hpi.symm.trans hexecuted)
        · have hexecuted := h.data _ _ s
            ((calculatePhysicalAddress_ok_iff henabled).mpr
              ⟨by rw [if_pos huse]; exact hpasses, rfl, rfl, rfl⟩)
          rw [if_pos huse] at hexecuted
          unfold Mmu.inspectedDataPage at hpd
          rw [if_pos huse] at hpd
          exact (s.mmu.relocate_eq_iff a _ _).mp (hpd.symm.trans hexecuted)
      · rintro ⟨huser, hinstruction, hdata⟩
        obtain ⟨addresses, hfound, hpi, hpd⟩ :=
          s.mmu.calculatePhysicalAddressConst_inside runMode a henabled huser
        refine ⟨addresses, inspects_of_addresses hfound ?_ ?_⟩
        · intro p page t hexecuted
          obtain ⟨hpasses, rfl, -⟩ :=
            (calculatePhysicalAddress_ok_iff henabled).mp hexecuted
          exact hpi.trans
            ((s.mmu.relocate_eq_iff a _ _).mpr (hinstruction hpasses))
        · intro p page t hexecuted
          obtain ⟨hpasses, rfl, -⟩ :=
            (calculatePhysicalAddress_ok_iff henabled).mp hexecuted
          refine hpd.trans ((s.mmu.relocate_eq_iff a _ _).mpr ?_)
          unfold Mmu.inspectedDataPage
          cases huse : s.mmu.getUseDataSpace runMode with
          | false =>
              rw [huse] at hpasses
              exact hinstruction hpasses
          | true =>
              rw [huse] at hpasses
              exact hdata huse hpasses

end Agreement

section Examples

/-- Kernel instruction page 0 at 0100, its data page at 0: the word at 0 is
shown for the one at 0100. -/
theorem peek_shows_data_page :
    (wideMachine 1).target 0 0 .iSpace = .ram 0o100 0 ∧
      returned (Bus.read 0 .wmWord 0 .iSpace (wideMachine 1)) = true ∧
      (wideMachine 1).ram.readWord 0o100 = 0 ∧
      Bus.peekWord 0 0 (wideMachine 1) = some (some 0o52525) ∧
      ¬ ∃ addresses, Inspects (wideMachine 1) 0 0 addresses := by
  refine ⟨by decide +kernel, by decide +kernel, by decide +kernel,
    by decide +kernel, ?_⟩
  rintro ⟨addresses, h⟩
  have hshown :
      ((wideMachine 1).mmu.calculatePhysicalAddressConst 0 0).map
        (·.physicalInstruction) = some 0 := by
    decide +kernel
  have hexecuted := h.instruction _ _ (wideMachine 1)
    ((calculatePhysicalAddress_ok_iff (by decide +kernel)).mpr
      ⟨⟨by decide +kernel, by decide +kernel⟩, rfl, rfl, rfl⟩)
  have hreal :
      (wideMachine 1).mmu.relocate
        (Mmu.calcParPdrIndex 0 .iSpace (activePageField 0)) 0 = 0o100 := by
    decide +kernel
  rw [h.inspected, Option.map_some, hexecuted, hreal] at hshown
  cases hshown

end Examples

end KekPdp11
