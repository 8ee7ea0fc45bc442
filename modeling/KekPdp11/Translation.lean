import KekPdp11.Watching
import KekPdp11.References
import KekPdp11.LineClock

/-!
# KEK PDP-11: relocation against its specification

A relocated reference is to go to the physical address

  (64 * PAR + low 13 bits of the virtual address) modulo the address width,

where the width is 22 bits if MMR3 bit 4 is set and 18 bits otherwise.  The
top 8 KiB of that space are the I/O page.  `Mmu.specTarget` says this in
numbers; nothing in it is translated from the source.

**Comparison.**  The source cuts the sum to 18 bits and never to 22.  It
therefore agrees with the specification as long as the sum does not leave the
22-bit space, and always in 18-bit mode.
-/

namespace KekPdp11

open StateExcept

namespace Mmu

/-- The number of address bits. -/
def addressWidth (m : Mmu) : Nat :=
  if m.mmr3 &&& 16 = 0 then 18 else 22

/-- 64 times the page address register, plus the offset in the page. -/
def relocatedSum (m : Mmu) (page : PageIndex) (a : Word) : Nat :=
  64 * (m.pages page).par.toNat + a.toNat % 8192

/-- The physical address that a relocated reference should have. -/
def specPhysical (m : Mmu) (page : PageIndex) (a : Word) : Nat :=
  m.relocatedSum page a % 2 ^ m.addressWidth

/-- Where such a reference should go. -/
def specTarget (m : Mmu) (size : PhysAddr) (runMode : RunMode) (a : Word)
    (spaceIn : Space) : Target :=
  let page := m.referencePage runMode a spaceIn
  let p := m.specPhysical page a
  if 2 ^ m.addressWidth - 8192 ≤ p then
    .io (BitVec.ofNat 16 (0o160000 + p % 8192))
  else if p < size.toNat then
    .ram (BitVec.ofNat 32 p) page
  else
    .boundsFault page

end Mmu

section Numbers

/-- A shifted page base is 64 times the page address register. -/
theorem parPreshifted_toNat
    (p : Page) :
    p.parPreshifted.toNat = 64 * p.par.toNat := by
  have hle : p.parPreshifted.toNat ≤ 0o17777700 := by
    rw [← p.par_shifted, BitVec.toNat_and]
    exact Nat.and_le_right
  have hlow : p.parPreshifted &&& 63 = 0 := by
    rw [← p.par_shifted, BitVec.and_assoc]
    exact BitVec.and_zero
  have hmod : p.parPreshifted.toNat % 64 = 0 := by
    have hand := congrArg BitVec.toNat hlow
    rw [BitVec.toNat_and] at hand
    exact (Nat.and_two_pow_sub_one_eq_mod _ 6).symm.trans hand
  have hpar : p.par.toNat = p.parPreshifted.toNat / 64 := by
    have hsmall : p.parPreshifted.toNat / 64 < 2 ^ 16 := by omega
    simp only [Page.par, BitVec.toNat_setWidth, BitVec.toNat_ushiftRight,
      Nat.shiftRight_eq_div_pow]
    exact Nat.mod_eq_of_lt hsmall
  omega

theorem pageOffset_toNat
    (a : Word) :
    (Mmu.pageOffset a).toNat = a.toNat % 8192 := by
  have hand : (a &&& 8191).toNat = a.toNat % 8192 := by
    rw [BitVec.toNat_and]
    exact Nat.and_two_pow_sub_one_eq_mod _ 13
  simp only [Mmu.pageOffset, BitVec.toNat_setWidth, hand]
  omega

variable (m : Mmu) (page : PageIndex) (a : Word)

theorem relocatedSum_lt :
    m.relocatedSum page a < 2 ^ 22 + 8192 := by
  unfold Mmu.relocatedSum
  have hpar := (m.pages page).par.isLt
  omega

/-- The sum is cut to 18 bits, and not cut in 22-bit mode. -/
theorem relocate_toNat :
    (m.relocate page a).toNat =
      if m.mmr3 &&& 16 = 0 then m.relocatedSum page a % 2 ^ 18
      else m.relocatedSum page a := by
  have hsum :
      (m.getPhysicalMemoryOffset page + Mmu.pageOffset a).toNat =
        m.relocatedSum page a := by
    have hlt := relocatedSum_lt m page a
    unfold Mmu.relocatedSum at hlt ⊢
    rw [BitVec.toNat_add, pageOffset_toNat]
    unfold Mmu.getPhysicalMemoryOffset
    rw [parPreshifted_toNat]
    omega
  unfold Mmu.relocate
  dsimp only
  split
  · rw [BitVec.toNat_and, hsum]
    exact Nat.and_two_pow_sub_one_eq_mod _ 18
  · exact hsum

/-- The base of the I/O page is 8 KiB below the end of the space. -/
theorem ioBase_toNat
    (henabled : m.isEnabled = true) :
    m.ioBase.toNat = 2 ^ m.addressWidth - 8192 := by
  have hbit : m.mmr0 &&& 1 ≠ 0 := of_decide_eq_true henabled
  rw [m.ioBase_eq]
  unfold ioBaseOf Mmu.addressWidth
  rw [if_pos hbit]
  by_cases hwide : m.mmr3 &&& 16 = 0
  · rw [if_neg (not_not_intro hwide), if_pos hwide]
    rfl
  · rw [if_pos hwide, if_neg hwide]
    rfl

/-- The address handed to the I/O page. -/
theorem ioAddress_toNat
    {p base : PhysAddr} (h : base ≤ p) :
    (Bus.ioAddress p base).toNat =
      (p.toNat - base.toNat + 0o160000) % 2 ^ 16 := by
  have hle : base.toNat ≤ p.toNat := h
  unfold Bus.ioAddress
  simp only [BitVec.toNat_setWidth, BitVec.toNat_add,
    BitVec.toNat_sub_of_le h]
  have hio : (0o160000 : PhysAddr).toNat = 0o160000 := rfl
  rw [hio]
  omega

end Numbers

section Targets

variable {m : Mmu} {runMode : RunMode} {a : Word} {spaceIn : Space}

/-- The physical address of an enabled reference, in numbers. -/
theorem physical_toNat
    (henabled : m.isEnabled = true) :
    (m.physical runMode a spaceIn).toNat =
      if m.mmr3 &&& 16 = 0 then
        m.relocatedSum (m.referencePage runMode a spaceIn) a % 2 ^ 18
      else m.relocatedSum (m.referencePage runMode a spaceIn) a := by
  unfold Mmu.physical
  rw [if_pos henabled]
  exact relocate_toNat m _ a

/-- Unless the sum leaves the 22-bit space, the address is as specified. -/
theorem physical_spec
    (henabled : m.isEnabled = true)
    (hsum : m.mmr3 &&& 16 = 0 ∨
      m.relocatedSum (m.referencePage runMode a spaceIn) a < 2 ^ 22) :
    (m.physical runMode a spaceIn).toNat =
      m.specPhysical (m.referencePage runMode a spaceIn) a := by
  rw [physical_toNat henabled]
  unfold Mmu.specPhysical Mmu.addressWidth
  by_cases hwide : m.mmr3 &&& 16 = 0
  · rw [if_pos hwide, if_pos hwide]
  · rw [if_neg hwide, if_neg hwide]
    exact (Nat.mod_eq_of_lt (hsum.resolve_left hwide)).symm

theorem specPhysical_lt
    (m : Mmu) (page : PageIndex) (a : Word) :
    m.specPhysical page a < 2 ^ m.addressWidth :=
  Nat.mod_lt _ (Nat.two_pow_pos _)

/-- An address in the top 8 KiB of the space, relative to its start. -/
theorem ioOffset
    (m : Mmu) {p : Nat} (hlow : 2 ^ m.addressWidth - 8192 ≤ p)
    (hhigh : p < 2 ^ m.addressWidth) :
    p - (2 ^ m.addressWidth - 8192) = p % 8192 := by
  unfold Mmu.addressWidth at hlow hhigh ⊢
  split at hlow
  · next hwide =>
      rw [if_pos hwide] at hhigh ⊢
      omega
  · next hwide =>
      rw [if_neg hwide] at hhigh ⊢
      omega

/-- The reference goes where the specification says. -/
theorem target_spec
    (henabled : m.isEnabled = true) (hpermits : m.Permits runMode a spaceIn)
    (hsum : m.mmr3 &&& 16 = 0 ∨
      m.relocatedSum (m.referencePage runMode a spaceIn) a < 2 ^ 22)
    (size : PhysAddr) :
    m.target size runMode a spaceIn = m.specTarget size runMode a spaceIn := by
  have hp := physical_spec henabled hsum
  have hbase := ioBase_toNat m henabled
  have hpage : m.physicalPage runMode a spaceIn =
      m.referencePage runMode a spaceIn := if_pos henabled
  rw [Mmu.target_of_permits hpermits, hpage]
  unfold Mmu.dispatch Mmu.specTarget
  dsimp only
  rw [← hp, ← hbase]
  by_cases hio : m.ioBase.toNat ≤ (m.physical runMode a spaceIn).toNat
  · rw [if_pos (BitVec.le_def.mpr hio), if_pos hio]
    have hlt := specPhysical_lt m (m.referencePage runMode a spaceIn) a
    rw [← hp] at hlt
    have hoffset := ioOffset m (hbase ▸ hio) hlt
    rw [← hbase] at hoffset
    refine congrArg Target.io (BitVec.eq_of_toNat_eq ?_)
    rw [ioAddress_toNat (BitVec.le_def.mpr hio), hoffset,
      BitVec.toNat_ofNat]
    omega
  · rw [if_neg fun h => hio (BitVec.le_def.mp h), if_neg hio]
    by_cases hsize : (m.physical runMode a spaceIn).toNat < size.toNat
    · rw [if_neg fun h => absurd (BitVec.le_def.mp h) (by omega),
        if_pos hsize, BitVec.ofNat_toNat, BitVec.setWidth_eq]
    · rw [if_pos (BitVec.le_def.mpr (by omega)), if_neg hsize]

/-- A sum that leaves the 22-bit space goes to the I/O page, below its
start. -/
theorem target_of_carry
    (henabled : m.isEnabled = true) (hpermits : m.Permits runMode a spaceIn)
    (hwide : m.mmr3 &&& 16 ≠ 0)
    (hsum : 2 ^ 22 ≤ m.relocatedSum (m.referencePage runMode a spaceIn) a)
    (size : PhysAddr) :
    ∃ r : Word, r.toNat < 8192 ∧ m.target size runMode a spaceIn = .io r := by
  have hp : (m.physical runMode a spaceIn).toNat = _ := physical_toNat henabled
  rw [if_neg hwide] at hp
  have hbase := ioBase_toNat m henabled
  unfold Mmu.addressWidth at hbase
  rw [if_neg hwide] at hbase
  have hlt := relocatedSum_lt m (m.referencePage runMode a spaceIn) a
  have hle : m.ioBase ≤ m.physical runMode a spaceIn :=
    BitVec.le_def.mpr (by omega)
  refine ⟨Bus.ioAddress (m.physical runMode a spaceIn) m.ioBase, ?_, ?_⟩
  · rw [ioAddress_toNat hle]
    omega
  · rw [Mmu.target_of_permits hpermits]
    unfold Mmu.dispatch
    rw [if_pos hle]

/-- Its specified target is in memory or past its end. -/
theorem specTarget_of_carry
    (hwide : m.mmr3 &&& 16 ≠ 0)
    (hsum : 2 ^ 22 ≤ m.relocatedSum (m.referencePage runMode a spaceIn) a)
    (size : PhysAddr) :
    (∃ p, m.specTarget size runMode a spaceIn =
        .ram p (m.referencePage runMode a spaceIn)) ∨
      m.specTarget size runMode a spaceIn =
        .boundsFault (m.referencePage runMode a spaceIn) := by
  have hlt := relocatedSum_lt m (m.referencePage runMode a spaceIn) a
  have hlow :
      ¬ 2 ^ m.addressWidth - 8192 ≤
        m.specPhysical (m.referencePage runMode a spaceIn) a := by
    unfold Mmu.specPhysical Mmu.addressWidth
    rw [if_neg hwide]
    omega
  unfold Mmu.specTarget
  dsimp only
  rw [if_neg hlow]
  split
  · exact Or.inl ⟨_, rfl⟩
  · exact Or.inr rfl

end Targets

variable {δ : Type} [UnibusDevices δ]

section References

/-- Nothing answers below the start of the I/O page. -/
theorem readIo_below
    {r : Word} (hr : r.toNat < 8192) (apf : BitVec 3) (s : Machine δ) :
    ∃ u, readIoVia trap r .wmByte apf s = .error (.exception 1) u := by
  have hle : ∀ b : Word, 8192 ≤ b.toNat → ¬ b ≤ r := by
    intro b hb h
    have := BitVec.le_def.mp h
    omega
  have hne : ∀ b : Word, 8192 ≤ b.toNat → r ≠ b := by
    rintro b hb rfl
    omega
  have hgeneral : generalRegister s.cpu r = none := by
    simp (disch := decide) [generalRegister, hle, hne]
  have hplain : ∀ u : Machine δ, plainRegister u r .wmByte = none := by
    intro u
    simp (disch := decide) [plainRegister, hne]
  have hdevice : deviceAt s.attached r = none := by
    simp (disch := decide) [deviceAt, deviceRanges, hle]
  have hwindows : inMmuWindow r = false ∧ inCacheControl r = false ∧
      inUnibusMap r = false ∧ inParity r = false := by
    simp (disch := decide) [inMmuWindow, inCacheControl, inUnibusMap,
      inParity, hle]
  obtain ⟨hmmu, hcache, hunibus, hparity⟩ := hwindows
  obtain ⟨u, hu⟩ := trap_returns 0o4 none (s.log (.readIo r .wmByte))
  refine ⟨u, ?_⟩
  have hread :
      readIoVia trap r .wmByte apf s =
        (do
          trap 0o4 none
          throwInt 1 : Exec δ Word) (s.log (.readIo r .wmByte)) := by
    simp (disch := decide) [readIoVia, readDeviceIoVia, logEvent, hgeneral,
      hplain, hdevice, hmmu, hcache, hunibus, hparity, hne]
    rfl
  rw [hread, bind_of_ok hu]
  rfl

omit [UnibusDevices δ] in
/-- A byte read of memory does not throw. -/
theorem readRam_byte_returns
    (p : PhysAddr) (page : PageIndex) (apf : BitVec 3) (s : Machine δ) :
    ∃ v t, noteAbort (readRam p page .wmByte apf) s = .ok v t :=
  ⟨_, _, rfl⟩

/-- References that pass the access and the length check go where the
specification says if and only if MMR3 bit 4 is clear or the sum of base and
offset stays in the 22-bit space. -/
theorem relocation_spec_iff
    (s : Machine δ) (runMode : RunMode) (a : Word) (spaceIn : Space)
    (henabled : s.mmu.isEnabled = true)
    (hpermits : s.mmu.Permits runMode a spaceIn) :
    ((∀ wordMode,
        Bus.read a wordMode runMode spaceIn s =
          noteAbort
            (serveRead (s.mmu.specTarget s.ram.size runMode a spaceIn)
              wordMode (activePageField a)) s) ∧
      ∀ wordMode value,
        Bus.write a wordMode value runMode spaceIn s =
          noteAbort
            (serveWrite (s.mmu.specTarget s.ram.size runMode a spaceIn)
              wordMode (activePageField a) value) s) ↔
      s.mmu.mmr3 &&& 16 = 0 ∨
        s.mmu.relocatedSum (s.mmu.referencePage runMode a spaceIn) a <
          2 ^ 22 := by
  constructor
  · rintro ⟨hread, -⟩
    by_contra hcarry
    rw [not_or, not_lt] at hcarry
    obtain ⟨hwide, hsum⟩ := hcarry
    obtain ⟨r, hr, htarget⟩ :=
      target_of_carry henabled hpermits hwide hsum s.ram.size
    obtain ⟨u, hu⟩ := readIo_below hr (activePageField a) s
    have hbyte := hread .wmByte
    rw [Bus.read_eq, Machine.target, htarget] at hbyte
    rw [show serveRead (.io r) .wmByte (activePageField a) =
      readIoVia trap r .wmByte (activePageField a) from rfl,
      noteAbort_of_error hu] at hbyte
    rcases specTarget_of_carry hwide hsum s.ram.size with ⟨p, hspec⟩ | hspec
    · obtain ⟨v, t, hok⟩ := readRam_byte_returns p
        (s.mmu.referencePage runMode a spaceIn) (activePageField a) s
      rw [hspec] at hbyte
      cases hbyte.trans hok
    · obtain ⟨t, herror⟩ :=
        (abortBounds_throws (s.mmu.referencePage runMode a spaceIn) s :
          ∃ t, (_ : Exec δ Word) s = .error (.exception 6) t)
      rw [hspec] at hbyte
      cases hbyte.trans (noteAbort_of_error herror)
  · intro hsum
    have htarget : s.target runMode a spaceIn =
        s.mmu.specTarget s.ram.size runMode a spaceIn :=
      target_spec henabled hpermits hsum s.ram.size
    exact ⟨fun wordMode => by rw [Bus.read_eq, htarget],
      fun wordMode value => by rw [Bus.write_eq, htarget]⟩

end References

section Examples

/-- A machine in 22-bit mode whose kernel page 0 has the given base. -/
def wideMachine (par : Word) : Machine LineClock :=
  let s := bareMachine 0o20000 [(0, 0o52525)]
  let page := (Page.zero.setPar par).setPdr 0o77406
  { s with
    mmu := ({ s.mmu with
      pages := Function.update s.mmu.pages 0 page }.setMMR3 16).setMMR0AsIs 1 }

/-- A base inside the space. -/
theorem relocation_spec_low :
    Bus.read 0o100 .wmWord 0 .iSpace (wideMachine 0) =
      noteAbort
        (serveRead ((wideMachine 0).mmu.specTarget 0o20000 0 0o100 .iSpace)
          .wmWord 0) (wideMachine 0) :=
  ((relocation_spec_iff (wideMachine 0) 0 0o100 .iSpace (by decide)
    (fun _ => by decide)).mpr (Or.inr (by decide))).1 .wmWord

/-- The last page base and an offset of 64: the sum is 2^22, which should be
word 0 of memory and goes to address 0 of the I/O page. -/
theorem carry_reads_below_ioPage :
    (wideMachine 0o177777).mmu.isEnabled = true ∧
      (wideMachine 0o177777).mmu.Permits 0 0o100 .iSpace ∧
      (wideMachine 0o177777).mmu.specTarget 0o20000 0 0o100 .iSpace =
        .ram 0 0 ∧
      (wideMachine 0o177777).target 0 0o100 .iSpace = .io 0 ∧
      Bus.read 0o100 .wmWord 0 .iSpace (wideMachine 0o177777) ≠
        noteAbort
          (serveRead
            ((wideMachine 0o177777).mmu.specTarget 0o20000 0 0o100 .iSpace)
            .wmWord 0) (wideMachine 0o177777) := by
  refine ⟨by decide, fun _ => by decide, by decide +kernel,
    by decide +kernel, ?_⟩
  intro h
  have hreturned := congrArg returned h
  have hleft :
      returned (Bus.read 0o100 .wmWord 0 .iSpace (wideMachine 0o177777)) =
        false := by
    decide +kernel
  have hright :
      returned (noteAbort
        (serveRead
          ((wideMachine 0o177777).mmu.specTarget 0o20000 0 0o100 .iSpace)
          .wmWord 0) (wideMachine 0o177777)) = true := by
    decide +kernel
  rw [hleft, hright] at hreturned
  cases hreturned

end Examples

end KekPdp11
