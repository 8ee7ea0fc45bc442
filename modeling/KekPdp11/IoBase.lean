import KekPdp11.MachineSnapshot

/-!
# KEK PDP-11: the cached I/O base

Class mmu keeps the start of the I/O page beside MMR0 and MMR3 from which it
follows.  Every member that assigns one of these registers is written down here
as the source has it, with or without update_io_base behind it: `CachedMmu` is
free to be out of step, unlike `Mmu`, which carries the agreement as a field.

* `step_coherent`: no member leaves the I/O base out of step.
* `run_ioBase`: the three values of the I/O base, after any sequence of members.
* `ofMmu_setMMR0AsIs` and the lemmas after it: the members of `Mmu` are those of
  this module.
-/

namespace KekPdp11

/-- An object of class mmu with the I/O base that it keeps. -/
structure CachedMmu extends MmuObject where
  ioBase : PhysAddr

open JsonDocument

variable {D : Type}

namespace CachedMmu

section Members

def isEnabled (o : CachedMmu) : Bool :=
  o.mmr0 &&& 1 ≠ 0

def isLocked (o : CachedMmu) : Bool :=
  o.mmr0 &&& 0o160000 ≠ 0

def updateIoBase (o : CachedMmu) : CachedMmu :=
  { o with
    ioBase :=
      if o.isEnabled then
        if o.mmr3 &&& 16 ≠ 0 then 0o17760000 else 0o760000
      else
        0o160000 }

def reset (o : CachedMmu) (hard : Bool) : CachedMmu :=
  updateIoBase
    (if hard then { o with toMmuObject := o.toMmuObject.reset } else o)

/-- The object before its constructor runs, and the constructor. -/
def new : CachedMmu :=
  reset { MmuObject.new with ioBase := 0 } true

def begin (o : CachedMmu) (m c : Option Ptr) : CachedMmu :=
  reset { o with m := m, c := c } true

def setMMR0AsIs (o : CachedMmu) (value : Word) : CachedMmu :=
  updateIoBase { o with mmr0 := value }

def setMMR0 (o : CachedMmu) (value : Word) : CachedMmu :=
  updateIoBase { o with mmr0 := Mmu.guestMMR0 o.mmr0 value }

def setMMR1 (o : CachedMmu) (value : Word) : CachedMmu :=
  { o with mmr1 := value }

def setMMR2 (o : CachedMmu) (value : Word) : CachedMmu :=
  { o with mmr2 := value }

def setMMR3 (o : CachedMmu) (value : Word) : CachedMmu :=
  updateIoBase { o with mmr3 := value }

/-- MMR0 is assigned here without a call of update_io_base. -/
def trapIfOdd (o : CachedMmu) (apf : Word) : CachedMmu :=
  { o with
    mmr0 := (o.mmr0 &&& ~~~(7#16 <<< 1)) ||| (apf <<< 1)
    cpuerr := o.cpuerr ||| 0o100 }

/-- The part of verify_page_access before the trap. -/
def verifyPageAccess (o : CachedMmu) (page : PageIndex) (isWrite : Bool) :
    CachedMmu :=
  let accessControl := (o.pdr page).setWidth 3
  if Mmu.trapActionTable accessControl isWrite = .tProceed then
    o
  else if o.isLocked then
    o
  else
    o.setMMR0AsIs (Mmu.accessAbortMMR0 o.mmr0 page isWrite accessControl)

/-- The length test of verify_page_length. -/
def pageLengthFault (o : CachedMmu) (virtAddr : Word) (page : PageIndex) :
    Bool :=
  let pdrLen := (o.pdr page >>> 8) &&& 127
  let pdrCmp := (virtAddr >>> 6) &&& 127
  let direction : Bool := o.pdr page &&& 8 ≠ 0
  if direction then decide (pdrCmp < pdrLen) else decide (pdrLen < pdrCmp)

/-- The part of verify_page_length before the trap. -/
def verifyPageLength (o : CachedMmu) (virtAddr : Word) (page : PageIndex) :
    CachedMmu :=
  if o.pageLengthFault virtAddr page then
    if o.isLocked then o
    else o.setMMR0AsIs (Mmu.lengthAbortMMR0 o.mmr0 page)
  else
    o

/-- The part of verify_pointer_bounds of class bus before the trap. -/
def verifyPointerBounds (o : CachedMmu) (memorySize mOffset : PhysAddr)
    (page : PageIndex) : CachedMmu :=
  if memorySize ≤ mOffset then
    if o.isLocked then o
    else o.setMMR0AsIs (Mmu.boundsAbortMMR0 o.mmr0 page)
  else
    o

/-- The members that change the page registers. -/
def modifyPage (o : CachedMmu) (page : PageIndex)
    (f : PhysAddr × Word → PhysAddr × Word) : CachedMmu :=
  let (parPreshifted, pdr) := f (o.parPreshifted page, o.pdr page)
  { o with
    parPreshifted := Function.update o.parPreshifted page parPreshifted
    pdr := Function.update o.pdr page pdr }

/-- deserialize constructs an object and fills it; MMR0 and MMR3 are assigned
before the call of update_io_base. -/
def deserialize [JsonDocument D] (j : D) (m c : Option Ptr) : CachedMmu :=
  let o := begin new m c
  let o := mmuTables.foldl
    (fun o table =>
      { o with
        toMmuObject :=
          o.toMmuObject.setParPdr (member (mmuTableKey table) j) table })
    o
  let o := updateIoBase
    { o with
      mmr0 := toBits 16 (member "MMR0" j)
      mmr1 := toBits 16 (member "MMR1" j)
      mmr2 := toBits 16 (member "MMR2" j)
      mmr3 := toBits 16 (member "MMR3" j) }
  { o with
    cpuerr := toBits 16 (member "CPUERR" j)
    pir := toBits 16 (member "PIR" j)
    csr := toBits 16 (member "CSR" j) }

end Members

/-- A call of a member.  A restored object takes the place of the old one. -/
inductive Call (D : Type) where
  | begin (m c : Option Ptr)
  | reset (hard : Bool)
  | setMMR0AsIs (value : Word)
  | setMMR0 (value : Word)
  | setMMR1 (value : Word)
  | setMMR2 (value : Word)
  | setMMR3 (value : Word)
  | trapIfOdd (apf : Word)
  | verifyPageAccess (page : PageIndex) (isWrite : Bool)
  | verifyPageLength (virtAddr : Word) (page : PageIndex)
  | verifyPointerBounds (memorySize mOffset : PhysAddr) (page : PageIndex)
  | modifyPage (page : PageIndex) (f : PhysAddr × Word → PhysAddr × Word)
  | setCPUERR (value : Word)
  | setPIR (value : Word)
  | deserialize (j : D) (m c : Option Ptr)

def step [JsonDocument D] (o : CachedMmu) : Call D → CachedMmu
  | .begin m c => o.begin m c
  | .reset hard => o.reset hard
  | .setMMR0AsIs value => o.setMMR0AsIs value
  | .setMMR0 value => o.setMMR0 value
  | .setMMR1 value => o.setMMR1 value
  | .setMMR2 value => o.setMMR2 value
  | .setMMR3 value => o.setMMR3 value
  | .trapIfOdd apf => o.trapIfOdd apf
  | .verifyPageAccess page isWrite => o.verifyPageAccess page isWrite
  | .verifyPageLength virtAddr page => o.verifyPageLength virtAddr page
  | .verifyPointerBounds memorySize mOffset page =>
      o.verifyPointerBounds memorySize mOffset page
  | .modifyPage page f => o.modifyPage page f
  | .setCPUERR value => { o with cpuerr := value }
  | .setPIR value => { o with pir := value }
  | .deserialize j m c => deserialize j m c

/-- The object after some calls. -/
def run [JsonDocument D] (calls : List (Call D)) : CachedMmu :=
  calls.foldl step new

/-- The I/O base is the one that MMR0 and MMR3 determine. -/
def Coherent (o : CachedMmu) : Prop :=
  o.ioBase = ioBaseOf o.mmr0 o.mmr3

section Coherence

variable {o : CachedMmu}

theorem coherent_updateIoBase
    (o : CachedMmu) :
    Coherent o.updateIoBase := by
  simp only [Coherent, updateIoBase, isEnabled, ioBaseOf, decide_eq_true_eq]

theorem coherent_reset
    (o : CachedMmu)
    (hard : Bool) :
    Coherent (o.reset hard) :=
  coherent_updateIoBase _

theorem coherent_new :
    Coherent new :=
  coherent_reset _ _

theorem coherent_setMMR0AsIs
    (o : CachedMmu)
    (value : Word) :
    Coherent (o.setMMR0AsIs value) :=
  coherent_updateIoBase _

/-- Noting a page in MMR0 leaves its enable bit as it is. -/
theorem enableBit_pageField
    (mmr0 apf : Word) :
    ((mmr0 &&& ~~~(7#16 <<< 1)) ||| (apf <<< 1)) &&& 1 = mmr0 &&& 1 := by
  ext i hi
  interval_cases i <;> simp

theorem coherent_trapIfOdd
    (apf : Word)
    (h : Coherent o) :
    Coherent (o.trapIfOdd apf) := by
  have hbase : o.ioBase = ioBaseOf o.mmr0 o.mmr3 := h
  unfold Coherent trapIfOdd
  simp only [ioBaseOf, enableBit_pageField] at hbase ⊢
  exact hbase

/-- An abort that is not recorded leaves MMR0, one that is recorded goes
through setMMR0_as_is. -/
theorem coherent_latch
    (value : Word)
    (h : Coherent o) :
    Coherent (if o.isLocked then o else o.setMMR0AsIs value) := by
  split
  · exact h
  · exact coherent_setMMR0AsIs _ _

theorem coherent_verifyPageAccess
    (page : PageIndex)
    (isWrite : Bool)
    (h : Coherent o) :
    Coherent (o.verifyPageAccess page isWrite) := by
  unfold verifyPageAccess
  dsimp only
  split
  · exact h
  · exact coherent_latch _ h

theorem coherent_verifyPageLength
    (virtAddr : Word)
    (page : PageIndex)
    (h : Coherent o) :
    Coherent (o.verifyPageLength virtAddr page) := by
  unfold verifyPageLength
  split
  · exact coherent_latch _ h
  · exact h

theorem coherent_verifyPointerBounds
    (memorySize mOffset : PhysAddr)
    (page : PageIndex)
    (h : Coherent o) :
    Coherent (o.verifyPointerBounds memorySize mOffset page) := by
  unfold verifyPointerBounds
  split
  · exact coherent_latch _ h
  · exact h

theorem coherent_deserialize
    [JsonDocument D] (j : D)
    (m c : Option Ptr) :
    Coherent (deserialize j m c) := by
  have h := coherent_updateIoBase
    { mmuTables.foldl
        (fun o table =>
          { o with
            toMmuObject :=
              o.toMmuObject.setParPdr (member (mmuTableKey table) j) table })
        (begin new m c) with
      mmr0 := toBits 16 (member "MMR0" j)
      mmr1 := toBits 16 (member "MMR1" j)
      mmr2 := toBits 16 (member "MMR2" j)
      mmr3 := toBits 16 (member "MMR3" j) }
  exact h

/-- No member leaves the I/O base out of step. -/
theorem step_coherent
    [JsonDocument D] (call : Call D)
    (h : Coherent o) :
    Coherent (o.step call) := by
  cases call with
  | begin m c =>
      exact coherent_reset _ _
  | reset hard =>
      exact coherent_reset _ _
  | setMMR0AsIs value =>
      exact coherent_setMMR0AsIs _ _
  | setMMR0 value =>
      exact coherent_updateIoBase _
  | setMMR1 value =>
      exact h
  | setMMR2 value =>
      exact h
  | setMMR3 value =>
      exact coherent_updateIoBase _
  | trapIfOdd apf =>
      exact coherent_trapIfOdd apf h
  | verifyPageAccess page isWrite =>
      exact coherent_verifyPageAccess page isWrite h
  | verifyPageLength virtAddr page =>
      exact coherent_verifyPageLength virtAddr page h
  | verifyPointerBounds memorySize mOffset page =>
      exact coherent_verifyPointerBounds memorySize mOffset page h
  | modifyPage page f =>
      exact h
  | setCPUERR value =>
      exact h
  | setPIR value =>
      exact h
  | deserialize j m c =>
      exact coherent_deserialize j m c

theorem run_coherent
    [JsonDocument D] (calls : List (Call D)) :
    Coherent (run calls) := by
  unfold run
  -- By induction on the calls, from every coherent object.
  suffices h : ∀ o, Coherent o → Coherent (calls.foldl step o) from
    h new coherent_new
  induction calls with
  | nil =>
      intro o h
      exact h
  | cons call calls ih =>
      intro o h
      exact ih (o.step call) (step_coherent call h)

end Coherence

/-- The I/O base after any calls: 16, 18 or 22 bits of address. -/
theorem run_ioBase
    [JsonDocument D] (calls : List (Call D)) :
    ((run calls).mmr0 &&& 1 = 0 → (run calls).ioBase = 0o160000) ∧
      ((run calls).mmr0 &&& 1 ≠ 0 → (run calls).mmr3 &&& 16 = 0 →
        (run calls).ioBase = 0o760000) ∧
      ((run calls).mmr0 &&& 1 ≠ 0 → (run calls).mmr3 &&& 16 ≠ 0 →
        (run calls).ioBase = 0o17760000) := by
  have hbase : (run calls).ioBase =
      ioBaseOf (run calls).mmr0 (run calls).mmr3 :=
    run_coherent calls
  rw [hbase]
  unfold ioBaseOf
  refine ⟨?_, ?_, ?_⟩
  · intro hoff
    rw [if_neg (not_not_intro hoff)]
  · intro hon h18
    rw [if_pos hon, if_neg (not_not_intro h18)]
  · intro hon h22
    rw [if_pos hon, if_pos h22]

section Machine

/-- The unit of a machine with the I/O base that it carries. -/
def ofMmu (m : Mmu) (ram c : Option Ptr) : CachedMmu where
  parPreshifted page := (m.pages page).parPreshifted
  pdr page := (m.pages page).pdr
  mmr0 := m.mmr0
  mmr1 := m.mmr1
  mmr2 := m.mmr2
  mmr3 := m.mmr3
  cpuerr := m.cpuerr
  pir := m.pir
  csr := m.csr
  m := ram
  c := c
  ioBase := m.ioBase

variable (m : Mmu) (ram c : Option Ptr)

/-- An object that agrees with a unit in all but the I/O base agrees with it
once the I/O base is refreshed. -/
theorem updateIoBase_eq_ofMmu
    {o : CachedMmu}
    (h : o.toMmuObject = (ofMmu m ram c).toMmuObject) :
    o.updateIoBase = ofMmu m ram c := by
  have hcoherent := coherent_updateIoBase o
  have hsame : o.updateIoBase.toMmuObject = o.toMmuObject := rfl
  have hbase : o.updateIoBase.ioBase = m.ioBase := by
    rw [hcoherent, hsame, h]
    exact m.ioBase_eq.symm
  cases hu : o.updateIoBase with
  | mk object ioBase =>
      rw [hu] at hsame hbase
      dsimp only at hsame hbase
      rw [hsame, h, hbase]
      rfl

theorem ofMmu_setMMR0AsIs
    (value : Word) :
    (ofMmu m ram c).setMMR0AsIs value =
      ofMmu (m.setMMR0AsIs value) ram c :=
  updateIoBase_eq_ofMmu _ ram c rfl

theorem ofMmu_setMMR0
    (value : Word) :
    (ofMmu m ram c).setMMR0 value = ofMmu (m.setMMR0 value) ram c :=
  updateIoBase_eq_ofMmu _ ram c rfl

theorem ofMmu_setMMR3
    (value : Word) :
    (ofMmu m ram c).setMMR3 value = ofMmu (m.setMMR3 value) ram c :=
  updateIoBase_eq_ofMmu _ ram c rfl

theorem ofMmu_reset
    (hard : Bool) :
    (ofMmu m ram c).reset hard = ofMmu (m.reset hard) ram c := by
  cases hard with
  | false =>
      exact updateIoBase_eq_ofMmu _ ram c rfl
  | true =>
      exact updateIoBase_eq_ofMmu _ ram c rfl

theorem ofMmu_trapIfOdd
    (apf : BitVec 3) :
    (ofMmu m ram c).trapIfOdd (apf.setWidth 16) =
      ofMmu (m.trapIfOdd apf) ram c :=
  rfl

theorem ofMmu_verifyPageAccess
    {page : PageIndex} {isWrite : Bool}
    (h : m.getTrapAction page isWrite ≠ .tProceed) :
    (ofMmu m ram c).verifyPageAccess page isWrite =
      ofMmu
        (m.latchMMR0
          (Mmu.accessAbortMMR0 m.mmr0 page isWrite (m.getAccessControl page)))
        ram c := by
  have hlatch : (ofMmu m ram c).verifyPageAccess page isWrite =
      if m.isLocked then ofMmu m ram c
      else (ofMmu m ram c).setMMR0AsIs
        (Mmu.accessAbortMMR0 m.mmr0 page isWrite (m.getAccessControl page)) :=
    if_neg h
  rw [hlatch, ofMmu_setMMR0AsIs]
  exact (apply_ite (ofMmu · ram c) _ _ _).symm

theorem ofMmu_verifyPageLength
    {virtAddr : Word} {page : PageIndex}
    (h : m.pageLengthFault virtAddr page = true) :
    (ofMmu m ram c).verifyPageLength virtAddr page =
      ofMmu (m.latchMMR0 (Mmu.lengthAbortMMR0 m.mmr0 page)) ram c := by
  have hlatch : (ofMmu m ram c).verifyPageLength virtAddr page =
      if m.isLocked then ofMmu m ram c
      else (ofMmu m ram c).setMMR0AsIs (Mmu.lengthAbortMMR0 m.mmr0 page) :=
    if_pos h
  rw [hlatch, ofMmu_setMMR0AsIs]
  exact (apply_ite (ofMmu · ram c) _ _ _).symm

theorem ofMmu_verifyPointerBounds
    {memorySize mOffset : PhysAddr} {page : PageIndex}
    (h : memorySize ≤ mOffset) :
    (ofMmu m ram c).verifyPointerBounds memorySize mOffset page =
      ofMmu (m.latchMMR0 (Mmu.boundsAbortMMR0 m.mmr0 page)) ram c := by
  have hlatch : (ofMmu m ram c).verifyPointerBounds memorySize mOffset page =
      if m.isLocked then ofMmu m ram c
      else (ofMmu m ram c).setMMR0AsIs (Mmu.boundsAbortMMR0 m.mmr0 page) :=
    if_pos h
  rw [hlatch, ofMmu_setMMR0AsIs]
  exact (apply_ite (ofMmu · ram c) _ _ _).symm

end Machine

end CachedMmu

end KekPdp11
