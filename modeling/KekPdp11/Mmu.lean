import KekPdp11.Word
import Mathlib.Logic.Function.Basic
import Mathlib.Tactic.IntervalCases

/-!
# KEK PDP-11: the memory management unit

The data of class mmu and its members that neither trap nor throw: the page
registers, MMR0 to MMR3, the relocation of an address and the records that the
abort paths write into MMR0.

Two facts hold of every value of these types because they are fields of them:
a page base is a 16-bit page address register shifted left by six, and the
cached I/O base is the one that MMR0 and MMR3 determine.
-/

namespace KekPdp11

/-- Index into the page array: apf, then the data-space bit, then the mode. -/
abbrev PageIndex := BitVec 6

/-- A page address and descriptor register pair, page_t. -/
structure Page where
  parPreshifted : PhysAddr
  pdr : Word
  par_shifted : parPreshifted &&& 0o17777700 = parPreshifted

/-- What get_trap_action decides about a reference, trap_action_t. -/
inductive TrapAction where
  | tProceed
  | tAbort4
  | tTrap250
deriving DecidableEq, Repr

/-- The I/O base that update_io_base computes. -/
def ioBaseOf (mmr0 mmr3 : Word) : PhysAddr :=
  if mmr0 &&& 1 ≠ 0 then
    if mmr3 &&& 16 ≠ 0 then 0o17760000 else 0o760000
  else
    0o160000

/-- The data members of class mmu. -/
structure Mmu where
  pages : PageIndex → Page
  mmr0 : Word
  mmr1 : Word
  mmr2 : Word
  mmr3 : Word
  cpuerr : Word
  pir : Word
  csr : Word
  ioBase : PhysAddr
  ioBase_eq : ioBase = ioBaseOf mmr0 mmr3

namespace Page

def zero : Page where
  parPreshifted := 0
  pdr := 0
  par_shifted := by decide

/-- The page address register as the guest reads it. -/
def par (p : Page) : Word :=
  (p.parPreshifted >>> 6).setWidth 16

theorem shifted_par_and
    (par : Word) :
    (par.setWidth 32 <<< 6) &&& 0o17777700#32 = par.setWidth 32 <<< 6 := by
  ext i hi
  simp only [BitVec.getElem_and, BitVec.getElem_shiftLeft,
    BitVec.getElem_setWidth]
  by_cases h6 : i < 6
  · simp [h6]
  · by_cases h22 : i < 22
    · have hm : (0o17777700#32)[i] = true := by
        interval_cases i <;> simp_all
      simp [hm]
    · have hp : par.getLsbD (i - 6) = false :=
        BitVec.getLsbD_of_ge _ _ (by omega)
      simp [hp]

def setPar (p : Page) (par : Word) : Page where
  parPreshifted := par.setWidth 32 <<< 6
  pdr := p.pdr
  par_shifted := shifted_par_and par

def setPdr (p : Page) (pdr : Word) : Page :=
  { p with pdr := pdr }

end Page

namespace Mmu

def isEnabled (m : Mmu) : Bool :=
  m.mmr0 &&& 1 ≠ 0

def isLocked (m : Mmu) : Bool :=
  m.mmr0 &&& 0o160000 ≠ 0

def isMMR1Locked (m : Mmu) : Bool :=
  m.mmr0 &&& 0o160000 ≠ 0

/-- di_ena_mask of mmu.cpp. -/
def diEnaMask : RunMode → Word
  | 0 => 4
  | 1 => 2
  | 2 => 0
  | _ => 1

def getUseDataSpace (m : Mmu) (runMode : RunMode) : Bool :=
  m.mmr3 &&& diEnaMask runMode ≠ 0

def calcParPdrIndex (runMode : RunMode) (d : Space) (apf : BitVec 3) :
    PageIndex :=
  apf.setWidth 6 + (if d = .dSpace then 8 else 0) +
    (runMode.setWidth 6 <<< 4)

/-- Mode, data-space bit and active page field of a page index. -/
def explodePageIndex (page : PageIndex) : RunMode × Bool × BitVec 3 :=
  ((page >>> 4).setWidth 2, (page >>> 3) &&& 1 ≠ 0, page.setWidth 3)

def modifyPage (m : Mmu) (page : PageIndex) (f : Page → Page) : Mmu :=
  { m with pages := Function.update m.pages page (f (m.pages page)) }

def setPageAccessed (m : Mmu) (page : PageIndex) : Mmu :=
  m.modifyPage page fun p => p.setPdr (p.pdr ||| 0o200)

def setPageWrittenTo (m : Mmu) (page : PageIndex) : Mmu :=
  m.modifyPage page fun p => p.setPdr (p.pdr ||| 0o300)

def getAccessControl (m : Mmu) (page : PageIndex) : BitVec 3 :=
  (m.pages page).pdr.setWidth 3

def getPdrLen (m : Mmu) (page : PageIndex) : Word :=
  ((m.pages page).pdr >>> 8) &&& 127

def getPdrDirection (m : Mmu) (page : PageIndex) : Bool :=
  (m.pages page).pdr &&& 8 ≠ 0

def getPhysicalMemoryOffset (m : Mmu) (page : PageIndex) : PhysAddr :=
  (m.pages page).parPreshifted

def setMMR0AsIs (m : Mmu) (value : Word) : Mmu :=
  { m with
    mmr0 := value
    ioBase := ioBaseOf value m.mmr3
    ioBase_eq := rfl }

/-- The value that setMMR0 stores for a guest write. -/
def guestMMR0 (mmr0 value : Word) : Word :=
  let value := value &&& ~~~(3#16 <<< 10)
  let value := if value &&& 1 ≠ 0 then value &&& ~~~(7#16 <<< 13) else value
  if mmr0 &&& 0o160000 ≠ 0 then
    if value &&& 1 = 0 then value &&& 254 else value
  else
    value

def setMMR0 (m : Mmu) (value : Word) : Mmu :=
  m.setMMR0AsIs (guestMMR0 m.mmr0 value)

def setMMR1 (m : Mmu) (value : Word) : Mmu :=
  { m with mmr1 := value }

def setMMR2 (m : Mmu) (value : Word) : Mmu :=
  { m with mmr2 := value }

def setMMR3 (m : Mmu) (value : Word) : Mmu :=
  { m with
    mmr3 := value
    ioBase := ioBaseOf m.mmr0 value
    ioBase_eq := rfl }

def clearMMR1 (m : Mmu) : Mmu :=
  m.setMMR1 0

/-- The value of MMR1 with one more (delta, register) record. -/
def recordMMR1 (mmr1 : Word) (delta : Int) (reg : RegNr) : Word :=
  (mmr1 <<< 8) ||| (((BitVec.ofInt 16 delta) &&& 31) <<< 3) |||
    reg.setWidth 16

def setCPUERRBit (m : Mmu) (bit : Nat) : Mmu :=
  { m with cpuerr := m.cpuerr ||| (1#16 <<< bit) }

def clrCPUERR (m : Mmu) : Mmu :=
  { m with cpuerr := 0 }

def setPIR (m : Mmu) (v : Word) : Mmu :=
  { m with pir := v }

/-- Clearing the page number field does not touch the enable bit. -/
theorem ioBaseOf_pageField
    (mmr0 mmr3 : Word) (apf : BitVec 3) :
    ioBaseOf ((mmr0 &&& ~~~(7#16 <<< 1)) ||| (apf.setWidth 16 <<< 1)) mmr3 =
      ioBaseOf mmr0 mmr3 := by
  have h :
      ((mmr0 &&& ~~~(7#16 <<< 1)) ||| (apf.setWidth 16 <<< 1)) &&& 1 =
        mmr0 &&& 1 := by
    ext i hi
    interval_cases i <;> simp
  simp only [ioBaseOf, h]

/-- trap_if_odd: note the page in MMR0, set the odd-address bit of CPUERR. -/
def trapIfOdd (m : Mmu) (apf : BitVec 3) : Mmu :=
  { m with
    mmr0 := (m.mmr0 &&& ~~~(7#16 <<< 1)) ||| (apf.setWidth 16 <<< 1)
    cpuerr := m.cpuerr ||| 0o100
    ioBase_eq := by rw [ioBaseOf_pageField, m.ioBase_eq] }

def reset (m : Mmu) (hard : Bool) : Mmu :=
  if hard then
    { pages := fun _ => Page.zero
      mmr0 := 0
      mmr1 := 0
      mmr2 := 0
      mmr3 := 0
      cpuerr := 0
      pir := 0
      csr := 0
      ioBase := 0o160000
      ioBase_eq := rfl }
  else
    m

/-- An MMU as its constructor leaves it. -/
def initial : Mmu where
  pages := fun _ => Page.zero
  mmr0 := 0
  mmr1 := 0
  mmr2 := 0
  mmr3 := 0
  cpuerr := 0
  pir := 0
  csr := 0
  ioBase := 0o160000
  ioBase_eq := rfl

section PageRegisterWindows

/-- The page that an address inside one of the windows names. -/
def windowPage (a : Word) (runMode : RunMode) : PageIndex :=
  calcParPdrIndex runMode (if a &&& 16 ≠ 0 then .dSpace else .iSpace)
    ((a >>> 1).setWidth 3)

def readPdr (m : Mmu) (a : Word) (runMode : RunMode) : Word :=
  (m.pages (windowPage a runMode)).pdr

def readPar (m : Mmu) (a : Word) (runMode : RunMode) : Word :=
  (m.pages (windowPage a runMode)).par

def writePdr (m : Mmu) (a : Word) (runMode : RunMode) (value : Word)
    (wordMode : WordMode) : Mmu :=
  m.modifyPage (windowPage a runMode) fun p =>
    let pdr :=
      match wordMode with
      | .wmByte => updateWord p.pdr (isOdd a) (value.setWidth 8)
      | .wmWord => value
    p.setPdr (pdr &&& ~~~(32768 + 128 + 64 + 32 + 16))

def writePar (m : Mmu) (a : Word) (runMode : RunMode) (value : Word)
    (wordMode : WordMode) : Mmu :=
  m.modifyPage (windowPage a runMode) fun p =>
    let par :=
      match wordMode with
      | .wmByte => updateWord p.par (isOdd a) (value.setWidth 8)
      | .wmWord => value
    (p.setPar par).setPdr (p.pdr &&& ~~~(128 + 64))

/-- The six windows: which register of which mode an address selects. -/
inductive Window where
  | pdr (runMode : RunMode)
  | par (runMode : RunMode)
deriving DecidableEq

def window (a : Word) : Option Window :=
  if 0o172200 ≤ a ∧ a < 0o172240 then some (.pdr 1)
  else if 0o172240 ≤ a ∧ a < 0o172300 then some (.par 1)
  else if 0o172300 ≤ a ∧ a < 0o172340 then some (.pdr 0)
  else if 0o172340 ≤ a ∧ a < 0o172400 then some (.par 0)
  else if 0o177600 ≤ a ∧ a < 0o177640 then some (.pdr 3)
  else if 0o177640 ≤ a ∧ a < 0o177700 then some (.par 3)
  else none

def readWord (m : Mmu) (a : Word) : Word :=
  match window a with
  | some (.pdr runMode) => m.readPdr a runMode
  | some (.par runMode) => m.readPar a runMode
  | none => 0

def readByte (m : Mmu) (a : Word) : Byte :=
  let v := m.readWord a
  if isOdd a then (v >>> 8).setWidth 8 else v.setWidth 8

def writeAt (m : Mmu) (a value : Word) (wordMode : WordMode) : Mmu :=
  match window a with
  | some (.pdr runMode) => m.writePdr a runMode value wordMode
  | some (.par runMode) => m.writePar a runMode value wordMode
  | none => m

/-- The page registers are the only ones in the windows. -/
theorem writeAt_eq
    (m : Mmu) (a value : Word) (wordMode : WordMode) :
    ∃ pages, m.writeAt a value wordMode = { m with pages := pages } := by
  unfold writeAt
  split
  · exact ⟨_, rfl⟩
  · exact ⟨_, rfl⟩
  · exact ⟨m.pages, rfl⟩

def writeWord (m : Mmu) (a value : Word) : Mmu :=
  m.writeAt a value .wmWord

def writeByte (m : Mmu) (a : Word) (value : Byte) : Mmu :=
  m.writeAt a (value.setWidth 16) .wmByte

end PageRegisterWindows

section Relocation

/-- get_trap_action's table. -/
def trapActionTable : BitVec 3 → Bool → TrapAction
  | 0, false => .tAbort4
  | 0, true => .tAbort4
  | 1, false => .tTrap250
  | 1, true => .tAbort4
  | 2, false => .tProceed
  | 2, true => .tAbort4
  | 3, false => .tAbort4
  | 3, true => .tAbort4
  | 4, false => .tTrap250
  | 4, true => .tTrap250
  | 5, false => .tProceed
  | 5, true => .tTrap250
  | 6, false => .tProceed
  | 6, true => .tProceed
  | _, _ => .tAbort4

def getTrapAction (m : Mmu) (page : PageIndex) (isWrite : Bool) : TrapAction :=
  trapActionTable (m.getAccessControl page) isWrite

/-- The length test of verify_page_length. -/
def pageLengthFault (m : Mmu) (virtAddr : Word) (page : PageIndex) : Bool :=
  let pdrCmp := (virtAddr >>> 6) &&& 127
  if m.getPdrDirection page then
    decide (pdrCmp < m.getPdrLen page)
  else
    decide (m.getPdrLen page < pdrCmp)

/-- The offset of a virtual address inside its page. -/
def pageOffset (a : Word) : PhysAddr :=
  (a &&& 8191).setWidth 32

/-- Page base plus offset, cut to 18 bits unless MMR3 bit 4 is set. -/
def relocate (m : Mmu) (page : PageIndex) (a : Word) : PhysAddr :=
  let mOffset := m.getPhysicalMemoryOffset page + pageOffset a
  if m.mmr3 &&& 16 = 0 then mOffset &&& 0x3ffff else mOffset

/-- The space a reference is made in once split space is taken into account. -/
def referenceSpace (m : Mmu) (runMode : RunMode) (spaceIn : Space) : Space :=
  if m.getUseDataSpace runMode then spaceIn else .iSpace

/-- The page of a relocated reference. -/
def referencePage (m : Mmu) (runMode : RunMode) (a : Word) (spaceIn : Space) :
    PageIndex :=
  calcParPdrIndex runMode (m.referenceSpace runMode spaceIn)
    (activePageField a)

/-- MMR0 as verify_page_access leaves it. -/
def accessAbortMMR0 (mmr0 : Word) (page : PageIndex) (isWrite : Bool)
    (accessControl : BitVec 3) : Word :=
  let temp := mmr0 &&& ~~~0o170176#16
  let temp :=
    if isWrite ∧ accessControl ≠ 6 then temp ||| (1#16 <<< 13) else temp
  let temp :=
    if accessControl = 0 ∨ accessControl = 4 then temp ||| (1#16 <<< 15)
    else if accessControl = 1 ∨ accessControl = 2 then temp ||| (1#16 <<< 13)
    else if accessControl = 3 ∨ accessControl = 7 then temp ||| (1#16 <<< 15)
    else temp
  temp ||| ((explodePageIndex page).2.2.setWidth 16 <<< 1)

/-- MMR0 as verify_page_length leaves it. -/
def lengthAbortMMR0 (mmr0 : Word) (page : PageIndex) : Word :=
  let (runMode, d, apf) := explodePageIndex page
  let temp := (mmr0 &&& 0o17777) ||| (1#16 <<< 14)
  let temp := (temp &&& ~~~14#16) ||| (apf.setWidth 16 <<< 1)
  let temp := (temp &&& ~~~(3#16 <<< 5)) ||| (runMode.setWidth 16 <<< 5)
  (temp &&& ~~~(1#16 <<< 4)) ||| ((BitVec.ofBool d).setWidth 16 <<< 4)

/-- MMR0 as verify_pointer_bounds of class bus leaves it. -/
def boundsAbortMMR0 (mmr0 : Word) (page : PageIndex) : Word :=
  let (runMode, _, apf) := explodePageIndex page
  let temp := (mmr0 &&& 0o17777) ||| (1#16 <<< 15)
  let temp := (temp &&& ~~~14#16) ||| (apf.setWidth 16 <<< 1)
  (temp &&& ~~~(3#16 <<< 5)) ||| (runMode.setWidth 16 <<< 5)

/-- Record an abort in MMR0 unless an earlier one is still recorded there. -/
def latchMMR0 (m : Mmu) (value : Word) : Mmu :=
  if m.isLocked then m else m.setMMR0AsIs value

end Relocation

def mmrStartInstruction (m : Mmu) (pc : Word) : Mmu :=
  if m.isMMR1Locked then m else (m.setMMR2 pc).clearMMR1

end Mmu

end KekPdp11
