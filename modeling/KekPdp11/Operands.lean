import KekPdp11.TrapEntry

/-!
# KEK PDP-11: operands

The general addressing modes.  getGAM computes the address of an operand,
with the register changes of its mode and their records in MMR1, and reads
the operand; putGAM and put_result store a result where getGAM pointed.
-/

namespace KekPdp11

open StateExcept

variable {δ : Type}

/-- An operand, gam_rc_t. -/
structure GamRc where
  wordMode : WordMode
  space : Space
  isAddr : Bool
  addr : Word
  reg : RegNr
  value : Word

/-- mmu::add_to_MMR1, whose assertion is that MMR1 is not locked. -/
def mmuAddToMMR1 (delta : Int) (reg : RegNr) : Exec δ Unit := do
  assertThat .deltaRange (decide (-2 ≤ delta ∧ delta ≤ 2))
  let locked ← mmuView fun m => m.isLocked
  assertThat .mmr1NotLocked (!locked)
  modifyMmu fun m => m.setMMR1 (Mmu.recordMMR1 m.mmr1 delta reg)

/-- cpu::add_to_MMR1. -/
def addToMMR1 (reg : RegNr) (delta : Int) : Exec δ Unit := do
  assertThat .deltaRange (decide (-2 ≤ delta ∧ delta ≤ 2))
  let locked ← mmuView fun m => m.isMMR1Locked
  if locked then pure () else mmuAddToMMR1 delta reg

/-- The state after a record in MMR1. -/
def Machine.recorded (s : Machine δ) (delta : Int) (reg : RegNr) :
    Machine δ :=
  { s with mmu := s.mmu.setMMR1 (Mmu.recordMMR1 s.mmu.mmr1 delta reg) }

/-- A record is written when its delta is in range and MMR1 is not locked. -/
theorem mmuAddToMMR1_apply
    {delta : Int} (reg : RegNr) {s : Machine δ}
    (hdelta : -2 ≤ delta ∧ delta ≤ 2) (hlock : s.mmu.isLocked = false) :
    mmuAddToMMR1 delta reg s = .ok () (s.recorded delta reg) := by
  unfold mmuAddToMMR1 assertThat
  rw [decide_eq_true hdelta, if_pos rfl, pure_bind_apply, mmuView_bind_apply,
    hlock]
  rfl

/-- cpu::add_to_MMR1 leaves a locked MMR1 alone. -/
theorem addToMMR1_apply
    (reg : RegNr) {delta : Int} (s : Machine δ)
    (hdelta : -2 ≤ delta ∧ delta ≤ 2) :
    addToMMR1 reg delta s =
      .ok () (if s.mmu.isLocked = true then s else s.recorded delta reg) := by
  unfold addToMMR1 assertThat
  rw [decide_eq_true hdelta, if_pos rfl, pure_bind_apply, mmuView_bind_apply,
    ite_apply_state]
  change (if s.mmu.isLocked = true then _ else _) = _
  cases hlock : s.mmu.isLocked with
  | true =>
      rfl
  | false =>
      exact mmuAddToMMR1_apply reg hdelta hlock

/-- The step of an autoincrement or autodecrement: two for a word, and always
for the stack pointer and PC. -/
def autoDelta (reg : RegNr) (wordMode : WordMode) : Int :=
  if wordMode = .wmWord ∨ 6 ≤ reg then 2 else 1

theorem autoDelta_range
    (reg : RegNr) (wordMode : WordMode) :
    -2 ≤ autoDelta reg wordMode ∧ autoDelta reg wordMode ≤ 2 := by
  unfold autoDelta
  split <;> omega

theorem neg_autoDelta_range
    (reg : RegNr) (wordMode : WordMode) :
    -2 ≤ -autoDelta reg wordMode ∧ -autoDelta reg wordMode ≤ 2 := by
  have h := autoDelta_range reg wordMode
  omega

variable [UnibusDevices δ]

/-- The address part of getGAM for the modes that have one: the address, the
space that goes into the operand and the space the operand is read in. -/
def gamAddress (mode : RegNr) (reg : RegNr) (wordMode : WordMode)
    (runMode : RunMode) : Exec δ (Word × Space × Space) := do
  let isR7Space := if reg = 7 then Space.iSpace else Space.dSpace
  match mode with
  | 1 => do -- (Rn)
      let addr ← getRegister reg
      pure (addr, isR7Space, isR7Space)
  | 2 => do -- (Rn)+  /  #n
      let addr ← getRegister reg
      let delta := autoDelta reg wordMode
      let _ ← addRegister reg (BitVec.ofInt 16 delta)
      addToMMR1 reg delta
      pure (addr, isR7Space, isR7Space)
  | 3 => do -- @(Rn)+  /  @#a
      let pointer ← getRegister reg
      let addr ← Bus.read pointer .wmWord runMode isR7Space
      addToMMR1 reg 2
      let _ ← addRegister reg 2
      pure (addr, .dSpace, .dSpace)
  | 4 => do -- -(Rn)
      let delta := -autoDelta reg wordMode
      let addr ← addRegister reg (BitVec.ofInt 16 delta)
      addToMMR1 reg delta
      pure (addr, .dSpace, isR7Space)
  | 5 => do -- @-(Rn)
      let pointer ← addRegister reg (-2)
      addToMMR1 reg (-2)
      let addr ← Bus.read pointer .wmWord runMode isR7Space
      pure (addr, .dSpace, .dSpace)
  | 6 => do -- x(Rn)  /  a
      let pc ← getPC
      let nextWord ← Bus.read pc .wmWord runMode .iSpace
      let _ ← addRegister 7 2
      let base ← getRegister reg
      pure (base + nextWord, .dSpace, .dSpace)
  | _ => do -- @x(Rn)  /  @a
      let pc ← getPC
      let nextWord ← Bus.read pc .wmWord runMode .iSpace
      let _ ← addRegister 7 2
      let base ← getRegister reg
      let addr ← Bus.read (base + nextWord) .wmWord runMode .dSpace
      pure (addr, .dSpace, .dSpace)

/-- cpu::getGAM. -/
def getGAM (mode reg : RegNr) (wordMode : WordMode)
    (readValue : Bool) : Exec δ GamRc := do
  if mode = 0 then do
    let v ← getRegister reg
    pure
      { wordMode := wordMode
        space := if reg = 7 then .iSpace else .dSpace
        isAddr := false
        addr := 0
        reg := reg
        value := v &&& wordModeMask wordMode }
  else do
    let runMode ← getPSWRunmode
    let (addr, space, readSpace) ← gamAddress mode reg wordMode runMode
    let value ←
      (if readValue then Bus.read addr wordMode runMode readSpace else pure 0)
    assertThat .byteOperand (decide (value < 256) || decide (wordMode = .wmWord))
    pure
      { wordMode := wordMode
        space := space
        isAddr := true
        addr := addr
        reg := 0
        value := value }

/-- cpu::getGAMAddress. -/
def getGAMAddress (mode reg : RegNr) (wordMode : WordMode) : Exec δ GamRc :=
  getGAM mode reg wordMode false

/-- b->write at the operand's address in the current mode; the result says
whether the flags are to be set. -/
def writeOperand (g : GamRc) (value : Word) : Exec δ Bool := do
  let runMode ← getPSWRunmode
  let isPsw ← Bus.write g.addr g.wordMode value runMode g.space
  pure (!isPsw)

/-- cpu::putGAM; it returns false when flags should not be updated. -/
def putGAM (g : GamRc) (value : Word) : Exec δ Bool := do
  assertThat .byteOperand (decide (value < 256) || decide (g.wordMode = .wmWord))
  if g.isAddr then
    writeOperand g value
  else do
    setRegister g.reg value
    pure true

/-- cpu::set_registerLowByte. -/
def setRegisterLowByte (nr : RegNr) (wordMode : WordMode) (value : Word) :
    Exec δ Unit := do
  match wordMode with
  | .wmByte => do
      assertThat .byteOperand (decide (value < 256))
      let v ← getRegister nr
      setRegister nr ((v &&& 0xff00) ||| value)
  | .wmWord => setRegister nr value

/-- cpu::put_result. -/
def putResult (g : GamRc) (value : Word) : Exec δ Bool := do
  if g.isAddr then
    writeOperand g value
  else do
    setRegisterLowByte g.reg g.wordMode value
    pure true

end KekPdp11
