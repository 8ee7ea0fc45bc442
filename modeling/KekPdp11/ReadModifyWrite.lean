import KekPdp11.ConditionCodes

/-!
# KEK PDP-11: instructions that read and then write their destination

The destination of such an instruction in memory has two references, the one
its operand is read with and the one its result is written with.
`destination` computes both, and `readModifyWrite` is the course that all
these instructions take: read at the first, write at the second, set flags.

**Result.**  Each of the instructions is this program, and its two references
are one location, in one address space, except for an autodecrement of PC with
separate data space.
-/

namespace KekPdp11

open StateExcept

variable {δ : Type}

section Assertions

/-- What follows an assertion may rely on it. -/
theorem assertThat_bind_congr
    {α : Type} {failed : Assertion} {c : Bool} {k k' : Exec δ α}
    (h : c = true → k = k') :
    (assertThat failed c >>= fun _ => k) =
      (assertThat failed c >>= fun _ => k') := by
  cases c with
  | true =>
      rw [h rfl]
  | false =>
      rfl

/-- The assertion that putGAM and getGAM make about an operand. -/
def fits (value : Word) (wordMode : WordMode) : Bool :=
  decide (value < 256) || decide (wordMode = .wmWord)

theorem fits_word
    (value : Word) :
    fits value .wmWord = true := by
  simp [fits]

theorem fits_zero
    (wordMode : WordMode) :
    fits 0 wordMode = true := by
  cases wordMode <;> decide

/-- A byte with its bits inverted is a byte. -/
theorem fits_com
    {value : Word} {wordMode : WordMode} (h : fits value wordMode = true) :
    fits (value ^^^ wordModeMask wordMode) wordMode = true := by
  cases wordMode with
  | wmWord =>
      exact fits_word _
  | wmByte =>
      simp only [fits, reduceCtorEq, decide_false, Bool.or_false,
        decide_eq_true_eq, wordModeMask, BitVec.lt_def] at h ⊢
      rw [BitVec.toNat_xor]
      exact Nat.xor_lt_two_pow (n := 8) h (by decide)

end Assertions

section Fetching

/-- What computing an operand leaves as it was: memory, the mapping and the
status word. -/
structure Machine.FetchesTo (s t : Machine δ) : Prop where
  psw : t.cpu.psw = s.cpu.psw
  mmu : s.mmu.SameMapping t.mmu
  ram : t.ram = s.ram

/-- Every return of the program from `s` is such a computation. -/
abbrev FetchesFrom {α : Type} (s : Machine δ) (m : Exec δ α) : Prop :=
  Triple (fun u => s.FetchesTo u) m (fun _ t => s.FetchesTo t)
    (fun _ _ => True)

namespace Machine.FetchesTo

variable {s t u : Machine δ}

theorem refl
    (s : Machine δ) :
    s.FetchesTo s :=
  ⟨rfl, .of_touches (.refl _), rfl⟩

theorem trans
    (h : s.FetchesTo t) (h' : t.FetchesTo u) :
    s.FetchesTo u :=
  ⟨h'.psw.trans h.psw, h.mmu.trans h'.mmu, h'.ram.trans h.ram⟩

theorem of_reads
    (h : s.ReadsTo t) :
    s.FetchesTo t := by
  obtain ⟨⟨queued, any, hcpu⟩, hmmu, hram⟩ := h
  refine ⟨?_, .of_touches hmmu, hram⟩
  rw [hcpu]

theorem getPSWRunmode_eq
    (h : s.FetchesTo t) :
    t.cpu.getPSWRunmode = s.cpu.getPSWRunmode := by
  unfold Cpu.getPSWRunmode
  rw [h.psw]

theorem conditionCodes_eq
    (h : s.FetchesTo t) :
    t.cpu.conditionCodes = s.cpu.conditionCodes := by
  simp only [Cpu.conditionCodes, Cpu.getPSWn, Cpu.getPSWz, Cpu.getPSWv,
    Cpu.getPSWc, Cpu.getBitPSW, h.psw]

theorem target_eq
    (h : s.FetchesTo t) (runMode : RunMode) (a : Word) (spaceIn : Space) :
    t.target runMode a spaceIn = s.target runMode a spaceIn :=
  Machine.target_eq h.mmu (congrArg Ram.size h.ram) runMode a spaceIn

end Machine.FetchesTo

variable {s : Machine δ}

theorem fetchesFrom_pure
    {α : Type} (a : α) :
    FetchesFrom s (pure a) :=
  .pure fun _ hu => hu

theorem fetchesFrom_addRegister
    (nr : RegNr) (value : Word) :
    FetchesFrom s (addRegister nr value) :=
  fun u hu => hu.trans
    ⟨u.cpu.setRegister_psw nr _, .of_touches (.refl _), rfl⟩

/-- A record in MMR1 is not part of the mapping. -/
theorem fetchesFrom_addToMMR1
    (reg : RegNr) {delta : Int} (hdelta : -2 ≤ delta ∧ delta ≤ 2) :
    FetchesFrom s (addToMMR1 reg delta) := by
  intro u hu
  rw [addToMMR1_apply reg u hdelta]
  split
  · exact hu
  · exact hu.trans
      ⟨rfl, ⟨fun _ => rfl, fun _ => rfl, fun _ => rfl, fun _ => rfl, rfl, rfl,
        rfl⟩, rfl⟩

variable [UnibusDevices δ]

theorem fetchesFrom_read
    (a : Word) (wordMode : WordMode) (runMode : RunMode) (spaceIn : Space) :
    FetchesFrom s (Bus.read a wordMode runMode spaceIn) := by
  intro u hu
  cases h : Bus.read a wordMode runMode spaceIn u with
  | ok v t =>
      exact hu.trans (.of_reads (Bus.read_returns h))
  | error e t =>
      trivial

theorem fetchesFrom_gamAddress
    (mode reg : RegNr) (wordMode : WordMode) (runMode : RunMode) :
    FetchesFrom s (gamAddress mode reg wordMode runMode) := by
  unfold gamAddress
  dsimp only
  split
  · exact .view_bind_any fun addr => fetchesFrom_pure _
  · refine .view_bind_any fun addr =>
      (fetchesFrom_addRegister _ _).bind fun _ => ?_
    exact (fetchesFrom_addToMMR1 _ (autoDelta_range _ _)).bind fun _ =>
      fetchesFrom_pure _
  · refine .view_bind_any fun pointer =>
      (fetchesFrom_read _ _ _ _).bind fun addr => ?_
    refine (fetchesFrom_addToMMR1 _ (by omega)).bind fun _ => ?_
    exact (fetchesFrom_addRegister _ _).bind fun _ => fetchesFrom_pure _
  · refine (fetchesFrom_addRegister _ _).bind fun addr => ?_
    exact (fetchesFrom_addToMMR1 _ (neg_autoDelta_range _ _)).bind fun _ =>
      fetchesFrom_pure _
  · refine (fetchesFrom_addRegister _ _).bind fun pointer => ?_
    refine (fetchesFrom_addToMMR1 _ (by omega)).bind fun _ => ?_
    exact (fetchesFrom_read _ _ _ _).bind fun addr => fetchesFrom_pure _
  · refine .view_bind_any fun pc =>
      (fetchesFrom_read _ _ _ _).bind fun nextWord => ?_
    refine (fetchesFrom_addRegister _ _).bind fun _ =>
      .view_bind_any fun base => ?_
    exact fetchesFrom_pure _
  · refine .view_bind_any fun pc =>
      (fetchesFrom_read _ _ _ _).bind fun nextWord => ?_
    refine (fetchesFrom_addRegister _ _).bind fun _ =>
      .view_bind_any fun base => ?_
    exact (fetchesFrom_read _ _ _ _).bind fun addr => fetchesFrom_pure _

/-- getGAM. -/
theorem fetchesFrom_getGAM
    (mode reg : RegNr) (wordMode : WordMode) (readValue : Bool) :
    FetchesFrom s (getGAM mode reg wordMode readValue) := by
  refine .ite (fun _ => .view_bind_any fun v => fetchesFrom_pure _) fun _ => ?_
  refine .view_bind_any fun runMode => ?_
  refine (fetchesFrom_gamAddress _ _ _ _).bind fun target => ?_
  refine Triple.bind
    (.ite (fun _ => fetchesFrom_read _ _ _ _) fun _ => fetchesFrom_pure 0)
    fun value => ?_
  refine Triple.bind (.ite (fun _ => fetchesFrom_pure ()) fun _ => ?_)
    fun _ => fetchesFrom_pure _
  exact .raise fun _ _ => trivial

end Fetching

variable [UnibusDevices δ]

section Destinations

/-- A reference that the processor makes. -/
structure DestinationRef where
  addr : Word
  runMode : RunMode
  space : Space

namespace DestinationRef

def read (r : DestinationRef) (wordMode : WordMode) : Exec δ Word :=
  Bus.read r.addr wordMode r.runMode r.space

def write (r : DestinationRef) (wordMode : WordMode) (value : Word) :
    Exec δ Bool :=
  Bus.write r.addr wordMode value r.runMode r.space

/-- The operand that getGAM returns for a destination in memory. -/
def operand (r : DestinationRef) (wordMode : WordMode) (value : Word) :
    GamRc where
  wordMode := wordMode
  space := r.space
  isAddr := true
  addr := r.addr
  reg := 0
  value := value

end DestinationRef

/-- The reference that the operand is read with, and the one that the result
is written with. -/
def destination (mode reg : RegNr) (wordMode : WordMode) :
    Exec δ (DestinationRef × DestinationRef) := do
  let runMode ← getPSWRunmode
  let (addr, space, readSpace) ← gamAddress mode reg wordMode runMode
  pure (⟨addr, runMode, readSpace⟩, ⟨addr, runMode, space⟩)

/-- getGAM for a destination in memory. -/
theorem getGAM_memory
    {mode : RegNr} (reg : RegNr) (wordMode : WordMode) (hmode : mode ≠ 0) :
    (getGAM mode reg wordMode true : Exec δ GamRc) = (do
      let (operand, result) ← destination mode reg wordMode
      let value ← operand.read wordMode
      assertThat .byteOperand
        (decide (value < 256) || decide (wordMode = .wmWord))
      pure (result.operand wordMode value)) := by
  unfold getGAM destination
  rw [if_neg hmode]
  simp only [bind_assoc, pure_bind, if_true]
  rfl

/-- getGAMAddress for a destination in memory. -/
theorem getGAM_address
    {mode : RegNr} (reg : RegNr) (wordMode : WordMode) (hmode : mode ≠ 0) :
    (getGAM mode reg wordMode false : Exec δ GamRc) = (do
      let (_, result) ← destination mode reg wordMode
      assertThat .byteOperand
        (decide ((0 : Word) < 256) || decide (wordMode = .wmWord))
      pure (result.operand wordMode 0)) := by
  unfold getGAM destination
  rw [if_neg hmode]
  simp only [bind_assoc, pure_bind, Bool.false_eq_true, if_false]
  rfl

end Destinations

section Instructions

/-- The instructions that read and then write their destination. -/
inductive Modification where
  | add
  | sub
  | bic
  | bis
  | xor
  | swab
  | com
  | inc
  | dec
  | neg
  | adc
  | sbc
  | ror
  | rol
  | asr
  | asl
  | sxt
deriving DecidableEq, Repr

namespace Modification

/-- These instructions have no byte form. -/
def WordOnly : Modification → Prop
  | add | sub | xor | swab | sxt => True
  | _ => False

/-- The instruction, by its source operand, destination and width. -/
def execute (i : Modification) (srcMode srcReg dstMode dstReg : RegNr)
    (wordMode : WordMode) : Exec δ Bool :=
  match i with
  | add => opAddSub srcMode srcReg dstMode dstReg false
  | sub => opAddSub srcMode srcReg dstMode dstReg true
  | bic => opBic srcMode srcReg dstMode dstReg wordMode
  | bis => opBis srcMode srcReg dstMode dstReg wordMode
  | xor => opXor srcReg dstMode dstReg
  | swab => opSwab dstMode dstReg
  | com => opCom dstMode dstReg wordMode
  | inc => opInc dstMode dstReg wordMode
  | dec => opDec dstMode dstReg wordMode
  | neg => opNeg dstMode dstReg wordMode
  | adc => opAdc dstMode dstReg wordMode
  | sbc => opSbc dstMode dstReg wordMode
  | ror => opRor dstMode dstReg wordMode
  | rol => opRol dstMode dstReg wordMode
  | asr => opAsr dstMode dstReg wordMode
  | asl => opAsl dstMode dstReg wordMode
  | sxt => opSxt dstMode dstReg

/-- The source operand; zero for the instructions that have none. -/
def source (i : Modification) (srcMode srcReg : RegNr) (wordMode : WordMode) :
    Exec δ Word :=
  match i with
  | add | sub | bic | bis => do
      let g ← getGAM srcMode srcReg wordMode true
      pure g.value
  | xor => getRegister srcReg
  | _ => pure 0

theorem fetchesFrom_source
    {s : Machine δ} (i : Modification) (srcMode srcReg : RegNr)
    (wordMode : WordMode) :
    FetchesFrom s (i.source srcMode srcReg wordMode) := by
  cases i with
  | add | sub | bic | bis =>
      exact (fetchesFrom_getGAM _ _ _ _).bind fun g => fetchesFrom_pure _
  | xor =>
      exact .view fun _ hu => hu
  | _ =>
      exact fetchesFrom_pure _

/-- The result before it is cut to the width of the destination. -/
def result (i : Modification) (wordMode : WordMode) (src v : Word)
    (codes : ConditionCodes) : Word :=
  match i with
  | add => v + src
  | sub => v - src
  | bic => v &&& ~~~src
  | bis => v ||| src
  | xor => v ^^^ src
  | swab => (v <<< 8) ||| (v >>> 8)
  | com => v ^^^ wordModeMask wordMode
  | inc => (v + 1) &&& wordModeMask wordMode
  | dec => (v - 1) &&& wordModeMask wordMode
  | neg => -v
  | adc => (v + boolWord codes.c) &&& wordModeMask wordMode
  | sbc => (v - boolWord codes.c) &&& wordModeMask wordMode
  | ror =>
      match wordMode with
      | .wmByte => (v >>> 1) ||| (boolWord codes.c <<< 7)
      | .wmWord => (v >>> 1) ||| (boolWord codes.c <<< 15)
  | rol =>
      match wordMode with
      | .wmByte => ((v <<< 1) ||| boolWord codes.c) &&& 0xff
      | .wmWord => (v <<< 1) ||| boolWord codes.c
  | asr => asrValue v wordMode
  | asl => (v <<< 1) &&& wordModeMask wordMode
  | sxt => -boolWord codes.n

/-- The flags, set once the result r of the operand v is written. -/
def flags (i : Modification) (wordMode : WordMode) (src v r : Word)
    (codes : ConditionCodes) : Exec δ Unit :=
  match i with
  | add => do
      setPSWv (sign ((~~~src ^^^ v) &&& (src ^^^ r)) .wmWord)
      setPSWc (decide (r < src))
      setNZ r .wmWord
  | sub => do
      setPSWv (sign ((v ^^^ src) &&& (~~~src ^^^ r)) .wmWord)
      setPSWc (decide (v < src))
      setNZ r .wmWord
  | bic | bis => setPSWFlagsNzv r wordMode
  | xor => setPSWFlagsNzv r .wmWord
  | swab => do
      setPSWFlagsNzv r .wmByte
      setPSWc false
  | com => do
      setPSWFlagsNzv r wordMode
      setPSWc true
  | inc => do
      setNZ r wordMode
      setPSWv (equalsAt r 0x80 0x8000 wordMode)
  | dec => do
      setNZ r wordMode
      setPSWv (equalsAt r 0x7f 0x7fff wordMode)
  | neg => do
      setNZ r wordMode
      setPSWv (equalsAt (r &&& wordModeMask wordMode) 0x80 0x8000 wordMode)
      setPSWc (decide (r &&& wordModeMask wordMode ≠ 0))
  | adc => do
      setNZ r wordMode
      setPSWv (equalsAt (v &&& wordModeMask wordMode) 0x7f 0x7fff wordMode &&
        codes.c)
      setPSWc (equalsAt (v &&& wordModeMask wordMode) 0xff 0xffff wordMode &&
        codes.c)
  | sbc => do
      setNZ r wordMode
      setPSWv (equalsAt (v &&& wordModeMask wordMode) 0x80 0x8000 wordMode &&
        codes.c)
      setPSWc (isZero v wordMode && codes.c)
  | ror => setRotateFlags (decide (v &&& 1 ≠ 0)) r wordMode
  | rol => setRotateFlags (sign v wordMode) r wordMode
  | asr => do
      setNZ r wordMode
      setVFromNC
  | asl => do
      setNZ r wordMode
      setPSWc (sign v wordMode)
      setVFromNC
  | sxt => do
      let n ← getPSWn
      setPSWz (!n)
      setPSWv false

/-- What is set before the result is written; only ASR does so. -/
def early (i : Modification) (v : Word) : Exec δ Unit :=
  match i with
  | asr => setPSWc (decide (v &&& 1 ≠ 0))
  | _ => pure ()

end Modification

end Instructions

section Forms
/-- putGAM of a result that fits is a write. -/
theorem putGAM_memory
    (r : DestinationRef) {wordMode : WordMode} (value : Word) {result : Word}
    (h : fits result wordMode = true) :
    (putGAM (r.operand wordMode value) result : Exec δ Bool) =
      writeOperand (r.operand wordMode value) result := by
  have hassert : assertThat .byteOperand (fits result wordMode) =
      (pure () : Exec δ Unit) := if_pos h
  change (assertThat .byteOperand (fits result wordMode) >>= _) = _
  rw [hassert]
  rfl

namespace Modification

variable (i : Modification) (src : Word) (wordMode : WordMode)

/-- What follows the read of the operand, as the text of the instruction has
it. -/
def afterRead (result : DestinationRef) (value : Word) : Exec δ Bool := do
  let codes ← cpuView Cpu.conditionCodes
  i.early value
  let setFlags ← writeOperand (result.operand wordMode value)
    (i.result wordMode src value codes)
  onlyIf setFlags
    (i.flags wordMode src value (i.result wordMode src value codes) codes)
  pure true

/-- The course of the instruction when its destination is in memory. -/
def memoryForm (mode reg : RegNr) : Exec δ Bool := do
  let (operand, result) ← destination mode reg wordMode
  let value ← operand.read wordMode
  assertThat .byteOperand (fits value wordMode)
  i.afterRead src wordMode result value

/-- An instruction that goes on like this from its operand has this course. -/
theorem memoryForm_of_afterRead
    {i : Modification} {src : Word} {wordMode : WordMode} {mode : RegNr}
    (reg : RegNr) (hmode : mode ≠ 0) {k : GamRc → Exec δ Bool}
    (h : ∀ r value, fits value wordMode = true →
      k (r.operand wordMode value) = i.afterRead src wordMode r value) :
    (getGAM mode reg wordMode true >>= k) =
      i.memoryForm src wordMode mode reg := by
  rw [getGAM_memory reg wordMode hmode]
  simp only [bind_assoc, pure_bind]
  exact bind_congr fun refs => bind_congr fun value =>
    assertThat_bind_congr (h refs.2 value)

theorem execute_eq_memoryForm
    (srcMode srcReg : RegNr) {mode : RegNr} (reg : RegNr)
    (hword : i.WordOnly → wordMode = .wmWord) (hmode : mode ≠ 0) :
    (i.execute srcMode srcReg mode reg wordMode : Exec δ Bool) = (do
      let src ← i.source srcMode srcReg wordMode
      i.memoryForm src wordMode mode reg) := by
  cases i with
  | add | sub =>
      cases hword trivial
      change (getGAM srcMode srcReg .wmWord true >>= fun gSrc => _) =
        ((getGAM srcMode srcReg .wmWord true >>= fun g => pure g.value) >>= _)
      rw [bind_assoc]
      refine bind_congr fun gSrc =>
        memoryForm_of_afterRead reg hmode fun r value _ => ?_
      dsimp only
      rw [putGAM_memory r value (fits_word _)]
      rfl
  | bic | bis =>
      change (getGAM srcMode srcReg wordMode true >>= fun gSrc => _) =
        ((getGAM srcMode srcReg wordMode true >>= fun g => pure g.value) >>= _)
      rw [bind_assoc]
      refine bind_congr fun gSrc => ?_
      rw [if_neg hmode]
      exact memoryForm_of_afterRead reg hmode fun r value _ => rfl
  | xor =>
      cases hword trivial
      refine bind_congr fun regV =>
        memoryForm_of_afterRead reg hmode fun r value _ => ?_
      dsimp only
      rw [putGAM_memory r value (fits_word _)]
      rfl
  | swab =>
      cases hword trivial
      refine memoryForm_of_afterRead reg hmode fun r value _ => ?_
      dsimp only
      rw [putGAM_memory r value (fits_word _)]
      rfl
  | com =>
      change ((if wordMode = .wmByte ∧ mode = 0 then _ else _) >>= _) = _
      rw [if_neg fun h => hmode h.2, bind_assoc]
      refine memoryForm_of_afterRead reg hmode fun r value hfits => ?_
      change (putGAM (r.operand wordMode value)
        (value ^^^ wordModeMask wordMode) >>= fun setFlags => _) >>= _ = _
      rw [putGAM_memory r value (fits_com hfits), bind_assoc]
      rfl
  | sxt =>
      cases hword trivial
      exact memoryForm_of_afterRead reg hmode fun r value _ => rfl
  | inc | dec | neg | adc | sbc | ror | rol | asr | asl =>
      refine (if_neg hmode).trans ?_
      exact memoryForm_of_afterRead reg hmode fun r value _ => rfl

end Modification

end Forms

section Locations

/-- The space that getGAM records for the result and the one it reads the
operand in. -/
def gamSpaces (mode reg : RegNr) : Space × Space :=
  let isR7Space := if reg = 7 then Space.iSpace else Space.dSpace
  match mode with
  | 1 => (isR7Space, isR7Space)
  | 2 => (isR7Space, isR7Space)
  | 4 => (.dSpace, isR7Space)
  | _ => (.dSpace, .dSpace)

/-- The two are different in one case only. -/
theorem gamSpaces_eq_iff
    (mode reg : RegNr) :
    (gamSpaces mode reg).1 = (gamSpaces mode reg).2 ↔
      ¬ (mode = 4 ∧ reg = 7) := by
  revert mode reg
  decide

theorem gamSpaces_data
    (mode reg : RegNr) (h1 : mode ≠ 1) (h2 : mode ≠ 2) (h4 : mode ≠ 4) :
    gamSpaces mode reg = (.dSpace, .dSpace) := by
  revert mode reg
  decide

/-- What gamAddress returns are these spaces. -/
theorem gamAddress_spaces
    (mode reg : RegNr) (wordMode : WordMode) (runMode : RunMode) :
    Triple (fun _ => True)
      (gamAddress mode reg wordMode runMode : Exec δ (Word × Space × Space))
      (fun r _ => r.2 = gamSpaces mode reg) (fun _ _ => True) := by
  unfold gamAddress
  dsimp only
  split
  · exact .view_bind_any fun addr => .pure fun _ _ => rfl
  · refine .view_bind_any fun addr => (Triple.any _).bind fun _ => ?_
    exact (Triple.any _).bind fun _ => .pure fun _ _ => rfl
  · refine .view_bind_any fun pointer => (Triple.any _).bind fun addr => ?_
    refine (Triple.any _).bind fun _ => (Triple.any _).bind fun _ => ?_
    exact .pure fun _ _ => rfl
  · refine (Triple.any _).bind fun addr => (Triple.any _).bind fun _ => ?_
    exact .pure fun _ _ => rfl
  · refine (Triple.any _).bind fun pointer => (Triple.any _).bind fun _ => ?_
    exact (Triple.any _).bind fun addr => .pure fun _ _ => rfl
  · refine .view_bind_any fun pc => (Triple.any _).bind fun nextWord => ?_
    exact (Triple.any _).bind fun _ => .view_bind_any fun base =>
      .pure fun _ _ => rfl
  · next h1 h2 h3 h4 h5 h6 =>
      rw [gamSpaces_data mode reg h1 h2 h4]
      refine .view_bind_any fun pc => (Triple.any _).bind fun nextWord => ?_
      refine (Triple.any _).bind fun _ => .view_bind_any fun base => ?_
      exact (Triple.any _).bind fun addr => .pure fun _ _ => rfl

/-- The two references of a destination, and what computing them leaves. -/
theorem destination_returns
    {mode reg : RegNr} {wordMode : WordMode} {s t : Machine δ}
    {operand result : DestinationRef}
    (h : destination mode reg wordMode s = .ok (operand, result) t) :
    s.FetchesTo t ∧ ∃ addr,
      operand = ⟨addr, s.cpu.getPSWRunmode, (gamSpaces mode reg).2⟩ ∧
      result = ⟨addr, s.cpu.getPSWRunmode, (gamSpaces mode reg).1⟩ := by
  obtain ⟨⟨addr, spaces⟩, u, hgam, h⟩ := bind_eq_ok
    (show (gamAddress mode reg wordMode s.cpu.getPSWRunmode >>= _) s = _
      from h)
  have hspaces := (gamAddress_spaces mode reg wordMode
    s.cpu.getPSWRunmode).ok trivial hgam
  have hfetch := (fetchesFrom_gamAddress (s := s) mode reg wordMode
    s.cpu.getPSWRunmode).ok (.refl s) hgam
  injection h with hrefs hstate
  injection hrefs with hoperand hresult
  subst hstate
  dsimp only at hspaces
  subst hspaces
  exact ⟨hfetch, addr, hoperand.symm, hresult.symm⟩

/-- A write in the current mode is one at the reference of that mode. -/
theorem writeOperand_bind
    {α : Type} {result : DestinationRef} {wordMode : WordMode} (value r : Word)
    {s : Machine δ} (hmode : s.cpu.getPSWRunmode = result.runMode)
    (k : Bool → Exec δ α) :
    (writeOperand (result.operand wordMode value) r >>= k) s =
      (result.write wordMode r >>= fun isPsw => k !isPsw) s := by
  unfold writeOperand getPSWRunmode
  rw [bind_assoc, cpuView_bind_apply, hmode, bind_assoc]
  rfl

namespace Modification

variable (i : Modification) (src : Word) (wordMode : WordMode)

/-- What is done with an operand: the result is written, and the flags are set
unless the write was one of the status word. -/
def writeBack (result : DestinationRef) (value : Word) : Exec δ Bool := do
  let codes ← cpuView Cpu.conditionCodes
  i.early value
  let isPsw ← result.write wordMode (i.result wordMode src value codes)
  onlyIf (!isPsw)
    (i.flags wordMode src value (i.result wordMode src value codes) codes)
  pure true

/-- The course of these instructions: the operand is read at one reference,
the result is written at the other. -/
def readModifyWrite (mode reg : RegNr) : Exec δ Bool := do
  let (operand, result) ← destination mode reg wordMode
  let value ← operand.read wordMode
  assertThat .byteOperand (fits value wordMode)
  i.writeBack src wordMode result value

/-- A flag does not change the mode that the result is written in. -/
theorem afterRead_apply
    {result : DestinationRef} (value : Word) {s : Machine δ}
    (hmode : s.cpu.getPSWRunmode = result.runMode) :
    i.afterRead src wordMode result value s =
      i.writeBack src wordMode result value s := by
  unfold afterRead writeBack
  rw [cpuView_bind_apply, cpuView_bind_apply]
  cases i with
  | asr =>
      refine writeOperand_bind value _ ?_ _
      exact (Cpu.getPSWRunmode_of_upper
        (s.cpu.setBitPSW_upper _ (by omega))).trans hmode
  | _ =>
      exact writeOperand_bind value _ hmode _

theorem memoryForm_eq_readModifyWrite
    (mode reg : RegNr) :
    (i.memoryForm src wordMode mode reg : Exec δ Bool) =
      i.readModifyWrite src wordMode mode reg := by
  funext s
  unfold memoryForm readModifyWrite
  rw [bind_apply, bind_apply]
  cases hrefs : (destination mode reg wordMode s :
      EStateM.Result Stop (Machine δ) (DestinationRef × DestinationRef)) with
  | error e t =>
      rfl
  | ok refs t =>
      obtain ⟨operand, result⟩ := refs
      obtain ⟨hfetch, addr, -, rfl⟩ := destination_returns hrefs
      dsimp only
      rw [bind_apply, bind_apply]
      cases hread : operand.read wordMode t with
      | error e u =>
          rfl
      | ok value u =>
          have hmode : u.cpu.getPSWRunmode = s.cpu.getPSWRunmode :=
            (hfetch.trans
              (.of_reads (Bus.read_returns hread))).getPSWRunmode_eq
          dsimp only
          cases hfits : fits value wordMode with
          | true =>
              exact i.afterRead_apply src wordMode value hmode
          | false =>
              rfl

/-- Each of the instructions takes this course when its destination is in
memory. -/
theorem execute_eq_readModifyWrite
    (srcMode srcReg : RegNr) {mode : RegNr} (reg : RegNr)
    (hword : i.WordOnly → wordMode = .wmWord) (hmode : mode ≠ 0) :
    (i.execute srcMode srcReg mode reg wordMode : Exec δ Bool) = (do
      let src ← i.source srcMode srcReg wordMode
      i.readModifyWrite src wordMode mode reg) := by
  rw [i.execute_eq_memoryForm wordMode srcMode srcReg reg hword hmode]
  exact bind_congr fun src =>
    i.memoryForm_eq_readModifyWrite src wordMode mode reg

end Modification

omit [UnibusDevices δ] in
/-- Data space is separate from instruction space in the current mode. -/
def Machine.SeparateData (s : Machine δ) : Prop :=
  s.mmu.isEnabled = true ∧
    s.mmu.getUseDataSpace s.cpu.getPSWRunmode = true

omit [UnibusDevices δ] in
theorem Machine.FetchesTo.separateData_iff
    {s t : Machine δ} (h : s.FetchesTo t) :
    t.SeparateData ↔ s.SeparateData := by
  unfold Machine.SeparateData
  rw [h.mmu.isEnabled, h.mmu.getUseDataSpace_eq, h.getPSWRunmode_eq]

/-- The operand read from a state and the result written after it are at one
virtual address in one address space, and go to one place. -/
structure OneLocation (operand result : DestinationRef) (s : Machine δ) :
    Prop where
  address : result.addr = operand.addr
  runMode : result.runMode = operand.runMode
  space : s.mmu.isEnabled = true →
    s.mmu.referenceSpace result.runMode result.space =
      s.mmu.referenceSpace operand.runMode operand.space
  target : ∀ wordMode value t, operand.read wordMode s = .ok value t →
    t.target result.runMode result.addr result.space =
      s.target operand.runMode operand.addr operand.space

omit [UnibusDevices δ] in
/-- Without address translation the space does not matter. -/
theorem target_of_space
    {s : Machine δ} {runMode : RunMode} {space space' : Space}
    (h : s.mmu.isEnabled = true →
      s.mmu.referenceSpace runMode space = s.mmu.referenceSpace runMode space')
    (a : Word) :
    s.target runMode a space = s.target runMode a space' := by
  unfold Machine.target Mmu.target Mmu.physical Mmu.physicalPage
    Mmu.referencePage
  cases henabled : s.mmu.isEnabled with
  | true =>
      rw [h henabled]
  | false =>
      simp

/-- The two references are one location unless their spaces differ and data
space is separate. -/
theorem oneLocation_iff
    {addr : Word} {space space' : Space} (s : Machine δ) :
    OneLocation ⟨addr, s.cpu.getPSWRunmode, space'⟩
        ⟨addr, s.cpu.getPSWRunmode, space⟩ s ↔
      ¬ (space ≠ space' ∧ s.SeparateData) := by
  have hspace : (s.mmu.isEnabled = true →
      s.mmu.referenceSpace s.cpu.getPSWRunmode space =
        s.mmu.referenceSpace s.cpu.getPSWRunmode space') ↔
      ¬ (space ≠ space' ∧ s.SeparateData) := by
    unfold Machine.SeparateData Mmu.referenceSpace
    cases s.mmu.isEnabled <;>
      cases s.mmu.getUseDataSpace s.cpu.getPSWRunmode <;>
      simp
  rw [← hspace]
  constructor
  · intro h
    exact h.space
  · intro h
    refine ⟨rfl, rfl, h, fun wordMode value t hread => ?_⟩
    have hfetch := Machine.FetchesTo.of_reads (Bus.read_returns hread)
    exact (hfetch.target_eq _ _ _).trans (target_of_space h addr)

/-- Each of the instructions with a destination in memory reads its operand
and writes its result at the two references of the destination, and these are
one location if and only if the destination is not an autodecrement of PC in a
mode with separate data space. -/
theorem modification_at_one_location_iff
    (i : Modification) (srcMode srcReg : RegNr) {mode : RegNr} (reg : RegNr)
    {wordMode : WordMode} (hword : i.WordOnly → wordMode = .wmWord)
    (hmode : mode ≠ 0) :
    (i.execute srcMode srcReg mode reg wordMode : Exec δ Bool) = (do
      let src ← i.source srcMode srcReg wordMode
      i.readModifyWrite src wordMode mode reg) ∧
    ∀ {s₀ s t : Machine δ} {src : Word} {operand result : DestinationRef},
      i.source srcMode srcReg wordMode s₀ = .ok src s →
      destination mode reg wordMode s = .ok (operand, result) t →
      (OneLocation operand result t ↔
        ¬ (mode = 4 ∧ reg = 7 ∧ s₀.SeparateData)) := by
  refine ⟨i.execute_eq_readModifyWrite wordMode srcMode srcReg reg hword hmode,
    fun {s₀ s t src operand result} hsource hdestination => ?_⟩
  have hsrc : s₀.FetchesTo s := (i.fetchesFrom_source (s := s₀) srcMode srcReg
    wordMode).ok (.refl s₀) hsource
  obtain ⟨hdst, addr, rfl, rfl⟩ := destination_returns hdestination
  rw [← hdst.getPSWRunmode_eq, oneLocation_iff, hdst.separateData_iff,
    hsrc.separateData_iff, ne_eq, gamSpaces_eq_iff, not_not, and_assoc]

end Locations

section Examples

/-- A machine in kernel mode with separate data space; both spaces have one
page, and the data page starts at 0o10000. -/
def separateMachine (words : List (Nat × Word)) : Machine LineClock :=
  let s := bareMachine 0o40000 words
  let page := Page.zero.setPdr 0o77406
  let pages := Function.update s.mmu.pages 0 page
  let pages := Function.update pages 8 (page.setPar 0o100)
  { s with
    mmu := ({ s.mmu with pages := pages }.setMMR3 4).setMMR0AsIs 1 }

/-- INC (R0) in data space. -/
theorem inc_at_one_location :
    OneLocation ⟨0, 0, .dSpace⟩ ⟨0, 0, .dSpace⟩ (separateMachine []) :=
  ((modification_at_one_location_iff .inc 0 0 0 (fun h => h.elim)
    (by decide : (1 : RegNr) ≠ 0)).2
    (rfl : Modification.inc.source 0 0 .wmWord (separateMachine []) = .ok 0 _)
    (rfl : destination 1 0 .wmWord (separateMachine []) = .ok (_, _) _)).mpr
    fun h => absurd h.1 (by decide)

/-- INC -(PC) with PC at 2: the operand 5 is read from word 0 of instruction
space, and 6 is written to word 0 of data space. -/
theorem inc_pc_at_two_locations :
    ∃ t,
      destination 4 7 .wmWord
          ((separateMachine [(0, 5)]).withPSW fun c => c.setPC 2) =
        .ok (⟨0, 0, .iSpace⟩, ⟨0, 0, .dSpace⟩) t ∧
      ¬ OneLocation ⟨0, 0, .iSpace⟩ ⟨0, 0, .dSpace⟩ t ∧
      (final (Modification.inc.execute 0 0 4 7 .wmWord
        ((separateMachine [(0, 5)]).withPSW fun c =>
          c.setPC 2))).ram.readWord 0 = 5 ∧
      (final (Modification.inc.execute 0 0 4 7 .wmWord
        ((separateMachine [(0, 5)]).withPSW fun c =>
          c.setPC 2))).ram.readWord 0o10000 = 6 := by
  refine ⟨_, rfl, fun h => ?_, by decide +kernel, by decide +kernel⟩
  exact absurd (h.space (by decide)) (by decide)

end Examples

end KekPdp11
