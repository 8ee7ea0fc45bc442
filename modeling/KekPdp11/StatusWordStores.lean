import KekPdp11.ByteOperands

/-!
# KEK PDP-11: stores to the status word

The status word has an address in the I/O page, so that the result of an
instruction can be stored in it.  bus::write reports such a store, and the
instruction leaves the condition codes alone; only ASR has set one of them
before it.

**Result.**  After each of the instructions that store a result, the status
word is the stored value without its reserved bits and its T bit, except after
an ASRB of the high byte that changed the carry in the low one.
-/

namespace KekPdp11

open StateExcept

variable {δ : Type}

section StoredValue

/-- The status word after a store of `v` at the address `a`, without the bits
8 to 10 and without T. -/
def storedPSW (psw a : Word) (wordMode : WordMode) (v : Word) : Word :=
  (match wordMode with
    | .wmByte => updateWord psw (isOdd a) (v.setWidth 8)
    | .wmWord => v) &&& ~~~0o3420

theorem setPSW_masked
    (c : Cpu) (v : Word) :
    (c.setPSW (v &&& ~~~16) false).psw = v &&& ~~~0o3420 := by
  change v &&& ~~~16 &&& 0o174377 = v &&& ~~~0o3420
  rw [BitVec.and_assoc]
  rfl

variable [UnibusDevices δ]

/-- A write that reaches the status word stores it and reports it. -/
theorem Bus.write_psw
    {addr a : Word} {wordMode : WordMode} (value : Word) {runMode : RunMode}
    {space : Space} {s : Machine δ}
    (htarget : s.target runMode addr space = .io a)
    (hpsw : addressesPSW a wordMode) :
    ∃ t, Bus.write addr wordMode value runMode space s = .ok true t ∧
      t.cpu.psw = storedPSW s.cpu.psw a wordMode value := by
  rw [Bus.write_eq, htarget]
  cases wordMode with
  | wmByte =>
      rcases hpsw with rfl | ⟨rfl, -⟩
      · exact ⟨_, noteAbort_of_ok rfl, setPSW_masked _ _⟩
      · exact ⟨_, noteAbort_of_ok rfl, setPSW_masked _ _⟩
  | wmWord =>
      have hword : a = addrPsw := hpsw.elim id fun h => nomatch h.2
      subst hword
      exact ⟨_, noteAbort_of_ok rfl, setPSW_masked _ _⟩

end StoredValue

namespace Modification

variable (i : Modification)

/-- The processor when the result is written. -/
def earlyCpu (v : Word) (c : Cpu) : Cpu :=
  match i with
  | asr => c.setPSWc (decide (v &&& 1 ≠ 0))
  | _ => c

theorem early_apply
    (v : Word) (s : Machine δ) :
    i.early v s = .ok () (s.withCpu (i.earlyCpu v s.cpu)) := by
  cases i <;> rfl

variable [UnibusDevices δ]

/-- A result that is written to the status word is the end of the
instruction. -/
theorem writeBack_psw
    (src v : Word) {a : Word} {wordMode : WordMode} (result : DestinationRef)
    {u : Machine δ}
    (htarget : u.target result.runMode result.addr result.space = .io a)
    (hpsw : addressesPSW a wordMode) :
    ∃ t, i.writeBack src wordMode result v u = .ok true t ∧
      t.cpu.psw = storedPSW (i.earlyCpu v u.cpu).psw a wordMode
        (i.result wordMode src v u.cpu.conditionCodes) := by
  obtain ⟨t, hwrite, hstored⟩ := Bus.write_psw
    (i.result wordMode src v u.cpu.conditionCodes)
    (s := u.withCpu (i.earlyCpu v u.cpu)) htarget hpsw
  refine ⟨t, ?_, hstored⟩
  unfold writeBack
  rw [cpuView_bind_apply, bind_of_ok (i.early_apply v u)]
  exact bind_of_ok hwrite

/-- An instruction whose operand is read and whose result goes to the status
word. -/
theorem execute_psw
    {srcMode srcReg dstMode dstReg : RegNr} {wordMode : WordMode} {src a : Word}
    {g : GamRc} {s₀ s u : Machine δ}
    (hword : i.WordOnly → wordMode = .wmWord)
    (hsrc : i.source srcMode srcReg wordMode s₀ = .ok src s)
    (hmode : dstMode ≠ 0)
    (hdst : getGAM dstMode dstReg wordMode true s = .ok g u)
    (htarget : u.target u.cpu.getPSWRunmode g.addr g.space = .io a)
    (hpsw : addressesPSW a wordMode) :
    ∃ t, i.execute srcMode srcReg dstMode dstReg wordMode s₀ = .ok true t ∧
      t.cpu.psw = storedPSW (i.earlyCpu g.value u.cpu).psw a wordMode
        (i.result wordMode src g.value u.cpu.conditionCodes) := by
  have hfits := fits_getGAM hdst
  rw [getGAM_memory dstReg wordMode hmode] at hdst
  obtain ⟨⟨operand, result⟩, s₁, hdest, hdst⟩ := bind_eq_ok hdst
  obtain ⟨value, u₁, hread, hdst⟩ := bind_eq_ok hdst
  obtain ⟨_, u₂, hassert, hreturn⟩ := bind_eq_ok hdst
  cases hreturn
  change fits value wordMode = true at hfits
  rw [show (decide (value < 256) || decide (wordMode = .wmWord)) = true
    from hfits] at hassert
  cases hassert
  obtain ⟨hfetch, addr, -, rfl⟩ := destination_returns hdest
  have hrun : u.cpu.getPSWRunmode = s.cpu.getPSWRunmode :=
    (hfetch.trans (.of_reads (Bus.read_returns hread))).getPSWRunmode_eq
  rw [hrun] at htarget
  obtain ⟨t, hwrite, hstored⟩ := i.writeBack_psw src value
    ⟨addr, s.cpu.getPSWRunmode, (gamSpaces dstMode dstReg).1⟩ htarget hpsw
  refine ⟨t, ?_, hstored⟩
  rw [i.execute_eq_readModifyWrite wordMode srcMode srcReg dstReg hword hmode,
    bind_of_ok hsrc]
  refine (bind_of_ok hdest).trans ((bind_of_ok hread).trans ?_)
  rw [hfits]
  exact hwrite

end Modification

section Stores

variable [UnibusDevices δ]

/-- The instructions that store a result in their destination. -/
inductive StoreInstruction where
  | mov
  | clr
  | mtp
  | modify (i : Modification)
deriving DecidableEq, Repr

namespace StoreInstruction

def WordOnly : StoreInstruction → Prop
  | modify i => i.WordOnly
  | _ => False

/-- The instruction; for MTPI and MTPD the width says which of them. -/
def execute (i : StoreInstruction) (srcMode srcReg dstMode dstReg : RegNr)
    (wordMode : WordMode) : Exec δ Bool :=
  match i with
  | mov => opMov srcMode srcReg dstMode dstReg wordMode
  | clr => opClr dstMode dstReg wordMode
  | mtp => opMtp dstMode dstReg wordMode
  | modify i => i.execute srcMode srcReg dstMode dstReg wordMode

/-- The source operand, which MTPI and MTPD pop from the stack. -/
def source (i : StoreInstruction) (srcMode srcReg : RegNr)
    (wordMode : WordMode) : Exec δ Word :=
  match i with
  | mov => do
      let g ← getGAM srcMode srcReg wordMode true
      pure g.value
  | clr => pure 0
  | mtp => popStack
  | modify i => i.source srcMode srcReg wordMode

/-- The destination as the instruction asks for it. -/
def operand (i : StoreInstruction) (dstMode dstReg : RegNr)
    (wordMode : WordMode) : Exec δ GamRc :=
  match i with
  | mov | clr => getGAMAddress dstMode dstReg wordMode
  | mtp => getGAMAddress dstMode dstReg .wmWord
  | modify _ => getGAM dstMode dstReg wordMode true

/-- The width of the store. -/
def width (i : StoreInstruction) (wordMode : WordMode) : WordMode :=
  match i with
  | mtp => .wmWord
  | _ => wordMode

/-- The place of the store; MTPI and MTPD store in the previous mode. -/
def storeTarget (i : StoreInstruction) (g : GamRc) (wordMode : WordMode)
    (s : Machine δ) : Target :=
  match i with
  | mtp => s.target s.cpu.getPSWPrevRunmode g.addr (previousSpace wordMode)
  | _ => s.target s.cpu.getPSWRunmode g.addr g.space

/-- The value that is stored, for the operand `v` of the destination. -/
def result (i : StoreInstruction) (wordMode : WordMode) (src v : Word)
    (codes : ConditionCodes) : Word :=
  match i with
  | mov | mtp => src
  | clr => 0
  | modify i => i.result wordMode src v codes

/-- An ASRB of the high byte of the status word shifts out another bit than
the carry that is in its low byte. -/
def ChangesCarry (i : StoreInstruction) (wordMode : WordMode) (a v : Word)
    (codes : ConditionCodes) : Prop :=
  i = modify .asr ∧ wordMode = .wmByte ∧ isOdd a = true ∧
    decide (v &&& 1 ≠ 0) ≠ codes.c

end StoreInstruction

variable {dstMode dstReg : RegNr} {wordMode : WordMode} {s t : Machine δ}

/-- The operand of a mode other than register mode is an address. -/
theorem getGAM_isAddr
    {readValue : Bool} {g : GamRc} (hmode : dstMode ≠ 0)
    (h : getGAM dstMode dstReg wordMode readValue s = .ok g t) :
    g.isAddr = true := by
  have hpost : Triple (fun _ => True)
      (getGAM dstMode dstReg wordMode readValue : Exec δ GamRc)
      (fun g _ => g.isAddr = true) (fun _ _ => True) := by
    refine .ite (fun h => absurd h hmode) fun _ => .view_bind_any fun _ => ?_
    refine (Triple.any _).bind fun target => (Triple.any _).bind fun value => ?_
    exact (Triple.any _).bind fun _ => .pure fun _ _ => rfl
  exact hpost.ok trivial h

theorem fetchesFrom_popStack :
    FetchesFrom s (popStack : Exec δ Word) := by
  refine .view_bind_any fun a => ?_
  have hread : FetchesFrom s (Bus.readWord a .dSpace : Exec δ Word) :=
    .view_bind_any fun runMode => fetchesFrom_read _ _ _ _
  exact hread.bind fun temp =>
    (fetchesFrom_addRegister _ _).bind fun _ => fetchesFrom_pure _

/-- putGAM of a value that fits, to the status word. -/
theorem putGAM_psw
    {g : GamRc} {a value : Word} (haddr : g.isAddr = true)
    (hfits : fits value g.wordMode = true)
    (htarget : s.target s.cpu.getPSWRunmode g.addr g.space = .io a)
    (hpsw : addressesPSW a g.wordMode) :
    ∃ t, putGAM g value s = .ok false t ∧
      t.cpu.psw = storedPSW s.cpu.psw a g.wordMode value := by
  obtain ⟨t, hwrite, hstored⟩ := Bus.write_psw value htarget hpsw
  refine ⟨t, ?_, hstored⟩
  have hassert : assertThat .byteOperand (fits value g.wordMode) s =
      .ok () s := by
    rw [hfits]
    rfl
  refine (bind_of_ok hassert).trans ?_
  rw [haddr]
  exact bind_of_ok hwrite

namespace StoreInstruction

variable {i : StoreInstruction} {srcMode srcReg : RegNr} {src a : Word}
  {g : GamRc} {s₀ u : Machine δ}

theorem fetches
    (hsrc : i.source srcMode srcReg wordMode s₀ = .ok src s)
    (hdst : i.operand dstMode dstReg wordMode s = .ok g u) :
    s₀.FetchesTo u := by
  have hsource : s₀.FetchesTo s := by
    cases i with
    | mov =>
        exact ((fetchesFrom_getGAM (s := s₀) _ _ _ _).bind fun g =>
          fetchesFrom_pure g.value).ok (.refl s₀) hsrc
    | clr =>
        exact (fetchesFrom_pure (s := s₀) (0 : Word)).ok (.refl s₀) hsrc
    | mtp =>
        exact fetchesFrom_popStack.ok (.refl s₀) hsrc
    | modify i =>
        exact (i.fetchesFrom_source srcMode srcReg wordMode).ok (.refl s₀) hsrc
  refine hsource.trans ?_
  cases i with
  | mov | clr | mtp =>
      exact (fetchesFrom_getGAM _ _ _ _).ok (.refl s) hdst
  | modify i =>
      exact (fetchesFrom_getGAM _ _ _ _).ok (.refl s) hdst

/-- The status word after a store that reaches it. -/
theorem execute_psw
    (hword : i.WordOnly → wordMode = .wmWord) (hmode : dstMode ≠ 0)
    (hsrc : i.source srcMode srcReg wordMode s₀ = .ok src s)
    (hdst : i.operand dstMode dstReg wordMode s = .ok g u)
    (htarget : i.storeTarget g wordMode u = .io a)
    (hpsw : addressesPSW a (i.width wordMode)) :
    ∃ t, i.execute srcMode srcReg dstMode dstReg wordMode s₀ = .ok true t ∧
      t.cpu.psw = storedPSW
        (match i with
          | modify i => (i.earlyCpu g.value u.cpu).psw
          | _ => u.cpu.psw) a (i.width wordMode)
        (i.result wordMode src g.value u.cpu.conditionCodes) := by
  cases i with
  | mov =>
      obtain ⟨gSrc, hgam, rfl⟩ := source_returns hsrc
      have hwidth := getGAM_wordMode hdst
      subst hwidth
      obtain ⟨t, hput, hstored⟩ := putGAM_psw (getGAM_isAddr hmode hdst)
        (fits_getGAM hgam) htarget hpsw
      refine ⟨t, (bind_of_ok hgam).trans ?_, hstored⟩
      rw [if_neg fun h => hmode h.2, bind_assoc]
      exact (bind_of_ok hdst).trans (bind_of_ok hput)
  | clr =>
      cases hsrc
      have hwidth := getGAM_wordMode hdst
      subst hwidth
      obtain ⟨t, hput, hstored⟩ := putGAM_psw (getGAM_isAddr hmode hdst)
        (fits_zero _) htarget hpsw
      refine ⟨t, ?_, hstored⟩
      unfold execute opClr
      rw [if_neg fun h => hmode h.2, bind_assoc]
      exact (bind_of_ok hdst).trans (bind_of_ok hput)
  | mtp =>
      obtain ⟨t, hwrite, hstored⟩ := Bus.write_psw src htarget hpsw
      refine ⟨t, (bind_of_ok hsrc).trans ?_, hstored⟩
      have hstore : mtpStore dstMode dstReg wordMode src s = .ok false t := by
        unfold mtpStore
        rw [if_neg hmode]
        exact (bind_of_ok hdst).trans (bind_of_ok hwrite)
      exact bind_of_ok hstore
  | modify i =>
      exact i.execute_psw hword hsrc hmode hdst htarget hpsw

end StoreInstruction

end Stores

section Carry

/-- A flag that is set to what it was leaves the status word. -/
theorem setPSWc_self
    (c : Cpu) :
    (c.setPSWc c.getPSWc).psw = c.psw := by
  ext i hi
  have hbit := c.getBitPSW_setBitPSW i c.getPSWc (by omega : 0 < 16)
  rw [Cpu.getBitPSW_eq, Cpu.getBitPSW_eq] at hbit
  rw [← BitVec.getLsbD_eq_getElem, ← BitVec.getLsbD_eq_getElem]
  refine hbit.trans ?_
  split_ifs with hzero
  · subst hzero
    exact c.getBitPSW_eq 0
  · rfl

variable {p q a : Word} (x : Word)

/-- A store in the low byte keeps the high one only. -/
theorem storedPSW_low
    (heven : isOdd a = false) (h : p &&& 0xfff0 = q &&& 0xfff0) :
    storedPSW p a .wmByte x = storedPSW q a .wmByte x := by
  have hsub : (0xfff0 : Word) &&& 0xff00 = 0xff00 := by decide
  have hhigh : p &&& 0xff00 = q &&& 0xff00 := by
    rw [← hsub, ← BitVec.and_assoc, h, BitVec.and_assoc]
  simp only [storedPSW, updateWord, heven, Bool.false_eq_true, if_false, hhigh]

/-- A store in the high byte keeps the carry of the low one. -/
theorem storedPSW_high
    (hodd : isOdd a = true) :
    (storedPSW p a .wmByte x).getLsbD 0 = p.getLsbD 0 := by
  simp [storedPSW, updateWord, hodd]

/-- The carry that ASR sets early shows in the status word only when the low
byte is not the one that is stored. -/
theorem storedPSW_earlyCpu_iff
    (i : Modification) {wordMode : WordMode} (v : Word) (c : Cpu) :
    storedPSW (i.earlyCpu v c).psw a wordMode x =
        storedPSW c.psw a wordMode x ↔
      ¬ (StoreInstruction.modify i).ChangesCarry wordMode a v
        c.conditionCodes := by
  cases i with
  | asr =>
      cases wordMode with
      | wmWord =>
          exact ⟨fun _ h => absurd h.2.1 nofun, fun _ => rfl⟩
      | wmByte =>
          cases hodd : isOdd a with
          | false =>
              refine ⟨fun _ h => Bool.false_ne_true (hodd.symm.trans h.2.2.1),
                fun _ => ?_⟩
              exact storedPSW_low x hodd (c.setBitPSW_upper _ (by omega))
          | true =>
              have hcarry := c.getBitPSW_setBitPSW 0
                (decide (v &&& 1 ≠ 0)) (by omega : 0 < 16)
              rw [if_pos rfl, Cpu.getBitPSW_eq] at hcarry
              constructor
              · rintro heq ⟨-, -, -, hne⟩
                have hlow := congrArg (BitVec.getLsbD · 0) heq
                rw [storedPSW_high x hodd, storedPSW_high x hodd] at hlow
                refine hne (hcarry.symm.trans (hlow.trans ?_))
                exact (c.getBitPSW_eq 0).symm
              · intro hsame
                have hkept : decide (v &&& 1 ≠ 0) = c.getPSWc :=
                  not_not.mp fun hne => hsame ⟨rfl, rfl, hodd, hne⟩
                unfold Modification.earlyCpu
                rw [hkept, setPSWc_self]
  | _ =>
      exact ⟨fun _ h => absurd h.1 nofun, fun _ => rfl⟩

end Carry

section Result

variable [UnibusDevices δ]

open StoreInstruction in
/-- When the destination of an instruction is the status word or one of its
bytes, the instruction returns, and the status word is then the one before with
the result stored in it, without its reserved bits and T, if and only if the
instruction is not an ASRB of the high byte that shifts out something else than
the carry. -/
theorem store_to_psw_sticks_iff
    (i : StoreInstruction) {srcMode srcReg dstMode dstReg : RegNr}
    {wordMode : WordMode} (hword : i.WordOnly → wordMode = .wmWord)
    (hmode : dstMode ≠ 0) {src a : Word} {g : GamRc} {s₀ s u : Machine δ}
    (hsrc : i.source srcMode srcReg wordMode s₀ = .ok src s)
    (hdst : i.operand dstMode dstReg wordMode s = .ok g u)
    (htarget : i.storeTarget g wordMode u = .io a)
    (hpsw : addressesPSW a (i.width wordMode)) :
    ∃ t, i.execute srcMode srcReg dstMode dstReg wordMode s₀ = .ok true t ∧
      (t.cpu.psw = storedPSW s₀.cpu.psw a (i.width wordMode)
          (i.result wordMode src g.value s₀.cpu.conditionCodes) ↔
        ¬ i.ChangesCarry wordMode a g.value s₀.cpu.conditionCodes) := by
  have hfetch := fetches hsrc hdst
  obtain ⟨t, hrun, hstored⟩ :=
    i.execute_psw hword hmode hsrc hdst htarget hpsw
  refine ⟨t, hrun, ?_⟩
  rw [hstored, ← hfetch.psw, ← hfetch.conditionCodes_eq]
  cases i with
  | modify i =>
      exact storedPSW_earlyCpu_iff _ i g.value u.cpu
  | _ =>
      exact ⟨fun _ h => absurd h.1 nofun, fun _ => rfl⟩

/-- A machine in kernel mode with the carry set and the address of the high
byte of the status word in R0. -/
def carryMachine : Machine LineClock :=
  (bareMachine 0o20000 []).withPSW fun c =>
    (c.setRegister 0 (addrPsw + 1)).setPSWc true

/-- MOVB R1,(R0) to the high byte. -/
theorem movb_sticks :
    ∃ t, StoreInstruction.mov.execute 0 1 1 0 .wmByte carryMachine =
        .ok true t ∧
      t.cpu.psw = storedPSW carryMachine.cpu.psw (addrPsw + 1) .wmByte 0 := by
  obtain ⟨t, hrun, hiff⟩ := store_to_psw_sticks_iff .mov (fun h => h.elim)
    (by decide : (1 : RegNr) ≠ 0)
    (rfl : StoreInstruction.mov.source 0 1 .wmByte carryMachine = .ok 0 _)
    (rfl : StoreInstruction.mov.operand 1 0 .wmByte carryMachine = .ok _ _) rfl
    (.inr ⟨rfl, rfl⟩)
  exact ⟨t, hrun, hiff.mpr fun h => absurd h.1 nofun⟩

/-- ASRB (R0) of the high byte, which is zero: the carry that was set before is
cleared, although it is in the low byte. -/
theorem asrb_clears_carry :
    ∃ t, opAsr 1 0 .wmByte carryMachine = .ok true t ∧
      storedPSW carryMachine.cpu.psw (addrPsw + 1) .wmByte 0 = 1 ∧
      t.cpu.psw = 0 :=
  ⟨_, rfl, rfl, by decide⟩

end Result

end KekPdp11
