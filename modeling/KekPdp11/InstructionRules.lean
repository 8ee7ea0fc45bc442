import KekPdp11.Step

/-!
# KEK PDP-11: what holds along an instruction

An instruction computes at most two operands, then stores at most one result,
and after that only touches registers and flags.  `InstructionRules` states
what four predicates, one for each of these stages, have to satisfy with
respect to the operations that instructions are made of.

**Result.**  From these rules it follows for every instruction word, by going
through the text of each instruction once.  The predicates that stay the same
along the stages are the invariants of the processor.
-/

namespace KekPdp11

open StateExcept

variable {δ : Type} [UnibusDevices δ]

/-- What a dispatcher leaves: the instruction is done, or nothing is. -/
def Outcome (P D : Machine δ → Prop) : Bool → Machine δ → Prop
  | true => D
  | false => P

/-- Stages of an instruction: before, after one operand, after two operands,
and after the last reference. -/
structure OperandRules
    (P₀ P₁ P₂ D : Machine δ → Prop) (E : Stop → Machine δ → Prop) :
    Prop where
  one : ∀ s, P₀ s → P₁ s
  two : ∀ s, P₁ s → P₂ s
  last : ∀ s, P₂ s → D s
  getGAM₀ : ∀ mode reg wordMode readValue,
    Triple P₀ (getGAM mode reg wordMode readValue) (fun _ => P₁) E
  getGAM₁ : ∀ mode reg wordMode readValue,
    Triple P₁ (getGAM mode reg wordMode readValue) (fun _ => P₂) E
  writeOperand : ∀ g value,
    Triple P₂ (writeOperand g value) (fun _ => D) E
  flag₂ : ∀ bit v, bit < 4 →
    Triple P₂ (modifyCpu fun c => c.setBitPSW bit v) (fun _ => P₂) E
  flag : ∀ bit v, bit < 4 →
    Triple D (modifyCpu fun c => c.setBitPSW bit v) (fun _ => D) E
  setRegister : ∀ nr value,
    Triple D (setRegister nr value) (fun _ => D) E
  byteOperand : ∀ s, D s → E (.assertion .byteOperand) s
  waiting : ∀ s, P₀ s → E .waiting s
  trap : ∀ vector, Triple P₀ (trap vector none) (fun _ => D) E
  opMfp : ∀ dstMode dstReg wordMode,
    Triple P₀ (opMfp dstMode dstReg wordMode) (Outcome P₀ D) E
  opMtp : ∀ dstMode dstReg wordMode,
    Triple P₀ (opMtp dstMode dstReg wordMode) (Outcome P₀ D) E
  opMark : ∀ dst, Triple P₀ (opMark dst) (Outcome P₀ D) E
  opSpl : ∀ instr, Triple P₀ (opSpl instr) (Outcome P₀ D) E
  opReset : Triple P₀ opReset (Outcome P₀ D) E
  opJsr : ∀ linkReg dstMode dstReg,
    Triple P₀ (opJsr linkReg dstMode dstReg) (Outcome P₀ D) E
  opRts : ∀ linkReg, Triple P₀ (opRts linkReg) (Outcome P₀ D) E

/-- The rules with the two instructions that may leave the stages: HALT in
kernel mode, and the return from a trap. -/
structure InstructionRules
    (P₀ P₁ P₂ D : Machine δ → Prop) (E : Stop → Machine δ → Prop) :
    Prop extends OperandRules P₀ P₁ P₂ D E where
  halt : ∀ s, P₀ s → D { s with cpu := { s.cpu with event := .eventHalt } }
  opRti : Triple P₀ opRti (Outcome P₀ D) E

namespace OperandRules

variable {P₀ P₁ P₂ D : Machine δ → Prop} {E : Stop → Machine δ → Prop}
variable (R : OperandRules P₀ P₁ P₂ D E)

section Stages

include R

theorem first_last
    {s : Machine δ} (h : P₀ s) :
    D s :=
  R.last s (R.two s (R.one s h))

theorem getGAM_last
    (mode reg : RegNr) (wordMode : WordMode) (readValue : Bool) :
    Triple P₀ (getGAM mode reg wordMode readValue) (fun _ => P₂) E :=
  (R.getGAM₀ mode reg wordMode readValue).weaken_post fun _ => R.two

theorem getGAM_done
    (mode reg : RegNr) (wordMode : WordMode) (readValue : Bool) :
    Triple P₀ (getGAM mode reg wordMode readValue) (fun _ => D) E :=
  (R.getGAM_last mode reg wordMode readValue).weaken_post fun _ => R.last

theorem getGAM₁_done
    (mode reg : RegNr) (wordMode : WordMode) (readValue : Bool) :
    Triple P₁ (getGAM mode reg wordMode readValue) (fun _ => D) E :=
  (R.getGAM₁ mode reg wordMode readValue).weaken_post fun _ => R.last

/-- A program that starts after the last reference may start earlier. -/
theorem early
    {α : Type} {m : Exec δ α} {Q : α → Machine δ → Prop}
    (h : Triple D m Q E) :
    Triple P₂ m Q E :=
  h.strengthen_pre R.last

theorem early₀
    {α : Type} {m : Exec δ α} {Q : α → Machine δ → Prop}
    (h : Triple D m Q E) :
    Triple P₀ m Q E :=
  h.strengthen_pre fun _ => R.first_last

end Stages

section Registers

omit [UnibusDevices δ]

theorem done
    {P D : Machine δ → Prop} {E : Stop → Machine δ → Prop} :
    Triple D (pure true : Exec δ Bool) (Outcome P D) E :=
  Triple.pure fun _ hs => hs

theorem notMine
    {P D : Machine δ → Prop} {E : Stop → Machine δ → Prop} :
    Triple P (pure false : Exec δ Bool) (Outcome P D) E :=
  Triple.pure fun _ hs => hs

theorem onlyIf
    {D : Machine δ → Prop} {E : Stop → Machine δ → Prop} (c : Bool)
    {m : Exec δ Unit} (h : Triple D m (fun _ => D) E) :
    Triple D (onlyIf c m) (fun _ => D) E :=
  .ite (fun _ => h) fun _ => .pure fun _ hs => hs

theorem readPair
    {P : Machine δ → Prop} {E : Stop → Machine δ → Prop} (reg : RegNr) :
    Triple P (registerPair reg) (fun _ => P) E :=
  .view_bind_any fun _ => .view_bind_any fun _ => .pure fun _ hs => hs

/-- A word that one dispatcher does not recognise goes to the next. -/
theorem orElse
    {P D : Machine δ → Prop} {E : Stop → Machine δ → Prop}
    {m m' : Exec δ Bool} (h : Triple P m (Outcome P D) E)
    (h' : Triple P m' (Outcome P D) E) :
    Triple P (do if (← m) then pure true else m') (Outcome P D) E := by
  refine h.bind fun done => ?_
  cases done with
  | true =>
      exact OperandRules.done
  | false =>
      exact h'

end Registers

section Flags

include R

theorem setPSWc (v : Bool) :
    Triple D (setPSWc v) (fun _ => D) E :=
  R.flag 0 v (by omega)

theorem setPSWv (v : Bool) :
    Triple D (setPSWv v) (fun _ => D) E :=
  R.flag 1 v (by omega)

theorem setPSWz (v : Bool) :
    Triple D (setPSWz v) (fun _ => D) E :=
  R.flag 2 v (by omega)

theorem setPSWn (v : Bool) :
    Triple D (setPSWn v) (fun _ => D) E :=
  R.flag 3 v (by omega)

theorem setPSWFlagsNzv (value : Word) (wordMode : WordMode) :
    Triple D (setPSWFlagsNzv value wordMode) (fun _ => D) E := by
  intro s hs
  exact R.setPSWv false _ (R.setPSWz _ _ (R.setPSWn _ s hs))

theorem setNZ (value : Word) (wordMode : WordMode) :
    Triple D (setNZ value wordMode) (fun _ => D) E :=
  (R.setPSWn _).bind fun _ => R.setPSWz _

theorem setVFromNC :
    Triple D setVFromNC (fun _ => D) E :=
  .view_bind_any fun _ => .view_bind_any fun _ => R.setPSWv _

theorem setRotateFlags (newCarry : Bool) (temp : Word) (wordMode : WordMode) :
    Triple D (setRotateFlags newCarry temp wordMode) (fun _ => D) E :=
  (R.setPSWc _).bind fun _ => (R.setNZ _ _).bind fun _ => R.setVFromNC

theorem setPC (value : Word) :
    Triple D (setPC value) (fun _ => D) E :=
  R.setRegister 7 value

theorem addRegister (nr : RegNr) (value : Word) :
    Triple D (addRegister nr value) (fun _ => D) E := by
  intro s hs
  exact R.setRegister nr _ s hs

/-- The assertion on the operand of a byte instruction. -/
theorem assertByte (c : Bool) :
    Triple D (assertThat .byteOperand c) (fun _ => D) E :=
  .ite (fun _ => .pure fun _ hs => hs) fun _ => .raise R.byteOperand

theorem assertByte₂ (c : Bool) :
    Triple P₂ (assertThat .byteOperand c) (fun _ => P₂) E :=
  .ite (fun _ => .pure fun _ hs => hs) fun _ =>
    .raise fun s hs => R.byteOperand s (R.last s hs)

theorem setRegisterLowByte
    (nr : RegNr) (wordMode : WordMode) (value : Word) :
    Triple D (setRegisterLowByte nr wordMode value) (fun _ => D) E := by
  cases wordMode with
  | wmByte =>
      refine (R.assertByte _).bind fun _ => .view_bind_any fun v => ?_
      exact R.setRegister nr _
  | wmWord =>
      exact R.setRegister nr value

theorem putGAM (g : GamRc) (value : Word) :
    Triple P₂ (putGAM g value) (fun _ => D) E := by
  refine (R.assertByte₂ _).bind fun _ => .ite (fun _ => ?_) fun _ => ?_
  · exact R.writeOperand g value
  · refine (R.early (R.setRegister g.reg value)).bind fun _ => ?_
    exact .pure fun _ hs => hs

theorem putResult (g : GamRc) (value : Word) :
    Triple P₂ (putResult g value) (fun _ => D) E := by
  refine .ite (fun _ => ?_) fun _ => ?_
  · exact R.writeOperand g value
  · refine (R.early (R.setRegisterLowByte g.reg g.wordMode value)).bind
      fun _ => ?_
    exact .pure fun _ hs => hs

end Flags

section DoubleOperand

include R

theorem opMov
    (srcMode srcReg dstMode dstReg : RegNr) (wordMode : WordMode) :
    Triple P₀ (opMov srcMode srcReg dstMode dstReg wordMode) (Outcome P₀ D)
      E := by
  refine (R.getGAM₀ _ _ _ _).bind fun gSrc => ?_
  refine Triple.bind (.ite (fun _ => ?_) fun _ => ?_) fun setFlags =>
    (onlyIf _ (R.setPSWFlagsNzv _ _)).bind fun _ => done
  · refine ((R.early (R.setRegister _ _)).strengthen_pre R.two).bind
      fun _ => ?_
    exact .pure fun _ hs => hs
  · exact (R.getGAM₁ _ _ _ _).bind fun gDst => R.putGAM _ _

theorem opCmp
    (srcMode srcReg dstMode dstReg : RegNr) (wordMode : WordMode) :
    Triple P₀ (opCmp srcMode srcReg dstMode dstReg wordMode) (Outcome P₀ D)
      E := by
  refine (R.getGAM₀ _ _ _ _).bind fun gSrc => ?_
  refine (R.getGAM₁_done _ _ _ _).bind fun gDst => ?_
  refine (R.setNZ _ _).bind fun _ => (R.setPSWv _).bind fun _ => ?_
  exact (R.setPSWc _).bind fun _ => done

theorem opBit
    (srcMode srcReg dstMode dstReg : RegNr) (wordMode : WordMode) :
    Triple P₀ (opBit srcMode srcReg dstMode dstReg wordMode) (Outcome P₀ D)
      E := by
  refine (R.getGAM₀ _ _ _ _).bind fun gSrc => ?_
  refine (R.getGAM₁_done _ _ _ _).bind fun gDst => ?_
  exact (R.setPSWFlagsNzv _ _).bind fun _ => done

theorem opCombine
    (combine : Word → Word → Word)
    (srcMode srcReg dstMode dstReg : RegNr) (wordMode : WordMode) :
    Triple P₀ (opCombine combine srcMode srcReg dstMode dstReg wordMode)
      (Outcome P₀ D) E := by
  refine (R.getGAM₀ _ _ _ _).bind fun gSrc => .ite (fun _ => ?_) fun _ => ?_
  · refine .view_bind_any fun v => ?_
    refine ((R.early (R.setRegister _ _)).strengthen_pre R.two).bind
      fun _ => ?_
    exact (R.setPSWFlagsNzv _ _).bind fun _ => done
  · refine (R.getGAM₁ _ _ _ _).bind fun gDst => ?_
    refine (R.putResult _ _).bind fun setFlags => ?_
    exact (onlyIf _ (R.setPSWFlagsNzv _ _)).bind fun _ => done

theorem opAddSub
    (srcMode srcReg dstMode dstReg : RegNr) (sub : Bool) :
    Triple P₀ (opAddSub srcMode srcReg dstMode dstReg sub) (Outcome P₀ D)
      E := by
  refine (R.getGAM₀ _ _ _ _).bind fun gSrc => ?_
  refine (R.getGAM₁ _ _ _ _).bind fun gDst => ?_
  refine (R.putGAM _ _).bind fun setFlags => ?_
  refine (onlyIf _ ?_).bind fun _ => done
  refine Triple.bind (.ite (fun _ => ?_) fun _ => ?_) fun _ => R.setNZ _ _
  · exact (R.setPSWv _).bind fun _ => R.setPSWc _
  · exact (R.setPSWv _).bind fun _ => R.setPSWc _

end DoubleOperand

section RegisterOperand

include R

theorem shifter (value : BitVec 32) (shift : Nat) (is32b : Bool) :
    Triple D (shifter value shift is32b) (fun _ => D) E := by
  refine (R.setPSWv _).bind fun _ => ?_
  refine Triple.bind ?_ fun value => (R.setPSWn _).bind fun _ =>
    (R.setPSWz _).bind fun _ => .pure fun _ hs => hs
  refine .ite (fun _ => ?_) fun _ => .ite (fun _ => ?_) fun _ =>
    .ite (fun _ => ?_) fun _ => ?_
  · exact (R.setPSWc _).bind fun _ => .pure fun _ hs => hs
  · refine (R.setPSWc _).bind fun _ => (onlyIf _ (R.setPSWv _)).bind
      fun _ => ?_
    exact .pure fun _ hs => hs
  · refine (R.setPSWc _).bind fun _ => (R.setPSWv _).bind fun _ => ?_
    exact .pure fun _ hs => hs
  · refine (R.setPSWc _).bind fun _ => (R.setPSWv _).bind fun _ => ?_
    exact .pure fun _ hs => hs

theorem opMul (reg dstMode dstReg : RegNr) :
    Triple P₀ (opMul reg dstMode dstReg) (Outcome P₀ D) E := by
  refine .view_bind_any fun r1 => (R.getGAM_done _ _ _ _).bind fun r2g => ?_
  refine (R.setRegister _ _).bind fun _ => (R.setRegister _ _).bind fun _ => ?_
  refine (R.setPSWn _).bind fun _ => (R.setPSWz _).bind fun _ => ?_
  exact (R.setPSWv _).bind fun _ => (R.setPSWc _).bind fun _ => done

theorem opDiv (reg dstMode dstReg : RegNr) :
    Triple P₀ (opDiv reg dstMode dstReg) (Outcome P₀ D) E := by
  refine (R.getGAM_done _ _ _ _).bind fun r2g => ?_
  refine (readPair reg).bind fun r0r1 => ?_
  refine .ite (fun _ => ?_) fun _ => .ite (fun _ => ?_) fun _ => ?_
  · refine (R.setPSWn _).bind fun _ => (R.setPSWz _).bind fun _ => ?_
    exact (R.setPSWv _).bind fun _ => (R.setPSWc _).bind fun _ => done
  · refine (R.setPSWn _).bind fun _ => (R.setPSWz _).bind fun _ => ?_
    exact (R.setPSWv _).bind fun _ => (R.setPSWc _).bind fun _ => done
  · refine (R.setPSWn _).bind fun _ => (R.setPSWz _).bind fun _ => ?_
    refine (R.setPSWc _).bind fun _ => .ite (fun _ => ?_) fun _ => ?_
    · exact (R.setPSWv _).bind fun _ => done
    · refine (R.setRegister _ _).bind fun _ => ?_
      refine (R.setRegister _ _).bind fun _ => ?_
      exact (R.setPSWv _).bind fun _ => done

theorem opAsh (reg dstMode dstReg : RegNr) :
    Triple P₀ (opAsh reg dstMode dstReg) (Outcome P₀ D) E := by
  refine .view_bind_any fun r => (R.getGAM_done _ _ _ _).bind fun gDst => ?_
  refine (R.shifter _ _ _).bind fun newValue => ?_
  exact (R.setRegister _ _).bind fun _ => done

theorem opAshc (reg dstMode dstReg : RegNr) :
    Triple P₀ (opAshc reg dstMode dstReg) (Outcome P₀ D) E := by
  refine (readPair reg).bind fun r0r1 => ?_
  refine (R.getGAM_done _ _ _ _).bind fun gDst => ?_
  refine (R.shifter _ _ _).bind fun newValue => ?_
  refine (R.setRegister _ _).bind fun _ => ?_
  exact (R.setRegister _ _).bind fun _ => done

theorem opXor (reg dstMode dstReg : RegNr) :
    Triple P₀ (opXor reg dstMode dstReg) (Outcome P₀ D) E := by
  refine .view_bind_any fun regV => (R.getGAM_last _ _ _ _).bind fun gDst => ?_
  refine (R.putGAM _ _).bind fun setFlags => ?_
  exact (onlyIf _ (R.setPSWFlagsNzv _ _)).bind fun _ => done

theorem opSob (reg : RegNr) (dst : Word) :
    Triple P₀ (opSob reg dst) (Outcome P₀ D) E := by
  refine (R.early₀ (R.addRegister reg _)).bind fun v => ?_
  exact (onlyIf _ (.view_bind_any fun pc => R.setPC _)).bind fun _ => done

theorem additionalDoubleOperandInstructions (instr : Word) :
    Triple P₀ (additionalDoubleOperandInstructions instr) (Outcome P₀ D)
      E := by
  unfold KekPdp11.additionalDoubleOperandInstructions
  dsimp only
  split
  · exact R.opMul _ _ _
  · exact R.opDiv _ _ _
  · exact R.opAsh _ _ _
  · exact R.opAshc _ _ _
  · exact R.opXor _ _ _
  · exact R.opSob _ _
  · exact notMine

end RegisterOperand

section SingleOperand

include R

/-- A byte or word result is stored and then sets the flags. -/
theorem storeResult
    (g : GamRc) (value : Word) {flags : Exec δ Unit}
    (h : Triple D flags (fun _ => D) E) :
    Triple P₂
      (do
        let setFlags ← KekPdp11.writeOperand g value
        KekPdp11.onlyIf setFlags flags
        pure true)
      (Outcome P₀ D) E :=
  (R.writeOperand g value).bind fun _ => (onlyIf _ h).bind fun _ => done

theorem opSwab (dstMode dstReg : RegNr) :
    Triple P₀ (opSwab dstMode dstReg) (Outcome P₀ D) E := by
  refine (R.getGAM_last _ _ _ _).bind fun gDst => ?_
  refine (R.putGAM _ _).bind fun setFlags => (onlyIf _ ?_).bind fun _ => done
  exact (R.setPSWFlagsNzv _ _).bind fun _ => R.setPSWc _

theorem opClr (dstMode dstReg : RegNr) (wordMode : WordMode) :
    Triple P₀ (opClr dstMode dstReg wordMode) (Outcome P₀ D) E := by
  refine Triple.bind (.ite (fun _ => ?_) fun _ => ?_) fun setFlags =>
    (onlyIf _ ((R.setPSWn _).bind fun _ => (R.setPSWz _).bind fun _ =>
      (R.setPSWv _).bind fun _ => R.setPSWc _)).bind fun _ => done
  · refine .view_bind_any fun v => ?_
    refine (R.early₀ (R.setRegister _ _)).bind fun _ => ?_
    exact .pure fun _ hs => hs
  · exact (R.getGAM_last _ _ _ _).bind fun gDst => R.putGAM _ _

theorem opCom (dstMode dstReg : RegNr) (wordMode : WordMode) :
    Triple P₀ (opCom dstMode dstReg wordMode) (Outcome P₀ D) E := by
  refine Triple.bind (.ite (fun _ => ?_) fun _ => ?_) fun r =>
    (onlyIf _ ((R.setPSWFlagsNzv _ _).bind fun _ => R.setPSWc _)).bind
      fun _ => done
  · refine .view_bind_any fun old => ?_
    refine (R.early₀ (R.setRegister _ _)).bind fun _ => ?_
    exact .pure fun _ hs => hs
  · refine (R.getGAM_last _ _ _ _).bind fun a => ?_
    exact (R.putGAM _ _).bind fun setFlags => .pure fun _ hs => hs

theorem opInc (dstMode dstReg : RegNr) (wordMode : WordMode) :
    Triple P₀ (opInc dstMode dstReg wordMode) (Outcome P₀ D) E := by
  refine .ite (fun _ => ?_) fun _ => ?_
  · refine .view_bind_any fun old => (R.early₀ (R.setNZ _ _)).bind fun _ => ?_
    refine (R.setPSWv _).bind fun _ => ?_
    exact (R.setRegister _ _).bind fun _ => done
  · refine (R.getGAM_last _ _ _ _).bind fun a => R.storeResult a _ ?_
    exact (R.setNZ _ _).bind fun _ => R.setPSWv _

theorem opDec (dstMode dstReg : RegNr) (wordMode : WordMode) :
    Triple P₀ (opDec dstMode dstReg wordMode) (Outcome P₀ D) E := by
  refine .ite (fun _ => ?_) fun _ => ?_
  · refine .view_bind_any fun old => (R.early₀ (R.setNZ _ _)).bind fun _ => ?_
    refine (R.setPSWv _).bind fun _ => ?_
    exact (R.setRegister _ _).bind fun _ => done
  · refine (R.getGAM_last _ _ _ _).bind fun a => R.storeResult a _ ?_
    exact (R.setNZ _ _).bind fun _ => R.setPSWv _

theorem opNeg (dstMode dstReg : RegNr) (wordMode : WordMode) :
    Triple P₀ (opNeg dstMode dstReg wordMode) (Outcome P₀ D) E := by
  refine .ite (fun _ => ?_) fun _ => ?_
  · refine .view_bind_any fun old => (R.early₀ (R.setNZ _ _)).bind fun _ => ?_
    refine (R.setPSWv _).bind fun _ => (R.setPSWc _).bind fun _ => ?_
    exact (R.setRegister _ _).bind fun _ => done
  · refine (R.getGAM_last _ _ _ _).bind fun a => R.storeResult a _ ?_
    exact (R.setNZ _ _).bind fun _ => (R.setPSWv _).bind fun _ => R.setPSWc _

theorem opAdc (dstMode dstReg : RegNr) (wordMode : WordMode) :
    Triple P₀ (opAdc dstMode dstReg wordMode) (Outcome P₀ D) E := by
  refine .ite (fun _ => ?_) fun _ => ?_
  · refine .view_bind_any fun vo => .view_bind_any fun orgC => ?_
    refine (R.early₀ (R.setNZ _ _)).bind fun _ => ?_
    refine (R.setPSWv _).bind fun _ => (R.setPSWc _).bind fun _ => ?_
    exact (R.setRegister _ _).bind fun _ => done
  · refine (R.getGAM_last _ _ _ _).bind fun a => .view_bind_any fun orgC => ?_
    refine R.storeResult a _ ?_
    exact (R.setNZ _ _).bind fun _ => (R.setPSWv _).bind fun _ => R.setPSWc _

theorem opSbc (dstMode dstReg : RegNr) (wordMode : WordMode) :
    Triple P₀ (opSbc dstMode dstReg wordMode) (Outcome P₀ D) E := by
  refine .ite (fun _ => ?_) fun _ => ?_
  · refine .view_bind_any fun vo => .view_bind_any fun orgC => ?_
    refine (R.early₀ (R.setNZ _ _)).bind fun _ => ?_
    refine (R.setPSWv _).bind fun _ => (R.setPSWc _).bind fun _ => ?_
    exact (R.setRegister _ _).bind fun _ => done
  · refine (R.getGAM_last _ _ _ _).bind fun a => .view_bind_any fun orgC => ?_
    refine R.storeResult a _ ?_
    exact (R.setNZ _ _).bind fun _ => (R.setPSWv _).bind fun _ => R.setPSWc _

theorem opTst (dstMode dstReg : RegNr) (wordMode : WordMode) :
    Triple P₀ (opTst dstMode dstReg wordMode) (Outcome P₀ D) E := by
  refine (R.getGAM_done _ _ _ _).bind fun g => ?_
  refine (R.setPSWFlagsNzv _ _).bind fun _ => ?_
  exact (R.setPSWc _).bind fun _ => done

theorem opRor (dstMode dstReg : RegNr) (wordMode : WordMode) :
    Triple P₀ (opRor dstMode dstReg wordMode) (Outcome P₀ D) E := by
  refine .ite (fun _ => ?_) fun _ => ?_
  · refine .view_bind_any fun v => .view_bind_any fun c => ?_
    refine (R.early₀ (R.setRegister _ _)).bind fun _ => ?_
    exact (R.setRotateFlags _ _ _).bind fun _ => done
  · refine (R.getGAM_last _ _ _ _).bind fun a => .view_bind_any fun c => ?_
    exact R.storeResult a _ (R.setRotateFlags _ _ _)

theorem opRol (dstMode dstReg : RegNr) (wordMode : WordMode) :
    Triple P₀ (opRol dstMode dstReg wordMode) (Outcome P₀ D) E := by
  refine .ite (fun _ => ?_) fun _ => ?_
  · refine .view_bind_any fun v => .view_bind_any fun c => ?_
    refine (R.early₀ (R.setRegister _ _)).bind fun _ => ?_
    exact (R.setRotateFlags _ _ _).bind fun _ => done
  · refine (R.getGAM_last _ _ _ _).bind fun a => .view_bind_any fun c => ?_
    exact R.storeResult a _ (R.setRotateFlags _ _ _)

theorem opAsr (dstMode dstReg : RegNr) (wordMode : WordMode) :
    Triple P₀ (opAsr dstMode dstReg wordMode) (Outcome P₀ D) E := by
  refine .ite (fun _ => ?_) fun _ => ?_
  · refine .view_bind_any fun old => (R.early₀ (R.setPSWc _)).bind fun _ => ?_
    refine (R.setRegister _ _).bind fun _ => (R.setNZ _ _).bind fun _ => ?_
    exact R.setVFromNC.bind fun _ => done
  · refine (R.getGAM_last _ _ _ _).bind fun a => ?_
    -- the carry is set before the result is stored
    refine (R.flag₂ 0 _ (by omega)).bind fun _ => R.storeResult a _ ?_
    exact (R.setNZ _ _).bind fun _ => R.setVFromNC

theorem opAsl (dstMode dstReg : RegNr) (wordMode : WordMode) :
    Triple P₀ (opAsl dstMode dstReg wordMode) (Outcome P₀ D) E := by
  refine .ite (fun _ => ?_) fun _ => ?_
  · refine .view_bind_any fun vl => (R.early₀ (R.setNZ _ _)).bind fun _ => ?_
    refine (R.setPSWc _).bind fun _ => R.setVFromNC.bind fun _ => ?_
    exact (R.setRegister _ _).bind fun _ => done
  · refine (R.getGAM_last _ _ _ _).bind fun a => R.storeResult a _ ?_
    refine (R.setNZ _ _).bind fun _ => (R.setPSWc _).bind fun _ => ?_
    exact R.setVFromNC

theorem opSxt (dstMode dstReg : RegNr) :
    Triple P₀ (opSxt dstMode dstReg) (Outcome P₀ D) E := by
  refine (R.getGAM_last _ _ _ _).bind fun gDst => .view_bind_any fun n => ?_
  refine (R.putResult _ _).bind fun setFlags => (onlyIf _ ?_).bind fun _ => done
  exact .view_bind_any fun n => (R.setPSWz _).bind fun _ => R.setPSWv _

theorem reservedInstruction :
    Triple P₀ (reservedInstruction : Exec δ Bool) (Outcome P₀ D) E :=
  (R.trap _).bind fun _ => done

theorem singleOperandInstructions (instr : Word) :
    Triple P₀ (singleOperandInstructions instr) (Outcome P₀ D) E := by
  unfold KekPdp11.singleOperandInstructions
  dsimp only
  split
  · exact .ite (fun _ => notMine) fun _ => R.opSwab _ _
  · exact R.opClr _ _ _
  · exact R.opCom _ _ _
  · exact R.opInc _ _ _
  · exact R.opDec _ _ _
  · exact R.opNeg _ _ _
  · exact R.opAdc _ _ _
  · exact R.opSbc _ _ _
  · exact R.opTst _ _ _
  · exact R.opRor _ _ _
  · exact R.opRol _ _ _
  · exact R.opAsr _ _ _
  · exact R.opAsl _ _ _
  · exact R.opMfp _ _ _
  · exact R.opMtp _ _ _
  · exact .ite (fun _ => R.reservedInstruction) fun _ => R.opMark _
  · exact .ite (fun _ => R.reservedInstruction) fun _ => R.opSxt _ _
  · exact notMine

theorem doubleOperandInstructions (instr : Word) :
    Triple P₀ (doubleOperandInstructions instr) (Outcome P₀ D) E := by
  unfold KekPdp11.doubleOperandInstructions
  dsimp only
  split
  · exact R.singleOperandInstructions _
  · exact R.opMov _ _ _ _ _
  · exact R.opCmp _ _ _ _ _
  · exact R.opBit _ _ _ _ _
  · exact R.opCombine _ _ _ _ _ _
  · exact R.opCombine _ _ _ _ _ _
  · exact R.opAddSub _ _ _ _ _
  · exact .ite (fun _ => notMine) fun _ =>
      R.additionalDoubleOperandInstructions _

end SingleOperand

section Control

include R

theorem conditionalBranchInstructions (instr : Word) :
    Triple P₀ (conditionalBranchInstructions instr) (Outcome P₀ D) E := by
  refine .view_bind_any fun take => ?_
  cases take with
  | none =>
      exact notMine
  | some take =>
      refine (R.early₀ (onlyIf take ?_)).bind fun _ => done
      exact (R.addRegister _ _).bind fun _ => .pure fun _ hs => hs

theorem opSetConditionBits (instr : Word) :
    Triple P₀ (opSetConditionBits instr) (Outcome P₀ D) E := by
  refine (R.early₀ (onlyIf _ (R.setPSWn _))).bind fun _ => ?_
  refine (onlyIf _ (R.setPSWz _)).bind fun _ => ?_
  refine (onlyIf _ (R.setPSWv _)).bind fun _ => ?_
  exact (onlyIf _ (R.setPSWc _)).bind fun _ => done

theorem conditionCodeOperations (instr : Word) :
    Triple P₀ (conditionCodeOperations instr) (Outcome P₀ D) E := by
  refine .ite (fun _ => ?_) fun _ => .ite (fun _ => R.opSpl _) fun _ =>
    .ite (fun _ => R.opSetConditionBits _) fun _ => notMine
  exact R.early₀ done

theorem opWait :
    Triple P₀ (opWait : Exec δ Bool) (Outcome P₀ D) E := by
  refine .view_bind_any fun pending => .ite (fun _ => ?_) fun _ => ?_
  · exact R.early₀ done
  · exact .raise R.waiting

theorem opTrap (vector : Word) :
    Triple P₀ (opTrap vector) (Outcome P₀ D) E :=
  (R.trap _).bind fun _ => done

theorem opJmp (dstMode dstReg : RegNr) :
    Triple P₀ (opJmp dstMode dstReg) (Outcome P₀ D) E := by
  refine .ite (fun _ => notMine) fun _ => ?_
  exact (R.getGAM_done _ _ _ _).bind fun g => (R.setPC _).bind fun _ => done

section Dispatch

variable (hhalt : Triple P₀ (opHalt : Exec δ Bool) (Outcome P₀ D) E)

include hhalt

theorem miscOperations (instr : Word)
    (hrti : instr = 0o2 ∨ instr = 0o6 → Triple P₀ opRti (Outcome P₀ D) E) :
    Triple P₀ (miscOperations instr) (Outcome P₀ D) E := by
  unfold KekPdp11.miscOperations
  split
  · exact hhalt
  · exact R.opWait
  · exact hrti (.inl rfl)
  · exact R.opTrap _
  · exact R.opTrap _
  · exact R.opReset
  · exact hrti (.inr rfl)
  · exact R.opTrap _
  · exact .ite (fun _ => R.opTrap _) fun _ => .ite (fun _ => R.opTrap _)
      fun _ => .ite (fun _ => R.opJmp _ _) fun _ =>
      .ite (fun _ => R.opJsr _ _ _) fun _ => .ite (fun _ => R.opRts _)
      fun _ => notMine

/-- Every instruction word; the return from a trap is only asked of its own
two words. -/
theorem executeInstruction (instr : Word)
    (hrti : instr = 0o2 ∨ instr = 0o6 → Triple P₀ opRti (Outcome P₀ D) E) :
    Triple P₀ (executeInstruction instr) (Outcome P₀ D) E :=
  orElse (R.doubleOperandInstructions instr) <|
    orElse (R.conditionalBranchInstructions instr) <|
    orElse (R.conditionCodeOperations instr) (R.miscOperations hhalt instr hrti)

end Dispatch

/-- What cpu::step does with an instruction word. -/
theorem executed {instr : Word}
    (h : Triple P₀ (KekPdp11.executeInstruction instr) (Outcome P₀ D) E) :
    Triple P₀
      (do
        let done ← KekPdp11.executeInstruction instr
        if done then pure true
        else do
          KekPdp11.trap 0o10 none
          pure false)
      (fun _ => D) E := by
  refine h.bind fun done => ?_
  cases done with
  | true =>
      exact .pure fun _ hs => hs
  | false =>
      exact (R.trap _).bind fun _ => .pure fun _ hs => hs

end Control

end OperandRules

namespace InstructionRules

variable {P₀ P₁ P₂ D : Machine δ → Prop} {E : Stop → Machine δ → Prop}
variable (R : InstructionRules P₀ P₁ P₂ D E)

include R

theorem opHalt :
    Triple P₀ (opHalt : Exec δ Bool) (Outcome P₀ D) E := by
  refine .view_bind_any fun runMode => .ite (fun _ => ?_) fun _ => ?_
  · exact fun s hs => R.halt s hs
  · exact R.reservedInstruction

/-- Every instruction word. -/
theorem executeInstruction (instr : Word) :
    Triple P₀ (executeInstruction instr) (Outcome P₀ D) E :=
  R.toOperandRules.executeInstruction R.opHalt instr fun _ => R.opRti

/-- An instruction with its fetch. -/
theorem fetchAndExecute
    {P : Machine δ → Prop}
    (hfetch : Triple P fetchInstruction (fun _ => P₀) E) :
    Triple P fetchAndExecute (fun _ => D) E :=
  hfetch.bind fun instr => R.executed (R.executeInstruction instr)

end InstructionRules

end KekPdp11
