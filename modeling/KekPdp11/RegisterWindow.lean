import KekPdp11.ControlRegisters
import Mathlib.Data.Fintype.Basic
import Mathlib.Tactic.FinCases

/-!
# KEK PDP-11: the general registers in the I/O page

Sixteen addresses of the I/O page stand for the general registers: R0 to R5 of
either set, the stack pointers of three modes and PC.  The addresses of R0 to
R5 go through the register numbers of instructions, which stand for the
selected set.

**Result.**  As long as the addresses used for R0 to R5 are those of the
selected set, the window and the instructions work on one register file.  A
single access to the other set is right only when the two registers already
hold what it needs.
-/

namespace KekPdp11

open StateExcept

variable {δ : Type}

section File

/-- The registers that the window is to give access to. -/
inductive WindowRegister where
  | general (set : Bool) (nr : Fin 6)
  | kernelSp
  | supervisorSp
  | userSp
  | pc
deriving DecidableEq, Repr

namespace WindowRegister

def address : WindowRegister → Word
  | general false nr => addrKernelR + BitVec.ofNat 16 nr
  | general true nr => addrUserR + BitVec.ofNat 16 nr
  | kernelSp => addrKernelSp
  | supervisorSp => addrSvSp
  | userSp => addrUserSp
  | pc => addrPc

/-- The register that an access through the window reaches. -/
def reached (set : Bool) : WindowRegister → WindowRegister
  | general _ nr => general set nr
  | r => r

end WindowRegister

/-- The contents of the registers. -/
abbrev WindowFile := WindowRegister → Word

def Cpu.file (c : Cpu) : WindowFile
  | .general set nr => c.regs05 set nr
  | .kernelSp => c.sp 0
  | .supervisorSp => c.sp 1
  | .userSp => c.sp 3
  | .pc => c.pc

/-- The register set and the mode that a status word selects. -/
def setOf (psw : Word) : Bool :=
  psw &&& 0o4000 ≠ 0

def modeOf (psw : Word) : RunMode :=
  (psw >>> 14).setWidth 2

/-- The register that an instruction means by a number.  The stack pointer of
the mode that does not exist is not in the window. -/
def named (psw : Word) (nr : RegNr) : Option WindowRegister :=
  if h : nr.toNat < 6 then some (.general (setOf psw) ⟨nr.toNat, h⟩)
  else if nr = 7 then some .pc
  else if modeOf psw = 0 then some .kernelSp
  else if modeOf psw = 1 then some .supervisorSp
  else if modeOf psw = 3 then some .userSp
  else none

/-- A file with a new value in one of its registers, if there is one. -/
def WindowFile.put (file : WindowFile) (r : Option WindowRegister)
    (v : Word) : WindowFile :=
  match r with
  | some r => Function.update file r v
  | none => file

section Writes

variable (c : Cpu) (v : Word)

theorem Cpu.file_setReg05
    (set : Bool) (nr : Fin 6) :
    (c.setReg05 set nr v).file =
      Function.update c.file (.general set nr) v := by
  funext r
  cases r with
  | general set' nr' =>
      by_cases hset : set' = set
      · subst hset
        by_cases hnr : nr' = nr
        · subst hnr
          simp [Cpu.file, Cpu.setReg05]
        · have hne : WindowRegister.general set' nr' ≠ .general set' nr :=
            fun h => hnr (WindowRegister.general.inj h).2
          simp [Cpu.file, Cpu.setReg05, Function.update_of_ne hne,
            Function.update_of_ne hnr]
      · have hne : WindowRegister.general set' nr' ≠ .general set nr :=
          fun h => hset (WindowRegister.general.inj h).1
        simp [Cpu.file, Cpu.setReg05, Function.update_of_ne hne,
          Function.update_of_ne hset]
  | _ =>
      rfl

theorem Cpu.file_setPC :
    (c.setPC v).file = Function.update c.file .pc v := by
  funext r
  cases r <;> rfl

theorem Cpu.file_setStackpointer
    (mode : RunMode) :
    (c.setStackpointer mode v).file =
      WindowFile.put c.file
        (if mode = 0 then some .kernelSp
        else if mode = 1 then some .supervisorSp
        else if mode = 3 then some .userSp
        else none) v := by
  have hmode : mode = 0 ∨ mode = 1 ∨ mode = 2 ∨ mode = 3 := by
    revert mode
    decide
  funext r
  rcases hmode with rfl | rfl | rfl | rfl <;> cases r <;> rfl

/-- A register write of an instruction, seen in the file. -/
theorem Cpu.file_setRegister
    (nr : RegNr) :
    (c.setRegister nr v).file = WindowFile.put c.file (named c.psw nr) v := by
  unfold Cpu.setRegister named
  by_cases hlow : nr.toNat < 6
  · rw [dif_pos hlow, dif_pos hlow]
    exact c.file_setReg05 v _ _
  · rw [dif_neg hlow, dif_neg hlow]
    by_cases h6 : nr = 6
    · subst h6
      exact c.file_setStackpointer v _
    · have h7 : nr = 7 := by
        revert nr
        decide
      subst h7
      exact c.file_setPC v

end Writes

end File

section Access

variable [UnibusDevices δ] (r : WindowRegister) (apf : BitVec 3)

/-- A read of the window returns the register that it reaches. -/
theorem readIo_register
    (s : Machine δ) :
    readIoVia trap r.address .wmWord apf s =
      .ok (s.cpu.file (r.reached s.cpu.getRegisterSet))
        (s.log (.readIo r.address .wmWord)) := by
  cases r with
  | general set nr =>
      cases set <;> fin_cases nr <;> rfl
  | _ =>
      rfl

/-- A write to the window writes the register that it reaches. -/
theorem writeIo_register
    (v : Word) (s : Machine δ) :
    ∃ c, writeIoVia trap r.address .wmWord apf v s =
        .ok false { s.log (.writeIo r.address .wmWord) with cpu := c } ∧
      c.psw = s.cpu.psw ∧
      c.file =
        Function.update s.cpu.file (r.reached s.cpu.getRegisterSet) v := by
  cases r with
  | general set nr =>
      refine ⟨s.cpu.setReg05 s.cpu.getRegisterSet nr v, ?_, rfl,
        s.cpu.file_setReg05 v _ _⟩
      cases set <;> fin_cases nr <;> rfl
  | kernelSp =>
      exact ⟨_, rfl, rfl, s.cpu.file_setStackpointer v 0⟩
  | supervisorSp =>
      exact ⟨_, rfl, rfl, s.cpu.file_setStackpointer v 1⟩
  | userSp =>
      exact ⟨_, rfl, rfl, s.cpu.file_setStackpointer v 3⟩
  | pc =>
      exact ⟨_, rfl, rfl, s.cpu.file_setPC v⟩

end Access

section Runs

/-- What can be done with the registers: word reads and writes through the
window, register writes of instructions, and stores of the status word. -/
inductive RegisterStep where
  | read (r : WindowRegister) (ref : DestinationRef)
  | write (r : WindowRegister) (ref : DestinationRef) (v : Word)
  | instruction (nr : RegNr) (v : Word)
  | status (v : Word)

/-- The registers as one file, with the status word that selects from it. -/
structure Registers where
  psw : Word
  file : WindowFile

def Machine.registers (s : Machine δ) : Registers where
  psw := s.cpu.psw
  file := s.cpu.file

/-- What a step reads, and the registers after it. -/
def Registers.after (m : Registers) : RegisterStep → Option Word × Registers
  | .read r _ => (some (m.file r), m)
  | .write r _ v => (none, { m with file := Function.update m.file r v })
  | .instruction nr v =>
      (none, { m with file := WindowFile.put m.file (named m.psw nr) v })
  | .status v => (none, { m with psw := v &&& 0o174377 })

def Registers.afterAll (m : Registers) :
    List RegisterStep → List (Option Word) × Registers
  | [] => ([], m)
  | step :: steps =>
      let (value, m) := m.after step
      let (values, m) := m.afterAll steps
      (value :: values, m)

namespace RegisterStep

/-- An access goes to the address of its register. -/
def Reaches (s : Machine δ) : RegisterStep → Prop
  | read r ref => ref.Reaches s r.address
  | write r ref _ => ref.Reaches s r.address
  | _ => True

/-- An access goes to a register of the selected set, or does not show the
difference. -/
def Right (m : Registers) : RegisterStep → Prop
  | read r _ => m.file (r.reached (setOf m.psw)) = m.file r
  | write r _ v =>
      r.reached (setOf m.psw) = r ∨
        (m.file r = v ∧ m.file (r.reached (setOf m.psw)) = v)
  | _ => True

/-- Each of the steps is right in the state in which it is taken. -/
def AllRight (m : Registers) : List RegisterStep → Prop
  | [] => True
  | step :: steps => step.Right m ∧ AllRight (m.after step).2 steps

/-- The two registers in question hold the value already. -/
theorem update_eq_iff
    (file : WindowFile) (r r' : WindowRegister) (v : Word) :
    Function.update file r' v = Function.update file r v ↔
      r' = r ∨ (file r = v ∧ file r' = v) := by
  constructor
  · intro h
    by_cases hr : r' = r
    · exact .inl hr
    · have hat := congrFun h r
      have hat' := congrFun h r'
      rw [Function.update_self, Function.update_of_ne (Ne.symm hr)] at hat
      rw [Function.update_self, Function.update_of_ne hr] at hat'
      exact .inr ⟨hat, hat'.symm⟩
  · rintro (rfl | ⟨hr, hr'⟩)
    · rfl
    · rw [← hr, Function.update_eq_self, hr, ← hr', Function.update_eq_self]

variable [UnibusDevices δ]

def perform : RegisterStep → Exec δ (Option Word)
  | read _ ref => do
      let v ← ref.read .wmWord
      pure (some v)
  | write _ ref v => do
      discard (ref.write .wmWord v)
      pure none
  | instruction nr v => do
      setRegister nr v
      pure none
  | status v => do
      modifyCpu fun c => c.setPSW v false
      pure none

/-- One step.  It does to the file what it is meant to do if and only if it is
right. -/
theorem perform_iff
    (step : RegisterStep) {s : Machine δ} (h : step.Reaches s) :
    ∃ value t, step.perform s = .ok value t ∧ t.mmu = s.mmu ∧ t.ram = s.ram ∧
      ((value, t.registers) = s.registers.after step ↔
        step.Right s.registers) := by
  cases step with
  | read r ref =>
      have hread := ref.read_io h (readIo_register r _ s)
      refine ⟨_, _, bind_of_ok hread, rfl, rfl, ?_⟩
      change (some _, s.registers) = (some _, s.registers) ↔ _
      rw [Prod.mk.injEq, Option.some.injEq]
      exact and_iff_left rfl
  | write r ref v =>
      obtain ⟨c, hwrite, hpsw, hfile⟩ := writeIo_register r
        (activePageField ref.addr) v s
      have hrun : (discard (ref.write .wmWord v) : Exec δ Unit) s = _ :=
        bind_of_ok (ref.write_io h hwrite)
      refine ⟨_, _, bind_of_ok hrun, rfl, rfl, ?_⟩
      change (none, Registers.mk c.psw c.file) =
        (none, Registers.mk s.cpu.psw (Function.update s.cpu.file r v)) ↔ _
      rw [hpsw, hfile, Prod.mk.injEq, Registers.mk.injEq, eq_self_iff_true,
        eq_self_iff_true, true_and, true_and]
      exact update_eq_iff _ _ _ _
  | instruction nr v =>
      refine ⟨_, _, rfl, rfl, rfl, iff_of_true ?_ trivial⟩
      change (none, Registers.mk (s.cpu.setRegister nr v).psw
        (s.cpu.setRegister nr v).file) = _
      rw [Cpu.setRegister_psw, Cpu.file_setRegister]
      rfl
  | status v =>
      refine ⟨_, _, rfl, rfl, rfl, iff_of_true ?_ trivial⟩
      rfl

def performSteps : List RegisterStep → Exec δ (List (Option Word))
  | [] => pure []
  | step :: steps => do
      let value ← step.perform
      let values ← performSteps steps
      pure (value :: values)

/-- A run of right steps works on the file. -/
theorem performSteps_apply
    {steps : List RegisterStep} {s : Machine δ}
    (hreach : ∀ step ∈ steps, step.Reaches s)
    (hright : AllRight s.registers steps) :
    ∃ values t, performSteps steps s = .ok values t ∧
      (values, t.registers) = s.registers.afterAll steps := by
  induction steps generalizing s with
  | nil =>
      exact ⟨[], s, rfl, rfl⟩
  | cons step steps ih =>
      obtain ⟨hstep, hrest⟩ := hright
      obtain ⟨value, t, hrun, hmmu, hram, hiff⟩ :=
        step.perform_iff (hreach step List.mem_cons_self)
      have hafter := hiff.mpr hstep
      have hreach' : ∀ step ∈ steps, step.Reaches t := by
        intro step' hmem
        have htarget : ∀ runMode a space,
            t.target runMode a space = s.target runMode a space := by
          intro runMode a space
          unfold Machine.target
          rw [hmmu, hram]
        have hs := hreach step' (List.mem_cons_of_mem _ hmem)
        cases step' with
        | read r ref =>
            exact (htarget _ _ _).trans hs
        | write r ref v =>
            exact (htarget _ _ _).trans hs
        | _ =>
            trivial
      rw [← hafter] at hrest
      obtain ⟨values, u, hruns, hvalues⟩ := ih hreach' hrest
      refine ⟨value :: values, u, ?_, ?_⟩
      · exact (bind_of_ok hrun).trans (bind_of_ok hruns)
      · unfold Registers.afterAll
        rw [← hafter]
        dsimp only
        rw [← hvalues]

end RegisterStep

open RegisterStep

/-- A run of accesses through the window, register writes of instructions and
stores of the status word, in which each access to R0 to R5 is one to the
selected set or shows no difference, reads and leaves what one register file
would.  A single step does so if and only if it is of this kind. -/
theorem register_window_is_file
    [UnibusDevices δ] {steps : List RegisterStep} {s : Machine δ}
    (hreach : ∀ step ∈ steps, step.Reaches s) :
    (AllRight s.registers steps →
      ∃ values t, performSteps steps s = .ok values t ∧
        (values, t.registers) = s.registers.afterAll steps) ∧
    ∀ step ∈ steps, ∃ value t, step.perform s = .ok value t ∧
      ((value, t.registers) = s.registers.after step ↔
        step.Right s.registers) := by
  refine ⟨performSteps_apply hreach, fun step hmem => ?_⟩
  obtain ⟨value, t, hrun, -, -, hiff⟩ := step.perform_iff (hreach step hmem)
  exact ⟨value, t, hrun, hiff⟩

/-- Register set 1 is selected, R0 of set 1 is written, and read back. -/
theorem second_set_written :
    ∃ values t,
      performSteps
        [.status 0o4000, .write (.general true 0) (directRef 0o177710) 5,
          .instruction 1 7, .read (.general true 1) (directRef 0o177711),
          .read (.general true 0) (directRef 0o177710)]
        (bareMachine 0o20000 []) = .ok values t ∧
      values = [none, none, none, some 7, some 5] := by
  have hreach :
      ∀ step ∈
        [RegisterStep.status 0o4000,
          .write (.general true 0) (directRef 0o177710) 5,
          .instruction 1 7, .read (.general true 1) (directRef 0o177711),
          .read (.general true 0) (directRef 0o177710)],
        step.Reaches (bareMachine 0o20000 [] : Machine LineClock) := by
    intro step hmem
    simp only [List.mem_cons, List.not_mem_nil, or_false] at hmem
    rcases hmem with rfl | rfl | rfl | rfl | rfl
    · trivial
    · rfl
    · trivial
    · rfl
    · rfl
  obtain ⟨values, t, hrun, hvalues⟩ :=
    (register_window_is_file hreach).1
      ⟨trivial, .inl rfl, trivial, rfl, rfl, trivial⟩
  refine ⟨values, t, hrun, ?_⟩
  exact congrArg Prod.fst hvalues

/-- With set 1 selected, a write to the address of R0 of set 0 changes R0 of
set 1, and not the one it is meant for. -/
theorem first_set_missed :
    ∃ t : Machine LineClock,
      (RegisterStep.write (.general false 0) (directRef 0o177700) 5).perform
        ((bareMachine 0o20000 []).withPSW fun c => c.setPSW 0o4000 false) =
          .ok none t ∧
      t.cpu.file (.general false 0) = 0 ∧ t.cpu.file (.general true 0) = 5 :=
  ⟨_, rfl, rfl, rfl⟩

end Runs

end KekPdp11
