import KekPdp11.Watching
import KekPdp11.LineClock

/-!
# KEK PDP-11: the privilege fields of the status word

Outside kernel mode the current and the previous mode can only grow towards
user mode, and register set and priority stay, as long as no trap is entered
and the status word is not written over the bus.  The reserved bits of the
status word are zero in every state of a run that starts with a reset.

Each setter of the status word has one lemma that says what it does to these
fields.  Both results then follow from the rules of the module Watching.
-/

namespace KekPdp11

open StateExcept

variable {δ : Type}

/-- Bits 8 to 10 of the status word. -/
def reservedBits : Word := 0o3400

/-- What a step without trap and status word write keeps. -/
structure PrivilegeKept (c c' : Cpu) : Prop where
  mode : c.getPSWRunmode ≤ c'.getPSWRunmode
  previousMode : c.getPSWPrevRunmode ≤ c'.getPSWPrevRunmode
  registerSet : c'.getRegisterSet = c.getRegisterSet
  priority : c'.getPSWspl = c.getPSWspl
  reserved : c.psw &&& reservedBits = 0 → c'.psw &&& reservedBits = 0

theorem PrivilegeKept.of_psw_eq
    {c c' : Cpu} (h : c'.psw = c.psw) :
    PrivilegeKept c c' := by
  constructor
  · simp only [Cpu.getPSWRunmode, h, le_refl]
  · simp only [Cpu.getPSWPrevRunmode, h, le_refl]
  · simp only [Cpu.getRegisterSet, h]
  · simp only [Cpu.getPSWspl, h]
  · rw [h]
    exact id

theorem PrivilegeKept.trans
    {a b c : Cpu} (hab : PrivilegeKept a b) (hbc : PrivilegeKept b c) :
    PrivilegeKept a c where
  mode := hab.mode.trans hbc.mode
  previousMode := hab.previousMode.trans hbc.previousMode
  registerSet := hbc.registerSet.trans hab.registerSet
  priority := hbc.priority.trans hab.priority
  reserved h := hbc.reserved (hab.reserved h)

section Setters

/-- The privilege fields are all among the upper twelve bits. -/
theorem PrivilegeKept.of_upper
    {c c' : Cpu} (h : c'.psw &&& 0xfff0 = c.psw &&& 0xfff0) :
    PrivilegeKept c c' := by
  have hmode : ∀ x : Word, x >>> 14 = (x &&& 0xfff0) >>> 14 := by
    intro x
    ext i hi
    interval_cases i <;> simp
  have hprevious : ∀ x : Word,
      (x >>> 12) &&& (3 : Word) = ((x &&& 0xfff0) >>> 12) &&& (3 : Word) := by
    intro x
    ext i hi
    interval_cases i <;> simp
  have hset : ∀ x : Word, x &&& 0o4000 = (x &&& 0xfff0) &&& 0o4000 := by
    intro x
    ext i hi
    interval_cases i <;> simp
  have hpriority : ∀ x : Word,
      (x >>> 5) &&& (7 : Word) = ((x &&& 0xfff0) >>> 5) &&& (7 : Word) := by
    intro x
    ext i hi
    interval_cases i <;> simp
  have hreserved : ∀ x : Word,
      x &&& reservedBits = (x &&& 0xfff0) &&& reservedBits := by
    intro x
    ext i hi
    interval_cases i <;> simp [reservedBits]
  constructor
  · simp only [Cpu.getPSWRunmode, hmode c.psw, hmode c'.psw, h, le_refl]
  · simp only [Cpu.getPSWPrevRunmode, hprevious c.psw, hprevious c'.psw, h,
      le_refl]
  · simp only [Cpu.getRegisterSet, hset c.psw, hset c'.psw, h]
  · simp only [Cpu.getPSWspl, hpriority c.psw, hpriority c'.psw, h]
  · rw [hreserved c.psw, hreserved c'.psw, h]
    exact id

theorem privilegeKept_setBitPSW
    (c : Cpu) (bit : Nat) (v : Bool) (hbit : bit < 4) :
    PrivilegeKept c (c.setBitPSW bit v) := by
  apply PrivilegeKept.of_upper
  ext i hi
  interval_cases bit <;> interval_cases i <;> simp [Cpu.setBitPSW]

/-- The greater of two mode fields still is a mode field. -/
theorem max_mode
    (x y : Word) :
    max (x >>> 14) (y >>> 14) = max (x >>> 14) (y >>> 14) &&& 3 := by
  rcases max_choice (x >>> 14) (y >>> 14) with h | h <;> rw [h] <;>
    ext i hi <;> interval_cases i <;> simp

theorem max_previousMode
    (x y : Word) :
    max ((x >>> 12) &&& 3) ((y >>> 12) &&& 3) =
      max ((x >>> 12) &&& 3) ((y >>> 12) &&& 3) &&& 3 := by
  rcases max_choice ((x >>> 12) &&& 3) ((y >>> 12) &&& 3) with h | h <;>
    rw [h] <;> ext i hi <;> interval_cases i <;> simp

/-- The status word that the limited form of setPSW assembles. -/
def limitedPSW (old v mode previousMode : Word) : Word :=
  (old &&& 0o004340) ||| (v &&& 0o37) ||| ((mode &&& 3) <<< 14) |||
    ((previousMode &&& 3) <<< 12)

theorem setPSW_limited
    (c : Cpu) (v : Word) :
    (c.setPSW v true).psw =
      limitedPSW c.psw v (max (v >>> 14) (c.psw >>> 14))
        (max ((v >>> 12) &&& 3) ((c.psw >>> 12) &&& 3)) := by
  unfold limitedPSW
  rw [← max_mode, ← max_previousMode]
  rfl

theorem limitedPSW_mode
    (old v mode previousMode : Word) :
    limitedPSW old v mode previousMode >>> 14 = mode &&& 3 := by
  ext i hi
  interval_cases i <;> simp [limitedPSW]

theorem limitedPSW_previousMode
    (old v mode previousMode : Word) :
    (limitedPSW old v mode previousMode >>> 12) &&& 3 = previousMode &&& 3 := by
  ext i hi
  interval_cases i <;> simp [limitedPSW]

/-- The two mode fields as words of two bits. -/
theorem setWidth_le
    {x y : Word} (h : x ≤ y) (hy : y = y &&& 3) :
    x.setWidth 2 ≤ y.setWidth 2 := by
  have hlt : y.toNat < 4 := by
    rw [hy, BitVec.toNat_and]
    exact Nat.lt_of_le_of_lt Nat.and_le_right (by decide)
  rw [BitVec.le_def] at h ⊢
  rw [BitVec.toNat_setWidth, BitVec.toNat_setWidth, Nat.mod_eq_of_lt hlt,
    Nat.mod_eq_of_lt (by omega)]
  exact h

/-- The limited form is what RTI and RTT use outside kernel mode. -/
theorem privilegeKept_setPSW
    (c : Cpu) (v : Word) :
    PrivilegeKept c (c.setPSW v true) where
  mode := by
    unfold Cpu.getPSWRunmode
    rw [setPSW_limited, limitedPSW_mode, ← max_mode]
    exact setWidth_le (le_max_right _ _) (max_mode _ _)
  previousMode := by
    unfold Cpu.getPSWPrevRunmode
    rw [setPSW_limited, limitedPSW_previousMode, ← max_previousMode]
    exact setWidth_le (le_max_right _ _) (max_previousMode _ _)
  registerSet := by
    have h : (c.setPSW v true).psw &&& 0o4000 = c.psw &&& 0o4000 := by
      rw [setPSW_limited]
      ext i hi
      interval_cases i <;> simp [limitedPSW]
    simp only [Cpu.getRegisterSet, h]
  priority := by
    have h : ((c.setPSW v true).psw >>> 5) &&& (7 : Word) =
        (c.psw >>> 5) &&& (7 : Word) := by
      rw [setPSW_limited]
      ext i hi
      interval_cases i <;> simp [limitedPSW]
    simp only [Cpu.getPSWspl, h]
  reserved _ := by
    rw [setPSW_limited]
    ext i hi
    interval_cases i <;> simp [limitedPSW, reservedBits]

end Setters

section Steps

/-- A trap or a write of the status word over the bus. -/
def raisesPrivilege : Event → Prop
  | .trapEntry _ _ => True
  | .writeIo a wordMode => addressesPSW a wordMode
  | _ => False

/-- Since `s₀` nothing was logged that may raise the privilege, or the
privilege fields have been kept. -/
def Confined (s₀ s : Machine δ) : Prop :=
  AppendLog.UnlessLogged Machine.trace raisesPrivilege
    (fun s s' => PrivilegeKept s.cpu s'.cpu) s₀ s

theorem Confined.next
    {s₀ s s' : Machine δ} (h : Confined s₀ s)
    (hnext : Confined s s') :
    Confined s₀ s' :=
  AppendLog.UnlessLogged.trans (fun hst htu => hst.trans htu) h hnext

/-- The next state logs one entry and keeps the status word unless that entry
may raise the privilege. -/
theorem Confined.entry
    {s₀ s s' : Machine δ} {e : Event} (h : Confined s₀ s)
    (htrace : s'.trace = e :: s.trace)
    (hkept : ¬ raisesPrivilege e → PrivilegeKept s.cpu s'.cpu) :
    Confined s₀ s' :=
  h.next (AppendLog.UnlessLogged.entry htrace hkept)

theorem Confined.silent
    {s₀ s s' : Machine δ} (h : Confined s₀ s)
    (htrace : s'.trace = s.trace)
    (hkept : PrivilegeKept s.cpu s'.cpu) :
    Confined s₀ s' :=
  h.next (AppendLog.UnlessLogged.silent htrace hkept)

/-- From a state that is not in kernel mode one has not come to kernel mode
quietly. -/
theorem Confined.of_not_kernel
    {s₀ s s' : Machine δ} (h : Confined s₀ s)
    (hmode : s₀.cpu.getPSWRunmode ≠ 0)
    (htrace : s'.trace = s.trace)
    (hkept : s.cpu.getPSWRunmode ≠ 0 → PrivilegeKept s.cpu s'.cpu) :
    Confined s₀ s' := by
  obtain ⟨new, hnew, hquiet⟩ := h
  refine ⟨new, htrace.trans hnew, fun hq => ?_⟩
  have hs := hquiet hq
  refine hs.trans (hkept ?_)
  intro hzero
  have hle := hs.mode
  rw [hzero] at hle
  exact hmode (BitVec.le_zero_iff.mp hle)

theorem confined_references
    (s₀ : Machine δ) :
    ReferenceRules (Confined s₀) where
  frame _ _ hw hs :=
    hs.silent (congrArg Watched.trace hw)
      (.of_psw_eq (congrArg Watched.psw hw))
  logReadIo _ _ _ hs := hs.entry rfl fun _ => .of_psw_eq rfl
  logWriteIo _ _ _ hs := hs.entry rfl fun _ => .of_psw_eq rfl
  writePSW _ _ _ _ ha hs := hs.entry rfl fun hquiet => absurd ha hquiet
  writeMMR0 _ _ _ _ _ hs := hs.entry rfl fun _ => .of_psw_eq rfl
  fault _ _ _ hs := hs.entry rfl fun _ => .of_psw_eq rfl
  odd _ _ hs := hs.entry rfl fun _ => .of_psw_eq rfl
  halt _ hs := hs.silent rfl (.of_psw_eq rfl)

theorem confined_execution
    {s₀ : Machine δ} (hmode : s₀.cpu.getPSWRunmode ≠ 0) :
    ExecutionRules (Confined s₀) where
  flag _ bit v hbit hs :=
    hs.silent rfl (privilegeKept_setBitPSW _ bit v hbit)
  spl _ _ hkernel hs := hs.of_not_kernel hmode rfl fun h => absurd hkernel h
  rti s v hs := hs.of_not_kernel hmode rfl fun h => by
    rw [decide_eq_true h]
    exact privilegeKept_setPSW _ v
  record _ _ _ hs := hs.silent rfl (.of_psw_eq rfl)
  start _ _ hs := hs.silent rfl (.of_psw_eq rfl)
  reset s s' hw hs :=
    hs.entry (congrArg Watched.trace hw) fun _ =>
      .of_psw_eq (congrArg Watched.psw hw)
  interrupt _ _ _ hs := hs.entry rfl fun _ => .of_psw_eq rfl

variable [UnibusDevices δ]

/-- A trap logs its entry, and nothing is promised after that. -/
theorem confined_trap
    (s₀ : Machine δ) (vector : Word) (newIpl : Option Level) :
    Guards (Confined s₀) (trap vector newIpl) := by
  intro s hs
  obtain ⟨t, ht⟩ := trap_returns vector newIpl s
  rw [ht]
  refine hs.next (AppendLog.UnlessLogged.of_loud rfl ?_ (trap_later ht).extend)
  trivial

/-- One step from a state outside kernel mode. -/
theorem confined_step
    {s₀ : Machine δ} (hmode : s₀.cpu.getPSWRunmode ≠ 0) :
    Guards (Confined s₀) (step : Exec δ Bool) :=
  step_guards (confined_references s₀) (confined_execution hmode)
    ((confined_references s₀).referring (confined_trap s₀)
      fun _ _ hs => hs.entry rfl fun _ => .of_psw_eq rfl)
    (confined_trap s₀)

end Steps

section Runs

/-- The reserved bits of the status word are zero. -/
def ReservedClear (s : Machine δ) : Prop :=
  s.cpu.psw &&& reservedBits = 0

theorem reservedClear_setPSW
    (c : Cpu) (v : Word) (limited : Bool) :
    (c.setPSW v limited).psw &&& reservedBits = 0 := by
  cases limited with
  | true =>
      rw [setPSW_limited]
      ext i hi
      interval_cases i <;> simp [limitedPSW, reservedBits]
  | false =>
      change (v &&& 0o174377) &&& reservedBits = 0
      ext i hi
      interval_cases i <;> simp [reservedBits]

theorem reservedClear_and
    {x : Word} (mask : Word) (h : x &&& reservedBits = 0) :
    (x &&& mask) &&& reservedBits = 0 := by
  rw [BitVec.and_assoc, BitVec.and_comm mask, ← BitVec.and_assoc, h]
  exact BitVec.zero_and

theorem reservedClear_setPSWspl
    (c : Cpu) (v : Level) :
    (c.setPSWspl v).psw &&& reservedBits = c.psw &&& reservedBits := by
  ext i hi
  interval_cases i <;> simp [Cpu.setPSWspl, reservedBits]

theorem reservedClear_rules :
    StepRules (ReservedClear (δ := δ)) where
  frame s s' hw hs := by
    have h : s'.cpu.psw = s.cpu.psw := congrArg Watched.psw hw
    unfold ReservedClear
    rw [h]
    exact hs
  logReadIo _ _ _ hs := hs
  logWriteIo _ _ _ hs := hs
  writePSW _ _ _ _ _ _ := reservedClear_setPSW _ _ _
  writeMMR0 _ _ _ _ _ hs := hs
  fault _ _ _ hs := hs
  odd _ _ hs := hs
  halt _ hs := hs
  entry _ _ _ hs := hs
  kernel _ hs := reservedClear_and _ hs
  load _ _ _ := reservedClear_setPSW _ _ _
  flag _ bit v hbit hs := (privilegeKept_setBitPSW _ bit v hbit).reserved hs
  spl _ _ _ hs := (reservedClear_setPSWspl _ _).trans hs
  rti _ _ _ := reservedClear_setPSW _ _ _
  record _ _ _ hs := hs
  start _ _ hs := hs
  reset s s' hw hs := by
    have h : s'.cpu.psw = s.cpu.psw := congrArg Watched.psw hw
    unfold ReservedClear
    rw [h]
    exact hs
  interrupt _ _ _ hs := hs
  aborted _ _ hs := hs

variable [UnibusDevices δ]

theorem reservedClear_reaches
    {s t : Running δ} (h : Reaches s t) (hs : ReservedClear s.machine) :
    ReservedClear t.machine := by
  refine h.invariant hs (fun u hu => ?_) fun u u' hother hu => ?_
  · exact guards_final reservedClear_rules.step hu
  · cases hother with
    | devices devices =>
        exact hu
    | memory m =>
        exact hu
    | interrupts requests =>
        unfold ReservedClear
        rw [Cpu.applyRequests_psw]
        exact hu

/-- Outside kernel mode a step without trap and without a write of the status
word over the bus keeps the privilege fields, and in every run from a reset
the reserved bits are zero. -/
theorem privilege_never_rises_quietly :
    (∀ s : Machine δ, s.cpu.getPSWRunmode ≠ 0 →
      AppendLog.Quiet Machine.trace raisesPrivilege s (final (step s)) →
      PrivilegeKept s.cpu (final (step s)).cpu) ∧
    (∀ (s : Machine δ) (t : Running δ),
      Reaches ⟨{ s with cpu := s.cpu.reset }, false⟩ t →
      t.machine.cpu.psw &&& reservedBits = 0) := by
  constructor
  · intro s hmode hquiet
    have hs : Confined s s :=
      AppendLog.UnlessLogged.refl (fun _ => .of_psw_eq rfl) s
    exact (guards_final (confined_step hmode) hs).of_quiet hquiet
  · intro s t h
    exact reservedClear_reaches h BitVec.zero_and

end Runs

section Examples

/-- A NOP at 01000 with the given status word. -/
def nopWith (psw : Word) : Machine LineClock :=
  let s := bareMachine 0o20000 [(0o1000, 0o240)]
  { s with cpu := { s.cpu with pc := 0o1000, psw := psw } }

theorem nopWith_quiet
    (psw : Word) (loud : Event → Prop)
    (h : (final (step (nopWith psw))).trace.length = 0) :
    AppendLog.Quiet Machine.trace loud (nopWith psw)
      (final (step (nopWith psw))) :=
  AppendLog.Quiet.of_length_eq (step_extends _) h

theorem privilege_never_rises_quietly_nop :
    PrivilegeKept (nopWith 0o170000).cpu
      (final (step (nopWith 0o170000))).cpu :=
  privilege_never_rises_quietly.1 (nopWith 0o170000) (by decide)
    (nopWith_quiet _ _ (by decide +kernel))

/-- Reserved bits that are set stay set: only setPSW clears them. -/
theorem reserved_bits_stay_set :
    (nopWith 0o170400).cpu.getPSWRunmode ≠ 0 ∧
      AppendLog.Quiet Machine.trace raisesPrivilege (nopWith 0o170400)
        (final (step (nopWith 0o170400))) ∧
      ¬ (final (step (nopWith 0o170400))).cpu.psw &&& reservedBits = 0 :=
  ⟨by decide, nopWith_quiet _ _ (by decide +kernel), by decide +kernel⟩

end Examples

end KekPdp11
