import KekPdp11.Serving

/-!
# KEK PDP-11: the condition codes

The four low bits of the status word as one value, and what the setters of
the status word and the register writes do to it.  The other bits of the
status word, which select the mode and the register set, are not theirs.
-/

namespace KekPdp11

open StateExcept

variable {δ : Type}

/-- N, Z, V and C of the status word. -/
structure ConditionCodes where
  n : Bool
  z : Bool
  v : Bool
  c : Bool
deriving DecidableEq, Repr

namespace Cpu

variable (c : Cpu)

def conditionCodes : ConditionCodes where
  n := c.getPSWn
  z := c.getPSWz
  v := c.getPSWv
  c := c.getPSWc

section Bits

theorem and_one_ne_zero
    (x : Word) :
    x &&& 1 ≠ 0 ↔ x.getLsbD 0 = true := by
  rw [show x &&& 1 = _ from BitVec.and_one_eq_setWidth_ofBool_getLsbD]
  cases x.getLsbD 0 <;> decide

theorem getBitPSW_eq
    (bit : Nat) :
    c.getBitPSW bit = c.psw.getLsbD bit := by
  unfold getBitPSW
  rw [Bool.eq_iff_iff, decide_eq_true_iff, and_one_ne_zero,
    BitVec.getLsbD_ushiftRight, Nat.add_zero]

theorem getBitPSW_setBitPSW
    {bit : Nat} (bit' : Nat) (v : Bool) (hbit : bit < 16) :
    (c.setBitPSW bit v).getBitPSW bit' =
      if bit' = bit then v else c.getBitPSW bit' := by
  rw [getBitPSW_eq, getBitPSW_eq]
  rcases lt_trichotomy bit' bit with h | rfl | h
  · have hbit' : bit' < 16 := by omega
    simp [setBitPSW, h, h.ne, hbit']
  · simp [setBitPSW, hbit]
  · have hle : ¬ bit' < bit := by omega
    have hsub : ¬ bit' - bit = 0 := by omega
    simp [setBitPSW, h.ne', hle, hsub]
    exact fun h' => BitVec.lt_of_getLsbD h'

/-- A condition code is not among the upper twelve bits. -/
theorem setBitPSW_upper
    {bit : Nat} (v : Bool) (hbit : bit < 4) :
    (c.setBitPSW bit v).psw &&& 0xfff0 = c.psw &&& 0xfff0 := by
  ext i hi
  interval_cases bit <;> interval_cases i <;> simp [setBitPSW]

end Bits

section Selectors

variable {c} {c' : Cpu}

/-- Two status words that agree on the upper twelve bits select the same mode
and the same register set. -/
theorem getPSWRunmode_of_upper
    (h : c'.psw &&& 0xfff0 = c.psw &&& 0xfff0) :
    c'.getPSWRunmode = c.getPSWRunmode := by
  have hmode : ∀ x : Word, x >>> 14 = (x &&& 0xfff0) >>> 14 := by
    intro x
    ext i hi
    interval_cases i <;> simp
  unfold getPSWRunmode
  rw [hmode c'.psw, h, ← hmode c.psw]

theorem getRegisterSet_of_upper
    (h : c'.psw &&& 0xfff0 = c.psw &&& 0xfff0) :
    c'.getRegisterSet = c.getRegisterSet := by
  have hset : ∀ x : Word, x &&& 0o4000 = (x &&& 0xfff0) &&& 0o4000 := by
    intro x
    ext i hi
    interval_cases i <;> simp
  unfold getRegisterSet
  rw [hset c'.psw, h, ← hset c.psw]

end Selectors

/-- Nothing but condition codes has changed. -/
structure FlagsOnly (c c' : Cpu) : Prop where
  rest : c' = { c with psw := c'.psw }
  upper : c'.psw &&& 0xfff0 = c.psw &&& 0xfff0

namespace FlagsOnly

variable {c} {c' c'' : Cpu}

theorem refl
    (c : Cpu) :
    c.FlagsOnly c :=
  ⟨rfl, rfl⟩

theorem trans
    (h : c.FlagsOnly c') (h' : c'.FlagsOnly c'') :
    c.FlagsOnly c'' where
  rest := by
    rw [h'.rest, h.rest]
  upper := h'.upper.trans h.upper

theorem getRegister_eq
    (h : c.FlagsOnly c') (nr : RegNr) :
    c'.getRegister nr = c.getRegister nr := by
  have hset := getRegisterSet_of_upper h.upper
  have hmode := getPSWRunmode_of_upper h.upper
  unfold getRegister
  rw [hset, hmode, h.rest]

end FlagsOnly

theorem flagsOnly_setBitPSW
    {bit : Nat} (v : Bool) (hbit : bit < 4) :
    c.FlagsOnly (c.setBitPSW bit v) :=
  ⟨rfl, c.setBitPSW_upper v hbit⟩

/-- A register write does the same before and after a change of flags. -/
theorem FlagsOnly.setRegister
    {c c' : Cpu} (h : c.FlagsOnly c') (nr : RegNr) (value : Word) :
    (c.setRegister nr value).FlagsOnly (c'.setRegister nr value) where
  rest := by
    have hset := getRegisterSet_of_upper h.upper
    have hmode := getPSWRunmode_of_upper h.upper
    rw [setRegister_psw]
    unfold Cpu.setRegister
    rw [hset, hmode]
    split
    · conv_lhs => rw [h.rest]
      rfl
    · split
      · conv_lhs => rw [h.rest]
        rfl
      · conv_lhs => rw [h.rest]
        rfl
  upper := by
    rw [setRegister_psw, setRegister_psw]
    exact h.upper

/-- A register write is not seen by the condition codes. -/
theorem setRegister_conditionCodes
    (nr : RegNr) (value : Word) :
    (c.setRegister nr value).conditionCodes = c.conditionCodes := by
  simp only [conditionCodes, getPSWn, getPSWz, getPSWv, getPSWc, getBitPSW,
    setRegister_psw]

theorem setRegister_registerSet
    (nr : RegNr) (value : Word) :
    (c.setRegister nr value).getRegisterSet = c.getRegisterSet := by
  unfold getRegisterSet
  rw [setRegister_psw]

theorem setRegister_runmode
    (nr : RegNr) (value : Word) :
    (c.setRegister nr value).getPSWRunmode = c.getPSWRunmode := by
  unfold getPSWRunmode
  rw [setRegister_psw]

theorem getRegister_setRegister
    (nr : RegNr) (value : Word) :
    (c.setRegister nr value).getRegister nr = value := by
  unfold getRegister
  rw [setRegister_registerSet, setRegister_runmode]
  unfold setRegister
  split
  · simp [setReg05]
  · split
    · simp [setStackpointer]
    · rfl

theorem getRegister_setRegister_of_ne
    {nr nr' : RegNr} (value : Word) (hne : nr' ≠ nr) :
    (c.setRegister nr value).getRegister nr' = c.getRegister nr' := by
  have hnat : nr'.toNat ≠ nr.toNat := fun h => hne (BitVec.eq_of_toNat_eq h)
  unfold getRegister
  rw [setRegister_registerSet, setRegister_runmode]
  unfold setRegister
  by_cases hlow : nr.toNat < 6
  · rw [dif_pos hlow]
    split
    · next hlow' =>
        have hfin : (⟨nr'.toNat, hlow'⟩ : Fin 6) ≠ ⟨nr.toNat, hlow⟩ :=
          fun h => hnat (Fin.mk.inj h)
        simp [setReg05, Function.update_of_ne hfin]
    · rfl
  · rw [dif_neg hlow]
    by_cases h6 : nr = 6
    · have h6' : nr' ≠ 6 := fun h => hne (h.trans h6.symm)
      rw [if_pos h6, if_neg h6', if_neg h6']
      rfl
    · have h7 : nr'.toNat < 6 ∨ nr' = 6 := by
        have h := nr.isLt
        have h' := nr'.isLt
        have h6n : nr.toNat ≠ 6 := fun h => h6 (BitVec.eq_of_toNat_eq h)
        by_cases h6' : nr'.toNat = 6
        · exact .inr (BitVec.eq_of_toNat_eq h6')
        · exact .inl (by omega)
      rw [if_neg h6]
      rcases h7 with h7 | h7
      · rw [dif_pos h7, dif_pos h7]
        rfl
      · rw [if_pos h7, if_pos h7]
        rfl

end Cpu

/-- The same machine with another processor. -/
def Machine.withCpu (s : Machine δ) (c : Cpu) : Machine δ :=
  { s with cpu := c }

section Programs

/-- The program does nothing but give the condition codes new values. -/
def SetsCodes (f : ConditionCodes → ConditionCodes) (m : Exec δ Unit) : Prop :=
  ∀ s, ∃ c', m s = .ok () (s.withCpu c') ∧ s.cpu.FlagsOnly c' ∧
    c'.conditionCodes = f s.cpu.conditionCodes

namespace SetsCodes

variable {f g : ConditionCodes → ConditionCodes} {m m' : Exec δ Unit}

theorem nothing :
    SetsCodes id (pure () : Exec δ Unit) :=
  fun s => ⟨s.cpu, rfl, ⟨rfl, rfl⟩, rfl⟩

theorem bind
    (h : SetsCodes f m) (h' : SetsCodes g m') :
    SetsCodes (fun k => g (f k)) (do m; m') := by
  intro s
  obtain ⟨c, hm, honly, hcodes⟩ := h s
  obtain ⟨c', hm', honly', hcodes'⟩ := h' (s.withCpu c)
  refine ⟨c', ?_, honly.trans honly', ?_⟩
  · rw [bind_of_ok hm, hm']
    rfl
  · rw [hcodes']
    exact congrArg g hcodes

theorem of_setBitPSW
    {bit : Nat} {v : Bool} (hbit : bit < 4)
    (hcodes : ∀ c : Cpu,
      (c.setBitPSW bit v).conditionCodes = f c.conditionCodes) :
    SetsCodes f (modifyCpu fun c => c.setBitPSW bit v : Exec δ Unit) :=
  fun s => ⟨_, rfl, s.cpu.flagsOnly_setBitPSW v hbit, hcodes s.cpu⟩

theorem setPSWn (v : Bool) :
    SetsCodes (fun k => { k with n := v }) (setPSWn v : Exec δ Unit) :=
  of_setBitPSW (by omega) fun c => by
    simp [Cpu.conditionCodes, Cpu.getPSWn, Cpu.getPSWz, Cpu.getPSWv,
      Cpu.getPSWc, Cpu.getBitPSW_setBitPSW]

theorem setPSWz (v : Bool) :
    SetsCodes (fun k => { k with z := v }) (setPSWz v : Exec δ Unit) :=
  of_setBitPSW (by omega) fun c => by
    simp [Cpu.conditionCodes, Cpu.getPSWn, Cpu.getPSWz, Cpu.getPSWv,
      Cpu.getPSWc, Cpu.getBitPSW_setBitPSW]

theorem setPSWv (v : Bool) :
    SetsCodes (fun k => { k with v := v }) (setPSWv v : Exec δ Unit) :=
  of_setBitPSW (by omega) fun c => by
    simp [Cpu.conditionCodes, Cpu.getPSWn, Cpu.getPSWz, Cpu.getPSWv,
      Cpu.getPSWc, Cpu.getBitPSW_setBitPSW]

theorem setPSWc (v : Bool) :
    SetsCodes (fun k => { k with c := v }) (setPSWc v : Exec δ Unit) :=
  of_setBitPSW (by omega) fun c => by
    simp [Cpu.conditionCodes, Cpu.getPSWn, Cpu.getPSWz, Cpu.getPSWv,
      Cpu.getPSWc, Cpu.getBitPSW_setBitPSW]

theorem setNZ (value : Word) (wordMode : WordMode) :
    SetsCodes
      (fun k => { k with n := sign value wordMode, z := isZero value wordMode })
      (setNZ value wordMode : Exec δ Unit) :=
  (setPSWn _).bind (setPSWz _)

theorem setPSWFlagsNzv (value : Word) (wordMode : WordMode) :
    SetsCodes
      (fun k =>
        ⟨sign value wordMode, isZero value wordMode, false, k.c⟩)
      (setPSWFlagsNzv value wordMode : Exec δ Unit) :=
  (setNZ value wordMode).bind (setPSWv false)

/-- A program that first looks at a flag. -/
theorem ofCodes
    {α : Type} {view : Cpu → α} (look : ConditionCodes → α)
    (f : α → ConditionCodes → ConditionCodes) {m : α → Exec δ Unit}
    (hview : ∀ c, view c = look c.conditionCodes)
    (h : ∀ a, SetsCodes (f a) (m a)) :
    SetsCodes (fun k => f (look k) k) (cpuView view >>= m) := by
  intro s
  obtain ⟨c, hm, honly, hcodes⟩ := h (view s.cpu) s
  refine ⟨c, hm, honly, ?_⟩
  rw [hcodes, hview]

theorem setVFromNC :
    SetsCodes (fun k => { k with v := k.n ^^ k.c })
      (setVFromNC : Exec δ Unit) :=
  ofCodes (fun k => k.n) (fun n k => { k with v := n ^^ k.c }) (fun _ => rfl)
    fun n =>
      ofCodes (fun k => k.c) (fun c k => { k with v := n ^^ c })
        (fun _ => rfl) fun c => setPSWv (n ^^ c)

theorem setRotateFlags (newCarry : Bool) (temp : Word) (wordMode : WordMode) :
    SetsCodes
      (fun _ =>
        ⟨sign temp wordMode, isZero temp wordMode,
          sign temp wordMode ^^ newCarry, newCarry⟩)
      (setRotateFlags newCarry temp wordMode : Exec δ Unit) :=
  (setPSWc newCarry).bind ((setNZ temp wordMode).bind setVFromNC)

end SetsCodes

end Programs

end KekPdp11
