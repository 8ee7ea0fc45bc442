import Mathlib.Logic.Basic

/-!
# Properties of all states of a run

A run takes a list of steps from a state.  `Throughout` says that a property
holds in all its states, `EachStep` that each of its steps meets a condition in
the state in which it is taken.

When the condition says exactly which steps preserve the property, the one is
equivalent to the other (`throughout_iff`).
-/

namespace Runs

variable {σ α : Type} (step : σ → α → σ)

/-- The property holds in every state of the run, the first and the last one
included. -/
def Throughout
    (P : σ → Prop) : σ → List α → Prop
  | s, [] => P s
  | s, a :: acts => P s ∧ Throughout P (step s a) acts

/-- Every step meets the condition in the state in which it is taken. -/
def EachStep
    (fits : σ → α → Prop) : σ → List α → Prop
  | _, [] => True
  | s, a :: acts => fits s a ∧ EachStep fits (step s a) acts

variable {step}
variable {P : σ → Prop} {fits : σ → α → Prop}

theorem Throughout.first
    {s : σ} {acts : List α} (h : Throughout step P s acts) :
    P s := by
  cases acts with
  | nil =>
      exact h
  | cons a acts =>
      exact h.1

theorem throughout_iff
    (hstep : ∀ s a, P s → (P (step s a) ↔ fits s a))
    {s : σ} (hs : P s) (acts : List α) :
    Throughout step P s acts ↔ EachStep step fits s acts := by
  induction acts generalizing s with
  | nil =>
      exact iff_of_true hs trivial
  | cons a acts ih =>
      constructor
      · rintro ⟨-, hrest⟩
        have hnext := hrest.first
        exact ⟨(hstep s a hs).mp hnext, (ih hnext).mp hrest⟩
      · rintro ⟨hfits, hrest⟩
        have hnext := (hstep s a hs).mpr hfits
        exact ⟨hs, (ih hnext).mpr hrest⟩

/-- Conditions that say the same in every state that a run can be in. -/
theorem eachStep_congr
    {I : σ → Prop} {fits' : σ → α → Prop}
    (hkeeps : ∀ s a, I s → I (step s a))
    (hfits : ∀ s a, I s → (fits s a ↔ fits' s a))
    {s : σ} (hs : I s) (acts : List α) :
    EachStep step fits s acts ↔ EachStep step fits' s acts := by
  induction acts generalizing s with
  | nil =>
      exact Iff.rfl
  | cons a acts ih =>
      exact and_congr (hfits s a hs) (ih (hkeeps s a hs))

end Runs
