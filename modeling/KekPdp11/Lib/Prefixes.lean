import Mathlib.Data.List.Induction

/-!
# Runs by their prefixes

The states of a run are the states after its prefixes, and its steps are the
prefixes with their last element.  Two rules turn a statement about all of them
into one about the single steps.
-/

namespace Prefixes

variable {σ α : Type*}

/-- What one step decides about a prefix, the steps decide about the run. -/
theorem forall_prefix_iff
    {P : List α → Prop} {Q : List α → α → Prop}
    (hstep : ∀ acts a, P acts → (P (acts ++ [a]) ↔ Q acts a))
    (acts : List α) :
    (∀ before, before <+: acts → P before) ↔
      P [] ∧ ∀ before a, before ++ [a] <+: acts → Q before a := by
  constructor
  · intro h
    refine ⟨h [] List.nil_prefix, fun before a hrun => ?_⟩
    have hbefore := h before ((List.prefix_append before [a]).trans hrun)
    exact (hstep before a hbefore).mp (h _ hrun)
  · rintro ⟨hnil, hall⟩ before hrun
    induction before using List.reverseRecOn with
    | nil =>
        exact hnil
    | append_singleton before a ih =>
        have hbefore := ih ((List.prefix_append before [a]).trans hrun)
        exact (hstep before a hbefore).mpr (hall before a hrun)

/-- All steps of the run are of a kind. -/
def Steps (step : σ → α → σ) (kind : σ → α → Prop) (s : σ) (acts : List α) :
    Prop :=
  ∀ before a, before ++ [a] <+: acts → kind (before.foldl step s) a

theorem steps_nil
    (step : σ → α → σ) (kind : σ → α → Prop) (s : σ) :
    Steps step kind s [] := by
  intro before a hrun
  have hlength := hrun.length_le
  simp at hlength

theorem steps_concat_iff
    {step : σ → α → σ} {kind : σ → α → Prop} {s : σ} {acts : List α} {a : α} :
    Steps step kind s (acts ++ [a]) ↔
      Steps step kind s acts ∧ kind (acts.foldl step s) a := by
  constructor
  · intro h
    refine ⟨fun before b hrun => ?_, h acts a (List.prefix_refl _)⟩
    exact h before b (hrun.trans (List.prefix_append acts [a]))
  · rintro ⟨hbefore, hlast⟩ before b hrun
    rcases List.prefix_concat_iff.mp hrun with heq | hrun
    · obtain ⟨rfl, hb⟩ := List.append_inj' heq rfl
      cases hb
      exact hlast
    · exact hbefore before b hrun

/-- Two kinds of steps that agree under an invariant, which steps of the first
kind keep, agree on runs. -/
theorem steps_iff
    {step : σ → α → σ} {inv : σ → Prop} {good careful : σ → α → Prop}
    (hiff : ∀ s a, inv s → (good s a ↔ careful s a))
    (hkeep : ∀ s a, inv s → good s a → inv (step s a))
    {s : σ} (hs : inv s) (acts : List α) :
    Steps step good s acts ↔ Steps step careful s acts := by
  have hboth : (Steps step good s acts ↔ Steps step careful s acts) ∧
      (Steps step good s acts → inv (acts.foldl step s)) := by
    induction acts using List.reverseRecOn with
    | nil =>
        exact ⟨iff_of_true (steps_nil step good s) (steps_nil step careful s),
          fun _ => hs⟩
    | append_singleton acts a ih =>
        rw [steps_concat_iff, steps_concat_iff, List.foldl_append, ← ih.1]
        constructor
        · exact and_congr_right fun hgood => hiff _ a (ih.2 hgood)
        · exact fun hgood => hkeep _ a (ih.2 hgood.1) hgood.2
  exact hboth.1

end Prefixes
