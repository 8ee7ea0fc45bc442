import Mathlib.Data.List.Induction

/-!
# References that are captured

A system has a target that steps replace, and perhaps a holder that captures a
reference to the target when a step makes it.

`upToDate_iff`: after a run the holder refers to the target if and only if every
replacement with a holder before it has a capture behind it.
-/

namespace Captures

variable {σ α τ : Type*}

/-- Every replacement with a holder before it has a capture behind it. -/
def UpToDate (replaces captures : α → Bool) (acts : List α) : Prop :=
  ∀ before a after, acts = before ++ a :: after → replaces a = true →
    (∃ b ∈ before, captures b = true) → ∃ b ∈ after, captures b = true

variable {replaces captures : α → Bool}

theorem upToDate_nil :
    UpToDate replaces captures [] := by
  intro before a after h
  simp at h

/-- A capture brings the holder up to date. -/
theorem upToDate_concat_of_captures
    (acts : List α) {a : α}
    (ha : captures a = true) (hne : replaces a = false) :
    UpToDate replaces captures (acts ++ [a]) := by
  intro before b after h hb _
  rcases List.eq_nil_or_concat after with rfl | ⟨after', c, rfl⟩
  · obtain ⟨-, hlast⟩ := List.append_inj' h rfl
    cases hlast
    rw [hne] at hb
    cases hb
  · have hsplit : acts ++ [a] = (before ++ b :: after') ++ [c] := by
      rw [h, List.concat_eq_append]
      simp
    obtain ⟨-, hlast⟩ := List.append_inj' hsplit rfl
    cases hlast
    exact ⟨a, by simp, ha⟩

/-- A replacement is up to date if there is no holder. -/
theorem upToDate_concat_of_replaces
    (acts : List α) {a : α}
    (ha : replaces a = true) (hne : captures a = false) :
    UpToDate replaces captures (acts ++ [a]) ↔
      ∀ b ∈ acts, captures b = false := by
  constructor
  · intro h b hb
    cases hcaptures : captures b with
    | false =>
        rfl
    | true =>
        obtain ⟨c, hc, -⟩ := h acts a [] rfl ha ⟨b, hb, hcaptures⟩
        cases hc
  · rintro hnone before b after h hb ⟨c, hc, hcaptures⟩
    have hmem : c ∈ acts ++ [a] := by
      rw [h]
      exact List.mem_append_left _ hc
    rcases List.mem_append.mp hmem with hold | hlast
    · rw [hnone c hold] at hcaptures
      cases hcaptures
    · rw [List.mem_singleton.mp hlast, hne] at hcaptures
      cases hcaptures

theorem upToDate_concat_of_neither
    (acts : List α) {a : α}
    (hreplaces : replaces a = false) (hcaptures : captures a = false) :
    UpToDate replaces captures (acts ++ [a]) ↔
      UpToDate replaces captures acts := by
  constructor
  · intro h before b after hacts hb hholder
    obtain ⟨c, hc, hcap⟩ := h before b (after ++ [a]) (by simp [hacts]) hb hholder
    rcases List.mem_append.mp hc with hafter | hlast
    · exact ⟨c, hafter, hcap⟩
    · rw [List.mem_singleton.mp hlast, hcaptures] at hcap
      cases hcap
  · intro h before b after hacts hb hholder
    rcases List.eq_nil_or_concat after with rfl | ⟨after', c, rfl⟩
    · obtain ⟨-, hlast⟩ := List.append_inj' hacts rfl
      cases hlast
      rw [hreplaces] at hb
      cases hb
    · have hsplit : acts ++ [a] = (before ++ b :: after') ++ [c] := by
        rw [hacts, List.concat_eq_append]
        simp
      obtain ⟨hbefore, -⟩ := List.append_inj' hsplit rfl
      obtain ⟨d, hd, hcap⟩ := h before b after' hbefore hb hholder
      exact ⟨d, by simp [hd], hcap⟩

/-- What steps do to the target and to the reference of the holder. -/
structure Laws (step : σ → α → σ) (target : σ → τ) (held : σ → Option τ)
    (inv : σ → Prop) (replaces captures : α → Bool) : Prop where
  keeps : ∀ s a, inv s → inv (step s a)
  captured : ∀ s a, captures a = true →
    replaces a = false ∧ held (step s a) = some (target (step s a))
  replaced : ∀ s a, inv s → replaces a = true →
    held (step s a) = held s ∧ ∀ h ∈ held s, h ≠ target (step s a)
  quiet : ∀ s a, captures a = false → replaces a = false →
    held (step s a) = held s ∧ target (step s a) = target s

variable {step : σ → α → σ} {target : σ → τ} {held : σ → Option τ}
variable {inv : σ → Prop}

/-- There is no holder if no step has made one. -/
theorem Laws.held_eq_none_iff
    (laws : Laws step target held inv replaces captures)
    {s : σ} (hs : inv s) (hnone : held s = none) (acts : List α) :
    inv (acts.foldl step s) ∧
      (held (acts.foldl step s) = none ↔ ∀ b ∈ acts, captures b = false) := by
  induction acts using List.reverseRecOn with
  | nil =>
      exact ⟨hs, iff_of_true hnone (by simp)⟩
  | append_singleton acts a ih =>
      obtain ⟨hinv, hiff⟩ := ih
      rw [List.foldl_append]
      refine ⟨laws.keeps _ a hinv, ?_⟩
      have hall : (∀ b ∈ acts ++ [a], captures b = false) ↔
          (∀ b ∈ acts, captures b = false) ∧ captures a = false := by
        simp [or_imp, forall_and]
      rw [hall, ← hiff, List.foldl_cons, List.foldl_nil]
      cases hcaptures : captures a with
      | true =>
          rw [(laws.captured _ a hcaptures).2]
          simp
      | false =>
          have hsame : held (step (acts.foldl step s) a) =
              held (acts.foldl step s) := by
            cases hreplaces : replaces a with
            | true =>
                exact (laws.replaced _ a hinv hreplaces).1
            | false =>
                exact (laws.quiet _ a hcaptures hreplaces).1
          rw [hsame]
          exact (and_iff_left rfl).symm

/-- The holder refers to the target if and only if it is up to date. -/
theorem Laws.upToDate_iff
    (laws : Laws step target held inv replaces captures)
    {s : σ} (hs : inv s) (hnone : held s = none) (acts : List α) :
    (∀ h ∈ held (acts.foldl step s), h = target (acts.foldl step s)) ↔
      UpToDate replaces captures acts := by
  induction acts using List.reverseRecOn with
  | nil =>
      refine iff_of_true ?_ upToDate_nil
      intro h hh
      change h ∈ held s at hh
      rw [hnone] at hh
      cases hh
  | append_singleton acts a ih =>
      obtain ⟨hinv, hholder⟩ := laws.held_eq_none_iff hs hnone acts
      rw [List.foldl_append, List.foldl_cons, List.foldl_nil]
      cases hcaptures : captures a with
      | true =>
          obtain ⟨hne, hheld⟩ := laws.captured (acts.foldl step s) a hcaptures
          refine iff_of_true ?_ (upToDate_concat_of_captures acts hcaptures hne)
          intro h hh
          rw [hheld] at hh
          exact (Option.mem_some_iff.mp hh).symm
      | false =>
          cases hreplaces : replaces a with
          | false =>
              obtain ⟨hheld, htarget⟩ :=
                laws.quiet (acts.foldl step s) a hcaptures hreplaces
              rw [hheld, htarget, ih,
                upToDate_concat_of_neither acts hreplaces hcaptures]
          | true =>
              obtain ⟨hheld, hnew⟩ := laws.replaced _ a hinv hreplaces
              rw [upToDate_concat_of_replaces acts hreplaces hcaptures,
                ← hholder, hheld]
              constructor
              · intro h
                refine Option.eq_none_iff_forall_not_mem.mpr fun old hold => ?_
                exact hnew old hold (h old hold)
              · intro h old hold
                rw [h] at hold
                cases hold

end Captures
