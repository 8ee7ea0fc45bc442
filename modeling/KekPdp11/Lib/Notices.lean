import Mathlib.Data.List.Induction

/-!
# Signals for what waits

A system takes steps.  Some steps bring news: something new to wait for.  Some
raise a signal.  In some states something waits that a signal is due for.

A signal is *noticed* in a run if one was raised in or after the step with the
last news.  `noneLost_iff` says that in all states of a run what waits is
noticed if and only if every step with news that leaves something waiting
raises a signal itself, provided that nothing starts to wait silently.
-/

namespace Notices

/-- A system with its signals. -/
structure System (σ α : Type*) where
  step : σ → α → σ
  wants : σ → Prop
  news : σ → α → Prop
  raises : σ → α → Prop

namespace System

variable {σ α : Type*} (S : System σ α)

def run (s : σ) (acts : List α) : σ :=
  acts.foldl S.step s

/-- A signal was raised, and no later step brought news. -/
def Noticed (s : σ) (acts : List α) : Prop :=
  ∃ before a after, acts = before ++ a :: after ∧
    S.raises (S.run s before) a ∧
    ∀ mid b rest, after = mid ++ b :: rest →
      ¬ S.news (S.run s (before ++ a :: mid)) b

/-- What waits at the end of the run is noticed. -/
def NoneLost (s : σ) (acts : List α) : Prop :=
  S.wants (S.run s acts) → S.Noticed s acts

/-- The step raises a signal for its own news. -/
def Attentive (s : σ) (a : α) : Prop :=
  S.news s a → S.wants (S.step s a) → S.raises s a

/-- Nothing starts to wait without news or a signal. -/
def Settled : Prop :=
  ∀ s a, S.wants (S.step s a) → S.news s a ∨ S.raises s a ∨ S.wants s

theorem run_append
    (s : σ) (acts acts' : List α) :
    S.run s (acts ++ acts') = S.run (S.run s acts) acts' :=
  List.foldl_append

theorem run_concat
    (s : σ) (acts : List α) (a : α) :
    S.run s (acts ++ [a]) = S.step (S.run s acts) a :=
  S.run_append s acts [a]

/-- One step more. -/
theorem noticed_concat_iff
    (s : σ) (acts : List α) (a : α) :
    S.Noticed s (acts ++ [a]) ↔
      S.raises (S.run s acts) a ∨
        (S.Noticed s acts ∧ ¬ S.news (S.run s acts) a) := by
  constructor
  · rintro ⟨before, b, after, h, hraises, hquiet⟩
    rcases List.eq_nil_or_concat after with rfl | ⟨after', c, rfl⟩
    · obtain ⟨rfl, hb⟩ := List.append_inj' h rfl
      cases hb
      exact .inl hraises
    · have hsplit : acts ++ [a] = (before ++ b :: after') ++ [c] := by
        rw [h, List.concat_eq_append]
        simp
      obtain ⟨rfl, hc⟩ := List.append_inj' hsplit rfl
      cases hc
      refine .inr ⟨⟨before, b, after', rfl, hraises, ?_⟩, ?_⟩
      · rintro mid d rest rfl
        exact hquiet mid d (rest ++ [a]) (by simp)
      · exact hquiet after' a [] (by simp)
  · rintro (hraises | ⟨⟨before, b, after, rfl, hraises, hquiet⟩, hnews⟩)
    · exact ⟨acts, a, [], rfl, hraises, by simp⟩
    · refine ⟨before, b, after ++ [a], by simp, hraises, ?_⟩
      intro mid c rest h
      rcases List.eq_nil_or_concat rest with rfl | ⟨rest', d, rfl⟩
      · obtain ⟨rfl, hc⟩ := List.append_inj' h rfl
        cases hc
        exact hnews
      · have hsplit : after ++ [a] = (mid ++ c :: rest') ++ [d] := by
          rw [h, List.concat_eq_append]
          simp
        obtain ⟨rfl, -⟩ := List.append_inj' hsplit rfl
        exact hquiet mid c rest' rfl

variable {S}

theorem attentive_of_noneLost
    {s : σ} (acts : List α) (a : α)
    (h : S.NoneLost s (acts ++ [a])) :
    S.Attentive (S.run s acts) a := by
  intro hnews hwants
  unfold NoneLost at h
  rw [S.run_concat, S.noticed_concat_iff] at h
  exact (h hwants).resolve_right fun hold => hold.2 hnews

/-- In all states of a run what waits is noticed if and only if every step
raises a signal for its own news. -/
theorem noneLost_iff
    (hsettled : S.Settled) {s : σ} (hstart : ¬ S.wants s) (acts : List α) :
    (∀ before, before <+: acts → S.NoneLost s before) ↔
      ∀ before a, before ++ [a] <+: acts →
        S.Attentive (S.run s before) a := by
  constructor
  · exact fun h before a hprefix =>
      attentive_of_noneLost before a (h _ hprefix)
  · intro h before hprefix
    induction before using List.reverseRecOn with
    | nil =>
        exact fun hwants => absurd hwants hstart
    | append_singleton before a ih =>
        have ih := ih ((List.prefix_append before [a]).trans hprefix)
        intro hwants
        rw [S.run_concat] at hwants
        rw [S.noticed_concat_iff]
        by_cases hnews : S.news (S.run s before) a
        · exact .inl (h before a hprefix hnews hwants)
        · rcases hsettled _ _ hwants with hnews' | hraises | hbefore
          · exact absurd hnews' hnews
          · exact .inl hraises
          · exact .inr ⟨ih hbefore, hnews⟩

end System

end Notices
