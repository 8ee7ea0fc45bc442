import Mathlib.Logic.Basic
import Mathlib.Data.List.Basic

/-!
# Relations along an append-only log

A state carries a log, newest entry first, that is only ever extended.  Two
relations between a state and a later one are built from it.

* `Extends log s s'`: the log of `s'` is the log of `s` with entries on top.
* `UnlessLogged log loud R s s'`: the log is extended, and `R s s'` holds
  provided that none of the new entries is `loud`.

Both are reflexive and transitive when `R` is, so that they can be followed
along a program, statement by statement.
-/

namespace AppendLog

variable {σ ε : Type} {log : σ → List ε} {loud : ε → Prop} {R : σ → σ → Prop}

/-- The log of the second state extends that of the first. -/
def Extends
    (log : σ → List ε) (s s' : σ) : Prop :=
  ∃ new, log s' = new ++ log s

/-- `R` holds unless a loud entry has been logged in between. -/
def UnlessLogged
    (log : σ → List ε) (loud : ε → Prop) (R : σ → σ → Prop)
    (s s' : σ) : Prop :=
  ∃ new, log s' = new ++ log s ∧ ((∀ e ∈ new, ¬ loud e) → R s s')

/-- The log is extended and none of the new entries is loud. -/
def Quiet
    (log : σ → List ε) (loud : ε → Prop) (s s' : σ) : Prop :=
  ∃ new, log s' = new ++ log s ∧ ∀ e ∈ new, ¬ loud e

theorem Extends.refl
    (s : σ) :
    Extends log s s :=
  ⟨[], rfl⟩

theorem Extends.trans
    {s t u : σ}
    (hst : Extends log s t) (htu : Extends log t u) :
    Extends log s u := by
  obtain ⟨new, hnew⟩ := hst
  obtain ⟨new', hnew'⟩ := htu
  exact ⟨new' ++ new, by rw [hnew', hnew, List.append_assoc]⟩

/-- A state whose log is the same extends every state the first one extends. -/
theorem Extends.of_log_eq
    {s t : σ} (h : log t = log s) :
    Extends log s t :=
  ⟨[], by simpa using h⟩

theorem Extends.of_log_cons
    {s t : σ} {e : ε} (h : log t = e :: log s) :
    Extends log s t :=
  ⟨[e], by simpa using h⟩

theorem UnlessLogged.refl
    (hR : ∀ s, R s s) (s : σ) :
    UnlessLogged log loud R s s :=
  ⟨[], rfl, fun _ => hR s⟩

theorem UnlessLogged.trans
    (hR : ∀ {s t u}, R s t → R t u → R s u) {s t u : σ}
    (hst : UnlessLogged log loud R s t)
    (htu : UnlessLogged log loud R t u) :
    UnlessLogged log loud R s u := by
  obtain ⟨new, hnew, hr⟩ := hst
  obtain ⟨new', hnew', hr'⟩ := htu
  refine ⟨new' ++ new, by rw [hnew', hnew, List.append_assoc], ?_⟩
  intro hquiet
  apply hR
  · exact hr fun e he => hquiet e (List.mem_append_right _ he)
  · exact hr' fun e he => hquiet e (List.mem_append_left _ he)

theorem UnlessLogged.extends
    {s t : σ} (h : UnlessLogged log loud R s t) :
    Extends log s t := by
  obtain ⟨new, hnew, -⟩ := h
  exact ⟨new, hnew⟩

/-- What holds unless something loud is logged holds after a quiet stretch. -/
theorem UnlessLogged.of_quiet
    {s t : σ} (h : UnlessLogged log loud R s t)
    (hquiet : Quiet log loud s t) :
    R s t := by
  obtain ⟨new, hnew, hr⟩ := h
  obtain ⟨new', hnew', hq⟩ := hquiet
  have heq : new = new' := List.append_cancel_right (hnew.symm.trans hnew')
  exact hr (heq ▸ hq)

/-- The first part of a quiet stretch is quiet. -/
theorem Quiet.left
    {s t u : σ} (h : Quiet log loud s u)
    (hst : Extends log s t) (htu : Extends log t u) :
    Quiet log loud s t := by
  obtain ⟨new, hnew, hq⟩ := h
  obtain ⟨first, hfirst⟩ := hst
  obtain ⟨second, hsecond⟩ := htu
  have hsplit : new ++ log s = (second ++ first) ++ log s := by
    rw [← hnew, hsecond, hfirst, List.append_assoc]
  have heq : new = second ++ first := List.append_cancel_right hsplit
  subst heq
  exact ⟨first, hfirst, fun e he => hq e (List.mem_append_right _ he)⟩

/-- A log that has not grown is quiet. -/
theorem Quiet.of_length_eq
    {s t : σ} (h : Extends log s t)
    (hlength : (log t).length = (log s).length) :
    Quiet log loud s t := by
  obtain ⟨new, hnew⟩ := h
  have hnil : new = [] := by
    have hl := congrArg List.length hnew
    rw [List.length_append, hlength] at hl
    exact List.eq_nil_of_length_eq_zero (by omega)
  subst hnil
  exact ⟨[], hnew, fun e he => by cases he⟩

/-- What comes next only matters as long as `R` holds. -/
theorem UnlessLogged.next
    {s t u : σ} (h : UnlessLogged log loud R s t)
    (htu : Extends log t u)
    (hnext : R s t → UnlessLogged log loud R s u) :
    UnlessLogged log loud R s u := by
  obtain ⟨new, hnew, hr⟩ := h
  by_cases hquiet : ∀ e ∈ new, ¬ loud e
  · exact hnext (hr hquiet)
  · obtain ⟨new', hnew'⟩ := htu
    refine ⟨new' ++ new, by rw [hnew', hnew, List.append_assoc], fun hall => ?_⟩
    exact absurd (fun e he => hall e (List.mem_append_right _ he)) hquiet

/-- Nothing is logged and `R` holds. -/
theorem UnlessLogged.silent
    {s t : σ} (hlog : log t = log s) (hr : R s t) :
    UnlessLogged log loud R s t :=
  ⟨[], by simpa using hlog, fun _ => hr⟩

/-- One entry is logged and `R` holds if it is not loud. -/
theorem UnlessLogged.entry
    {s t : σ} {e : ε}
    (hlog : log t = e :: log s) (hr : ¬ loud e → R s t) :
    UnlessLogged log loud R s t :=
  ⟨[e], by simpa using hlog, fun h => hr (h e (by simp))⟩

/-- Once a loud entry is logged, only the growth of the log matters. -/
theorem UnlessLogged.of_loud
    {s t u : σ} {e : ε}
    (hlog : log t = e :: log s) (he : loud e)
    (htu : Extends log t u) :
    UnlessLogged log loud R s u := by
  obtain ⟨new, hnew⟩ := htu
  refine ⟨new ++ [e], by rw [hnew, hlog]; simp, ?_⟩
  intro hquiet
  exact absurd he (hquiet e (by simp))

end AppendLog
