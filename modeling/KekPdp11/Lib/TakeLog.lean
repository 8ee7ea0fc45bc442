import Mathlib.Data.List.Basic

/-!
# Logs of what is put in and what is taken out

A log, newest entry first, of a collection that holds an item or does not.  An
item is available when it was put in and has not been taken since.

**Result.**  When only available items are taken, an item is put in between
any two of its takes.
-/

namespace TakeLog

variable {α : Type}

/-- What is logged of a collection. -/
inductive Entry (α : Type) where
  | put (a : α)
  | take (a : α)
deriving DecidableEq

/-- The item of a take. -/
def Entry.taken? : Entry α → Option α
  | .put _ => none
  | .take a => some a

/-- The item was put in and has not been taken since. -/
def Available (log : List (Entry α)) (a : α) : Prop :=
  ∃ newer older, log = newer ++ .put a :: older ∧ .take a ∉ newer

/-- Only available items are taken. -/
inductive Sound : List (Entry α) → Prop
  | nil : Sound []
  | put {log : List (Entry α)} (h : Sound log) (a : α) :
      Sound (.put a :: log)
  | take {log : List (Entry α)} {a : α} (h : Sound log)
      (ha : Available log a) :
      Sound (.take a :: log)

variable {log newer between older : List (Entry α)} {a b : α}

theorem available_put
    (log : List (Entry α)) (a : α) :
    Available (.put a :: log) a :=
  ⟨[], log, rfl, List.not_mem_nil⟩

theorem Available.put
    (h : Available log a) (b : α) :
    Available (.put b :: log) a := by
  obtain ⟨newer, older, rfl, hnone⟩ := h
  refine ⟨.put b :: newer, older, rfl, ?_⟩
  simpa using hnone

theorem Available.take
    (h : Available log a) (hne : a ≠ b) :
    Available (.take b :: log) a := by
  obtain ⟨newer, older, rfl, hnone⟩ := h
  refine ⟨.take b :: newer, older, rfl, ?_⟩
  simpa [hne] using hnone

/-- What is available after a take has been put in since. -/
theorem Available.put_mem
    (h : Available (between ++ .take a :: older) a) :
    .put a ∈ between := by
  obtain ⟨newer, rest, hlog, hnone⟩ := h
  rcases List.append_eq_append_iff.mp hlog with
    ⟨common, rfl, hrest⟩ | ⟨common, rfl, hrest⟩
  · -- the put would come before the take
    cases common with
    | nil =>
        simp at hrest
    | cons e common =>
        injection hrest with he _
        subst he
        simp at hnone
  · cases common with
    | nil =>
        simp at hrest
    | cons e common =>
        injection hrest with he _
        subst he
        simp

/-- What holds of a log holds of what it was earlier. -/
theorem Sound.earlier
    (h : Sound (newer ++ older)) :
    Sound older := by
  induction newer with
  | nil =>
      exact h
  | cons e newer ih =>
      cases h with
      | put h _ =>
          exact ih h
      | take h _ =>
          exact ih h

/-- Between two takes of an item it is put in again. -/
theorem Sound.put_between
    (h : Sound (newer ++ .take a :: (between ++ .take a :: older))) :
    .put a ∈ between := by
  cases h.earlier with
  | take _ ha =>
      exact ha.put_mem

end TakeLog
