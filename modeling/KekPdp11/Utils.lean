import Mathlib.Data.List.Basic

/-!
# KEK PDP-11: strings

The function of utils.cpp that takes a string apart.
-/

namespace KekPdp11

/-- A part that is not empty. -/
def nonEmptyPart (part : List Char) : List (List Char) :=
  if part = [] then [] else [part]

/-- The loop of split: what was read since the last splitter, and the rest. -/
def splitFrom (splitter : Char) (before : List Char) :
    List Char → List (List Char)
  | [] => nonEmptyPart before
  | c :: rest =>
      if c = splitter then
        nonEmptyPart before ++ splitFrom splitter [] rest
      else
        splitFrom splitter (before ++ [c]) rest

/-- split, with a splitter of one character as all its callers have it. -/
def split (splitter : Char) (text : List Char) : List (List Char) :=
  splitFrom splitter [] text

section Joined

variable {splitter : Char}

theorem splitFrom_append
    {part : List Char} (h : splitter ∉ part) (before rest : List Char) :
    splitFrom splitter before (part ++ rest) =
      splitFrom splitter (before ++ part) rest := by
  induction part generalizing before with
  | nil =>
      rw [List.nil_append, List.append_nil]
  | cons c part ih =>
      simp only [List.mem_cons, not_or] at h
      rw [List.cons_append, splitFrom, if_neg (Ne.symm h.1), ih h.2]
      simp

/-- What was joined comes apart again, without its empty parts. -/
theorem split_intercalate
    {parts : List (List Char)} (h : ∀ part ∈ parts, splitter ∉ part) :
    split splitter ([splitter].intercalate parts) =
      parts.filter (· ≠ []) := by
  have hpart : ∀ part : List Char,
      nonEmptyPart part = [part].filter (· ≠ []) := by
    intro part
    unfold nonEmptyPart
    by_cases hne : part = [] <;> simp [hne]
  unfold split
  induction parts with
  | nil =>
      rfl
  | cons a parts ih =>
      have ha := h a List.mem_cons_self
      have hrest := fun part hp => h part (List.mem_cons_of_mem a hp)
      cases parts with
      | nil =>
          have hsplit := splitFrom_append ha [] []
          rw [List.append_nil] at hsplit
          rw [List.intercalate_singleton, hsplit]
          exact hpart a
      | cons b parts =>
          rw [List.intercalate_cons_cons, List.append_assoc,
            splitFrom_append ha, List.singleton_append, splitFrom, if_pos rfl,
            List.nil_append, ih hrest, hpart, ← List.filter_append]
          rfl

end Joined

end KekPdp11
