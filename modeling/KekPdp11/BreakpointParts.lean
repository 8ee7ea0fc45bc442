import KekPdp11.BreakpointAtoms

/-!
# KEK PDP-11: the parts of a listing

emit prints a combination of breakpoints between parentheses.  The parser takes
such a text apart at its blanks; the parentheses stick to the first and to the
last part.  `parts` says which parts these are.
-/

namespace KekPdp11

section Joining

/-- Parts with a blank between them. -/
def joined (parts : List (List Char)) : List Char :=
  [' '].intercalate parts

theorem joined_append
    {ps qs : List (List Char)} (hps : ps ≠ []) (hqs : qs ≠ []) :
    joined (ps ++ qs) = joined ps ++ ' ' :: joined qs := by
  unfold joined
  induction ps with
  | nil =>
      exact absurd rfl hps
  | cons p ps ih =>
      cases ps with
      | nil =>
          rw [List.singleton_append, List.intercalate_cons_of_ne_nil hqs,
            List.intercalate_singleton, List.append_assoc,
            List.singleton_append]
      | cons q ps =>
          rw [List.cons_append, List.cons_append, List.intercalate_cons_cons,
            ← List.cons_append, ih (List.cons_ne_nil _ _),
            List.intercalate_cons_cons]
          simp only [List.append_assoc]

theorem joined_singleton
    (p : List Char) :
    joined [p] = p :=
  List.intercalate_singleton

/-- Parts without blanks that are not empty come apart again. -/
theorem split_joined
    {ps : List (List Char)} (h : ∀ p ∈ ps, p ≠ [] ∧ ' ' ∉ p) :
    split ' ' (joined ps) = ps := by
  unfold joined
  rw [split_intercalate fun p hp => (h p hp).2, List.filter_eq_self]
  intro p hp
  exact decide_eq_true (h p hp).1

end Joining

namespace Breakpoint

section Parts

/-- An opening parenthesis in front of the first part. -/
def openFirst : List (List Char) → List (List Char)
  | [] => []
  | p :: ps => ('(' :: p) :: ps

mutual

/-- The parts of a listing with `closing` further parentheses behind it. -/
def parts (closing : Nat) : Breakpoint → List (List Char)
  | combined op triggers _ => openFirst (partsAll op (closing + 1) triggers)
  | register registerNr values action =>
      [(register registerNr values action).emit ++
        List.replicate closing ')']
  | memory addr wordMode isVirtual values action =>
      [(memory addr wordMode isVirtual values action).emit ++
        List.replicate closing ')']
  | instruction instr mask action =>
      [(instruction instr mask action).emit ++ List.replicate closing ')']

/-- The parts of triggers with operators between them. -/
def partsAll (op : BpOperator) (closing : Nat) :
    List Breakpoint → List (List Char)
  | [] => []
  | [t] => parts closing t
  | t :: t' :: triggers =>
      parts 0 t ++ op.text :: partsAll op closing (t' :: triggers)

end

/-- The text between the parentheses of a combination. -/
def bodyText (op : BpOperator) (triggers : List Breakpoint) : List Char :=
  joined (partsAll op 0 triggers)

/-- Single breakpoints are listed by name and value, and combinations have
triggers. -/
inductive IsFormed : Breakpoint → Prop
  | single {b : Breakpoint} (h : b.IsListed) :
      IsFormed b
  | combined {op : BpOperator} {triggers : List Breakpoint} {action : BpAction}
      (hne : triggers ≠ []) (h : ∀ t ∈ triggers, IsFormed t) :
      IsFormed (.combined op triggers action)

variable {b : Breakpoint} {op : BpOperator} {triggers : List Breakpoint}

theorem parts_listed
    (h : b.IsListed) (closing : Nat) :
    parts closing b = [b.emit ++ List.replicate closing ')'] := by
  cases b with
  | combined op triggers action =>
      exact h.elim
  | _ =>
      rfl

theorem parts_combined
    (closing : Nat) (action : BpAction) :
    parts closing (combined op triggers action) =
      openFirst (partsAll op (closing + 1) triggers) := by
  rw [parts]

theorem joined_openFirst
    {ps : List (List Char)} (h : ps ≠ []) :
    joined (openFirst ps) = '(' :: joined ps := by
  cases ps with
  | nil =>
      exact absurd rfl h
  | cons p ps =>
      cases ps with
      | nil =>
          unfold openFirst
          rw [joined_singleton, joined_singleton]
      | cons q ps =>
          unfold openFirst joined
          rw [List.intercalate_cons_cons, List.intercalate_cons_cons]
          rfl

theorem openFirst_ne_nil
    {ps : List (List Char)} (h : ps ≠ []) :
    openFirst ps ≠ [] := by
  cases ps with
  | nil =>
      exact absurd rfl h
  | cons p ps =>
      exact List.cons_ne_nil _ _

theorem partsAll_ne_nil
    (hne : triggers ≠ [])
    (h : ∀ t ∈ triggers, ∀ closing, parts closing t ≠ []) (closing : Nat) :
    partsAll op closing triggers ≠ [] := by
  cases triggers with
  | nil =>
      exact absurd rfl hne
  | cons t triggers =>
      cases triggers with
      | nil =>
          rw [partsAll]
          exact h t List.mem_cons_self closing
      | cons t' triggers =>
          rw [partsAll]
          exact List.append_ne_nil_of_right_ne_nil _ (List.cons_ne_nil _ _)

theorem IsFormed.parts_ne_nil
    (h : b.IsFormed) (closing : Nat) :
    parts closing b ≠ [] := by
  induction h generalizing closing with
  | single h =>
      rw [parts_listed h]
      exact List.cons_ne_nil _ _
  | combined hne _ ih =>
      rw [parts_combined]
      exact openFirst_ne_nil (partsAll_ne_nil hne ih _)

/-- What is known of the text of each trigger. -/
def Joins (t : Breakpoint) : Prop :=
  t.IsFormed ∧
    ∀ closing, joined (parts closing t) = t.emit ++ List.replicate closing ')'

theorem joined_partsAll_cons
    {t t' : Breakpoint} (h : ∀ x ∈ t :: t' :: triggers, x.Joins)
    (closing : Nat) :
    joined (partsAll op closing (t :: t' :: triggers)) =
      t.emit ++ op.separator ++
        joined (partsAll op closing (t' :: triggers)) := by
  have hfirst := (h t List.mem_cons_self).1.parts_ne_nil 0
  have hmore : partsAll op closing (t' :: triggers) ≠ [] :=
    partsAll_ne_nil (List.cons_ne_nil _ _)
      (fun x hx => (h x (List.mem_cons_of_mem _ hx)).1.parts_ne_nil) closing
  have hop : joined (op.text :: partsAll op closing (t' :: triggers)) =
      op.text ++ ' ' :: joined (partsAll op closing (t' :: triggers)) := by
    rw [← List.singleton_append, joined_append (List.cons_ne_nil _ _) hmore,
      joined_singleton]
  rw [partsAll, joined_append hfirst (List.cons_ne_nil _ _), hop,
    (h t List.mem_cons_self).2]
  unfold BpOperator.separator
  simp

/-- Closing parentheses behind the last trigger. -/
theorem joined_partsAll
    (h : ∀ t ∈ triggers, t.Joins) (hne : triggers ≠ []) (closing : Nat) :
    joined (partsAll op closing triggers) =
      bodyText op triggers ++ List.replicate closing ')' := by
  unfold bodyText
  induction triggers with
  | nil =>
      exact absurd rfl hne
  | cons t triggers ih =>
      cases triggers with
      | nil =>
          have ht := (h t List.mem_cons_self).2
          rw [partsAll, partsAll, ht, ht]
          simp
      | cons t' triggers =>
          have hrest := ih (fun x hx => h x (List.mem_cons_of_mem _ hx))
            (List.cons_ne_nil _ _)
          rw [joined_partsAll_cons h, joined_partsAll_cons h, hrest]
          simp

/-- The loop of emit, from the second trigger on. -/
theorem emitAll_eq
    (h : ∀ t ∈ triggers, t.Joins) (hne : triggers ≠ []) {out : List Char}
    (hout : out ≠ []) :
    emitAll op out triggers = out ++ op.separator ++ bodyText op triggers := by
  induction triggers generalizing out with
  | nil =>
      exact absurd rfl hne
  | cons t triggers ih =>
      rw [emitAll, if_neg hout]
      cases triggers with
      | nil =>
          unfold bodyText
          rw [emitAll, partsAll, (h t List.mem_cons_self).2]
          simp
      | cons t' triggers =>
          have hlonger : out ++ op.separator ++ t.emit ≠ [] := by
            simp [hout]
          have hmore := ih (fun x hx => h x (List.mem_cons_of_mem _ hx))
            (List.cons_ne_nil _ _) hlonger
          unfold bodyText at hmore ⊢
          rw [hmore, joined_partsAll_cons h]
          simp

/-- A combination is listed between parentheses. -/
theorem emit_combined
    (h : ∀ t ∈ triggers, t.Joins) (hne : triggers ≠ []) (action : BpAction) :
    (Breakpoint.combined op triggers action).emit =
      '(' :: bodyText op triggers ++ [')'] := by
  obtain ⟨t, triggers, rfl⟩ := List.exists_cons_of_ne_nil hne
  have hfirst : emitAll op [] (t :: triggers) =
      '(' :: bodyText op (t :: triggers) := by
    rw [emitAll, if_pos rfl]
    by_cases hmore : triggers = []
    · subst hmore
      unfold bodyText
      rw [emitAll, partsAll, (h t List.mem_cons_self).2]
      simp
    · obtain ⟨t', triggers, rfl⟩ := List.exists_cons_of_ne_nil hmore
      rw [emitAll_eq (fun x hx => h x (List.mem_cons_of_mem _ hx)) hmore
        (by simp)]
      unfold bodyText
      rw [joined_partsAll_cons h]
      simp
  change emitAll op [] (t :: triggers) ++ [')'] = _
  rw [hfirst]

/-- The parts are those of the listing. -/
theorem IsFormed.joins
    (h : b.IsFormed) :
    b.Joins := by
  induction h with
  | single h =>
      refine ⟨.single h, fun closing => ?_⟩
      rw [parts_listed h, joined_singleton]
  | @combined op triggers action hne h ih =>
      refine ⟨.combined hne h, fun closing => ?_⟩
      have hparts : partsAll op (closing + 1) triggers ≠ [] :=
        partsAll_ne_nil hne (fun t ht => (h t ht).parts_ne_nil) _
      rw [parts_combined, joined_openFirst hparts, joined_partsAll ih hne,
        emit_combined ih hne, List.replicate_succ]
      simp

end Parts

section Members

variable {b : Breakpoint} {op : BpOperator} {triggers : List Breakpoint}

theorem mem_partsAll
    {closing : Nat} {p : List Char} (h : p ∈ partsAll op closing triggers) :
    p = op.text ∨ ∃ t ∈ triggers, ∃ n, p ∈ parts n t := by
  induction triggers with
  | nil =>
      rw [partsAll] at h
      cases h
  | cons t triggers ih =>
      cases triggers with
      | nil =>
          rw [partsAll] at h
          exact .inr ⟨t, List.mem_cons_self, closing, h⟩
      | cons t' triggers =>
          rw [partsAll, List.mem_append, List.mem_cons] at h
          rcases h with h | rfl | h
          · exact .inr ⟨t, List.mem_cons_self, 0, h⟩
          · exact .inl rfl
          · rcases ih h with rfl | ⟨x, hx, hp⟩
            · exact .inl rfl
            · exact .inr ⟨x, List.mem_cons_of_mem _ hx, hp⟩

theorem mem_openFirst
    {ps : List (List Char)} {p : List Char} (h : p ∈ openFirst ps) :
    p ∈ ps ∨ ∃ q ∈ ps, p = '(' :: q := by
  cases ps with
  | nil =>
      cases h
  | cons q ps =>
      rcases List.mem_cons.mp h with rfl | h
      · exact .inr ⟨q, List.mem_cons_self, rfl⟩
      · exact .inl (List.mem_cons_of_mem _ h)

/-- A part of a listing: its closing parentheses are the last characters. -/
structure IsListingPart (p : List Char) : Prop where
  nonEmpty : p ≠ []
  noBlank : ' ' ∉ p
  closes : ∃ u n, p = u ++ List.replicate n ')' ∧ ')' ∉ u

theorem IsListed.listingPart
    (h : b.IsListed) (closing : Nat) :
    IsListingPart (b.emit ++ List.replicate closing ')') := by
  refine ⟨List.append_ne_nil_of_left_ne_nil h.emit_ne_nil _, ?_,
    ⟨_, _, rfl, h.isPart.noClose⟩⟩
  rw [List.mem_append, not_or]
  exact ⟨h.isPart.noBlank, fun hmem =>
    absurd (List.eq_of_mem_replicate hmem) (by decide)⟩

theorem isListingPart_op
    (op : BpOperator) :
    IsListingPart op.text := by
  have hop : op.text ≠ [] ∧ ' ' ∉ op.text ∧ ')' ∉ op.text := by
    cases op <;> decide
  exact ⟨hop.1, hop.2.1, op.text, 0, (List.append_nil _).symm, hop.2.2⟩

theorem IsListingPart.opened
    {p : List Char} (h : IsListingPart p) :
    IsListingPart ('(' :: p) := by
  obtain ⟨u, n, rfl, hu⟩ := h.closes
  refine ⟨List.cons_ne_nil _ _, ?_, '(' :: u, n, rfl, ?_⟩
  · exact List.not_mem_cons_of_ne_of_not_mem (by decide) h.noBlank
  · exact List.not_mem_cons_of_ne_of_not_mem (by decide) hu

theorem IsFormed.listingPart
    (h : b.IsFormed) {closing : Nat} {p : List Char}
    (hp : p ∈ parts closing b) :
    IsListingPart p := by
  induction h generalizing closing p with
  | single h =>
      rw [parts_listed h] at hp
      rw [List.mem_singleton.mp hp]
      exact h.listingPart closing
  | @combined op triggers _ _ _ ih =>
      have hbody : ∀ {n p}, p ∈ partsAll op n triggers → IsListingPart p := by
        intro n p hp
        rcases mem_partsAll hp with rfl | ⟨t, ht, m, hp⟩
        · exact isListingPart_op _
        · exact ih t ht hp
      rw [parts_combined] at hp
      rcases mem_openFirst hp with hp | ⟨q, hq, rfl⟩
      · exact hbody hp
      · exact (hbody hq).opened

theorem IsFormed.split_emit
    (h : b.IsFormed) :
    split ' ' b.emit = parts 0 b := by
  have hjoined := h.joins.2 0
  rw [List.replicate_zero, List.append_nil] at hjoined
  rw [← hjoined, split_joined]
  intro p hp
  exact ⟨(h.listingPart hp).nonEmpty, (h.listingPart hp).noBlank⟩

theorem split_bodyText
    (h : ∀ t ∈ triggers, t.IsFormed) :
    split ' ' (bodyText op triggers) = partsAll op 0 triggers := by
  unfold bodyText
  rw [split_joined]
  intro p hp
  rcases mem_partsAll hp with rfl | ⟨t, ht, n, hp⟩
  · exact ⟨(isListingPart_op op).nonEmpty, (isListingPart_op op).noBlank⟩
  · exact ⟨((h t ht).listingPart hp).nonEmpty, ((h t ht).listingPart hp).noBlank⟩

end Members

end Breakpoint

end KekPdp11
