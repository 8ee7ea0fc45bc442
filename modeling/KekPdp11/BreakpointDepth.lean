import KekPdp11.BreakpointParts

/-!
# KEK PDP-11: the depth of parentheses in a listing

To find the end of a group the parser counts one opening parenthesis for a part
that starts with one, however many it starts with, and every closing one.  For
the parts of a listing the count is right up to the first part with two opening
parentheses: there the first trigger of a combination is a combination.

* `IsFormed.levelIn`: up to such a part the depth does not become negative.
* `IsBuilt.nested`: from such a part on the depth lands on zero too early.
* `IsPlain`: the breakpoints whose listing has no such part.
-/

namespace KekPdp11

namespace Breakpoint

section Depth

/-- A part with two opening parentheses, of which the parser counts one. -/
def IsDouble (p : List Char) : Prop :=
  p.take 2 = ['(', '(']

instance (p : List Char) :
    Decidable (IsDouble p) :=
  inferInstanceAs (Decidable (_ = _))

theorem isDouble_cons
    (p : List Char) :
    IsDouble ('(' :: p) ↔ p.head? = some '(' := by
  cases p with
  | nil =>
      exact iff_of_false (by decide) (by decide)
  | cons c p =>
      unfold IsDouble
      simp

/-- From a positive depth on, and as long as no part with two opening
parentheses comes, the depth does not become negative before it is zero. -/
def Lands : Int → List (List Char) → Prop
  | _, [] => True
  | depth, p :: ps =>
      IsDouble p ∨
        (0 ≤ depth + depthChange p ∧
          (0 < depth + depthChange p → Lands (depth + depthChange p) ps))

/-- What opens with two parentheses does not close both of them in one part. -/
def Nested : List (List Char) → Prop
  | [] => True
  | p :: ps =>
      (IsDouble p →
        0 ≤ depthChange p ∧ (0 < depthChange p → Lands (depthChange p) ps)) ∧
      Nested ps

variable {b : Breakpoint} {op : BpOperator} {triggers : List Breakpoint}

theorem depthChange_op
    (op : BpOperator) :
    depthChange op.text = 0 := by
  cases op <;> decide

theorem not_isDouble_op
    (op : BpOperator) :
    ¬ IsDouble op.text := by
  cases op <;> decide

theorem depthChange_closed
    {p : List Char} (hne : p ≠ []) (closing : Nat) :
    depthChange (p ++ List.replicate closing ')') = depthChange p - closing := by
  unfold depthChange
  rw [List.head?_append_of_ne_nil _ hne, List.count_append,
    List.count_replicate_self, Int.natCast_add, Int.sub_sub]

theorem IsListed.depthChange_eq
    (h : b.IsListed) (closing : Nat) :
    depthChange (b.emit ++ List.replicate closing ')') = -closing := by
  have hhead : b.emit.head? ≠ some '(' := by
    intro hhead
    exact h.isPart.noOpen (List.mem_of_head? hhead)
  rw [depthChange_closed h.emit_ne_nil]
  unfold depthChange
  rw [if_neg hhead, List.count_eq_zero_of_not_mem h.isPart.noClose]
  omega

theorem IsListed.head_ne
    (h : b.IsListed) (closing : Nat) :
    (b.emit ++ List.replicate closing ')').head? ≠ some '(' := by
  rw [List.head?_append_of_ne_nil _ h.emit_ne_nil]
  intro hhead
  exact h.isPart.noOpen (List.mem_of_head? hhead)

theorem not_isDouble_of_head
    {p : List Char} (h : p.head? ≠ some '(') :
    ¬ IsDouble p := by
  intro hdouble
  unfold IsDouble at hdouble
  cases p with
  | nil =>
      cases hdouble
  | cons c p =>
      simp at hdouble h
      exact h hdouble.1

theorem depthChange_opened
    {p : List Char} (h : p.head? ≠ some '(') :
    depthChange ('(' :: p) = 1 + depthChange p := by
  unfold depthChange
  rw [if_neg h, List.head?_cons, if_pos rfl,
    List.count_cons_of_ne (by decide)]
  omega

/-- An operator does not change the depth. -/
theorem lands_op
    {depth : Int} (hdepth : 0 < depth) {ps : List (List Char)}
    (h : Lands depth ps) :
    Lands depth (op.text :: ps) := by
  refine .inr ?_
  rw [depthChange_op, Int.add_zero]
  exact ⟨hdepth.le, fun _ => h⟩

/-- What is known of the depth in each trigger. -/
def LandsIn (t : Breakpoint) : Prop :=
  ∀ {depth : Int} {closing : Nat} {rest : List (List Char)}, 0 ≤ depth →
    0 < depth + closing → (0 < depth → Lands depth rest) →
    Lands (depth + closing) (parts closing t ++ rest)

theorem landsIn_all
    (hne : triggers ≠ []) (h : ∀ t ∈ triggers, t.LandsIn) {depth : Int}
    {closing : Nat} {rest : List (List Char)} (hdepth : 0 ≤ depth)
    (hpos : 0 < depth + closing) (hrest : 0 < depth → Lands depth rest) :
    Lands (depth + closing) (partsAll op closing triggers ++ rest) := by
  induction triggers with
  | nil =>
      exact absurd rfl hne
  | cons t triggers ih =>
      cases triggers with
      | nil =>
          rw [partsAll]
          exact h t List.mem_cons_self hdepth hpos hrest
      | cons t' triggers =>
          have hmore := ih (List.cons_ne_nil _ _)
            fun x hx => h x (List.mem_cons_of_mem _ hx)
          have hop : Lands (depth + closing)
              (op.text :: (partsAll op closing (t' :: triggers) ++ rest)) :=
            lands_op hpos hmore
          have hopen : 0 < depth + closing + ((0 : Nat) : Int) := by
            omega
          have hfirst := h t List.mem_cons_self hpos.le hopen fun _ => hop
          rw [partsAll, List.append_assoc, List.cons_append]
          rwa [Int.natCast_zero, Int.add_zero] at hfirst

/-- The first part of a listing, with its parenthesis. -/
theorem IsFormed.first
    (h : b.IsFormed) (closing : Nat) :
    (∃ u, b.IsListed ∧ parts closing b = [u] ∧ u.head? ≠ some '(' ∧
        depthChange u = -closing) ∨
      ∃ u us, ¬ b.IsListed ∧ parts closing b = u :: us ∧ u.head? = some '(' := by
  cases h with
  | single h =>
      exact .inl ⟨_, h, parts_listed h closing, h.head_ne closing,
        h.depthChange_eq closing⟩
  | @combined op triggers action hne h =>
      refine .inr ?_
      have hparts : partsAll op (closing + 1) triggers ≠ [] :=
        partsAll_ne_nil hne (fun t ht => (h t ht).parts_ne_nil) _
      obtain ⟨p, ps, hps⟩ := List.exists_cons_of_ne_nil hparts
      rw [parts_combined, hps]
      exact ⟨_, _, id, rfl, rfl⟩

/-- A part that only closes. -/
theorem lands_closing
    {depth : Int} {closing : Nat} {p : List Char} {rest : List (List Char)}
    (hdepth : 0 ≤ depth) (hrest : 0 < depth → Lands depth rest)
    (hp : depthChange p = -closing) :
    Lands (depth + closing) (p :: rest) := by
  refine .inr ?_
  rw [hp, Int.add_neg_cancel_right]
  exact ⟨hdepth, hrest⟩

theorem lands_double
    {depth : Int} {p : List Char} {rest : List (List Char)}
    (hp : p.head? = some '(') :
    Lands depth (('(' :: p) :: rest) :=
  .inl ((isDouble_cons p).mpr hp)

theorem IsFormed.landsIn
    (h : b.IsFormed) :
    b.LandsIn := by
  induction h with
  | single h =>
      intro depth closing rest hdepth hpos hrest
      rw [parts_listed h]
      exact lands_closing hdepth hrest (h.depthChange_eq closing)
  | @combined op triggers action hne h ih =>
      intro depth closing rest hdepth hpos hrest
      rw [parts_combined]
      cases triggers with
      | nil =>
          exact absurd rfl hne
      | cons t triggers =>
          have ht := h t List.mem_cons_self
          cases triggers with
          | nil =>
              rw [partsAll]
              rcases ht.first (closing + 1) with
                ⟨u, -, hu, hhead, hchange⟩ | ⟨u, us, -, hu, hhead⟩
              · rw [hu]
                refine lands_closing hdepth hrest ?_
                rw [depthChange_opened hhead, hchange]
                omega
              · rw [hu]
                exact lands_double hhead
          | cons t' triggers =>
              rw [partsAll]
              rcases ht.first 0 with
                ⟨u, -, hu, hhead, hchange⟩ | ⟨u, us, -, hu, hhead⟩
              · rw [hu]
                have hdeep : 0 < depth + ((closing + 1 : Nat) : Int) := by
                  omega
                have hmore : Lands (depth + ((closing + 1 : Nat) : Int))
                    (partsAll op (closing + 1) (t' :: triggers) ++ rest) :=
                  landsIn_all (List.cons_ne_nil t' _)
                    (fun x hx => ih x (List.mem_cons_of_mem _ hx)) hdepth
                    hdeep hrest
                have hdeeper : depth + closing + depthChange ('(' :: u) =
                    depth + ((closing + 1 : Nat) : Int) := by
                  rw [depthChange_opened hhead, hchange]
                  omega
                refine .inr ?_
                rw [hdeeper]
                exact ⟨by omega, fun hlt => lands_op hlt hmore⟩
              · rw [hu]
                exact lands_double hhead

theorem depthChange_double
    {p : List Char} (h : p.head? = some '(') :
    depthChange ('(' :: p) = depthChange p := by
  unfold depthChange
  rw [if_pos h, List.head?_cons, if_pos rfl, List.count_cons_of_ne (by decide)]

/-- Breakpoints as they are built: single ones that are listed by name and
value, and combinations of at least two. -/
inductive IsBuilt : Breakpoint → Prop
  | single {b : Breakpoint} (h : b.IsListed) :
      IsBuilt b
  | combined {op : BpOperator} {triggers : List Breakpoint} {action : BpAction}
      (hlength : 2 ≤ triggers.length) (h : ∀ t ∈ triggers, IsBuilt t) :
      IsBuilt (.combined op triggers action)

theorem IsBuilt.formed
    (h : b.IsBuilt) :
    b.IsFormed := by
  induction h with
  | single h =>
      exact .single h
  | combined hlength _ ih =>
      refine .combined ?_ ih
      rintro rfl
      exact absurd hlength (by decide)

/-- Behind the first part of a combination the depth lands on zero: its first
trigger is not its last one. -/
theorem IsBuilt.tail_lands
    (h : b.IsBuilt) (hb : ¬ b.IsListed) :
    ∃ u us, parts 0 b = u :: us ∧ u.head? = some '(' ∧ depthChange u = 1 ∧
      ∀ rest, Lands 1 (us ++ rest) := by
  induction h with
  | single h =>
      exact absurd h hb
  | @combined op triggers action hlength h ih =>
      match triggers, hlength with
      | t :: t' :: triggers, _ =>
          have hmore : ∀ rest,
              Lands 1 (op.text :: (partsAll op 1 (t' :: triggers) ++ rest)) := by
            intro rest
            refine lands_op (by decide) ?_
            have hall : Lands (0 + ((1 : Nat) : Int))
                (partsAll op 1 (t' :: triggers) ++ rest) :=
              landsIn_all (List.cons_ne_nil _ _)
                (fun x hx => (h x (List.mem_cons_of_mem _ hx)).formed.landsIn)
                (by decide) (by decide) fun hlt => absurd hlt (by decide)
            exact hall
          have ht := h t List.mem_cons_self
          rw [parts_combined, partsAll]
          rcases ht.formed.first 0 with
            ⟨u, -, hu, hhead, hchange⟩ | ⟨u, us, hnot, hu, hhead⟩
          · rw [hu]
            refine ⟨_, _, rfl, rfl, ?_, hmore⟩
            rw [depthChange_opened hhead, hchange]
            rfl
          · obtain ⟨v, vs, hv, -, hchange, hlands⟩ :=
              ih t List.mem_cons_self hnot
            obtain ⟨rfl, rfl⟩ := List.cons.inj (hu.symm.trans hv)
            rw [hu]
            refine ⟨_, _, rfl, rfl, ?_, fun rest => ?_⟩
            · rw [depthChange_double hhead, hchange]
            · have hrest := hlands
                (op.text :: (partsAll op 1 (t' :: triggers) ++ rest))
              rwa [← List.cons_append, ← List.append_assoc] at hrest

theorem nested_all
    (h : ∀ t ∈ triggers, ∀ closing rest, Nested rest →
      Nested (parts closing t ++ rest))
    (closing : Nat) {rest : List (List Char)} (hrest : Nested rest) :
    Nested (partsAll op closing triggers ++ rest) := by
  induction triggers with
  | nil =>
      rw [partsAll]
      exact hrest
  | cons t triggers ih =>
      cases triggers with
      | nil =>
          rw [partsAll]
          exact h t List.mem_cons_self _ _ hrest
      | cons t' triggers =>
          rw [partsAll, List.append_assoc]
          refine h t List.mem_cons_self _ _ ⟨fun hd => ?_, ?_⟩
          · exact absurd hd (not_isDouble_op op)
          · exact ih fun x hx => h x (List.mem_cons_of_mem _ hx)

/-- Only the first triggers of combinations have double parentheses, and they
do not close together with the combination. -/
theorem IsBuilt.nested
    (h : b.IsBuilt) (closing : Nat) {rest : List (List Char)}
    (hrest : Nested rest) :
    Nested (parts closing b ++ rest) := by
  induction h generalizing closing rest with
  | single h =>
      rw [parts_listed h]
      exact ⟨fun hd => absurd hd (not_isDouble_of_head (h.head_ne closing)),
        hrest⟩
  | @combined op triggers action hlength h ih =>
      have hall : Nested (partsAll op (closing + 1) triggers ++ rest) :=
        nested_all (fun t ht closing rest hrest => ih t ht closing hrest) _
          hrest
      rw [parts_combined]
      match triggers, hlength with
      | t :: t' :: triggers, _ =>
          rw [partsAll] at hall ⊢
          rcases (h t List.mem_cons_self).formed.first 0 with
            ⟨u, -, hu, hhead, -⟩ | ⟨u, us, hnot, hu, hhead⟩
          · rw [hu] at hall ⊢
            refine ⟨fun hd => ?_, hall.2⟩
            exact absurd ((isDouble_cons u).mp hd) hhead
          · obtain ⟨v, vs, hv, -, hchange, hlands⟩ :=
              (h t List.mem_cons_self).tail_lands hnot
            obtain ⟨rfl, rfl⟩ := List.cons.inj (hu.symm.trans hv)
            rw [hu] at hall ⊢
            have hmore := hlands
              (op.text :: (partsAll op (closing + 1) (t' :: triggers) ++ rest))
            rw [← List.cons_append, ← List.append_assoc] at hmore
            refine ⟨fun _ => ?_, hall.2⟩
            rw [depthChange_double hhead, hchange]
            exact ⟨by decide, fun _ => hmore⟩

/-- Up to a part with two opening parentheses the depth does not become
negative. -/
def Level : Int → List (List Char) → Prop
  | _, [] => True
  | depth, p :: ps =>
      IsDouble p ∨
        (0 ≤ depth + depthChange p ∧ Level (depth + depthChange p) ps)

theorem level_op
    {depth : Int} (hdepth : 0 ≤ depth) {ps : List (List Char)}
    (h : Level depth ps) :
    Level depth (op.text :: ps) := by
  refine .inr ?_
  rw [depthChange_op, Int.add_zero]
  exact ⟨hdepth, h⟩

/-- What is known of the level in each trigger. -/
def LevelIn (t : Breakpoint) : Prop :=
  ∀ {depth : Int} {closing : Nat} {rest : List (List Char)}, 0 ≤ depth →
    Level depth rest → Level (depth + closing) (parts closing t ++ rest)

theorem levelIn_all
    (hne : triggers ≠ []) (h : ∀ t ∈ triggers, t.LevelIn) {depth : Int}
    {closing : Nat} {rest : List (List Char)} (hdepth : 0 ≤ depth)
    (hrest : Level depth rest) :
    Level (depth + closing) (partsAll op closing triggers ++ rest) := by
  induction triggers with
  | nil =>
      exact absurd rfl hne
  | cons t triggers ih =>
      cases triggers with
      | nil =>
          rw [partsAll]
          exact h t List.mem_cons_self hdepth hrest
      | cons t' triggers =>
          have hmore := ih (List.cons_ne_nil _ _)
            fun x hx => h x (List.mem_cons_of_mem _ hx)
          have hopen : 0 ≤ depth + closing := by
            omega
          have hop : Level (depth + closing)
              (op.text :: (partsAll op closing (t' :: triggers) ++ rest)) :=
            level_op hopen hmore
          have hfirst : Level (depth + closing + ((0 : Nat) : Int))
              (parts 0 t ++
                op.text :: (partsAll op closing (t' :: triggers) ++ rest)) :=
            h t List.mem_cons_self hopen hop
          rw [partsAll, List.append_assoc, List.cons_append]
          rwa [Int.natCast_zero, Int.add_zero] at hfirst

theorem level_closing
    {depth : Int} {closing : Nat} {p : List Char} {rest : List (List Char)}
    (hdepth : 0 ≤ depth) (hrest : Level depth rest)
    (hp : depthChange p = -closing) :
    Level (depth + closing) (p :: rest) := by
  refine .inr ?_
  rw [hp, Int.add_neg_cancel_right]
  exact ⟨hdepth, hrest⟩

theorem level_double
    {depth : Int} {p : List Char} {rest : List (List Char)}
    (hp : p.head? = some '(') :
    Level depth (('(' :: p) :: rest) :=
  .inl ((isDouble_cons p).mpr hp)

theorem IsFormed.levelIn
    (h : b.IsFormed) :
    b.LevelIn := by
  induction h with
  | single h =>
      intro depth closing rest hdepth hrest
      rw [parts_listed h]
      exact level_closing hdepth hrest (h.depthChange_eq closing)
  | @combined op triggers action hne h ih =>
      intro depth closing rest hdepth hrest
      rw [parts_combined]
      cases triggers with
      | nil =>
          exact absurd rfl hne
      | cons t triggers =>
          have ht := h t List.mem_cons_self
          cases triggers with
          | nil =>
              rw [partsAll]
              rcases ht.first (closing + 1) with
                ⟨u, -, hu, hhead, hchange⟩ | ⟨u, us, -, hu, hhead⟩
              · rw [hu]
                refine level_closing hdepth hrest ?_
                rw [depthChange_opened hhead, hchange]
                omega
              · rw [hu]
                exact level_double hhead
          | cons t' triggers =>
              rw [partsAll]
              rcases ht.first 0 with
                ⟨u, -, hu, hhead, hchange⟩ | ⟨u, us, -, hu, hhead⟩
              · rw [hu]
                have hmore : Level (depth + ((closing + 1 : Nat) : Int))
                    (partsAll op (closing + 1) (t' :: triggers) ++ rest) :=
                  levelIn_all (List.cons_ne_nil t' _)
                    (fun x hx => ih x (List.mem_cons_of_mem _ hx)) hdepth hrest
                have hdeeper : depth + closing + depthChange ('(' :: u) =
                    depth + ((closing + 1 : Nat) : Int) := by
                  rw [depthChange_opened hhead, hchange]
                  omega
                have hdeep : 0 ≤ depth + ((closing + 1 : Nat) : Int) := by
                  omega
                refine .inr ?_
                rw [hdeeper]
                exact ⟨hdeep, level_op hdeep hmore⟩
              · rw [hu]
                exact level_double hhead

/-- A part that opens parentheses of a listing closes none. -/
theorem IsBuilt.opensOnly
    (h : b.IsBuilt) {closing : Nat} {p : List Char} (hp : p ∈ parts closing b)
    (hopen : p.head? = some '(') :
    ')' ∉ p := by
  induction h generalizing closing p with
  | single h =>
      rw [parts_listed h] at hp
      rw [List.mem_singleton.mp hp] at hopen
      exact absurd hopen (h.head_ne closing)
  | @combined op triggers action hlength h ih =>
      have hbody : ∀ q ∈ partsAll op (closing + 1) triggers,
          q.head? = some '(' → ')' ∉ q := by
        intro q hq hhead
        rcases mem_partsAll hq with rfl | ⟨t, ht, m, hq⟩
        · exact absurd hhead (by cases op <;> decide)
        · exact ih t ht hq hhead
      rw [parts_combined] at hp
      match triggers, hlength with
      | t :: t' :: triggers, _ =>
          rw [partsAll] at hp
          rcases (h t List.mem_cons_self).formed.first 0 with
            ⟨u, -, hu, hhead, hchange⟩ | ⟨u, us, -, hu, hhead⟩
          · rw [hu] at hp
            rcases List.mem_cons.mp hp with rfl | hp
            · have hcount : u.count ')' = 0 := by
                unfold depthChange at hchange
                rw [if_neg hhead] at hchange
                omega
              exact List.not_mem_cons_of_ne_of_not_mem (by decide)
                (List.count_eq_zero.mp hcount)
            · refine hbody p ?_ hopen
              rw [partsAll, hu]
              exact List.mem_cons_of_mem _ hp
          · rw [hu] at hp
            have hu' : ')' ∉ u :=
              ih t List.mem_cons_self (hu ▸ List.mem_cons_self) hhead
            rcases List.mem_cons.mp hp with rfl | hp
            · exact List.not_mem_cons_of_ne_of_not_mem (by decide) hu'
            · refine hbody p ?_ hopen
              rw [partsAll, hu]
              exact List.mem_cons_of_mem _ hp

/-- Some part has two opening parentheses. -/
def HasDouble (ps : List (List Char)) : Prop :=
  ∃ p ∈ ps, IsDouble p

/-- Breakpoints of which no combination has a combination as its first
trigger. -/
inductive IsPlain : Breakpoint → Prop
  | single {b : Breakpoint} (h : b.IsListed) :
      IsPlain b
  | combined {op : BpOperator} {t : Breakpoint} {triggers : List Breakpoint}
      {action : BpAction} (hfirst : t.IsListed)
      (h : ∀ x ∈ triggers, IsPlain x) :
      IsPlain (.combined op (t :: triggers) action)

theorem HasDouble.opened
    {ps : List (List Char)} (h : HasDouble ps) :
    HasDouble (openFirst ps) := by
  obtain ⟨p, hp, hdouble⟩ := h
  cases ps with
  | nil =>
      cases hp
  | cons q ps =>
      rcases List.mem_cons.mp hp with rfl | hp
      · refine ⟨'(' :: p, List.mem_cons_self, (isDouble_cons p).mpr ?_⟩
        cases p with
        | nil =>
            cases hdouble
        | cons c p =>
            unfold IsDouble at hdouble
            rw [List.take_succ_cons] at hdouble
            rw [List.head?_cons, (List.cons.inj hdouble).1]
      · exact ⟨p, List.mem_cons_of_mem _ hp, hdouble⟩

theorem hasDouble_all
    {t : Breakpoint} (ht : t ∈ triggers)
    (h : ∀ closing, HasDouble (parts closing t)) (closing : Nat) :
    HasDouble (partsAll op closing triggers) := by
  induction triggers with
  | nil =>
      cases ht
  | cons t' triggers ih =>
      cases triggers with
      | nil =>
          rw [partsAll, ← List.mem_singleton.mp ht]
          exact h closing
      | cons t'' triggers =>
          rw [partsAll]
          rcases List.mem_cons.mp ht with rfl | ht
          · obtain ⟨p, hp, hdouble⟩ := h 0
            exact ⟨p, List.mem_append_left _ hp, hdouble⟩
          · obtain ⟨p, hp, hdouble⟩ := ih ht
            exact ⟨p, List.mem_append_right _ (List.mem_cons_of_mem _ hp),
              hdouble⟩

/-- A listing that is not plain has a part with two opening parentheses. -/
theorem IsBuilt.hasDouble
    (h : b.IsBuilt) (hb : ¬ b.IsPlain) (closing : Nat) :
    HasDouble (parts closing b) := by
  induction h generalizing closing with
  | single h =>
      exact absurd (.single h) hb
  | @combined op triggers action hlength h ih =>
      rw [parts_combined]
      match triggers, hlength with
      | t :: t' :: triggers, _ =>
          by_cases ht : t.IsListed
          · have hlater : ∃ x ∈ t' :: triggers, ¬ x.IsPlain := by
              by_contra hnone
              refine hb (.combined ht fun x hx => ?_)
              by_contra hx'
              exact hnone ⟨x, hx, hx'⟩
            obtain ⟨x, hx, hnot⟩ := hlater
            have hmem : x ∈ t :: t' :: triggers :=
              List.mem_cons_of_mem _ hx
            exact (hasDouble_all hmem (fun n => ih x hmem hnot n) _).opened
          · rcases (h t List.mem_cons_self).formed.first 0 with
              ⟨u, hlisted, -⟩ | ⟨u, us, -, hu, hhead⟩
            · exact absurd hlisted ht
            · rw [partsAll, hu]
              exact ⟨'(' :: u, List.mem_cons_self,
                (isDouble_cons u).mpr hhead⟩

end Depth

end Breakpoint

end KekPdp11
