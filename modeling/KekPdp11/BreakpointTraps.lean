import KekPdp11.BreakpointDepth

/-!
# KEK PDP-11: listings that are not read back

Where a part of a text starts with two opening parentheses, the parser comes
upon a group that it cuts too short: the text between the parentheses of it
still opens one that it does not close.

`Trapped` is what the parts of such a text have in common.  It holds of the
parts of a group if it holds of the whole (`Group.inner_trapped`) and of what
is behind a group that has no such part (`Group.rest_trapped`), so that the
parser comes to it (`parseFrom_trapped`).
-/

namespace KekPdp11

namespace Breakpoint

section Groups

/-- The parts take the depth to zero, and it is not zero before the last of
them. -/
inductive Group : Int → List (List Char) → Prop
  | last {depth : Int} {p : List Char} (h : depth + depthChange p = 0) :
      Group depth [p]
  | cons {depth : Int} {p : List Char} {ps : List (List Char)}
      (hne : depth + depthChange p ≠ 0) (h : Group (depth + depthChange p) ps) :
      Group depth (p :: ps)

theorem Group.ne_nil
    {depth : Int} {ps : List (List Char)} (h : Group depth ps) :
    ps ≠ [] := by
  cases h with
  | last h =>
      exact List.cons_ne_nil _ _
  | cons hne h =>
      exact List.cons_ne_nil _ _

/-- The parser finds the last part of a group. -/
theorem Group.endIndex_eq
    {depth : Int} {ps : List (List Char)} (h : Group depth ps)
    (rest : List (List Char)) :
    endIndex depth (ps ++ rest) = some (ps.length - 1) := by
  induction h with
  | last h =>
      rw [List.singleton_append, endIndex, if_pos h]
      rfl
  | @cons depth p ps hne h ih =>
      have hlength := List.length_pos_iff.mpr h.ne_nil
      rw [List.cons_append, endIndex, if_neg hne, ih, List.length_cons,
        Option.map_some]
      congr 1
      omega

/-- What the parser finds is a group. -/
theorem group_of_endIndex
    {depth : Int} {ps : List (List Char)} {n : Nat}
    (h : endIndex depth ps = some n) :
    Group depth (ps.take (n + 1)) := by
  induction ps generalizing depth n with
  | nil =>
      cases h
  | cons p ps ih =>
      rw [endIndex] at h
      split at h
      · next hzero =>
          cases h
          exact .last hzero
      · next hne =>
          obtain ⟨m, hm, rfl⟩ := Option.map_eq_some_iff.mp h
          exact .cons hne (ih hm)

/-- The parts without the last character. -/
def peel : List (List Char) → List (List Char)
  | [] => []
  | [p] => [p.dropLast]
  | p :: q :: ps => p :: peel (q :: ps)

theorem peel_ne_nil
    {ps : List (List Char)} (h : ps ≠ []) :
    peel ps ≠ [] := by
  match ps, h with
  | [p], _ =>
      exact List.cons_ne_nil _ _
  | p :: q :: ps, _ =>
      exact List.cons_ne_nil _ _

theorem joined_cons
    (p : List Char) {ps : List (List Char)} (h : ps ≠ []) :
    joined (p :: ps) = p ++ ' ' :: joined ps := by
  rw [← List.singleton_append, joined_append (List.cons_ne_nil _ _) h,
    joined_singleton]

theorem joined_ne_nil
    {ps : List (List Char)} (hne : ps ≠ []) (h : ∀ p ∈ ps, p ≠ []) :
    joined ps ≠ [] := by
  obtain ⟨p, ps, rfl⟩ := List.exists_cons_of_ne_nil hne
  have hp := h p List.mem_cons_self
  cases ps with
  | nil =>
      rw [joined_singleton]
      exact hp
  | cons q ps =>
      rw [joined_cons p (List.cons_ne_nil _ _)]
      exact List.append_ne_nil_of_left_ne_nil hp _

theorem dropLast_joined
    {ps : List (List Char)} (hne : ps ≠ []) (h : ∀ p ∈ ps, p ≠ []) :
    (joined ps).dropLast = joined (peel ps) := by
  induction ps with
  | nil =>
      exact absurd rfl hne
  | cons p ps ih =>
      cases ps with
      | nil =>
          rw [peel, joined_singleton, joined_singleton]
      | cons q ps =>
          have hq : ∀ x ∈ q :: ps, x ≠ [] := fun x hx =>
            h x (List.mem_cons_of_mem _ hx)
          rw [joined_cons p (List.cons_ne_nil _ _),
            List.dropLast_append_of_ne_nil (List.cons_ne_nil _ _),
            List.dropLast_cons_of_ne_nil
              (joined_ne_nil (List.cons_ne_nil _ _) hq),
            ih (List.cons_ne_nil _ _) hq, peel,
            joined_cons p (peel_ne_nil (List.cons_ne_nil _ _))]

/-- The text between the parentheses of a group comes apart into its parts
without the first and the last character. -/
theorem split_inner
    {u : List Char} {ps : List (List Char)} (hne : ps ≠ [])
    (h : ∀ p ∈ ps, p ≠ []) (hblank : ∀ p ∈ u :: peel ps, ' ' ∉ p) :
    split ' ' (inner (('(' :: u) :: ps)) =
      (u :: peel ps).filter (· ≠ []) := by
  have htext : inner (('(' :: u) :: ps) = joined (u :: peel ps) := by
    change ((joined (('(' :: u) :: ps)).drop 1).dropLast = _
    rw [joined_cons _ hne, List.cons_append, List.drop_one, List.tail_cons,
      List.dropLast_append_of_ne_nil (List.cons_ne_nil _ _),
      List.dropLast_cons_of_ne_nil (joined_ne_nil hne h),
      dropLast_joined hne h, joined_cons u (peel_ne_nil hne)]
  rw [htext]
  exact split_intercalate hblank

end Groups

section Tokens

/-- A part of a listing, or what is left of one: an opening one closes nothing,
and the closing parentheses are the last characters. -/
structure IsToken (p : List Char) : Prop where
  noBlank : ' ' ∉ p
  closes : ∃ u n, p = u ++ List.replicate n ')' ∧ ')' ∉ u
  opensOnly : p.head? = some '(' → ')' ∉ p

variable {p : List Char} {depth : Int}

theorem depthChange_of_open
    (hopen : p.head? = some '(') (hclose : ')' ∉ p) :
    depthChange p = 1 := by
  unfold depthChange
  rw [if_pos hopen, List.count_eq_zero_of_not_mem hclose]
  rfl

theorem depthChange_of_noClose
    (hopen : p.head? ≠ some '(') (hclose : ')' ∉ p) :
    depthChange p = 0 := by
  unfold depthChange
  rw [if_neg hopen, List.count_eq_zero_of_not_mem hclose]
  rfl

theorem depthChange_nonneg
    (hclose : ')' ∉ p) :
    0 ≤ depthChange p := by
  by_cases hopen : p.head? = some '('
  · rw [depthChange_of_open hopen hclose]
    decide
  · rw [depthChange_of_noClose hopen hclose]

theorem IsDouble.head
    (h : IsDouble p) :
    p.head? = some '(' := by
  by_contra hhead
  exact not_isDouble_of_head hhead h

theorem head_dropLast
    (h : p.dropLast.head? = some '(') :
    p.head? = some '(' := by
  match p, h with
  | c :: d :: p, h =>
      exact h

theorem IsToken.dropLast
    (h : IsToken p) :
    IsToken p.dropLast := by
  have hsub : ∀ {c : Char}, c ∈ p.dropLast → c ∈ p :=
    List.mem_of_mem_dropLast
  refine ⟨fun hmem => h.noBlank (hsub hmem), ?_,
    fun hopen hmem => h.opensOnly (head_dropLast hopen) (hsub hmem)⟩
  obtain ⟨u, n, rfl, hu⟩ := h.closes
  cases n with
  | zero =>
      rw [List.replicate_zero, List.append_nil]
      exact ⟨u.dropLast, 0, (List.append_nil _).symm,
        fun hmem => hu (List.mem_of_mem_dropLast hmem)⟩
  | succ n =>
      refine ⟨u, n, ?_, hu⟩
      rw [List.replicate_succ', ← List.append_assoc, List.dropLast_concat]

theorem IsToken.tail
    {u : List Char} (h : IsToken ('(' :: u)) :
    IsToken u ∧ ')' ∉ u := by
  have hclose : ')' ∉ u := fun hmem =>
    h.opensOnly rfl (List.mem_cons_of_mem _ hmem)
  exact ⟨⟨fun hmem => h.noBlank (List.mem_cons_of_mem _ hmem),
    ⟨u, 0, (List.append_nil _).symm, hclose⟩, fun _ => hclose⟩, hclose⟩

/-- Without its last character a part closes no more than before. -/
theorem IsToken.dropLast_nonneg
    (h : IsToken p) (hdepth : 0 ≤ depth)
    (hp : IsDouble p ∨ 0 ≤ depth + depthChange p) :
    0 ≤ depth + depthChange p.dropLast := by
  by_cases hopen : p.head? = some '('
  · have hclose : ')' ∉ p.dropLast := fun hmem =>
      h.opensOnly hopen (List.mem_of_mem_dropLast hmem)
    have hnonneg := depthChange_nonneg hclose
    omega
  · have hchange := hp.resolve_left fun hdouble => hopen hdouble.head
    have hopen' : p.dropLast.head? ≠ some '(' := fun hhead =>
      hopen (head_dropLast hhead)
    have hcount : p.dropLast.count ')' ≤ p.count ')' :=
      (List.dropLast_sublist p).count_le _
    unfold depthChange at hchange ⊢
    rw [if_neg hopen] at hchange
    rw [if_neg hopen']
    omega

/-- The last part of a group that closes it closes one less without its last
character. -/
theorem IsToken.dropLast_closes
    (h : IsToken p) (hclose : depthChange p < 0) :
    depthChange p.dropLast = depthChange p + 1 := by
  have hmem : ')' ∈ p := by
    by_contra hnone
    have hnonneg := depthChange_nonneg hnone
    omega
  have hopen : p.head? ≠ some '(' := fun hhead => h.opensOnly hhead hmem
  have hopen' : p.dropLast.head? ≠ some '(' := fun hhead =>
    hopen (head_dropLast hhead)
  unfold depthChange
  rw [if_neg hopen, if_neg hopen']
  obtain ⟨u, n, rfl, hu⟩ := h.closes
  cases n with
  | zero =>
      rw [List.replicate_zero, List.append_nil] at hmem
      exact absurd hmem hu
  | succ n =>
      have hcount : (u ++ List.replicate n ')' ++ [')']).count ')' =
          (u ++ List.replicate n ')').count ')' + 1 := by
        rewrite [List.count_append]
        rfl
      rw [List.replicate_succ', ← List.append_assoc, List.dropLast_concat,
        hcount]
      omega

end Tokens

section Traps

variable {p y : List Char} {depth : Int} {g ps rest : List (List Char)}

/-- Nothing that is empty counts. -/
theorem depthChange_nil :
    depthChange [] = 0 :=
  rfl

theorem Level.mono
    {depth' : Int} (h : Level depth ps) (hle : depth ≤ depth') :
    Level depth' ps := by
  induction ps generalizing depth depth' with
  | nil =>
      trivial
  | cons p ps ih =>
      rcases h with hdouble | ⟨hnonneg, h⟩
      · exact .inl hdouble
      · exact .inr ⟨by omega, ih h (by omega)⟩

theorem Level.lands
    (h : Level depth ps) :
    Lands depth ps := by
  induction ps generalizing depth with
  | nil =>
      trivial
  | cons p ps ih =>
      rcases h with hdouble | ⟨hnonneg, h⟩
      · exact .inl hdouble
      · exact .inr ⟨hnonneg, fun _ => ih h⟩

section Filter

/-- The parts that are not empty. -/
abbrev nonEmpty (ps : List (List Char)) : List (List Char) :=
  ps.filter (· ≠ [])

theorem nonEmpty_cons
    (hp : p ≠ []) (ps : List (List Char)) :
    nonEmpty (p :: ps) = p :: nonEmpty ps :=
  List.filter_cons_of_pos (decide_eq_true hp)

theorem not_isDouble_nil :
    ¬ IsDouble [] := by
  decide

theorem Level.nonEmpty
    (h : Level depth ps) :
    Level depth (nonEmpty ps) := by
  induction ps generalizing depth with
  | nil =>
      trivial
  | cons p ps ih =>
      by_cases hp : p = []
      · subst hp
        have hrest := (h.resolve_left not_isDouble_nil).2
        rw [depthChange_nil, Int.add_zero] at hrest
        exact ih hrest
      · rw [nonEmpty_cons hp]
        exact h.imp id fun h => ⟨h.1, ih h.2⟩

theorem Lands.nonEmpty
    (h : Lands depth ps) (hdepth : 0 < depth) :
    Lands depth (nonEmpty ps) := by
  induction ps generalizing depth with
  | nil =>
      trivial
  | cons p ps ih =>
      by_cases hp : p = []
      · subst hp
        have hrest := (h.resolve_left not_isDouble_nil).2
        rw [depthChange_nil, Int.add_zero] at hrest
        exact ih (hrest hdepth) hdepth
      · rw [nonEmpty_cons hp]
        exact h.imp id fun h => ⟨h.1, fun hpos => ih (h.2 hpos) hpos⟩

theorem Nested.nonEmpty
    (h : Nested ps) :
    Nested (nonEmpty ps) := by
  induction ps with
  | nil =>
      trivial
  | cons p ps ih =>
      by_cases hp : p = []
      · subst hp
        exact ih h.2
      · rw [nonEmpty_cons hp]
        exact ⟨fun hdouble => ⟨(h.1 hdouble).1,
          fun hpos => ((h.1 hdouble).2 hpos).nonEmpty hpos⟩, ih h.2⟩

theorem HasDouble.nonEmpty
    (h : HasDouble ps) :
    HasDouble (nonEmpty ps) := by
  obtain ⟨p, hp, hdouble⟩ := h
  refine ⟨p, List.mem_filter.mpr ⟨hp, decide_eq_true ?_⟩, hdouble⟩
  rintro rfl
  exact not_isDouble_nil hdouble

end Filter

/-- The parts of a text of which the parser cannot make a breakpoint. -/
structure Trapped (ps : List (List Char)) : Prop where
  tokens : ∀ p ∈ ps, IsToken p
  level : Level 0 ps
  nested : Nested ps
  double : HasDouble ps

theorem Trapped.nonEmpty
    (h : Trapped ps) :
    Trapped (nonEmpty ps) :=
  ⟨fun p hp => h.tokens p (List.mem_of_mem_filter hp), h.level.nonEmpty,
    h.nested.nonEmpty, h.double.nonEmpty⟩

theorem mem_peel
    (h : p ∈ peel g) :
    p ∈ g ∨ ∃ q ∈ g, p = q.dropLast := by
  induction g with
  | nil =>
      cases h
  | cons q g ih =>
      cases g with
      | nil =>
          exact .inr ⟨q, List.mem_cons_self, List.mem_singleton.mp h⟩
      | cons r g =>
          rcases List.mem_cons.mp h with rfl | h
          · exact .inl List.mem_cons_self
          · rcases ih h with h | ⟨q', hq', rfl⟩
            · exact .inl (List.mem_cons_of_mem _ h)
            · exact .inr ⟨q', List.mem_cons_of_mem _ hq', rfl⟩

theorem tokens_peel
    (h : ∀ p ∈ g, IsToken p) :
    ∀ p ∈ peel g, IsToken p := by
  intro p hp
  rcases mem_peel hp with hp | ⟨q, hq, rfl⟩
  · exact h p hp
  · exact (h q hq).dropLast

/-- A group has a part with two opening parentheses before its last one, or
none at all. -/
theorem Group.double_or_none
    (h : Group depth g) (hdepth : 0 < depth) (htokens : ∀ p ∈ g, IsToken p)
    (hlands : Lands depth (g ++ rest)) :
    HasDouble g.dropLast ∨ ∀ p ∈ g, ¬ IsDouble p := by
  induction h with
  | @last depth p h =>
      refine .inr fun q hq hdouble => ?_
      rw [List.mem_singleton.mp hq] at hdouble
      have hopen := depthChange_of_open hdouble.head
        ((htokens p List.mem_cons_self).opensOnly hdouble.head)
      omega
  | @cons depth p ps hne h ih =>
      have hps : p ∈ (p :: ps).dropLast := by
        rw [List.dropLast_cons_of_ne_nil h.ne_nil]
        exact List.mem_cons_self
      rcases hlands with hdouble | ⟨hnonneg, hlands⟩
      · exact .inl ⟨p, hps, hdouble⟩
      · have hpos : 0 < depth + depthChange p := by
          omega
        by_cases hp : IsDouble p
        · exact .inl ⟨p, hps, hp⟩
        · rcases ih hpos (fun q hq => htokens q (List.mem_cons_of_mem _ hq))
              (hlands hpos) with ⟨q, hq, hdouble⟩ | hnone
          · refine .inl ⟨q, ?_, hdouble⟩
            rw [List.dropLast_cons_of_ne_nil h.ne_nil]
            exact List.mem_cons_of_mem _ hq
          · exact .inr (List.forall_mem_cons.mpr ⟨hp, hnone⟩)

theorem hasDouble_peel
    (h : HasDouble g.dropLast) :
    HasDouble (peel g) := by
  induction g with
  | nil =>
      exact h
  | cons p g ih =>
      cases g with
      | nil =>
          obtain ⟨q, hq, -⟩ := h
          cases hq
      | cons r g =>
          obtain ⟨q, hq, hdouble⟩ := h
          rw [List.dropLast_cons_of_ne_nil (List.cons_ne_nil _ _)] at hq
          rcases List.mem_cons.mp hq with rfl | hq
          · exact ⟨q, List.mem_cons_self, hdouble⟩
          · obtain ⟨q', hq', hdouble'⟩ := ih ⟨q, hq, hdouble⟩
            exact ⟨q', List.mem_cons_of_mem _ hq', hdouble'⟩

/-- Between the parentheses of a group the depth is less by one. -/
theorem Group.level_peel
    (h : Group depth g) (hdepth : 0 < depth)
    (hlands : Lands depth (g ++ rest)) (hdouble : HasDouble g.dropLast) :
    Level (depth - 1) (peel g) := by
  induction h with
  | @last depth p h =>
      obtain ⟨q, hq, -⟩ := hdouble
      cases hq
  | @cons depth p ps hne h ih =>
      obtain ⟨q, ps, rfl⟩ := List.exists_cons_of_ne_nil h.ne_nil
      by_cases hp : IsDouble p
      · exact .inl hp
      · obtain ⟨hnonneg, hlands⟩ := hlands.resolve_left hp
        have hpos : 0 < depth + depthChange p := by
          omega
        obtain ⟨x, hx, hxdouble⟩ := hdouble
        rw [List.dropLast_cons_of_ne_nil h.ne_nil] at hx
        rcases List.mem_cons.mp hx with rfl | hx
        · exact absurd hxdouble hp
        · have hmore := ih hpos (hlands hpos) ⟨x, hx, hxdouble⟩
          have hshift : depth - 1 + depthChange p =
              depth + depthChange p - 1 := by
            omega
          refine .inr ⟨by omega, ?_⟩
          rw [hshift]
          exact hmore

theorem lands_peel
    (hne : g ≠ []) (hdepth : 0 ≤ depth) (htokens : ∀ p ∈ g, IsToken p)
    (hlands : Lands depth (g ++ rest)) :
    Lands depth (peel g) := by
  induction g generalizing depth with
  | nil =>
      exact absurd rfl hne
  | cons p g ih =>
      cases g with
      | nil =>
          refine .inr ⟨?_, fun _ => trivial⟩
          exact (htokens p List.mem_cons_self).dropLast_nonneg hdepth
            (hlands.imp id fun h => h.1)
      | cons q g =>
          refine hlands.imp id fun h => ⟨h.1, fun hpos => ?_⟩
          exact ih (List.cons_ne_nil _ _) hpos.le
            (fun x hx => htokens x (List.mem_cons_of_mem _ hx)) (h.2 hpos)

theorem nested_peel
    (hne : g ≠ []) (htokens : ∀ p ∈ g, IsToken p)
    (hnested : Nested (g ++ rest)) :
    Nested (peel g) := by
  induction g with
  | nil =>
      exact absurd rfl hne
  | cons p g ih =>
      have hp := htokens p List.mem_cons_self
      cases g with
      | nil =>
          refine ⟨fun hdouble => ⟨?_, fun _ => trivial⟩, trivial⟩
          rw [depthChange_of_open hdouble.head
            (hp.dropLast.opensOnly hdouble.head)]
          decide
      | cons q g =>
          have hq : ∀ x ∈ q :: g, IsToken x := fun x hx =>
            htokens x (List.mem_cons_of_mem _ hx)
          refine ⟨fun hdouble => ⟨(hnested.1 hdouble).1, fun hpos => ?_⟩,
            ih (List.cons_ne_nil _ _) hq hnested.2⟩
          exact lands_peel (List.cons_ne_nil _ _) hpos.le hq
            ((hnested.1 hdouble).2 hpos)

/-- Behind a group without two opening parentheses the depth is zero. -/
theorem Group.level_rest
    (h : Group depth g) (hnone : ∀ p ∈ g, ¬ IsDouble p)
    (hlevel : Level depth (g ++ rest)) :
    Level 0 rest := by
  induction h with
  | @last depth p h =>
      have hrest :=
        (hlevel.resolve_left (hnone p List.mem_cons_self)).2
      rwa [h] at hrest
  | @cons depth p ps hne h ih =>
      exact ih (fun q hq => hnone q (List.mem_cons_of_mem _ hq))
        (hlevel.resolve_left (hnone p List.mem_cons_self)).2

theorem nested_of_append
    (h : Nested (g ++ rest)) :
    Nested rest := by
  induction g with
  | nil =>
      exact h
  | cons p g ih =>
      exact ih h.2

/-- Without its last parenthesis a group has no end. -/
theorem Group.endIndex_peel
    (h : Group depth g) (hdepth : 0 < depth) (htokens : ∀ p ∈ g, IsToken p)
    (hfull : ∀ p ∈ g, p ≠ []) (hnone : ∀ p ∈ g, ¬ IsDouble p)
    (hlands : Lands depth (g ++ rest)) :
    endIndex depth (nonEmpty (peel g)) = none := by
  induction h with
  | @last depth p h =>
      have hone : depth + depthChange p.dropLast = 1 := by
        have hclose := (htokens p List.mem_cons_self).dropLast_closes (by omega)
        omega
      by_cases hnil : p.dropLast = []
      · rw [peel, hnil]
        rfl
      · rw [peel, nonEmpty_cons hnil, endIndex, hone]
        rfl
  | @cons depth p ps hne h ih =>
      obtain ⟨hp, hps⟩ := List.forall_mem_cons.mp hfull
      have hnonneg :=
        (hlands.resolve_left (hnone p List.mem_cons_self)).1
      have hpos : 0 < depth + depthChange p := by
        omega
      have hmore := ih hpos
        (fun q hq => htokens q (List.mem_cons_of_mem _ hq)) hps
        (fun q hq => hnone q (List.mem_cons_of_mem _ hq))
        ((hlands.resolve_left (hnone p List.mem_cons_self)).2 hpos)
      obtain ⟨q, ps, rfl⟩ := List.exists_cons_of_ne_nil h.ne_nil
      rw [peel, nonEmpty_cons hp, endIndex, if_neg hne, hmore]
      rfl

/-- Behind its first part a group goes on from depth one. -/
theorem Group.tail
    (h : Group 0 (p :: g)) (hp : IsToken p) (hopen : p.head? = some '(') :
    Group 1 g := by
  have hone : depthChange p = 1 :=
    depthChange_of_open hopen (hp.opensOnly hopen)
  cases h with
  | last h =>
      omega
  | cons hne h =>
      rwa [hone] at h

/-- Between the parentheses of a group with a part that has two opening ones,
there is such a part again, unless it was the first one. -/
theorem Group.inner_trapped
    {u : List Char} (h : Group 0 (('(' :: u) :: g))
    (htrapped : Trapped (('(' :: u) :: (g ++ rest)))
    (hdouble : HasDouble g.dropLast) (hlands : Lands 1 (g ++ rest)) :
    Trapped (nonEmpty (u :: peel g)) := by
  obtain ⟨hp, htokens⟩ := List.forall_mem_cons.mp htrapped.tokens
  obtain ⟨hu, hclose⟩ := hp.tail
  have hg : ∀ p ∈ g, IsToken p := fun p hp =>
    htokens p (List.mem_append_left _ hp)
  have hgroup : Group 1 g :=
    h.tail hp rfl
  have hlevel : Level 0 (peel g) :=
    hgroup.level_peel (by decide) hlands hdouble
  have hpeel : Lands 1 (peel g) :=
    lands_peel hgroup.ne_nil (by decide) hg hlands
  refine Trapped.nonEmpty ⟨?_, ?_, ⟨fun hd => ⟨depthChange_nonneg hclose,
    fun hpos => ?_⟩, nested_peel hgroup.ne_nil hg htrapped.nested.2⟩, ?_⟩
  · exact List.forall_mem_cons.mpr ⟨hu, tokens_peel hg⟩
  · by_cases hopen : u.head? = some '('
    · have hchange := depthChange_of_open hopen hclose
      exact .inr ⟨by omega, hlevel.mono (by omega)⟩
    · have hchange := depthChange_of_noClose hopen hclose
      exact .inr ⟨by omega, hlevel.mono (by omega)⟩
  · rwa [depthChange_of_open hd.head hclose]
  · obtain ⟨q, hq, hqdouble⟩ := hasDouble_peel hdouble
    exact ⟨q, List.mem_cons_of_mem _ hq, hqdouble⟩

/-- Behind a group without such a part there is one. -/
theorem Group.rest_trapped
    (h : Group 0 (p :: g)) (htrapped : Trapped (p :: (g ++ rest)))
    (hnone : ∀ q ∈ p :: g, ¬ IsDouble q) :
    Trapped rest := by
  refine ⟨fun q hq => htrapped.tokens q ?_, h.level_rest hnone htrapped.level,
    nested_of_append htrapped.nested.2, ?_⟩
  · exact List.mem_cons_of_mem _ (List.mem_append_right _ hq)
  · obtain ⟨q, hq, hdouble⟩ := htrapped.double
    rw [← List.cons_append] at hq
    rcases List.mem_append.mp hq with hq | hq
    · exact absurd hdouble (hnone q hq)
    · exact ⟨q, hq, hdouble⟩

/-- A part that opens nothing is passed over. -/
theorem Trapped.tail
    (h : Trapped (p :: ps)) (hopen : p.head? ≠ some '(') :
    Trapped ps := by
  have hp : ¬ IsDouble p := fun hdouble => hopen hdouble.head
  obtain ⟨hnonneg, hlevel⟩ := h.level.resolve_left hp
  have hchange : depthChange p ≤ 0 := by
    unfold depthChange
    rw [if_neg hopen]
    omega
  refine ⟨fun q hq => h.tokens q (List.mem_cons_of_mem _ hq),
    hlevel.mono (by omega), h.nested.2, ?_⟩
  obtain ⟨q, hq, hdouble⟩ := h.double
  rcases List.mem_cons.mp hq with rfl | hq
  · exact absurd hdouble hp
  · exact ⟨q, hq, hdouble⟩

/-- Behind a part that opens, the depth lands on zero. -/
theorem Trapped.lands
    (h : Trapped (p :: ps)) (hopen : p.head? = some '(') :
    Lands 1 ps := by
  have hone : depthChange p = 1 :=
    depthChange_of_open hopen
      ((h.tokens p List.mem_cons_self).opensOnly hopen)
  by_cases hp : IsDouble p
  · have hlands := (h.nested.1 hp).2
    rw [hone] at hlands
    exact hlands (by decide)
  · have hlevel := (h.level.resolve_left hp).2
    rw [hone, Int.zero_add] at hlevel
    exact hlevel.lands

end Traps

section Failure

variable {action : BpAction} {fuel : Nat}

/-- Parts that were dealt with are passed over. -/
theorem parseParts_skip
    {parse : List Char → Parsed Breakpoint} {text : List Char}
    {combine : Combine} {parsed : List Breakpoint} (skip : Nat)
    (ps : List (List Char)) :
    parseParts parse text action skip combine parsed ps =
      parseParts parse text action 0 combine parsed (ps.drop skip) := by
  induction ps generalizing skip with
  | nil =>
      cases skip <;> rfl
  | cons p ps ih =>
      cases skip with
      | zero =>
          rfl
      | succ skip =>
          rw [parseParts, ih, List.drop_succ_cons]

section Steps

variable {parse : List Char → Parsed Breakpoint} {text p : List Char}
variable {ps : List (List Char)} (combine : Combine) (parsed : List Breakpoint)

theorem parseParts_unbalanced
    (hopen : p.head? = some '(') (hend : endIndex 0 (p :: ps) = none) :
    parseParts parse text action 0 combine parsed (p :: ps) =
      .error (.message ("( and ) unbalanced: ".toList ++ text)) := by
  rw [parseParts.eq_def]
  dsimp only
  rw [if_pos hopen, hend]

theorem parseParts_group
    {n : Nat} (hopen : p.head? = some '(')
    (hend : endIndex 0 (p :: ps) = some n) :
    parseParts parse text action 0 combine parsed (p :: ps) = (do
      let bp ← parse (inner ((p :: ps).take (n + 1)))
      parseParts parse text action 0 combine (parsed ++ [bp])
        (ps.drop n)) := by
  rw [parseParts.eq_def]
  dsimp only
  rw [if_pos hopen, hend]
  dsimp only
  congr 1
  funext bp
  exact parseParts_skip n ps

/-- A part that opens nothing ends the loop, or the loop goes on behind it. -/
theorem parseParts_step
    (hopen : p.head? ≠ some '(') :
    (∃ e, parseParts parse text action 0 combine parsed (p :: ps) = .error e) ∨
      ∃ combine' parsed',
        parseParts parse text action 0 combine parsed (p :: ps) =
          parseParts parse text action 0 combine' parsed' ps := by
  rw [parseParts.eq_def]
  dsimp only
  rw [if_neg hopen]
  split
  · split
    · exact .inr ⟨_, _, rfl⟩
    · exact .inl ⟨_, rfl⟩
  · exact .inr ⟨_, _, rfl⟩
  · exact .inl ⟨_, rfl⟩
  · cases parseAtom action p with
    | error e =>
        exact .inl ⟨e, rfl⟩
    | ok atoms =>
        exact .inr ⟨_, _, rfl⟩

end Steps

/-- A text whose first group has no end is refused. -/
theorem parseFrom_of_no_end
    {text u : List Char} {ps : List (List Char)}
    (hsplit : split ' ' text = u :: ps) (hopen : u.head? = some '(')
    (hend : endIndex 0 (u :: ps) = none) :
    ∃ e, parseFrom action fuel text = .error e := by
  cases fuel with
  | zero =>
      exact ⟨_, rfl⟩
  | succ fuel =>
      rw [parseFrom, hsplit, parseParts_unbalanced _ _ hopen hend]
      exact ⟨_, rfl⟩

/-- The text in a group that begins with two opening parentheses and has no
others is refused. -/
theorem Group.inner_refused
    {u : List Char} {g rest : List (List Char)}
    (h : Group 0 (('(' :: u) :: g))
    (htrapped : Trapped (('(' :: u) :: (g ++ rest)))
    (hfull : ∀ p ∈ g, p ≠ []) (hu : IsDouble ('(' :: u))
    (hnone : ∀ p ∈ g, ¬ IsDouble p) :
    ∃ e, parseFrom action fuel (inner (('(' :: u) :: g)) = .error e := by
  obtain ⟨hp, htokens⟩ := List.forall_mem_cons.mp htrapped.tokens
  obtain ⟨hutoken, hclose⟩ := hp.tail
  have hg : ∀ p ∈ g, IsToken p := fun p hp =>
    htokens p (List.mem_append_left _ hp)
  have hopen : u.head? = some '(' :=
    (isDouble_cons u).mp hu
  have hgroup : Group 1 g :=
    h.tail hp rfl
  have hune : u ≠ [] := by
    rintro rfl
    cases hopen
  have hblank : ∀ p ∈ u :: peel g, ' ' ∉ p :=
    List.forall_mem_cons.mpr
      ⟨hutoken.noBlank, fun p hp => (tokens_peel hg p hp).noBlank⟩
  have hsplit : split ' ' (inner (('(' :: u) :: g)) = nonEmpty (u :: peel g) :=
    split_inner hgroup.ne_nil hfull hblank
  rw [nonEmpty_cons hune] at hsplit
  refine parseFrom_of_no_end hsplit hopen ?_
  have hend := hgroup.endIndex_peel (by decide) hg hfull hnone
    (htrapped.lands rfl)
  rw [endIndex, depthChange_of_open hopen hclose, if_neg (by decide)]
  exact Option.map_eq_none_iff.mpr hend

/-- A group of such a text is refused, or what is behind it is trapped. -/
theorem Group.refused_or_rest
    {p : List Char} {g rest : List (List Char)} (h : Group 0 (p :: g))
    (htrapped : Trapped (p :: (g ++ rest))) (hopen : p.head? = some '(')
    (hfull : ∀ q ∈ g, q ≠ [])
    (hparse : ∀ text, (∀ q ∈ split ' ' text, q ≠ []) →
      Trapped (split ' ' text) →
      ∃ e, parseFrom action fuel text = .error e) :
    (∃ e, parseFrom action fuel (inner (p :: g)) = .error e) ∨
      Trapped rest := by
  obtain ⟨u, rfl⟩ : ∃ u, p = '(' :: u := by
    match p, hopen with
    | c :: u, hopen =>
        exact ⟨u, by rw [List.head?_cons] at hopen; rw [Option.some.inj hopen]⟩
  obtain ⟨hp, htokens⟩ := List.forall_mem_cons.mp htrapped.tokens
  have hg : ∀ q ∈ g, IsToken q := fun q hq =>
    htokens q (List.mem_append_left _ hq)
  have hgroup : Group 1 g :=
    h.tail hp rfl
  have hlands := htrapped.lands hopen
  rcases hgroup.double_or_none (by decide) hg hlands with hdouble | hnone
  · -- the group has a part of that kind further in
    have hinner := h.inner_trapped htrapped hdouble hlands
    have hblank : ∀ q ∈ u :: peel g, ' ' ∉ q :=
      List.forall_mem_cons.mpr
        ⟨hp.tail.1.noBlank, fun q hq => (tokens_peel hg q hq).noBlank⟩
    have hsplit : split ' ' (inner (('(' :: u) :: g)) =
        nonEmpty (u :: peel g) :=
      split_inner hgroup.ne_nil hfull hblank
    rw [← hsplit] at hinner
    refine .inl (hparse _ (fun q hq => ?_) hinner)
    rw [hsplit] at hq
    exact of_decide_eq_true (List.mem_filter.mp hq).2
  · by_cases hu : IsDouble ('(' :: u)
    · exact .inl (h.inner_refused htrapped hfull hu hnone)
    · exact .inr (h.rest_trapped htrapped
        (List.forall_mem_cons.mpr ⟨hu, hnone⟩))

/-- The parser makes no breakpoint of a text with such parts. -/
theorem parseFrom_trapped
    {text : List Char} (hfull : ∀ p ∈ split ' ' text, p ≠ [])
    (h : Trapped (split ' ' text)) :
    ∃ e, parseFrom action fuel text = .error e := by
  induction fuel generalizing text with
  | zero =>
      exact ⟨_, rfl⟩
  | succ fuel ih =>
      have hparts : ∀ m ps, ps.length = m → (∀ p ∈ ps, p ≠ []) → Trapped ps →
          ∀ combine parsed, ∃ e,
            parseParts (parseFrom action fuel) text action 0 combine parsed
              ps = .error e := by
        intro m
        induction m using Nat.strong_induction_on with
        | _ m ihm =>
            intro ps hm hfull htrapped combine parsed
            cases ps with
            | nil =>
                obtain ⟨p, hp, -⟩ := htrapped.double
                cases hp
            | cons p ps =>
                obtain ⟨hp, hps⟩ := List.forall_mem_cons.mp hfull
                by_cases hopen : p.head? = some '('
                · cases hend : endIndex 0 (p :: ps) with
                  | none =>
                      exact ⟨_, parseParts_unbalanced combine parsed hopen hend⟩
                  | some n =>
                      have hgroup := group_of_endIndex hend
                      rw [List.take_succ_cons] at hgroup
                      rw [← List.take_append_drop n ps] at htrapped
                      have hfull' : ∀ q ∈ ps.take n, q ≠ [] := fun q hq =>
                        hps q (List.mem_of_mem_take hq)
                      rw [parseParts_group combine parsed hopen hend,
                        List.take_succ_cons]
                      cases hinner : parseFrom action fuel
                          (inner (p :: ps.take n)) with
                      | error e =>
                          exact ⟨e, rfl⟩
                      | ok bp =>
                          rcases hgroup.refused_or_rest htrapped hopen hfull'
                              (fun text hfull h => ih hfull h) with
                            ⟨e, he⟩ | hrest
                          · rw [hinner] at he
                            cases he
                          · have hlt : (ps.drop n).length < m := by
                              rw [← hm, List.length_drop, List.length_cons]
                              omega
                            exact ihm _ hlt _ rfl
                              (fun q hq => hps q (List.mem_of_mem_drop hq))
                              hrest combine _
                · have hlt : ps.length < m := by
                    rw [← hm]
                    exact Nat.lt_succ_self _
                  have htail := ihm _ hlt ps rfl hps (htrapped.tail hopen)
                  rcases parseParts_step combine parsed hopen with
                    ⟨e, he⟩ | ⟨combine', parsed', hstep⟩
                  · exact ⟨e, he⟩
                  · rw [hstep]
                    exact htail combine' parsed'
      obtain ⟨e, he⟩ := hparts _ _ rfl hfull h .notSet []
      rw [parseFrom, he]
      exact ⟨e, rfl⟩

end Failure

end Breakpoint

end KekPdp11
