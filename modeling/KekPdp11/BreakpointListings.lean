import KekPdp11.BreakpointTraps

/-!
# KEK PDP-11: listing a breakpoint and reading it back

The debugger lists a breakpoint with emit; parse_breakpoint reads such a text.
A combination that is no first trigger is read back from its parentheses; a
first trigger that is a combination is not, for then the listing has a part
with two opening parentheses.

* `parseBreakpoint_emit`: what is read from the listing of a plain breakpoint.
* `IsBuilt.plain_of_parsed`: no other listing is read.
* `listing_round_trips_iff`: when the breakpoint that is read is triggered in
  the same states.
-/

namespace KekPdp11

open StateExcept

namespace Breakpoint

section Depths

variable {b : Breakpoint} {op : BpOperator} {triggers : List Breakpoint}
variable {depth : Int} {rest : List (List Char)}

/-- What may come behind a part at which the depth is `depth`. -/
def Ends (depth : Int) (rest : List (List Char)) : Prop :=
  0 < depth ∧ Group depth rest ∨ depth = 0 ∧ rest = []

theorem Ends.closing
    {closing : Nat} {p : List Char} (h : Ends depth rest)
    (hp : depthChange p = -closing) :
    Group (depth + closing) (p :: rest) := by
  rcases h with ⟨hpos, h⟩ | ⟨rfl, rfl⟩
  · have hdepth : depth + closing + depthChange p = depth := by
      omega
    refine .cons (by omega) ?_
    rw [hdepth]
    exact h
  · exact .last (by omega)

/-- The parts of a trigger lead to the depth behind it. -/
def GroupIn (t : Breakpoint) : Prop :=
  ∀ {depth : Int} {closing : Nat} {rest : List (List Char)}, Ends depth rest →
    Group (depth + closing) (parts closing t ++ rest)

theorem group_op
    (hdepth : 0 < depth) (h : Group depth rest) :
    Group depth (op.text :: rest) := by
  have hchange := depthChange_op op
  refine .cons (by omega) ?_
  rw [hchange, Int.add_zero]
  exact h

theorem groupIn_all
    {closing : Nat} (hne : triggers ≠ []) (h : ∀ t ∈ triggers, t.GroupIn)
    (hends : Ends depth rest) (hpos : 0 < depth + closing) :
    Group (depth + closing) (partsAll op closing triggers ++ rest) := by
  induction triggers with
  | nil =>
      exact absurd rfl hne
  | cons t triggers ih =>
      cases triggers with
      | nil =>
          rw [partsAll]
          exact h t List.mem_cons_self hends
      | cons t' triggers =>
          have hmore := ih (List.cons_ne_nil _ _)
            fun x hx => h x (List.mem_cons_of_mem _ hx)
          have hop : Ends (depth + closing)
              (op.text :: (partsAll op closing (t' :: triggers) ++ rest)) :=
            .inl ⟨hpos, group_op hpos hmore⟩
          have hfirst : Group (depth + closing + ((0 : Nat) : Int))
              (parts 0 t ++
                op.text :: (partsAll op closing (t' :: triggers) ++ rest)) :=
            h t List.mem_cons_self hop
          rw [partsAll, List.append_assoc, List.cons_append]
          rwa [Int.natCast_zero, Int.add_zero] at hfirst

theorem Ends.nonneg
    (h : Ends depth rest) :
    0 ≤ depth := by
  rcases h with ⟨hpos, -⟩ | ⟨rfl, -⟩
  · exact hpos.le
  · exact le_rfl

theorem IsPlain.groupIn
    (h : b.IsPlain) :
    b.GroupIn := by
  induction h with
  | single h =>
      intro depth closing rest hends
      rw [parts_listed h]
      exact hends.closing (h.depthChange_eq closing)
  | @combined op t triggers action hfirst h ih =>
      intro depth closing rest hends
      have hnonneg := hends.nonneg
      rw [parts_combined]
      cases triggers with
      | nil =>
          rw [partsAll, parts_listed hfirst]
          refine hends.closing ?_
          rw [depthChange_opened (hfirst.head_ne _), hfirst.depthChange_eq]
          omega
      | cons t' triggers =>
          have hchange : depthChange ('(' :: (t.emit ++ List.replicate 0 ')')) =
              1 := by
            rw [depthChange_opened (hfirst.head_ne 0), hfirst.depthChange_eq]
            rfl
          have hdeeper : depth + closing + 1 =
              depth + ((closing + 1 : Nat) : Int) := by
            omega
          rw [partsAll, parts_listed hfirst]
          refine .cons (by omega) ?_
          rw [hchange, hdeeper]
          exact group_op (by omega)
            (groupIn_all (List.cons_ne_nil _ _) ih hends (by omega))

theorem IsPlain.formed
    (h : b.IsPlain) :
    b.IsFormed := by
  induction h with
  | single h =>
      exact .single h
  | combined hfirst h ih =>
      exact .combined (List.cons_ne_nil _ _)
        (List.forall_mem_cons.mpr ⟨.single hfirst, ih⟩)

/-- The parser finds the parts of a plain breakpoint as a group. -/
theorem IsPlain.group
    (h : b.IsPlain) :
    Group 0 (parts 0 b) := by
  have hgroup : Group (0 + ((0 : Nat) : Int)) (parts 0 b ++ []) :=
    h.groupIn (.inr ⟨rfl, rfl⟩)
  rwa [List.append_nil] at hgroup

end Depths

section ReadBack

variable (action : BpAction)

mutual

/-- What is read from the listing of a plain breakpoint: every trigger, with
the operator if there are several. -/
def readBack : Breakpoint → Parsed Breakpoint
  | combined op triggers _ => do
      let parsed ← readBackAll triggers
      conclude
        (if triggers.length ≤ 1 then .single else .operator op, parsed)
  | register registerNr values old =>
      reread action (register registerNr values old)
  | memory addr wordMode isVirtual values old =>
      reread action (memory addr wordMode isVirtual values old)
  | instruction instr mask old => reread action (instruction instr mask old)

def readBackAll : List Breakpoint → Parsed (List Breakpoint)
  | [] => .ok []
  | t :: triggers => do
      let bp ← readBack t
      let parsed ← readBackAll triggers
      .ok (bp :: parsed)

end

/-- The text of a breakpoint between its parentheses, if it has any. -/
def content : Breakpoint → List Char
  | combined op triggers _ => bodyText op triggers
  | register registerNr values old => (register registerNr values old).emit
  | memory addr wordMode isVirtual values old =>
      (memory addr wordMode isVirtual values old).emit
  | instruction instr mask old => (instruction instr mask old).emit

variable {action} {b t : Breakpoint} {op : BpOperator}
variable {triggers : List Breakpoint}
variable {parse : List Char → Parsed Breakpoint} {text : List Char}

theorem readBack_listed
    (h : b.IsListed) :
    readBack action b = reread action b := by
  cases b with
  | combined op triggers old =>
      exact h.elim
  | _ =>
      rw [readBack]

theorem content_listed
    (h : b.IsListed) :
    b.content = b.emit := by
  cases b with
  | combined op triggers old =>
      exact h.elim
  | _ =>
      rfl

theorem parseParts_listed
    (h : t.IsListed) {combine : Combine} (hcombine : combine ≠ .single)
    (parsed : List Breakpoint) (ps : List (List Char)) :
    parseParts parse text action 0 combine parsed (t.emit :: ps) = (do
      let bp ← reread action t
      parseParts parse text action 0
        (if combine = .notSet then .single else combine) (parsed ++ [bp])
        ps) := by
  have hhead := h.head_ne 0
  rw [List.replicate_zero, List.append_nil] at hhead
  rw [parseParts.eq_def]
  dsimp only
  rw [if_neg hhead, h.operator?_eq, parseAtom_emit action h]
  cases combine with
  | single =>
      exact absurd rfl hcombine
  | notSet =>
      cases reread action t <;> rfl
  | operator op =>
      cases reread action t <;> rfl

theorem parseParts_operator
    {combine : Combine} (hcombine : combine = .single ∨ combine = .operator op)
    (parsed : List Breakpoint) (ps : List (List Char)) :
    parseParts parse text action 0 combine parsed (op.text :: ps) =
      parseParts parse text action 0 (.operator op) parsed ps := by
  have hhead : op.text.head? ≠ some '(' := by
    cases op <;> decide
  have hop : operator? op.text = some op := by
    cases op <;> decide
  rw [parseParts.eq_def]
  dsimp only
  rw [if_neg hhead, hop]
  rcases hcombine with rfl | rfl
  · rfl
  · exact if_pos rfl

/-- The parser calls itself for the text between the parentheses. -/
theorem inner_parts
    (h : b.IsPlain) (hb : ¬ b.IsListed) :
    inner (parts 0 b) = b.content := by
  cases h with
  | single h =>
      exact absurd h hb
  | @combined op t triggers old hfirst h =>
      have hformed : ∀ x ∈ t :: triggers, x.IsFormed :=
        List.forall_mem_cons.mpr ⟨.single hfirst, fun x hx => (h x hx).formed⟩
      have hjoins : ∀ x ∈ t :: triggers, x.Joins := fun x hx =>
        (hformed x hx).joins
      have hwhole : (combined op (t :: triggers) old).IsFormed :=
        .combined (List.cons_ne_nil _ _) hformed
      have hjoined := hwhole.joins.2 0
      rw [List.replicate_zero, List.append_nil,
        emit_combined hjoins (List.cons_ne_nil _ _)] at hjoined
      change ((joined (parts 0 (combined op (t :: triggers) old))).drop
        1).dropLast = bodyText op (t :: triggers)
      rw [hjoined, List.cons_append, List.drop_one, List.tail_cons,
        List.dropLast_concat]

theorem parseParts_combined
    (h : t.IsPlain) (ht : ¬ t.IsListed) (combine : Combine)
    (parsed : List Breakpoint) (ps : List (List Char)) :
    parseParts parse text action 0 combine parsed (parts 0 t ++ ps) = (do
      let bp ← parse t.content
      parseParts parse text action 0 combine (parsed ++ [bp]) ps) := by
  rcases h.formed.first 0 with ⟨u, hlisted, -⟩ | ⟨u, us, -, hu, hhead⟩
  · exact absurd hlisted ht
  · have hend := h.group.endIndex_eq ps
    have hinner := inner_parts h ht
    rw [hu] at hend hinner ⊢
    rw [List.cons_append] at hend ⊢
    rw [List.length_cons, Nat.add_sub_cancel] at hend
    rw [parseParts_group combine parsed hhead hend, ← List.cons_append,
      List.drop_left, ← hinner]
    have htake : (u :: us ++ ps).take (us.length + 1) = u :: us :=
      List.take_left' rfl
    rw [htake]

/-- A trigger behind an operator. -/
theorem parseParts_trigger
    (h : t.IsPlain) (hparse : ¬ t.IsListed → parse t.content = readBack action t)
    (parsed : List Breakpoint) (ps : List (List Char)) :
    parseParts parse text action 0 (.operator op) parsed (parts 0 t ++ ps) = (do
      let bp ← readBack action t
      parseParts parse text action 0 (.operator op) (parsed ++ [bp]) ps) := by
  by_cases ht : t.IsListed
  · rw [parts_listed ht, List.replicate_zero, List.append_nil,
      List.singleton_append, parseParts_listed ht Combine.noConfusion,
      readBack_listed ht]
    rfl
  · rw [parseParts_combined h ht, hparse ht]

/-- The triggers behind the first operator. -/
theorem parseParts_triggers
    (hne : triggers ≠ []) (h : ∀ t ∈ triggers, t.IsPlain)
    (hparse : ∀ t ∈ triggers, ¬ t.IsListed →
      parse t.content = readBack action t)
    (parsed : List Breakpoint) :
    parseParts parse text action 0 (.operator op) parsed
        (partsAll op 0 triggers) = (do
      let more ← readBackAll action triggers
      .ok (.operator op, parsed ++ more)) := by
  induction triggers generalizing parsed with
  | nil =>
      exact absurd rfl hne
  | cons t triggers ih =>
      obtain ⟨ht, htriggers⟩ := List.forall_mem_cons.mp h
      obtain ⟨htparse, hmoreparse⟩ := List.forall_mem_cons.mp hparse
      cases triggers with
      | nil =>
          rw [partsAll, ← List.append_nil (parts 0 t),
            parseParts_trigger ht htparse, readBackAll, readBackAll]
          cases readBack action t <;> rfl
      | cons t' triggers =>
          rw [partsAll, parseParts_trigger ht htparse, readBackAll]
          cases readBack action t with
          | error e =>
              rfl
          | ok bp =>
              have hmore := ih (List.cons_ne_nil _ _) htriggers hmoreparse
                (parsed ++ [bp])
              change parseParts parse text action 0 (.operator op)
                (parsed ++ [bp]) (op.text :: partsAll op 0 (t' :: triggers)) = _
              rw [parseParts_operator (.inr rfl), hmore]
              change _ = (do
                let more ← (do
                  let parsed ← readBackAll action (t' :: triggers)
                  Except.ok (bp :: parsed))
                Except.ok (Combine.operator op, parsed ++ more))
              cases readBackAll action (t' :: triggers) with
              | error e =>
                  rfl
              | ok more =>
                  change Except.ok (Combine.operator op,
                    parsed ++ [bp] ++ more) = _
                  rw [List.append_assoc]
                  rfl

theorem parseParts_plain
    (hfirst : t.IsListed) (h : ∀ x ∈ triggers, x.IsPlain)
    (hparse : ∀ x ∈ triggers, ¬ x.IsListed →
      parse x.content = readBack action x) :
    parseParts parse text action 0 .notSet [] (partsAll op 0 (t :: triggers)) =
      (do
        let parsed ← readBackAll action (t :: triggers)
        .ok (if (t :: triggers).length ≤ 1 then .single else .operator op,
          parsed)) := by
  have hparts : parts 0 t = [t.emit] := by
    rw [parts_listed hfirst, List.replicate_zero, List.append_nil]
  cases triggers with
  | nil =>
      rw [partsAll, hparts, parseParts_listed hfirst Combine.noConfusion,
        readBackAll, readBackAll, readBack_listed hfirst]
      cases reread action t <;> rfl
  | cons t' triggers =>
      rw [partsAll, hparts, List.singleton_append,
        parseParts_listed hfirst Combine.noConfusion, readBackAll,
        readBack_listed hfirst]
      cases reread action t with
      | error e =>
          rfl
      | ok bp =>
          change parseParts parse text action 0 .single [bp]
            (op.text :: partsAll op 0 (t' :: triggers)) = _
          rw [parseParts_operator (.inl rfl),
            parseParts_triggers (List.cons_ne_nil _ _) h hparse]
          change _ = (do
            let parsed ← (do
              let parsed ← readBackAll action (t' :: triggers)
              Except.ok (bp :: parsed))
            Except.ok (Combine.operator op, parsed))
          cases readBackAll action (t' :: triggers) <;> rfl

theorem length_emit_le
    (h : ∀ x ∈ triggers, x.IsFormed) (ht : t ∈ triggers) :
    t.emit.length ≤ (bodyText op triggers).length := by
  unfold bodyText
  induction triggers with
  | nil =>
      cases ht
  | cons x triggers ih =>
      have hjoins : ∀ y ∈ x :: triggers, y.Joins := fun y hy =>
        (h y hy).joins
      cases triggers with
      | nil =>
          rw [partsAll, (hjoins x List.mem_cons_self).2,
            List.mem_singleton.mp ht, List.length_append]
          exact Nat.le_add_right _ _
      | cons x' triggers =>
          rw [joined_partsAll_cons hjoins, List.length_append,
            List.length_append]
          rcases List.mem_cons.mp ht with rfl | ht
          · omega
          · have hrest := ih (fun y hy => h y (List.mem_cons_of_mem _ hy)) ht
            omega

/-- A combination is longer than what is between its parentheses. -/
theorem IsPlain.length_content
    (h : b.IsPlain) (hb : ¬ b.IsListed) :
    b.content.length + 2 = b.emit.length := by
  cases h with
  | single h =>
      exact absurd h hb
  | @combined op t triggers old hfirst h =>
      have hjoins : ∀ x ∈ t :: triggers, x.Joins :=
        List.forall_mem_cons.mpr ⟨(IsFormed.single hfirst).joins,
          fun x hx => (h x hx).formed.joins⟩
      rw [emit_combined hjoins (List.cons_ne_nil _ _), List.length_append,
        List.length_cons]
      rfl

theorem parseFrom_listed
    (h : b.IsListed) (fuel : Nat) :
    parseFrom action (fuel + 1) b.emit = reread action b := by
  rw [parseFrom, (IsFormed.single h).split_emit, parts_listed h,
    List.replicate_zero, List.append_nil,
    parseParts_listed h Combine.noConfusion]
  cases reread action b <;> rfl

/-- What is between the parentheses of a plain breakpoint is read back. -/
theorem parseFrom_content
    (h : b.IsPlain) {fuel : Nat} (hfuel : b.content.length < fuel) :
    parseFrom action fuel b.content = readBack action b := by
  induction fuel generalizing b with
  | zero =>
      exact absurd hfuel (Nat.not_lt_zero _)
  | succ fuel ih =>
      by_cases hb : b.IsListed
      · rw [content_listed hb, parseFrom_listed hb, readBack_listed hb]
      · cases h with
        | single h =>
            exact absurd h hb
        | @combined op t triggers old hfirst h =>
            have hformed : ∀ x ∈ t :: triggers, x.IsFormed :=
              List.forall_mem_cons.mpr
                ⟨.single hfirst, fun x hx => (h x hx).formed⟩
            have hparse : ∀ x ∈ triggers, ¬ x.IsListed →
                parseFrom action fuel x.content = readBack action x := by
              intro x hx hcombined
              have hlength := (h x hx).length_content hcombined
              have hle : x.emit.length ≤
                  (bodyText op (t :: triggers)).length :=
                length_emit_le hformed (List.mem_cons_of_mem t hx)
              have hbody : (bodyText op (t :: triggers)).length < fuel + 1 :=
                hfuel
              exact ih (h x hx) (by omega)
            change parseFrom action (fuel + 1) (bodyText op (t :: triggers)) = _
            rw [parseFrom, split_bodyText hformed,
              parseParts_plain hfirst h hparse, readBack]
            cases readBackAll action (t :: triggers) <;> rfl

/-- parse_breakpoint reads the listing of a plain breakpoint back. -/
theorem parseBreakpoint_emit
    (h : b.IsPlain) :
    parseBreakpoint b.emit action = readBack action b := by
  unfold parseBreakpoint
  by_cases hb : b.IsListed
  · rw [parseFrom_listed hb, readBack_listed hb]
  · have hlength := h.length_content hb
    have hwhole : parseParts (parseFrom action b.emit.length) b.emit action 0
        .notSet [] (parts 0 b ++ []) = _ :=
      parseParts_combined h hb .notSet [] []
    rw [List.append_nil, parseFrom_content h (by omega)] at hwhole
    rw [parseFrom, h.formed.split_emit, hwhole]
    cases readBack action b <;> rfl

end ReadBack

section States

variable {action : BpAction} {b b' t : Breakpoint} {op : BpOperator}
variable {triggers triggers' : List Breakpoint}

/-- The two are triggered in the same states, with the same text and the same
effect on the machine. -/
def SameTriggers (b b' : Breakpoint) : Prop :=
  ∀ (δ : Type) [UnibusDevices δ],
    (b'.isTriggered : Exec δ (Option (List Char))) = b.isTriggered

theorem reread_same
    (h : b.IsListed) (hb : reread action b = .ok b') :
    b.SameTriggers b' := by
  intro δ _
  cases b with
  | combined op triggers old =>
      exact h.elim
  | register registerNr values old =>
      cases hb
      rw [isTriggered, isTriggered]
  | instruction instr mask old =>
      cases hb
      rw [isTriggered, isTriggered]
  | memory addr wordMode isVirtual values old =>
      rw [reread] at hb
      split at hb
      · cases hb
        rw [isTriggered, isTriggered]
      · cases hb

theorem allTriggered_congr
    {δ : Type} [UnibusDevices δ]
    (h : List.Forall₂ SameTriggers triggers triggers') (out : List Char) :
    (allTriggered out triggers' : Exec δ (Option (List Char))) =
      allTriggered out triggers := by
  induction h generalizing out with
  | nil =>
      rfl
  | @cons t t' triggers triggers' ht htriggers ih =>
      rw [allTriggered, allTriggered, ht δ]
      congr 1
      funext rc
      cases rc with
      | none =>
          rfl
      | some text =>
          exact ih _

theorem anyTriggered_congr
    {δ : Type} [UnibusDevices δ]
    (h : List.Forall₂ SameTriggers triggers triggers') :
    (anyTriggered triggers' : Exec δ (Option (List Char))) =
      anyTriggered triggers := by
  induction h with
  | nil =>
      rfl
  | @cons t t' triggers triggers' ht htriggers ih =>
      rw [anyTriggered, anyTriggered, ht δ]
      congr 1
      funext rc
      cases rc with
      | none =>
          exact ih
      | some text =>
          rfl

theorem combined_same
    (h : List.Forall₂ SameTriggers triggers triggers') (old : BpAction) :
    (combined op triggers old).SameTriggers
      (combined op triggers' action) := by
  intro δ _
  cases op with
  | and =>
      rw [isTriggered, isTriggered]
      exact allTriggered_congr h []
  | or =>
      rw [isTriggered, isTriggered]
      exact anyTriggered_congr h

/-- A combination of one breakpoint is triggered as that one. -/
theorem combined_singleton_same
    (h : t.SameTriggers b') (old : BpAction) :
    (combined op [t] old).SameTriggers b' := by
  intro δ _
  have hsingle : (isTriggered (combined op [t] old) :
      Exec δ (Option (List Char))) = isTriggered t := by
    funext s
    cases op with
    | and =>
        rw [isTriggered, allTriggered]
        change EStateM.bind _ _ s = _
        unfold EStateM.bind
        cases isTriggered t s with
        | error e s' =>
            rfl
        | ok rc s' =>
            cases rc <;> rfl
    | or =>
        rw [isTriggered, anyTriggered]
        change EStateM.bind _ _ s = _
        unfold EStateM.bind
        cases isTriggered t s with
        | error e s' =>
            rfl
        | ok rc s' =>
            cases rc <;> rfl
  rw [hsingle]
  exact h δ

/-- The triggers are read back one by one. -/
theorem readBackAll_ok
    {R : Breakpoint → Breakpoint → Prop}
    (hread : readBackAll action triggers = .ok triggers')
    (h : ∀ t ∈ triggers, ∀ t', readBack action t = .ok t' → R t t') :
    List.Forall₂ R triggers triggers' := by
  induction triggers generalizing triggers' with
  | nil =>
      cases hread
      exact .nil
  | cons t triggers ih =>
      obtain ⟨ht, htriggers⟩ := List.forall_mem_cons.mp h
      rw [readBackAll] at hread
      cases hfirst : readBack action t with
      | error e =>
          rw [hfirst] at hread
          cases hread
      | ok t' =>
          cases hmore : readBackAll action triggers with
          | error e =>
              rw [hfirst, hmore] at hread
              cases hread
          | ok more =>
              rw [hfirst, hmore] at hread
              cases hread
              exact .cons (ht t' hfirst) (ih hmore htriggers)

/-- What is read back is triggered in the same states. -/
theorem IsPlain.readBack_same
    (h : b.IsPlain) (hread : readBack action b = .ok b') :
    b.SameTriggers b' := by
  induction h generalizing b' with
  | single h =>
      rw [readBack_listed h] at hread
      exact reread_same h hread
  | @combined op t triggers old hfirst h ih =>
      rw [readBack] at hread
      cases hall : readBackAll action (t :: triggers) with
      | error e =>
          rw [hall] at hread
          cases hread
      | ok parsed =>
          have hsame := readBackAll_ok hall (List.forall_mem_cons.mpr
            ⟨fun t' ht => reread_same hfirst
              ((readBack_listed hfirst).symm.trans ht),
              fun x hx t' hread => ih x hx hread⟩)
          rw [hall] at hread
          cases hsame with
          | @cons _ t' _ triggers' ht htriggers =>
              cases htriggers with
              | nil =>
                  cases hread
                  exact combined_singleton_same ht old
              | @cons x x' triggers triggers' hx htriggers =>
                  cases hread
                  exact combined_same (.cons ht (.cons hx htriggers)) old

mutual

/-- std::stoi can read the addresses. -/
def AddressesFit : Breakpoint → Prop
  | combined _ triggers _ => AllAddressesFit triggers
  | register _ _ _ => True
  | memory addr _ _ _ _ => addr.toNat < 2 ^ 31
  | instruction _ _ _ => True

def AllAddressesFit : List Breakpoint → Prop
  | [] => True
  | t :: triggers => AddressesFit t ∧ AllAddressesFit triggers

end

theorem not_ok_error
    {α : Type} (e : ParseStop) :
    ¬ ∃ a : α, (.error e : Parsed α) = .ok a := by
  rintro ⟨a, h⟩
  cases h

theorem reread_ok_iff
    (h : b.IsListed) :
    (∃ b', reread action b = .ok b') ↔ b.AddressesFit := by
  cases b with
  | combined op triggers old =>
      exact h.elim
  | register registerNr values old =>
      exact iff_of_true ⟨_, rfl⟩ trivial
  | instruction instr mask old =>
      exact iff_of_true ⟨_, rfl⟩ trivial
  | memory addr wordMode isVirtual values old =>
      rw [reread, AddressesFit]
      split
      · next hlt =>
          exact iff_of_true ⟨_, rfl⟩ hlt
      · next hge =>
          exact iff_of_false (not_ok_error _) hge

theorem readBackAll_ok_iff
    (h : ∀ t ∈ triggers, (∃ t', readBack action t = .ok t') ↔
      t.AddressesFit) :
    (∃ parsed, readBackAll action triggers = .ok parsed) ↔
      AllAddressesFit triggers := by
  induction triggers with
  | nil =>
      exact iff_of_true ⟨[], rfl⟩ trivial
  | cons t triggers ih =>
      obtain ⟨ht, htriggers⟩ := List.forall_mem_cons.mp h
      rw [AllAddressesFit, ← ht, ← ih htriggers, readBackAll]
      cases readBack action t with
      | error e =>
          exact iff_of_false (not_ok_error e) fun h => not_ok_error e h.1
      | ok t' =>
          rw [and_iff_right ⟨t', rfl⟩]
          cases readBackAll action triggers with
          | error e =>
              exact iff_of_false (not_ok_error e) (not_ok_error e)
          | ok more =>
              exact iff_of_true ⟨t' :: more, rfl⟩ ⟨more, rfl⟩

/-- A plain breakpoint is read back unless an address is too large. -/
theorem IsPlain.readBack_ok_iff
    (h : b.IsPlain) :
    (∃ b', readBack action b = .ok b') ↔ b.AddressesFit := by
  induction h with
  | single h =>
      rw [readBack_listed h]
      exact reread_ok_iff h
  | @combined op t triggers old hfirst h ih =>
      have hfirst' : (∃ t', readBack action t = .ok t') ↔ t.AddressesFit := by
        rw [readBack_listed hfirst]
        exact reread_ok_iff hfirst
      rw [AddressesFit, ← readBackAll_ok_iff
        (List.forall_mem_cons.mpr ⟨hfirst', ih⟩), readBack]
      cases hall : readBackAll action (t :: triggers) with
      | error e =>
          exact iff_of_false (not_ok_error e) (not_ok_error e)
      | ok parsed =>
          have hlength : (t :: triggers).length = parsed.length :=
            (readBackAll_ok (R := fun _ _ => True) hall
              fun _ _ _ _ => trivial).length_eq
          refine iff_of_true ?_ ⟨parsed, rfl⟩
          by_cases hmany : (t :: triggers).length ≤ 1
          · obtain ⟨x, rfl⟩ : ∃ x, parsed = [x] := by
              rw [List.length_cons] at hlength hmany
              exact List.length_eq_one_iff.mp (by omega)
            change ∃ b', conclude (if (t :: triggers).length ≤ 1 then _ else _,
              [x]) = .ok b'
            rw [if_pos hmany]
            exact ⟨x, rfl⟩
          · change ∃ b', conclude (if (t :: triggers).length ≤ 1 then _ else _,
              parsed) = .ok b'
            rw [if_neg hmany]
            exact ⟨_, rfl⟩

end States

section RoundTrip

variable {action : BpAction} {b : Breakpoint}

/-- Reading the listing of a breakpoint gives one that is triggered in the same
states. -/
def RoundTrips (action : BpAction) (b : Breakpoint) : Prop :=
  ∃ b', parseBreakpoint b.emit action = .ok b' ∧ b.SameTriggers b'

/-- The parts of the listing of a breakpoint that is not plain. -/
theorem IsBuilt.trapped
    (h : b.IsBuilt) (hb : ¬ b.IsPlain) :
    Trapped (split ' ' b.emit) := by
  have hformed := h.formed
  have hlevel : Level (0 + ((0 : Nat) : Int)) (parts 0 b ++ []) :=
    hformed.levelIn le_rfl trivial
  have hnested : Nested (parts 0 b ++ []) :=
    h.nested 0 trivial
  rw [List.append_nil] at hlevel hnested
  rw [hformed.split_emit]
  exact ⟨fun p hp => ⟨(hformed.listingPart hp).noBlank,
    (hformed.listingPart hp).closes, h.opensOnly hp⟩, hlevel, hnested,
    h.hasDouble hb 0⟩

/-- Only the listing of a plain breakpoint is read. -/
theorem IsBuilt.plain_of_parsed
    {b' : Breakpoint} (h : b.IsBuilt)
    (hparse : parseBreakpoint b.emit action = .ok b') :
    b.IsPlain := by
  by_contra hb
  have hfull : ∀ p ∈ split ' ' b.emit, p ≠ [] := by
    intro p hp
    rw [h.formed.split_emit] at hp
    exact (h.formed.listingPart hp).nonEmpty
  obtain ⟨e, he⟩ := parseFrom_trapped hfull (h.trapped hb)
  rw [parseBreakpoint, he] at hparse
  cases hparse

/-- A listing that is read at all is read back. -/
theorem IsBuilt.roundTrips_of_parsed
    {b' : Breakpoint} (h : b.IsBuilt)
    (hparse : parseBreakpoint b.emit action = .ok b') :
    RoundTrips action b := by
  have hread := hparse
  rw [parseBreakpoint_emit (h.plain_of_parsed hparse)] at hread
  exact ⟨b', hparse, (h.plain_of_parsed hparse).readBack_same hread⟩

/-- For every breakpoint built of register, memory and instruction breakpoints
with values, on registers that have a name, and of combinations of two or more:
its listing is read back as a breakpoint that is triggered in the same states if
and only if no combination has a combination as its first trigger and no address
is 2^31 or more.  Otherwise no breakpoint is read. -/
theorem listing_round_trips_iff
    (action : BpAction) {b : Breakpoint} (h : b.IsBuilt) :
    (RoundTrips action b ↔ b.IsPlain ∧ b.AddressesFit) ∧
      (¬ RoundTrips action b →
        ∀ b', parseBreakpoint b.emit action ≠ .ok b') := by
  refine ⟨⟨?_, ?_⟩, fun hnot b' hparse => hnot (h.roundTrips_of_parsed hparse)⟩
  · rintro ⟨b', hparse, -⟩
    have hplain := h.plain_of_parsed hparse
    rw [parseBreakpoint_emit hplain] at hparse
    exact ⟨hplain, hplain.readBack_ok_iff.mp ⟨b', hparse⟩⟩
  · rintro ⟨hplain, hfit⟩
    obtain ⟨b', hread⟩ := hplain.readBack_ok_iff.mpr hfit
    exact ⟨b', (parseBreakpoint_emit hplain).trans hread,
      hplain.readBack_same hread⟩

/-- R`registerNr`=1. -/
def isOne (registerNr : Int) : Breakpoint :=
  .register registerNr ⟨[1], List.pairwise_singleton _ _⟩ .stopRunning

/-- A combination as the second trigger is read back, as the first one it is
not. -/
theorem listing_round_trips_second :
    RoundTrips .stopRunning (.combined .and
        [isOne 2, .combined .or [isOne 0, isOne 1] .invalid] .invalid) ∧
      ¬ RoundTrips .stopRunning (.combined .and
        [.combined .or [isOne 0, isOne 1] .invalid, isOne 2] .invalid) := by
  have hlisted : ∀ nr ∈ [(0 : Int), 1, 2], (isOne nr).IsListed := by
    intro nr hnr
    refine ⟨?_, List.cons_ne_nil _ _⟩
    revert nr
    decide
  have h0 := hlisted 0 (by decide)
  have h1 := hlisted 1 (by decide)
  have h2 := hlisted 2 (by decide)
  have hor : (combined .or [isOne 0, isOne 1] .invalid).IsBuilt :=
    .combined (by decide) (List.forall_mem_cons.mpr
      ⟨.single h0, List.forall_mem_singleton.mpr (.single h1)⟩)
  constructor
  · refine (listing_round_trips_iff .stopRunning (.combined (by decide)
      (List.forall_mem_cons.mpr
        ⟨.single h2, List.forall_mem_singleton.mpr hor⟩))).1.mpr ⟨?_, ?_⟩
    · exact .combined h2 (List.forall_mem_singleton.mpr
        (.combined h0 (List.forall_mem_singleton.mpr (.single h1))))
    · exact ⟨trivial, ⟨trivial, trivial, trivial⟩, trivial⟩
  · rw [(listing_round_trips_iff .stopRunning (.combined (by decide)
      (List.forall_mem_cons.mpr
        ⟨hor, List.forall_mem_singleton.mpr (.single h2)⟩))).1]
    rintro ⟨hplain, -⟩
    cases hplain with
    | single h =>
        exact h
    | combined hfirst h =>
        exact hfirst

end RoundTrip

end Breakpoint

end KekPdp11
