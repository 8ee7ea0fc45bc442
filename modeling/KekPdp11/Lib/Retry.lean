import Mathlib.Data.List.Basic

/-!
# Requests that are repeated until they are answered

A loop sends a request, and sends it again when a pass ends without an answer.
A pass without an answer may still have reached the server, wholly or in part.

A `Service` is a request for which this does no harm: whatever an unanswered
pass has done, the request is served afterwards as it would have been before.
Then the loop has one outcome, `serve`, and all that passes can change is
whether it ends.  A fatal pass ends the program and not the loop.
-/

namespace Retry

variable {π σ ρ : Type}

/-- A request that can be repeated: what one pass does to the state, with its
answer if there is one, and what serving the request does. -/
structure Service (π σ ρ : Type) where
  pass : π → σ → Option ρ × σ
  serve : σ → ρ × σ
  answered : ∀ p s r s', pass p s = (some r, s') → serve s = (r, s')
  unanswered : ∀ p s s', pass p s = (none, s') → serve s' = serve s

namespace Service

variable (fatal : π → Bool) (S : Service π σ ρ)

/-- The loop: the outcome and the passes that are left, none if there are not
enough of them or one is fatal. -/
def run : List π → σ → Option ((ρ × σ) × List π)
  | [], _ => none
  | p :: rest, s =>
      if fatal p then
        none
      else
        match S.pass p s with
        | (some r, s') => some ((r, s'), rest)
        | (none, s') => run rest s'

/-- Passes of this kind are answered. -/
def Answers (good : π → Bool) : Prop :=
  ∀ p s, good p = true → ∃ r s', S.pass p s = (some r, s')

variable {fatal} {S} {good : π → Bool}

theorem run_cons_fatal
    {p : π} (hp : fatal p = true) (rest : List π) (s : σ) :
    S.run fatal (p :: rest) s = none := by
  rw [run, if_pos hp]

theorem run_cons_answered
    {p : π} {rest : List π} {s s' : σ} {r : ρ} (hp : ¬ fatal p = true)
    (h : S.pass p s = (some r, s')) :
    S.run fatal (p :: rest) s = some (S.serve s, rest) := by
  rw [run, if_neg hp, h, S.answered p s r s' h]

theorem run_cons_unanswered
    {p : π} {s s' : σ} (hp : ¬ fatal p = true) (h : S.pass p s = (none, s'))
    (rest : List π) :
    S.run fatal (p :: rest) s = S.run fatal rest s' ∧
      S.serve s' = S.serve s := by
  rw [run, if_neg hp, h]
  exact ⟨rfl, S.unanswered p s s' h⟩

/-- A loop that ends has served the request. -/
theorem run_serves
    {passes rest : List π} {s : σ} {outcome : ρ × σ}
    (h : S.run fatal passes s = some (outcome, rest)) :
    outcome = S.serve s := by
  induction passes generalizing s with
  | nil =>
      cases h
  | cons p passes ih =>
      by_cases hp : fatal p = true
      · rw [run_cons_fatal hp] at h
        cases h
      rcases hpass : S.pass p s with ⟨answer, s'⟩
      cases answer with
      | some r =>
          rw [run_cons_answered hp hpass] at h
          injection h with h
          injection h with houtcome
          exact houtcome.symm
      | none =>
          have hrun := (run_cons_unanswered hp hpass passes).1
          have hserve := (run_cons_unanswered hp hpass passes).2
          rw [hrun] at h
          rw [ih h, hserve]

/-- One pass that is answered is enough if none is fatal, and no more than one
is used up. -/
theorem run_of_countP
    (hgood : S.Answers good) {passes : List π} (s : σ)
    (hsafe : ∀ p ∈ passes, ¬ fatal p = true) (h : 0 < passes.countP good) :
    ∃ rest, S.run fatal passes s = some (S.serve s, rest) ∧
      rest ⊆ passes ∧ passes.countP good ≤ rest.countP good + 1 := by
  induction passes generalizing s with
  | nil =>
      exact absurd h (Nat.lt_irrefl 0)
  | cons p passes ih =>
      have hp := hsafe p List.mem_cons_self
      have hcount := List.countP_cons (p := good) (a := p) (l := passes)
      rcases hpass : S.pass p s with ⟨answer, s'⟩
      cases answer with
      | some r =>
          refine ⟨passes, run_cons_answered hp hpass,
            List.subset_cons_self p passes, ?_⟩
          split at hcount <;> omega
      | none =>
          have hrun := (run_cons_unanswered hp hpass passes).1
          have hserve := (run_cons_unanswered hp hpass passes).2
          have hbad : ¬ good p = true := by
            intro hp
            obtain ⟨r, s'', hr⟩ := hgood p s hp
            rw [hpass] at hr
            cases hr
          rw [if_neg hbad, Nat.add_zero] at hcount
          rw [hcount] at h
          obtain ⟨rest, hrest, hsub, hle⟩ :=
            ih s' (fun q hq => hsafe q (List.mem_cons_of_mem p hq)) h
          refine ⟨rest, ?_, fun q hq => List.mem_cons_of_mem p (hsub hq),
            by omega⟩
          rw [hrun, hrest, hserve]

end Service

section Pairs

variable (fatal good : π → Bool) (gaveUp gaveUp' : Prop)
variable (P : List π → List π → Prop)

/-- Two lists of passes for which every request has one outcome, unless a loop
gives up that may; what is left of the lists is such a pair again. -/
def Alike : Prop :=
  ∀ (σ ρ : Type) (S : Service π σ ρ), S.Answers good →
    ∀ (s : σ) (passes passes' : List π), P passes passes' →
      (S.run fatal passes s = none ∧ gaveUp) ∨
        (S.run fatal passes' s = none ∧ gaveUp') ∨
          ∃ rest rest', S.run fatal passes s = some (S.serve s, rest) ∧
            S.run fatal passes' s = some (S.serve s, rest') ∧ P rest rest'

/-- Any two lists of passes, when both loops may give up. -/
theorem alike_any :
    Alike fatal good True True (fun _ _ => True) := by
  intro σ ρ S _ s passes passes' _
  cases hrun : S.run fatal passes s with
  | none =>
      exact .inl ⟨rfl, trivial⟩
  | some result =>
      cases hrun' : S.run fatal passes' s with
      | none =>
          exact .inr (.inl ⟨rfl, trivial⟩)
      | some result' =>
          obtain ⟨outcome, rest⟩ := result
          obtain ⟨outcome', rest'⟩ := result'
          refine .inr (.inr ⟨rest, rest', ?_, ?_, trivial⟩)
          · rw [Service.run_serves hrun]
          · rw [Service.run_serves hrun']

/-- Passes that are all answered, and others none of which is fatal and of
which as many are answered. -/
structure Covers (passes passes' : List π) : Prop where
  answered : ∀ p ∈ passes, good p = true
  safe : ∀ p ∈ passes', ¬ fatal p = true
  enough : passes.length ≤ passes'.countP good

/-- With as many answered passes as the other one has passes, a loop ends where
the other one does. -/
theorem alike_covers
    (hgoodSafe : ∀ p, good p = true → ¬ fatal p = true) :
    Alike fatal good True False (Covers fatal good) := by
  intro σ ρ S hgood s passes passes' h
  obtain ⟨hall, hsafe, hlength⟩ := h
  cases passes with
  | nil =>
      exact .inl ⟨rfl, trivial⟩
  | cons p passes =>
      rw [List.length_cons] at hlength
      have hp := hall p List.mem_cons_self
      obtain ⟨r, s', hpass⟩ := hgood p s hp
      obtain ⟨rest', hrun', hsub, hle⟩ :=
        Service.run_of_countP hgood s hsafe
          (show 0 < passes'.countP good by omega)
      refine .inr (.inr ⟨passes, rest',
        Service.run_cons_answered (hgoodSafe p hp) hpass, hrun',
        ⟨?_, fun q hq => hsafe q (hsub hq), by omega⟩⟩)
      intro q hq
      exact hall q (List.mem_cons_of_mem p hq)

end Pairs

end Retry
