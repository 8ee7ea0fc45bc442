import KekPdp11.Lib.StateExcept

/-!
# Programs that run in lockstep

Two programs run in lockstep on a relation of states when, from related states,
they return the same value or throw the same exception and end in related
states again.  The rules follow the text of the two programs, one for each way
of building a program.
-/

namespace StateExcept

variable {ε σ α β : Type}

/-- Two results with the same outcome and related states. -/
def Matched
    (R : σ → σ → Prop) :
    EStateM.Result ε σ α → EStateM.Result ε σ α → Prop
  | .ok a s, .ok a' s' => a = a' ∧ R s s'
  | .error e s, .error e' s' => e = e' ∧ R s s'
  | _, _ => False

/-- From related states the two programs have matching results. -/
def Lockstep
    (R : σ → σ → Prop) (m m' : EStateM ε σ α) : Prop :=
  ∀ s s', R s s' → Matched R (m s) (m' s')

namespace Lockstep

variable {R : σ → σ → Prop}

/-- Where the first program returns, so does the second one. -/
theorem ok
    {m m' : EStateM ε σ α} (h : Lockstep R m m')
    {s s' t : σ} {a : α} (hs : R s s') (hm : m s = .ok a t) :
    ∃ t', m' s' = .ok a t' ∧ R t t' := by
  have hmatched := h s s' hs
  rw [hm] at hmatched
  cases hm' : m' s' with
  | ok a' t' =>
      rw [hm'] at hmatched
      obtain ⟨rfl, ht⟩ := hmatched
      exact ⟨t', rfl, ht⟩
  | error e' t' =>
      rw [hm'] at hmatched
      exact hmatched.elim

/-- Where the second program returns, so does the first one. -/
theorem ok_left
    {m m' : EStateM ε σ α} (h : Lockstep R m m')
    {s s' t' : σ} {a : α} (hs : R s s') (hm' : m' s' = .ok a t') :
    ∃ t, m s = .ok a t ∧ R t t' := by
  have hmatched := h s s' hs
  rw [hm'] at hmatched
  cases hm : m s with
  | ok a' t =>
      rw [hm] at hmatched
      obtain ⟨rfl, ht⟩ := hmatched
      exact ⟨t, rfl, ht⟩
  | error e t =>
      rw [hm] at hmatched
      exact hmatched.elim

theorem pure
    (a : α) :
    Lockstep R (Pure.pure a : EStateM ε σ α) (Pure.pure a) :=
  fun _ _ hs => ⟨rfl, hs⟩

theorem raise
    (e : ε) :
    Lockstep R (StateExcept.raise e : EStateM ε σ α) (StateExcept.raise e) :=
  fun _ _ hs => ⟨rfl, hs⟩

theorem update
    {f f' : σ → σ} (h : ∀ s s', R s s' → R (f s) (f' s')) :
    Lockstep R (StateExcept.update f : EStateM ε σ Unit)
      (StateExcept.update f') :=
  fun s s' hs => ⟨rfl, h s s' hs⟩

theorem bind
    {m m' : EStateM ε σ α} {k k' : α → EStateM ε σ β}
    (hm : Lockstep R m m') (hk : ∀ a, Lockstep R (k a) (k' a)) :
    Lockstep R (m >>= k) (m' >>= k') := by
  intro s s' hs
  have hmatched := hm s s' hs
  rw [bind_apply, bind_apply]
  cases hr : m s with
  | ok a t =>
      obtain ⟨t', ht', ht⟩ := hm.ok hs hr
      rw [ht']
      exact hk a t t' ht
  | error e t =>
      cases hr' : m' s' with
      | ok a' t' =>
          rw [hr, hr'] at hmatched
          exact hmatched.elim
      | error e' t' =>
          rw [hr, hr'] at hmatched
          exact hmatched

/-- A read of what related states have in common. -/
theorem view_bind
    {f : σ → α} {k k' : α → EStateM ε σ β}
    (hf : ∀ s s', R s s' → f s' = f s) (hk : ∀ a, Lockstep R (k a) (k' a)) :
    Lockstep R (view f >>= k) (view f >>= k') := by
  intro s s' hs
  rw [view_bind_apply, view_bind_apply, hf s s' hs]
  exact hk (f s) s s' hs

theorem ite
    {c : Prop} [Decidable c] {m₁ m₁' m₂ m₂' : EStateM ε σ α}
    (h₁ : Lockstep R m₁ m₁') (h₂ : Lockstep R m₂ m₂') :
    Lockstep R (if c then m₁ else m₂) (if c then m₁' else m₂') := by
  split
  · exact h₁
  · exact h₂

end Lockstep

end StateExcept
