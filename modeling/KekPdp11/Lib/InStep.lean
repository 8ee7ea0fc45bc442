import KekPdp11.Lib.StateExcept

/-!
# Programs that run in step unless one gives up

Two programs on two types of states run in step on a relation when, from
related states, they return the same value or throw the same exception and end
in related states again.  Either of them may give up, with an exception that
its side allows; nothing is said then.  The rules follow the text of the two
programs, one for each way of building a program.
-/

namespace StateExcept

variable {ε σ σ' α β : Type}

/-- Two results with one outcome and related states, unless one of them has
given up. -/
inductive Alongside
    (gaveUp gaveUp' : ε → Prop) (R : σ → σ' → Prop) :
    EStateM.Result ε σ α → EStateM.Result ε σ' α → Prop
  | ok (a : α) {s : σ} {s' : σ'} (h : R s s') :
      Alongside gaveUp gaveUp' R (.ok a s) (.ok a s')
  | error (e : ε) {s : σ} {s' : σ'} (h : R s s') :
      Alongside gaveUp gaveUp' R (.error e s) (.error e s')
  | left {e : ε} {s : σ} {r' : EStateM.Result ε σ' α} (h : gaveUp e) :
      Alongside gaveUp gaveUp' R (.error e s) r'
  | right {r : EStateM.Result ε σ α} {e : ε} {s' : σ'} (h : gaveUp' e) :
      Alongside gaveUp gaveUp' R r (.error e s')

/-- Results may be asked less of. -/
theorem Alongside.imp
    {gaveUp gaveUp' less less' : ε → Prop} {R S : σ → σ' → Prop}
    {r : EStateM.Result ε σ α} {r' : EStateM.Result ε σ' α}
    (h : Alongside gaveUp gaveUp' R r r') (hleft : ∀ e, gaveUp e → less e)
    (hright : ∀ e, gaveUp' e → less' e) (hstates : ∀ s s', R s s' → S s s') :
    Alongside less less' S r r' := by
  cases h with
  | ok a h =>
      exact .ok a (hstates _ _ h)
  | error e h =>
      exact .error e (hstates _ _ h)
  | left h =>
      exact .left (hleft _ h)
  | right h =>
      exact .right (hright _ h)

/-- From related states the two programs have such results. -/
def InStep
    (gaveUp gaveUp' : ε → Prop) (R : σ → σ' → Prop)
    (m : EStateM ε σ α) (m' : EStateM ε σ' α) : Prop :=
  ∀ s s', R s s' → Alongside gaveUp gaveUp' R (m s) (m' s')

namespace InStep

variable {gaveUp gaveUp' : ε → Prop} {R : σ → σ' → Prop}

theorem pure
    (a : α) :
    InStep gaveUp gaveUp' R (Pure.pure a : EStateM ε σ α)
      (Pure.pure a : EStateM ε σ' α) :=
  fun _ _ hs => .ok a hs

theorem raise
    (e : ε) :
    InStep gaveUp gaveUp' R (StateExcept.raise e : EStateM ε σ α)
      (StateExcept.raise e : EStateM ε σ' α) :=
  fun _ _ hs => .error e hs

theorem update
    {f : σ → σ} {f' : σ' → σ'} (h : ∀ s s', R s s' → R (f s) (f' s')) :
    InStep gaveUp gaveUp' R (StateExcept.update f : EStateM ε σ Unit)
      (StateExcept.update f' : EStateM ε σ' Unit) :=
  fun s s' hs => .ok () (h s s' hs)

/-- A read of what related states have in common. -/
theorem view
    {f : σ → α} {f' : σ' → α} (h : ∀ s s', R s s' → f' s' = f s) :
    InStep gaveUp gaveUp' R (StateExcept.view f : EStateM ε σ α)
      (StateExcept.view f' : EStateM ε σ' α) := by
  intro s s' hs
  rw [view_apply, view_apply, h s s' hs]
  exact .ok _ hs

theorem bind
    {m : EStateM ε σ α} {m' : EStateM ε σ' α} {k : α → EStateM ε σ β}
    {k' : α → EStateM ε σ' β}
    (hm : InStep gaveUp gaveUp' R m m')
    (hk : ∀ a, InStep gaveUp gaveUp' R (k a) (k' a)) :
    InStep gaveUp gaveUp' R (m >>= k) (m' >>= k') := by
  intro s s' hs
  have hresults := hm s s' hs
  rw [bind_apply, bind_apply]
  generalize m s = r at hresults ⊢
  generalize m' s' = r' at hresults ⊢
  cases hresults with
  | ok a h =>
      exact hk a _ _ h
  | error e h =>
      exact .error e h
  | left h =>
      exact .left h
  | right h =>
      exact .right h

theorem ite
    {c : Prop} [Decidable c] {m₁ m₂ : EStateM ε σ α} {m₁' m₂' : EStateM ε σ' α}
    (h₁ : InStep gaveUp gaveUp' R m₁ m₁')
    (h₂ : InStep gaveUp gaveUp' R m₂ m₂') :
    InStep gaveUp gaveUp' R (if c then m₁ else m₂)
      (if c then m₁' else m₂') := by
  split
  · exact h₁
  · exact h₂

end InStep

end StateExcept
