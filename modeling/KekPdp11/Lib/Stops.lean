import KekPdp11.Lib.StateExcept

/-!
# Where a program is stopped

A program that ends with the throw `e` was stopped at one of its parts.
`Avoids e m` says that no run of `m` is stopped by `e`; in a sequence, parts
that avoid `e` can be left out when looking for the one that was stopped.
-/

namespace StateExcept

variable {ε σ α β γ : Type} {e : ε}

/-- No run of the program ends with `e`. -/
def Avoids (e : ε) (m : EStateM ε σ α) : Prop :=
  ∀ s t, m s ≠ .error e t

namespace Avoids

/-- A program that always returns is never stopped. -/
theorem of_returns
    {m : EStateM ε σ α} (h : ∀ s, ∃ a t, m s = .ok a t) :
    Avoids e m := by
  intro s t hstop
  obtain ⟨a, u, hm⟩ := h s
  cases hm.symm.trans hstop

theorem of_triple
    {m : EStateM ε σ α} {Q : α → σ → Prop} {E : ε → σ → Prop}
    (h : Triple (fun _ => True) m Q E) (hE : ∀ t, ¬ E e t) :
    Avoids e m := by
  intro s t hstop
  have hafter := h s trivial
  rw [hstop] at hafter
  exact hE t hafter

theorem pure
    (a : α) :
    Avoids e (Pure.pure a : EStateM ε σ α) :=
  .of_returns fun s => ⟨a, s, rfl⟩

theorem view
    (f : σ → α) :
    Avoids e (StateExcept.view f : EStateM ε σ α) :=
  .of_returns fun s => ⟨f s, s, rfl⟩

theorem update
    (f : σ → σ) :
    Avoids e (StateExcept.update f : EStateM ε σ Unit) :=
  .of_returns fun s => ⟨(), f s, rfl⟩

theorem raise
    {e' : ε} (h : e' ≠ e) :
    Avoids e (StateExcept.raise e' : EStateM ε σ α) := by
  intro s t hstop
  cases hstop
  exact h rfl

theorem bind
    {m : EStateM ε σ α} {k : α → EStateM ε σ β}
    (hm : Avoids e m) (hk : ∀ a, Avoids e (k a)) :
    Avoids e (m >>= k) := by
  intro s t hstop
  rw [bind_apply] at hstop
  cases hrun : m s with
  | ok a u =>
      rw [hrun] at hstop
      exact hk a u t hstop
  | error e' u =>
      rw [hrun] at hstop
      cases hstop
      exact hm s t hrun

theorem view_bind
    {f : σ → α} {k : α → EStateM ε σ β} (hk : ∀ a, Avoids e (k a)) :
    Avoids e (StateExcept.view f >>= k) :=
  (Avoids.view f).bind hk

theorem ite
    {c : Prop} [Decidable c] {m m' : EStateM ε σ α}
    (h : c → Avoids e m) (h' : ¬ c → Avoids e m') :
    Avoids e (if c then m else m') := by
  split
  · next hc =>
      exact h hc
  · next hc =>
      exact h' hc

end Avoids

section Sequences

variable {m : EStateM ε σ α} {k : α → EStateM ε σ β} {s t : σ}

/-- A sequence is stopped in its first part or in its second. -/
theorem bind_eq_error_iff :
    (m >>= k) s = .error e t ↔
      m s = .error e t ∨ ∃ a u, m s = .ok a u ∧ k a u = .error e t := by
  rw [bind_apply]
  cases hm : m s with
  | ok a u =>
      constructor
      · intro h
        exact .inr ⟨a, u, rfl, h⟩
      · rintro (h | ⟨a', u', h, hk⟩)
        · cases h
        · cases h
          exact hk
  | error e' u =>
      constructor
      · intro h
        cases h
        exact .inl rfl
      · rintro (h | ⟨a', u', h, -⟩)
        · cases h
          rfl
        · cases h

/-- When the second part is never stopped, it was the first one. -/
theorem bind_eq_error_left
    (hk : ∀ a u, m s = .ok a u → k a u ≠ .error e t) :
    (m >>= k) s = .error e t ↔ m s = .error e t := by
  rw [bind_eq_error_iff]
  constructor
  · rintro (h | ⟨a, u, hm, h⟩)
    · exact h
    · exact absurd h (hk a u hm)
  · exact .inl

/-- When the first part is never stopped, it was the second one. -/
theorem bind_eq_error_right
    (hm : Avoids e m) :
    (m >>= k) s = .error e t ↔
      ∃ a u, m s = .ok a u ∧ k a u = .error e t := by
  rw [bind_eq_error_iff]
  constructor
  · rintro (h | h)
    · exact absurd h (hm s t)
    · exact h
  · exact .inr

end Sequences

end StateExcept
