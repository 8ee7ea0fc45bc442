import KekPdp11.Lib.StateExcept

/-!
# Programs as they look through a projection

A reader who sees of a state only what `look` shows of it still follows a
program whose results and whose effects on what is seen depend on what is seen
alone.  `Yields I look v m a v'` says that from every state of `I` that looks
like `v` the program returns `a` and ends in a state of `I` that looks like
`v'`.  The rules compose such steps to whole runs.
-/

namespace StateExcept

variable {ε σ ν α β γ : Type}

/-- From the states of `I` that look like `v`, the program returns `a` and
ends in a state of `I` that looks like `v'`. -/
def Yields
    (I : σ → Prop) (look : σ → ν) (v : ν) (m : EStateM ε σ α) (a : α) (v' : ν) :
    Prop :=
  ∀ s, I s → look s = v → ∃ s', m s = .ok a s' ∧ I s' ∧ look s' = v'

namespace Yields

variable {I : σ → Prop} {look : σ → ν} {v v' v'' : ν}

theorem pure
    (a : α) :
    Yields I look v (Pure.pure a : EStateM ε σ α) a v :=
  fun s hs hv => ⟨s, rfl, hs, hv⟩

/-- A read of what is seen. -/
theorem view
    {f : σ → α} {a : α} (h : ∀ s, I s → look s = v → f s = a) :
    Yields I look v (StateExcept.view f : EStateM ε σ α) a v :=
  fun s hs hv => ⟨s, by rw [view_apply, h s hs hv], hs, hv⟩

theorem update
    {f : σ → σ} (h : ∀ s, I s → look s = v → I (f s) ∧ look (f s) = v') :
    Yields I look v (StateExcept.update f : EStateM ε σ Unit) () v' :=
  fun s hs hv => ⟨f s, rfl, h s hs hv⟩

theorem bind
    {m : EStateM ε σ α} {k : α → EStateM ε σ β} {a : α} {b : β}
    (hm : Yields I look v m a v') (hk : Yields I look v' (k a) b v'') :
    Yields I look v (m >>= k) b v'' := by
  intro s hs hv
  obtain ⟨t, hrun, ht, hlook⟩ := hm s hs hv
  obtain ⟨u, hrun', hu, hlook'⟩ := hk t ht hlook
  exact ⟨u, by rw [bind_of_ok hrun, hrun'], hu, hlook'⟩

/-- A read of what need not be seen. -/
theorem view_bind
    {f : σ → α} {k : α → EStateM ε σ β} {b : β}
    (h : ∀ s, I s → look s = v → Yields I look v (k (f s)) b v') :
    Yields I look v (StateExcept.view f >>= k) b v' :=
  fun s hs hv => h s hs hv s hs hv

theorem ite_pos
    {c : Prop} [Decidable c] {m m' : EStateM ε σ α} {a : α} (hc : c)
    (h : Yields I look v m a v') :
    Yields I look v (if c then m else m') a v' := by
  rw [if_pos hc]
  exact h

theorem ite_neg
    {c : Prop} [Decidable c] {m m' : EStateM ε σ α} {a : α} (hc : ¬ c)
    (h : Yields I look v m' a v') :
    Yields I look v (if c then m else m') a v' := by
  rw [if_neg hc]
  exact h

theorem rescue
    {select : ε → Option γ} {m : EStateM ε σ α} {handler : γ → EStateM ε σ α}
    {a : α} (h : Yields I look v m a v') :
    Yields I look v (StateExcept.rescue select m handler) a v' := by
  intro s hs hv
  obtain ⟨t, hrun, ht, hlook⟩ := h s hs hv
  exact ⟨t, rescue_of_ok hrun, ht, hlook⟩

/-- What is seen afterwards, in another way. -/
theorem congr
    {m : EStateM ε σ α} {a : α} (h : Yields I look v m a v') (hv : v' = v'') :
    Yields I look v m a v'' := by
  rw [← hv]
  exact h

end Yields

end StateExcept
