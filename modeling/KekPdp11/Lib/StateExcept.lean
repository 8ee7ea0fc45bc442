import Mathlib.Logic.Basic

/-!
# Programs with a state and exceptions

A program of type EStateM ε σ α keeps its state when it throws.  This module
fixes the primitive programs, says how a program is applied to a state, and
develops two judgments.

**Triples.**  `Triple I m Q E` holds when every run of `m` from a state of `I`
returns a value `a` in `Q a` or throws `e` in `E e`.  There is one rule for
each way of building a program, so that a triple of a large program is obtained
by following its text.  `Upholds I E m` is the case in which a return ends
where it started, and `Keeps I m` the case in which a throw does so too.

**Agreement.**  `AgreesUntil stop H I J E m m'` holds when two programs run
alike from every state of `I`, returning in `J` or throwing in `E`, unless the
first one gives up with `stop`; then the second one ends in `H`, which it keeps.
-/

namespace StateExcept

variable {ε σ α β γ : Type}

/-- Read a value off the state. -/
def view (f : σ → α) : EStateM ε σ α :=
  fun s => .ok (f s) s

/-- Replace the state. -/
def update (f : σ → σ) : EStateM ε σ Unit :=
  fun s => .ok () (f s)

/-- Throw, keeping the state reached so far. -/
def raise (e : ε) : EStateM ε σ α :=
  fun s => .error e s

/-- Run `handler` on the exceptions that `select` recognises. -/
def rescue
    (select : ε → Option γ)
    (body : EStateM ε σ α)
    (handler : γ → EStateM ε σ α) :
    EStateM ε σ α :=
  fun s =>
    match body s with
    | .ok a s' => .ok a s'
    | .error e s' =>
        match select e with
        | some c => handler c s'
        | none => .error e s'

/-- The state in which a run ends, whether it returned or threw. -/
def final : EStateM.Result ε σ α → σ
  | .ok _ s => s
  | .error _ s => s

/-- Whether a run returned. -/
def returned : EStateM.Result ε σ α → Bool
  | .ok _ _ => true
  | .error _ _ => false

theorem eq_ok_of_returned
    {r : EStateM.Result ε σ α} (h : returned r = true) :
    ∃ a, r = .ok a (final r) := by
  cases r with
  | ok a s =>
      exact ⟨a, rfl⟩
  | error e s =>
      cases h

/-- The value that a run returns. -/
def value? : EStateM.Result ε σ α → Option α
  | .ok a _ => some a
  | .error _ _ => none

theorem eq_ok_of_value
    {r : EStateM.Result ε σ α} {a : α} (h : value? r = some a) :
    r = .ok a (final r) := by
  cases r with
  | ok a' s =>
      injection h with ha
      subst ha
      rfl
  | error e s =>
      cases h

@[simp] theorem final_ok
    (a : α) (s : σ) :
    final (.ok a s : EStateM.Result ε σ α) = s := by
  rfl

@[simp] theorem final_error
    (e : ε) (s : σ) :
    final (.error e s : EStateM.Result ε σ α) = s := by
  rfl

section Apply

@[simp] theorem pure_apply
    (a : α) (s : σ) :
    (pure a : EStateM ε σ α) s = .ok a s := by
  rfl

@[simp] theorem view_apply
    (f : σ → α) (s : σ) :
    (view f : EStateM ε σ α) s = .ok (f s) s := by
  rfl

@[simp] theorem update_apply
    (f : σ → σ) (s : σ) :
    (update f : EStateM ε σ Unit) s = .ok () (f s) := by
  rfl

@[simp] theorem raise_apply
    (e : ε) (s : σ) :
    (raise e : EStateM ε σ α) s = .error e s := by
  rfl

theorem bind_apply
    (m : EStateM ε σ α) (k : α → EStateM ε σ β) (s : σ) :
    (m >>= k) s =
      match m s with
      | .ok a s' => k a s'
      | .error e s' => .error e s' := by
  rfl

theorem bind_of_ok
    {m : EStateM ε σ α} {k : α → EStateM ε σ β}
    {s s' : σ} {a : α}
    (h : m s = .ok a s') :
    (m >>= k) s = k a s' := by
  rw [bind_apply, h]

theorem bind_of_error
    {m : EStateM ε σ α} {k : α → EStateM ε σ β}
    {s s' : σ} {e : ε}
    (h : m s = .error e s') :
    (m >>= k) s = .error e s' := by
  rw [bind_apply, h]

/-- A sequence only depends on what its first part does from the state. -/
theorem bind_apply_congr
    {m m' : EStateM ε σ α} {s : σ}
    (h : m s = m' s) (k : α → EStateM ε σ β) :
    (m >>= k) s = (m' >>= k) s := by
  rw [bind_apply, bind_apply, h]

@[simp] theorem pure_bind_apply
    (a : α) (k : α → EStateM ε σ β) (s : σ) :
    ((pure a : EStateM ε σ α) >>= k) s = k a s := by
  rfl

@[simp] theorem view_bind_apply
    (f : σ → α) (k : α → EStateM ε σ β) (s : σ) :
    ((view f : EStateM ε σ α) >>= k) s = k (f s) s := by
  rfl

@[simp] theorem update_bind_apply
    (f : σ → σ) (k : Unit → EStateM ε σ β) (s : σ) :
    ((update f : EStateM ε σ Unit) >>= k) s = k () (f s) := by
  rfl

@[simp] theorem raise_bind_apply
    (e : ε) (k : α → EStateM ε σ β) (s : σ) :
    ((raise e : EStateM ε σ α) >>= k) s = .error e s := by
  rfl

@[simp] theorem ite_apply_state
    (c : Prop) [Decidable c] (m m' : EStateM ε σ α) (s : σ) :
    (if c then m else m') s = if c then m s else m' s := by
  split <;> rfl

theorem rescue_of_ok
    {select : ε → Option γ} {body : EStateM ε σ α}
    {handler : γ → EStateM ε σ α} {s s' : σ} {a : α}
    (h : body s = .ok a s') :
    rescue select body handler s = .ok a s' := by
  simp only [rescue, h]

theorem rescue_of_error
    {select : ε → Option γ} {body : EStateM ε σ α}
    {handler : γ → EStateM ε σ α} {s s' : σ} {e : ε} {c : γ}
    (h : body s = .error e s')
    (hc : select e = some c) :
    rescue select body handler s = handler c s' := by
  simp only [rescue, h, hc]

/-- What comes before the throw needs no handler. -/
theorem rescue_bind_of_ok
    {select : ε → Option γ} {m : EStateM ε σ β} {k : β → EStateM ε σ α}
    {handler : γ → EStateM ε σ α} {s s' : σ} {b : β}
    (h : m s = .ok b s') :
    rescue select (m >>= k) handler s = rescue select (k b) handler s' := by
  unfold rescue
  rw [bind_of_ok h]

/-- A program that returns splits into the two runs it is made of. -/
theorem bind_eq_ok
    {m : EStateM ε σ α} {k : α → EStateM ε σ β}
    {s t : σ} {b : β}
    (h : (m >>= k) s = .ok b t) :
    ∃ a s', m s = .ok a s' ∧ k a s' = .ok b t := by
  rw [bind_apply] at h
  cases hm : m s with
  | ok a s' =>
      rw [hm] at h
      exact ⟨a, s', rfl, h⟩
  | error e s' =>
      rw [hm] at h
      cases h

/-- What holds at the end of the first part and is kept by the second. -/
theorem final_bind
    {I : σ → Prop} {m : EStateM ε σ α} {k : α → EStateM ε σ β} {s : σ}
    (h : I (final (m s))) (hk : ∀ a t, I t → I (final (k a t))) :
    I (final ((m >>= k) s)) := by
  rw [bind_apply]
  cases hm : m s with
  | ok a t =>
      rw [hm] at h
      exact hk a t h
  | error e t =>
      rw [hm] at h
      exact h

theorem final_rescue
    {I : σ → Prop} {select : ε → Option γ} {body : EStateM ε σ α}
    {handler : γ → EStateM ε σ α} {s : σ}
    (h : I (final (body s))) (hhandler : ∀ c t, I t → I (final (handler c t))) :
    I (final (rescue select body handler s)) := by
  unfold rescue
  cases hbody : body s with
  | ok a t =>
      rw [hbody] at h
      exact h
  | error e t =>
      rw [hbody] at h
      cases hc : select e with
      | some c =>
          simp only [hc]
          exact hhandler c t h
      | none =>
          simp only [hc]
          exact h

end Apply

/-- What a result has to satisfy: `Q a` after a return, `E e` after a throw. -/
def After
    (Q : α → σ → Prop) (E : ε → σ → Prop) :
    EStateM.Result ε σ α → Prop
  | .ok a s => Q a s
  | .error e s => E e s

/-- A weaker fact about what a return leaves. -/
theorem After.imp
    {Q Q' : α → σ → Prop} {E : ε → σ → Prop} {r : EStateM.Result ε σ α}
    (h : After Q E r) (hQ : ∀ a s, Q a s → Q' a s) :
    After Q' E r := by
  cases r with
  | ok a s =>
      exact hQ a s h
  | error e s =>
      exact h

/-- A run of a sequence, from what its first part leaves. -/
theorem after_bind
    {Q : α → σ → Prop} {R : β → σ → Prop} {E : ε → σ → Prop}
    {m : EStateM ε σ α} {k : α → EStateM ε σ β} {s : σ}
    (hm : After Q E (m s)) (hk : ∀ a t, Q a t → After R E (k a t)) :
    After R E ((m >>= k) s) := by
  rw [bind_apply]
  cases hr : m s with
  | ok a t =>
      rw [hr] at hm
      exact hk a t hm
  | error e t =>
      rw [hr] at hm
      exact hm

/-- Every run from `I` returns in `Q` or throws in `E`. -/
def Triple
    (I : σ → Prop) (m : EStateM ε σ α)
    (Q : α → σ → Prop) (E : ε → σ → Prop) : Prop :=
  ∀ s, I s → After Q E (m s)

/-- Every run from `I` returns in `I` or throws in `E`. -/
abbrev Upholds
    (I : σ → Prop) (E : ε → σ → Prop)
    (m : EStateM ε σ α) : Prop :=
  Triple I m (fun _ => I) E

/-- The program keeps `I`, however it ends. -/
abbrev Keeps
    (I : σ → Prop) (m : EStateM ε σ α) : Prop :=
  Triple I m (fun _ => I) (fun _ => I)

namespace Triple

variable {I J : σ → Prop} {E : ε → σ → Prop}
variable {Q : α → σ → Prop} {R : β → σ → Prop}

theorem ok
    {m : EStateM ε σ α} (h : Triple I m Q E)
    {s t : σ} {a : α} (hs : I s) (hm : m s = .ok a t) :
    Q a t := by
  have hr := h s hs
  rw [hm] at hr
  exact hr

theorem error
    {m : EStateM ε σ α} (h : Triple I m Q E)
    {s t : σ} {e : ε} (hs : I s) (hm : m s = .error e t) :
    E e t := by
  have hr := h s hs
  rw [hm] at hr
  exact hr

/-- A program that always throws returns nothing. -/
theorem of_throws
    {m : EStateM ε σ α} (h : ∀ s, ∃ e t, m s = .error e t) :
    Triple I m Q (fun _ _ => True) := by
  intro s _
  obtain ⟨e, t, ht⟩ := h s
  rw [ht]
  trivial

/-- A program of which nothing is asked. -/
theorem any
    (m : EStateM ε σ α) :
    Triple I m (fun _ _ => True) (fun _ _ => True) := by
  intro s _
  cases m s <;> trivial

theorem pure
    {a : α} (h : ∀ s, I s → Q a s) :
    Triple I (Pure.pure a : EStateM ε σ α) Q E :=
  h

theorem view
    {f : σ → α} (h : ∀ s, I s → Q (f s) s) :
    Triple I (StateExcept.view f : EStateM ε σ α) Q E :=
  h

theorem update
    {f : σ → σ} {Q : Unit → σ → Prop} (h : ∀ s, I s → Q () (f s)) :
    Triple I (StateExcept.update f : EStateM ε σ Unit) Q E :=
  h

theorem raise
    {e : ε} (h : ∀ s, I s → E e s) :
    Triple I (StateExcept.raise e : EStateM ε σ α) Q E :=
  h

theorem bind
    {m : EStateM ε σ α} {k : α → EStateM ε σ β}
    (hm : Triple I m Q E) (hk : ∀ a, Triple (Q a) (k a) R E) :
    Triple I (m >>= k) R E := by
  intro s hs
  have h := hm s hs
  rw [bind_apply]
  cases hr : m s with
  | ok a s' =>
      rw [hr] at h
      exact hk a s' h
  | error e s' =>
      rw [hr] at h
      exact h

/-- A read lets the rest of the program know where its value comes from. -/
theorem view_bind
    {f : σ → α} {k : α → EStateM ε σ β}
    (h : ∀ a, Triple (fun s => I s ∧ f s = a) (k a) R E) :
    Triple I (StateExcept.view f >>= k) R E :=
  fun s hs => h (f s) s ⟨hs, rfl⟩

/-- A read whose value does not matter. -/
theorem view_bind_any
    {f : σ → α} {k : α → EStateM ε σ β}
    (h : ∀ a, Triple I (k a) R E) :
    Triple I (StateExcept.view f >>= k) R E :=
  fun s hs => h (f s) s hs

theorem ite
    {c : Prop} [Decidable c] {m m' : EStateM ε σ α}
    (hm : c → Triple I m Q E) (hm' : ¬ c → Triple I m' Q E) :
    Triple I (if c then m else m') Q E := by
  split
  · exact hm ‹_›
  · exact hm' ‹_›

/-- A handler runs in a state the body threw in. -/
theorem rescue
    {select : ε → Option γ} {body : EStateM ε σ α}
    {handler : γ → EStateM ε σ α} {E' : ε → σ → Prop}
    (hbody : Triple I body Q E')
    (hselect : ∀ e c, select e = some c → Triple (E' e) (handler c) Q E)
    (hrest : ∀ e s, select e = none → E' e s → E e s) :
    Triple I (StateExcept.rescue select body handler) Q E := by
  intro s hs
  have h := hbody s hs
  unfold StateExcept.rescue
  cases hr : body s with
  | ok a s' =>
      rw [hr] at h
      exact h
  | error e s' =>
      rw [hr] at h
      cases hc : select e with
      | some c =>
          simp only [hc]
          exact hselect e c hc s' h
      | none =>
          simp only [hc]
          exact hrest e s' hc h

theorem weaken
    {Q' : α → σ → Prop} {E' : ε → σ → Prop} {m : EStateM ε σ α}
    (h : Triple I m Q E)
    (hI : ∀ s, J s → I s)
    (hQ : ∀ a s, Q a s → Q' a s)
    (hE : ∀ e s, E e s → E' e s) :
    Triple J m Q' E' := by
  intro s hs
  have hr := h s (hI s hs)
  cases hm : m s with
  | ok a s' =>
      rw [hm] at hr
      exact hQ a s' hr
  | error e s' =>
      rw [hm] at hr
      exact hE e s' hr

theorem strengthen_pre
    {m : EStateM ε σ α}
    (h : Triple I m Q E) (hI : ∀ s, J s → I s) :
    Triple J m Q E :=
  fun s hs => h s (hI s hs)

theorem weaken_post
    {Q' : α → σ → Prop} {m : EStateM ε σ α}
    (h : Triple I m Q E) (hQ : ∀ a s, Q a s → Q' a s) :
    Triple I m Q' E :=
  h.weaken (fun _ hs => hs) hQ (fun _ _ he => he)

/-- Running a list of programs one after the other. -/
theorem forM
    {f : β → EStateM ε σ PUnit}
    (h : ∀ b, Triple I (f b) (fun _ => I) E) (bs : List β) :
    Triple I (bs.forM f) (fun _ => I) E := by
  induction bs with
  | nil =>
      exact pure fun _ hs => hs
  | cons b bs ih =>
      exact (h b).bind fun _ => ih

end Triple

/-- A program that keeps `I` ends in `I`. -/
theorem Keeps.final
    {I : σ → Prop} {m : EStateM ε σ α}
    (h : Keeps I m) {s : σ} (hs : I s) :
    I (final (m s)) := by
  have hr := h s hs
  cases hm : m s with
  | ok a s' =>
      rw [hm] at hr
      exact hr
  | error e s' =>
      rw [hm] at hr
      exact hr

theorem Keeps.of_final
    {I : σ → Prop} {m : EStateM ε σ α}
    (h : ∀ s, I s → I (StateExcept.final (m s))) :
    Keeps I m := by
  intro s hs
  have hend := h s hs
  cases hm : m s with
  | ok a s' =>
      rw [hm] at hend
      exact hend
  | error e s' =>
      rw [hm] at hend
      exact hend

/-- From `I` the two programs run alike, returning in `J` or throwing in `E`,
unless the first gives up; then the second ends in `H`, which it keeps. -/
structure AgreesUntil
    (stop : ε) (H I J : σ → Prop) (E : ε → σ → Prop)
    (m m' : EStateM ε σ α) : Prop where
  keeps : Keeps H m'
  alike : ∀ s, I s →
    (m s = m' s ∧ After (fun _ => J) E (m s)) ∨
      ((∃ t, m s = .error stop t) ∧ H (final (m' s)))

namespace AgreesUntil

variable {stop : ε} {H I J K : σ → Prop} {E : ε → σ → Prop}

/-- Every program that keeps `H` agrees with itself. -/
theorem of_triple
    {m : EStateM ε σ α} (hkeeps : Keeps H m)
    (h : Triple I m (fun _ => J) E) :
    AgreesUntil stop H I J E m m where
  keeps := hkeeps
  alike s hs := .inl ⟨rfl, h s hs⟩

theorem bind
    {m m' : EStateM ε σ α} {k k' : α → EStateM ε σ β}
    (hm : AgreesUntil stop H I J E m m')
    (hk : ∀ a, AgreesUntil stop H J K E (k a) (k' a)) :
    AgreesUntil stop H I K E (m >>= k) (m' >>= k') where
  keeps := hm.keeps.bind fun a => (hk a).keeps
  alike s hs := by
    rcases hm.alike s hs with ⟨heq, hend⟩ | ⟨⟨t, ht⟩, hH⟩
    · rw [bind_apply, bind_apply, ← heq]
      cases hr : m s with
      | ok a t =>
          rw [hr] at hend
          exact (hk a).alike t hend
      | error e t =>
          rw [hr] at hend
          exact .inl ⟨rfl, hend⟩
    · exact .inr ⟨⟨t, bind_of_error ht⟩,
        final_bind hH fun a _ hu => (hk a).keeps.final hu⟩

theorem view_bind
    {f : σ → α} {k k' : α → EStateM ε σ β}
    (h : ∀ a, AgreesUntil stop H I K E (k a) (k' a)) :
    AgreesUntil stop H I K E (StateExcept.view f >>= k)
      (StateExcept.view f >>= k') where
  keeps := .view_bind_any fun a => (h a).keeps
  alike s hs := (h (f s)).alike s hs

theorem ite
    {c : Prop} [Decidable c] {m₁ m₁' m₂ m₂' : EStateM ε σ α}
    (h₁ : AgreesUntil stop H I J E m₁ m₁')
    (h₂ : AgreesUntil stop H I J E m₂ m₂') :
    AgreesUntil stop H I J E (if c then m₁ else m₂)
      (if c then m₁' else m₂') := by
  split
  · exact h₁
  · exact h₂

/-- A handler does not see that the body gave up. -/
theorem rescue
    {select : ε → Option γ} {m m' : EStateM ε σ α}
    {handler : γ → EStateM ε σ α} {E' : ε → σ → Prop}
    (hm : AgreesUntil stop H I J E' m m')
    (hkeeps : ∀ c, Keeps H (handler c)) (hstop : select stop = none)
    (hselect : ∀ e c, select e = some c →
      Triple (E' e) (handler c) (fun _ => J) E)
    (hrest : ∀ e s, select e = none → E' e s → E e s) :
    AgreesUntil stop H I J E (StateExcept.rescue select m handler)
      (StateExcept.rescue select m' handler) where
  keeps := hm.keeps.rescue (fun _ c _ => hkeeps c) fun _ _ _ he => he
  alike s hs := by
    rcases hm.alike s hs with ⟨heq, hend⟩ | ⟨⟨t, ht⟩, hH⟩
    · refine .inl ⟨?_, ?_⟩
      · unfold StateExcept.rescue
        rw [heq]
      · exact Triple.rescue (I := fun u => u = s) (fun u hu => hu ▸ hend)
          hselect hrest s rfl
    · refine .inr ⟨⟨t, ?_⟩, final_rescue hH fun c _ hu => (hkeeps c).final hu⟩
      simp only [StateExcept.rescue, ht, hstop]

theorem weaken
    {J' : σ → Prop} {E' : ε → σ → Prop} {m m' : EStateM ε σ α}
    (h : AgreesUntil stop H I J E m m') (hJ : ∀ s, J s → J' s)
    (hE : ∀ e s, E e s → E' e s) :
    AgreesUntil stop H I J' E' m m' where
  keeps := h.keeps
  alike s hs :=
    (h.alike s hs).imp_left fun hsame => ⟨hsame.1, by
      have hend := hsame.2
      cases hm : m s with
      | ok a t =>
          rw [hm] at hend
          exact hJ t hend
      | error e t =>
          rw [hm] at hend
          exact hE e t hend⟩

end AgreesUntil

end StateExcept
