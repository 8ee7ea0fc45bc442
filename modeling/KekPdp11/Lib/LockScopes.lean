import Mathlib

/-!
# Threads that hold locks in scopes

A script is what a program does to locks and nothing else: the places at which
it branches or loops are left open, and a lock is held for a scope.  Threads run
scripts; a thread that enters a scope waits until no thread holds the lock, not
even itself.

**Rising ranks.**  When every scope is of a lock whose rank is above those of
the locks that are held there, then at every time all threads can still get to
their ends.

**Nesting.**  A thread that enters a scope of a lock that it holds is stuck for
good, and keeps its locks.
-/

namespace LockScopes

variable {L ι : Type}

/-- What a program does to locks. -/
inductive Script (L : Type) where
  | act
  | seq (a b : Script L)
  | either (a b : Script L)
  | many (a : Script L)
  | scope (l : L) (a : Script L)

namespace Script

/-- One after the other. -/
def seqs : List (Script L) → Script L
  | [] => act
  | a :: as => seq a (seqs as)

/-- One of several, or nothing. -/
def choice : List (Script L) → Script L
  | [] => act
  | a :: as => either a (choice as)

end Script

/-- A script to be run or the end of a scope. -/
inductive Item (L : Type) where
  | run (a : Script L)
  | unlock (l : L)

/-- What a thread has still to do. -/
abbrev Thread (L : Type) := List (Item L)

/-- The thread is in a scope of the lock. -/
def Thread.Holds (k : Thread L) (l : L) : Prop :=
  Item.unlock l ∈ k

/-- The threads of a process. -/
abbrev Threads (ι L : Type) := ι → Thread L

/-- No thread holds the lock. -/
def Threads.Free (s : Threads ι L) (l : L) : Prop :=
  ∀ i, ¬ (s i).Holds l

/-- A step of one thread. -/
inductive Thread.Step (free : L → Prop) : Thread L → Thread L → Prop where
  | act (k : Thread L) :
      Step free (.run .act :: k) k
  | seq (a b : Script L) (k : Thread L) :
      Step free (.run (.seq a b) :: k) (.run a :: .run b :: k)
  | left (a b : Script L) (k : Thread L) :
      Step free (.run (.either a b) :: k) (.run a :: k)
  | right (a b : Script L) (k : Thread L) :
      Step free (.run (.either a b) :: k) (.run b :: k)
  | leave (a : Script L) (k : Thread L) :
      Step free (.run (.many a) :: k) k
  | again (a : Script L) (k : Thread L) :
      Step free (.run (.many a) :: k) (.run a :: .run (.many a) :: k)
  | enter (l : L) (a : Script L) (k : Thread L) (h : free l) :
      Step free (.run (.scope l a) :: k) (.run a :: .unlock l :: k)
  | exit (l : L) (k : Thread L) :
      Step free (.unlock l :: k) k

/-- Any thread takes a step. -/
inductive Threads.Step [DecidableEq ι] (s : Threads ι L) :
    Threads ι L → Prop where
  | thread (i : ι) (k : Thread L) (h : Thread.Step s.Free (s i) k) :
      Step s (Function.update s i k)

/-- The threads get from one state to another. -/
abbrev Threads.Leads [DecidableEq ι] (s t : Threads ι L) : Prop :=
  Relation.ReflTransGen Threads.Step s t

theorem Thread.Step.mono
    {free free' : L → Prop} {k k' : Thread L} (h : Step free k k')
    (hfree : ∀ l, free l → free' l) :
    Step free' k k' := by
  cases h with
  | act _ =>
      exact .act _
  | seq a b k =>
      exact .seq a b k
  | left a b k =>
      exact .left a b k
  | right a b k =>
      exact .right a b k
  | leave a _ =>
      exact .leave a _
  | again a k =>
      exact .again a k
  | enter l a k h =>
      exact .enter l a k (hfree l h)
  | exit l _ =>
      exact .exit l _

/-- All threads are at their ends. -/
def Threads.Done (s : Threads ι L) : Prop :=
  ∀ i, s i = []

section Ranks

variable (rank : L → Nat)

/-- Every scope of the script is of a lock of at least the rank `floor`, and
above the locks of the scopes around it. -/
def Script.Rising : Nat → Script L → Prop
  | _, act => True
  | floor, seq a b => a.Rising floor ∧ b.Rising floor
  | floor, either a b => a.Rising floor ∧ b.Rising floor
  | floor, many a => a.Rising floor
  | floor, scope l a => floor ≤ rank l ∧ a.Rising (rank l + 1)

/-- One more than the rank of the innermost lock that is held. -/
def Thread.floor : Thread L → Nat
  | [] => 0
  | .run _ :: k => floor k
  | .unlock l :: _ => rank l + 1

/-- The ranks rise all the way in. -/
def Thread.Rising : Thread L → Prop
  | [] => True
  | .run a :: k => a.Rising rank (floor rank k) ∧ Rising k
  | .unlock l :: k => floor rank k ≤ rank l ∧ Rising k

variable {rank}

theorem Script.Rising.mono
    {a : Script L} {m n : Nat} (h : a.Rising rank n) (hmn : m ≤ n) :
    a.Rising rank m := by
  induction a with
  | act =>
      trivial
  | seq a b iha ihb =>
      exact ⟨iha h.1, ihb h.2⟩
  | either a b iha ihb =>
      exact ⟨iha h.1, ihb h.2⟩
  | many a ih =>
      exact ih h
  | scope l a _ =>
      exact ⟨Nat.le_trans hmn h.1, h.2⟩

theorem Script.rising_seqs
    {as : List (Script L)} {n : Nat} :
    (seqs as).Rising rank n ↔ ∀ a ∈ as, a.Rising rank n := by
  induction as with
  | nil =>
      simp [seqs, Rising]
  | cons a as ih =>
      simp [seqs, Rising, ih]

theorem Script.rising_choice
    {as : List (Script L)} {n : Nat} :
    (choice as).Rising rank n ↔ ∀ a ∈ as, a.Rising rank n := by
  induction as with
  | nil =>
      simp [choice, Rising]
  | cons a as ih =>
      simp [choice, Rising, ih]

/-- A step keeps the ranks rising. -/
theorem Thread.Step.rising
    {free : L → Prop} {k k' : Thread L} (h : Step free k k')
    (hk : k.Rising rank) :
    k'.Rising rank := by
  cases h with
  | act k =>
      exact hk.2
  | seq a b k =>
      exact ⟨hk.1.1, hk.1.2, hk.2⟩
  | left a b k =>
      exact ⟨hk.1.1, hk.2⟩
  | right a b k =>
      exact ⟨hk.1.2, hk.2⟩
  | leave a k =>
      exact hk.2
  | again a k =>
      exact ⟨hk.1, hk.1, hk.2⟩
  | enter l a k _ =>
      exact ⟨hk.1.2, hk.1.1, hk.2⟩
  | exit l k =>
      exact hk.2

/-- The locks that are held are below the floor. -/
theorem Thread.rank_lt_floor
    {k : Thread L} (hk : k.Rising rank) {l : L} (h : k.Holds l) :
    rank l < k.floor rank := by
  induction k with
  | nil =>
      cases h
  | cons x k ih =>
      cases x with
      | run a =>
          rcases List.mem_cons.mp h with h | h
          · cases h
          · exact ih hk.2 h
      | unlock l' =>
          rcases List.mem_cons.mp h with h | h
          · cases h
            exact Nat.lt_succ_self _
          · have hlt := ih hk.2 h
            have hle := hk.1
            exact Nat.lt_succ_of_lt (Nat.lt_of_lt_of_le hlt hle)

end Ranks

section Progress

/-- The number of steps to the end, when loops are left. -/
def Script.size : Script L → Nat
  | act => 1
  | seq a b => 1 + a.size + b.size
  | either a b => 1 + a.size + b.size
  | many _ => 1
  | scope _ a => 2 + a.size

def Item.size : Item L → Nat
  | run a => a.size
  | unlock _ => 1

def Thread.size (k : Thread L) : Nat :=
  (k.map Item.size).sum

@[simp] theorem Thread.size_cons
    (x : Item L) (k : Thread L) :
    size (x :: k) = x.size + k.size := by
  simp [size]

/-- The lock that a thread waits for. -/
def Thread.WaitsFor (k : Thread L) (l : L) : Prop :=
  ∃ a k', k = .run (.scope l a) :: k'

/-- A thread that has something to do gets closer to its end or waits for a
lock that is held. -/
theorem Thread.gets_closer
    (free : L → Prop) {k : Thread L} (hk : k ≠ []) :
    (∃ k', Step free k k' ∧ k'.size < k.size) ∨
      ∃ l, k.WaitsFor l ∧ ¬ free l := by
  cases k with
  | nil =>
      exact absurd rfl hk
  | cons x k =>
      cases x with
      | unlock l =>
          exact .inl ⟨k, .exit l k, by simp [Item.size]⟩
      | run a =>
          cases a with
          | act =>
              exact .inl ⟨k, .act k, by
                simp [Item.size, Script.size]⟩
          | seq a b =>
              refine .inl ⟨_, .seq a b k, ?_⟩
              simp only [Thread.size_cons, Item.size, Script.size]
              omega
          | either a b =>
              refine .inl ⟨_, .left a b k, ?_⟩
              simp only [Thread.size_cons, Item.size, Script.size]
              omega
          | many a =>
              exact .inl ⟨k, .leave a k, by
                simp [Item.size, Script.size]⟩
          | scope l a =>
              by_cases hfree : free l
              · refine .inl ⟨_, .enter l a k hfree, ?_⟩
                simp only [Thread.size_cons, Item.size, Script.size]
                omega
              · exact .inr ⟨l, ⟨a, k, rfl⟩, hfree⟩

variable {rank : L → Nat}

/-- A lock that a thread waits for is above those that it holds. -/
theorem Thread.WaitsFor.rank_lt
    {k : Thread L} {l l' : L} (h : k.WaitsFor l) (hk : k.Rising rank)
    (hheld : k.Holds l') :
    rank l' < rank l := by
  obtain ⟨a, k, rfl⟩ := h
  have hlt := Thread.rank_lt_floor hk hheld
  exact Nat.lt_of_lt_of_le hlt hk.1.1

theorem Thread.WaitsFor.unique
    {k : Thread L} {l l' : L} (h : k.WaitsFor l) (h' : k.WaitsFor l') :
    l = l' := by
  obtain ⟨a, k, rfl⟩ := h
  obtain ⟨a', k', heq⟩ := h'
  cases heq
  rfl

/-- Some thread can get closer to its end. -/
theorem exists_closer
    [Finite ι] {s : Threads ι L} (hs : ∀ i, (s i).Rising rank)
    (hmore : ¬ s.Done) :
    ∃ i k, Thread.Step s.Free (s i) k ∧ k.size < (s i).size := by
  by_contra hstuck
  -- Every thread that is not at its end waits for a lock that is held.
  have hwaits :
      ∀ i : { i // s i ≠ [] }, ∃ l, (s i).WaitsFor l ∧ ¬ s.Free l := by
    intro i
    rcases Thread.gets_closer s.Free i.2 with ⟨k, hstep, hlt⟩ | hwait
    · exact absurd ⟨i.1, k, hstep, hlt⟩ hstuck
    · exact hwait
  obtain ⟨i, hi⟩ := not_forall.mp hmore
  choose l hl hheld using hwaits
  -- Of these threads, one waits for a lock of the highest rank.
  obtain ⟨j, -, hmax⟩ :=
    Set.exists_max_image Set.univ (fun j => rank (l j)) Set.finite_univ
      ⟨⟨i, hi⟩, trivial⟩
  obtain ⟨u, hu⟩ := not_forall.mp (hheld j)
  have huheld : (s u).Holds (l j) := not_not.mp hu
  have hubusy : s u ≠ [] := List.ne_nil_of_mem huheld
  have hlt := (hl ⟨u, hubusy⟩).rank_lt (hs u) huheld
  exact absurd (hmax ⟨u, hubusy⟩ trivial) (Nat.not_le.mpr hlt)

/-- A run keeps the ranks rising. -/
theorem Threads.Leads.rising
    [DecidableEq ι] {s t : Threads ι L} (h : s.Leads t)
    (hs : ∀ i, (s i).Rising rank) :
    ∀ i, (t i).Rising rank := by
  induction h with
  | refl =>
      exact hs
  | tail _ hstep ih =>
      obtain ⟨i, k, hk⟩ := hstep
      intro j
      by_cases hji : j = i
      · subst hji
        rw [Function.update_self]
        exact hk.rising (ih j)
      · rw [Function.update_of_ne hji]
        exact ih j

/-- All threads can get to their ends. -/
theorem can_finish
    [DecidableEq ι] [Fintype ι] (s : Threads ι L)
    (hs : ∀ i, (s i).Rising rank) :
    ∃ t, s.Leads t ∧ t.Done := by
  induction hn : ∑ i, (s i).size using Nat.strong_induction_on generalizing s
  next n ih =>
  by_cases hdone : s.Done
  · exact ⟨s, .refl, hdone⟩
  · obtain ⟨i, k, hstep, hlt⟩ := exists_closer hs hdone
    have hthread := Threads.Step.thread (s := s) i k hstep
    have hrising := Threads.Leads.rising (.single hthread) hs
    have hless : ∑ j, (Function.update s i k j).size < n := by
      rw [← hn]
      refine Finset.sum_lt_sum ?_ ⟨i, Finset.mem_univ i, ?_⟩
      · intro j _
        by_cases hji : j = i
        · subst hji
          rw [Function.update_self]
          exact Nat.le_of_lt hlt
        · rw [Function.update_of_ne hji]
      · rw [Function.update_self]
        exact hlt
    obtain ⟨t, hleads, ht⟩ := ih _ hless _ hrising rfl
    exact ⟨t, .head hthread hleads, ht⟩

/-- A thread waits for a lock that the other one holds. -/
def Threads.Blocks (s : Threads ι L) (i j : ι) : Prop :=
  ∃ l, (s i).WaitsFor l ∧ (s j).Holds l

/-- Along a chain of waiting threads the locks that are wanted rise. -/
theorem Threads.Blocks.chain
    {s : Threads ι L} (hs : ∀ i, (s i).Rising rank) {i j : ι} {l l' : L}
    (h : Relation.TransGen s.Blocks i j) (hi : (s i).WaitsFor l)
    (hj : (s j).WaitsFor l') :
    rank l < rank l' := by
  induction h generalizing l' with
  | single hblock =>
      obtain ⟨m, hwait, hheld⟩ := hblock
      have hm := hi.unique hwait
      subst hm
      exact hj.rank_lt (hs _) hheld
  | tail _ hblock ih =>
      obtain ⟨m, hwait, hheld⟩ := hblock
      exact Nat.lt_trans (ih hwait) (hj.rank_lt (hs _) hheld)

/-- No thread waits for itself, not even through others. -/
theorem no_circle
    {s : Threads ι L} (hs : ∀ i, (s i).Rising rank) (i : ι) :
    ¬ Relation.TransGen s.Blocks i i := by
  intro h
  have hwait : ∃ l, (s i).WaitsFor l := by
    cases Relation.TransGen.head'_iff.mp h with
    | intro j hj =>
        obtain ⟨l, hl, -⟩ := hj.1
        exact ⟨l, hl⟩
  obtain ⟨l, hl⟩ := hwait
  exact absurd (Threads.Blocks.chain hs h hl hl) (Nat.lt_irrefl _)

end Progress

section Nesting

variable [DecidableEq ι]

/-- A thread that waits for a lock of its own stays where it is. -/
theorem stays_nested
    {s t : Threads ι L} (h : s.Leads t) {i : ι} {l : L}
    (hwait : (s i).WaitsFor l) (hheld : (s i).Holds l) :
    t i = s i := by
  induction h with
  | refl =>
      rfl
  | tail _ hstep ih =>
      obtain ⟨j, k, hk⟩ := hstep
      by_cases hij : i = j
      · subst hij
        obtain ⟨a, k', hwait⟩ := hwait
        rw [ih, hwait] at hk
        cases hk with
        | enter _ _ _ hfree =>
            refine absurd ?_ (hfree i)
            rw [ih]
            exact hheld
      · rw [Function.update_of_ne hij]
        exact ih

/-- What waits for a lock that is never left stays where it is. -/
theorem stays_behind
    {s t : Threads ι L} (h : s.Leads t) {i j : ι} {l : L}
    (hnested : (s i).WaitsFor l) (hheld : (s i).Holds l)
    (hwait : (s j).WaitsFor l) :
    t j = s j := by
  induction h with
  | refl =>
      rfl
  | @tail u _ hleads hstep ih =>
      obtain ⟨m, k, hk⟩ := hstep
      by_cases hjm : j = m
      · subst hjm
        obtain ⟨a, k', hwait⟩ := hwait
        rw [ih, hwait] at hk
        cases hk with
        | enter _ _ _ hfree =>
            refine absurd ?_ (hfree i)
            rw [stays_nested hleads hnested hheld]
            exact hheld
      · rw [Function.update_of_ne hjm]
        exact ih

/-- A step of a thread when no other one holds a lock. -/
abbrev Thread.Alone (k k' : Thread L) : Prop :=
  Thread.Step (fun l => ¬ k.Holds l) k k'

/-- One thread runs while the others stay out of their scopes. -/
theorem Threads.Leads.alone
    {s : Threads ι L} {i : ι} {k : Thread L}
    (hothers : ∀ j, j ≠ i → ∀ l, ¬ (s j).Holds l)
    (h : Relation.ReflTransGen Thread.Alone (s i) k) :
    s.Leads (Function.update s i k) := by
  induction h with
  | refl =>
      rw [Function.update_eq_self]
  | @tail k k' _ hstep ih =>
      have hfree :
          ∀ l, ¬ k.Holds l → Threads.Free (Function.update s i k) l := by
        intro l hl j
        by_cases hji : j = i
        · subst hji
          rw [Function.update_self]
          exact hl
        · rw [Function.update_of_ne hji]
          exact hothers j hji l
      have hthread :
          Thread.Step (Threads.Free (Function.update s i k))
            (Function.update s i k i) k' := by
        rw [Function.update_self]
        exact hstep.mono hfree
      have hlast := Threads.Step.thread i k' hthread
      rw [Function.update_idem] at hlast
      exact ih.tail hlast

end Nesting

end LockScopes
