import Mathlib.Algebra.GroupWithZero.Nat
import Mathlib.Algebra.BigOperators.Group.Finset.Basic
import Mathlib.Data.Fintype.BigOperators

/-!
# Several queues that are emptied in a fixed order

Items are put into queues, one for each index; a take removes the first item of
the first queue in the order that is not empty.

* `arrived_eq`: what a queue held and what was put into it is what was taken
  from it, in order, and what it holds.
* `held_prefix_taken`: as many takes as there are items, those still to come
  included, give all that the queues hold.
-/

namespace Queues

variable {ι α : Type*} [DecidableEq ι]

/-- What is done to the queues. -/
inductive Op (ι α : Type*) where
  | put (i : ι) (items : List α)
  | take

section Definitions

variable (order : List ι)

/-- The first queue in the order that is not empty. -/
def ready (q : ι → List α) : Option ι :=
  order.find? fun i => !(q i).isEmpty

/-- What a take gives: an item and the queue it comes from. -/
def front (q : ι → List α) : Option (ι × α) :=
  (ready order q).bind fun i => (q i).head?.map fun a => (i, a)

def step (q : ι → List α) : Op ι α → ι → List α
  | .put i items => Function.update q i (q i ++ items)
  | .take =>
      match ready order q with
      | none => q
      | some i => Function.update q i (q i).tail

def run (q : ι → List α) (ops : List (Op ι α)) : ι → List α :=
  ops.foldl (step order) q

/-- What an operation gives. -/
def given (q : ι → List α) : Op ι α → List (ι × α)
  | .put _ _ => []
  | .take => (front order q).toList

/-- The items that are taken, with their queues. -/
def taken : (ι → List α) → List (Op ι α) → List (ι × α)
  | _, [] => []
  | q, op :: ops => given order q op ++ taken (step order q op) ops

/-- The items of one queue. -/
def fromQueue (i : ι) (items : List (ι × α)) : List α :=
  items.filterMap fun item => if item.1 = i then some item.2 else none

/-- The items that an operation puts into one queue. -/
def Op.puts (i : ι) : Op ι α → List α
  | .put j items => if j = i then items else []
  | .take => []

/-- The items that are put into one queue. -/
def arrived (i : ι) (ops : List (Op ι α)) : List α :=
  ops.flatMap (Op.puts i)

/-- The number of items that an operation puts. -/
def Op.size : Op ι α → Nat
  | .put _ items => items.length
  | .take => 0

def arrivals (ops : List (Op ι α)) : Nat :=
  (ops.map Op.size).sum

def Op.isTake : Op ι α → Bool
  | .put _ _ => false
  | .take => true

def takes (ops : List (Op ι α)) : Nat :=
  ops.countP Op.isTake

end Definitions

section Takes

variable {order : List ι} {q : ι → List α}

omit [DecidableEq ι] in
theorem ready_eq_none_iff :
    ready order q = none ↔ ∀ i ∈ order, q i = [] := by
  simp [ready]

omit [DecidableEq ι] in
theorem ready_eq_some
    {i : ι} (h : ready order q = some i) :
    ∃ a rest, q i = a :: rest := by
  have hsome := List.find?_some h
  cases hq : q i with
  | nil =>
      rw [hq] at hsome
      cases hsome
  | cons a rest =>
      exact ⟨a, rest, rfl⟩

omit [DecidableEq ι] in
/-- A take gives nothing when all queues are empty. -/
theorem front_eq_none_iff :
    front order q = none ↔ ∀ i ∈ order, q i = [] := by
  rw [← ready_eq_none_iff]
  unfold front
  cases hready : ready order q with
  | none =>
      simp
  | some i =>
      obtain ⟨a, rest, hq⟩ := ready_eq_some hready
      simp [hq]

/-- A take gives the first item of a queue and removes it. -/
theorem front_eq_some
    {i : ι} {a : α} (h : front order q = some (i, a)) :
    ∃ rest, q i = a :: rest ∧ step order q .take = Function.update q i rest := by
  unfold front at h
  obtain ⟨j, hready, hhead⟩ := Option.bind_eq_some_iff.mp h
  obtain ⟨b, rest, hq⟩ := ready_eq_some hready
  rw [hq] at hhead
  cases hhead
  refine ⟨rest, hq, ?_⟩
  unfold step
  rw [hready]
  dsimp only
  rw [hq, List.tail_cons]

theorem step_take_of_none
    (h : front order q = none) :
    step order q .take = q := by
  have hready : ready order q = none :=
    ready_eq_none_iff.mpr (front_eq_none_iff.mp h)
  unfold step
  rw [hready]

end Takes

section Conservation

variable {order : List ι}

theorem fromQueue_append
    (i : ι) (items items' : List (ι × α)) :
    fromQueue i (items ++ items') = fromQueue i items ++ fromQueue i items' :=
  List.filterMap_append

/-- One operation. -/
theorem puts_eq
    (q : ι → List α) (op : Op ι α) (i : ι) :
    q i ++ op.puts i = fromQueue i (given order q op) ++ step order q op i := by
  cases op with
  | put j items =>
      by_cases hij : i = j
      · subst hij
        simp [Op.puts, given, fromQueue, step]
      · have hji : j ≠ i := Ne.symm hij
        simp [Op.puts, given, fromQueue, step, hij, hji]
  | take =>
      cases hfront : front order q with
      | none =>
          rw [step_take_of_none hfront]
          simp [Op.puts, given, fromQueue, hfront]
      | some item =>
          obtain ⟨j, a⟩ := item
          obtain ⟨rest, hq, hstep⟩ := front_eq_some hfront
          rw [hstep]
          by_cases hij : i = j
          · subst hij
            simp [Op.puts, given, fromQueue, hfront, hq]
          · have hji : j ≠ i := Ne.symm hij
            simp [Op.puts, given, fromQueue, hfront, hij, hji]

/-- Nothing is lost, doubled or reordered. -/
theorem arrived_eq
    (q : ι → List α) (ops : List (Op ι α)) (i : ι) :
    q i ++ arrived i ops =
      fromQueue i (taken order q ops) ++ run order q ops i := by
  induction ops generalizing q with
  | nil =>
      simp [arrived, taken, fromQueue, run]
  | cons op ops ih =>
      have hrest := ih (step order q op)
      have hone : q i ++ op.puts i =
          fromQueue i (given order q op) ++ step order q op i :=
        puts_eq q op i
      calc q i ++ arrived i (op :: ops)
          = (q i ++ op.puts i) ++ arrived i ops := by
            rw [List.append_assoc]
            rfl
        _ = fromQueue i (given order q op) ++
              (step order q op i ++ arrived i ops) := by
            rw [hone, List.append_assoc]
        _ = fromQueue i (taken order q (op :: ops)) ++
              run order q (op :: ops) i := by
            rw [hrest, ← List.append_assoc, taken, fromQueue_append]
            rfl

theorem taken_append
    (q : ι → List α) (ops later : List (Op ι α)) :
    taken order q (ops ++ later) =
      taken order q ops ++ taken order (run order q ops) later := by
  induction ops generalizing q with
  | nil =>
      rfl
  | cons op ops ih =>
      rw [List.cons_append, taken, taken, ih, List.append_assoc]
      rfl

end Conservation

section Progress

variable [Fintype ι]

/-- The number of items in the queues. -/
def waiting (q : ι → List α) : Nat :=
  ∑ i, (q i).length

theorem waiting_update
    (q : ι → List α) (i : ι) (items : List α) :
    waiting (Function.update q i items) + (q i).length =
      waiting q + items.length := by
  have hbefore := Finset.add_sum_erase Finset.univ (fun k => (q k).length)
    (Finset.mem_univ i)
  have hafter := Finset.add_sum_erase Finset.univ
    (fun k => (Function.update q i items k).length) (Finset.mem_univ i)
  have hothers : ∑ k ∈ Finset.univ.erase i,
      (Function.update q i items k).length =
      ∑ k ∈ Finset.univ.erase i, (q k).length :=
    Finset.sum_congr rfl fun k hk => by
      rw [Function.update_of_ne (Finset.ne_of_mem_erase hk)]
  rw [hothers] at hafter
  simp only [Function.update_self] at hafter
  unfold waiting
  omega

omit [DecidableEq ι] in
theorem eq_nil_of_waiting
    {q : ι → List α} (h : waiting q = 0) (i : ι) :
    q i = [] := by
  have hzero := (Finset.sum_eq_zero_iff.mp h) i (Finset.mem_univ i)
  exact List.length_eq_zero_iff.mp hzero

/-- With as many takes as items, the queues are empty at some point. -/
theorem exists_empty
    {order : List ι} (horder : ∀ i, i ∈ order) (q : ι → List α)
    (ops : List (Op ι α)) (h : waiting q + arrivals ops ≤ takes ops) :
    ∃ before later, ops = before ++ later ∧ ∀ i, run order q before i = [] := by
  induction ops generalizing q with
  | nil =>
      have hzero : waiting q = 0 := by
        simpa [arrivals, takes] using h
      exact ⟨[], [], rfl, eq_nil_of_waiting hzero⟩
  | cons op ops ih =>
      have hnext : (∀ i, q i = []) ∨
          waiting (step order q op) + arrivals ops ≤ takes ops := by
        cases op with
        | put i items =>
            right
            have hupdate := waiting_update q i (q i ++ items)
            rw [List.length_append] at hupdate
            simp only [arrivals, takes, List.map_cons, List.sum_cons, Op.size,
              List.countP_cons, Op.isTake] at h ⊢
            change waiting (Function.update q i (q i ++ items)) + _ ≤ _
            simp at h
            omega
        | take =>
            cases hfront : front order q with
            | none =>
                exact .inl fun i => front_eq_none_iff.mp hfront i (horder i)
            | some item =>
                right
                obtain ⟨rest, hq, hstep⟩ := front_eq_some hfront
                have hupdate := waiting_update q item.1 rest
                rw [hq, List.length_cons] at hupdate
                simp only [arrivals, takes, List.map_cons, List.sum_cons,
                  Op.size, List.countP_cons, Op.isTake] at h ⊢
                rw [hstep]
                simp at h
                omega
      rcases hnext with hempty | hnext
      · exact ⟨[], op :: ops, rfl, hempty⟩
      · obtain ⟨before, later, rfl, hempty⟩ := ih _ hnext
        exact ⟨op :: before, later, rfl, hempty⟩

/-- What the queues hold is taken by as many takes. -/
theorem held_prefix_taken
    {order : List ι} (horder : ∀ i, i ∈ order) (q : ι → List α)
    (ops : List (Op ι α)) (h : waiting q + arrivals ops ≤ takes ops) (i : ι) :
    q i <+: fromQueue i (taken order q ops) := by
  obtain ⟨before, later, rfl, hempty⟩ := exists_empty horder q ops h
  have hbefore : q i ++ arrived i before =
      fromQueue i (taken order q before) ++ run order q before i :=
    arrived_eq q before i
  rw [hempty i, List.append_nil] at hbefore
  rw [taken_append, fromQueue_append, ← hbefore, List.append_assoc]
  exact List.prefix_append _ _

end Progress

end Queues
