import Mathlib.Logic.Function.Basic
import KekPdp11.Lib.Slices

/-!
# Copies between a memory and disks

A memory and any number of disks, each an array without an end.  A copy moves
a range of consecutive elements from a disk to the memory or from the memory
to a disk; what was in its target is lost, and nothing else changes.

The rules: a copy of two adjoining ranges is two copies, a run of copies leaves
what none of them has for its target, and what was written to a disk is read
back as long as no copy in between has overwritten it.
-/

namespace ArrayCopies

open Slices

/-- A memory and its disks. -/
@[ext] structure Stores (α : Type) where
  memory : Nat → α
  disk : Nat → Nat → α

/-- A range of the memory, a range of a disk, and the direction. -/
structure Copy where
  toMemory : Bool
  memory : Nat
  drive : Nat
  disk : Nat
  length : Nat
deriving DecidableEq, Repr

section Copies

variable {α : Type}

def Copy.apply (c : Copy) (s : Stores α) : Stores α :=
  if c.toMemory then
    { s with
      memory := overwrite s.memory c.memory
        (slice (s.disk c.drive) c.disk c.length) }
  else
    { s with
      disk := Function.update s.disk c.drive
        (overwrite (s.disk c.drive) c.disk
          (slice s.memory c.memory c.length)) }

/-- The copies one after the other. -/
def applyAll (cs : List Copy) (s : Stores α) : Stores α :=
  cs.foldl (fun s c => c.apply s) s

/-- Both ranges of the copy are places that there are. -/
def Copy.Within (c : Copy) (memorySize diskSize : Nat) : Prop :=
  c.memory + c.length ≤ memorySize ∧ c.disk + c.length ≤ diskSize

/-- The target of the copy meets the range of the drive. -/
def Copy.Overwrites (c : Copy) (drive disk length : Nat) : Prop :=
  c.toMemory = false ∧ c.drive = drive ∧
    c.disk < disk + length ∧ disk < c.disk + c.length

instance (c : Copy) (memorySize diskSize : Nat) :
    Decidable (c.Within memorySize diskSize) :=
  inferInstanceAs (Decidable (_ ∧ _))

instance (c : Copy) (drive disk length : Nat) :
    Decidable (c.Overwrites drive disk length) :=
  inferInstanceAs (Decidable (_ ∧ _))

@[simp] theorem applyAll_nil
    (s : Stores α) :
    applyAll [] s = s :=
  rfl

theorem applyAll_cons
    (c : Copy) (cs : List Copy) (s : Stores α) :
    applyAll (c :: cs) s = applyAll cs (c.apply s) :=
  rfl

theorem applyAll_append
    (cs cs' : List Copy) (s : Stores α) :
    applyAll (cs ++ cs') s = applyAll cs' (applyAll cs s) :=
  List.foldl_append

/-- A copy of nothing. -/
theorem Copy.apply_of_length_zero
    {c : Copy} (h : c.length = 0) (s : Stores α) :
    c.apply s = s := by
  unfold Copy.apply
  rw [h, slice_zero, slice_zero, overwrite_nil, overwrite_nil,
    Function.update_eq_self, ite_self]

theorem apply_toMemory
    (memory drive disk length : Nat) (s : Stores α) :
    (Copy.mk true memory drive disk length).apply s =
      { s with
        memory := overwrite s.memory memory
          (slice (s.disk drive) disk length) } :=
  rfl

theorem apply_toDisk
    (memory drive disk length : Nat) (s : Stores α) :
    (Copy.mk false memory drive disk length).apply s =
      { s with
        disk := Function.update s.disk drive
          (overwrite (s.disk drive) disk (slice s.memory memory length)) } :=
  rfl

/-- A copy in two parts. -/
theorem Copy.apply_add
    (toMemory : Bool) (memory drive disk m n : Nat) (s : Stores α) :
    (Copy.mk toMemory (memory + m) drive (disk + m) n).apply
        ((Copy.mk toMemory memory drive disk m).apply s) =
      (Copy.mk toMemory memory drive disk (m + n)).apply s := by
  cases toMemory with
  | true =>
      simp only [apply_toMemory, overwrite_slices]
  | false =>
      simp only [apply_toDisk, Function.update_self, Function.update_idem,
        overwrite_slices]

/-- A copy that does not overwrite a range of a disk leaves it. -/
theorem Copy.slice_disk_apply
    {c : Copy} {drive disk length : Nat} (h : ¬ c.Overwrites drive disk length)
    (s : Stores α) :
    slice ((c.apply s).disk drive) disk length =
      slice (s.disk drive) disk length := by
  obtain ⟨toMemory, memory, drive', disk', length'⟩ := c
  cases toMemory with
  | true =>
      rfl
  | false =>
      rw [apply_toDisk]
      dsimp only
      by_cases hdrive : drive = drive'
      · subst hdrive
        have hapart : ¬ (disk' < disk + length ∧ disk < disk' + length') :=
          fun hmeet => h ⟨rfl, rfl, hmeet⟩
        rw [Function.update_self, slice_eq_iff]
        intro i hi
        refine overwrite_outside ?_
        rw [length_slice]
        omega
      · rw [Function.update_of_ne hdrive]

theorem slice_disk_applyAll
    {cs : List Copy} {drive disk length : Nat}
    (h : ∀ c ∈ cs, ¬ c.Overwrites drive disk length) (s : Stores α) :
    slice ((applyAll cs s).disk drive) disk length =
      slice (s.disk drive) disk length := by
  induction cs generalizing s with
  | nil =>
      rfl
  | cons c cs ih =>
      rw [applyAll_cons, ih fun d hd => h d (List.mem_cons_of_mem _ hd),
        Copy.slice_disk_apply (h c List.mem_cons_self)]

/-- What was written to a disk is read back, if no copy in between has
overwritten it. -/
theorem read_back
    {cs : List Copy} {memory memory' drive disk length : Nat}
    (h : ∀ c ∈ cs, ¬ c.Overwrites drive disk length) (s : Stores α) :
    slice (applyAll (⟨false, memory, drive, disk, length⟩ ::
        cs ++ [⟨true, memory', drive, disk, length⟩]) s).memory memory' length =
      slice s.memory memory length := by
  have hwritten : slice (((Copy.mk false memory drive disk length).apply
      s).disk drive) disk length = slice s.memory memory length := by
    rw [apply_toDisk]
    dsimp only
    have hslice := slice_overwrite (s.disk drive) disk
      (slice s.memory memory length)
    rw [length_slice] at hslice
    rw [Function.update_self, hslice]
  rw [List.cons_append, applyAll_cons, applyAll_append, applyAll_cons,
    applyAll_nil, apply_toMemory]
  dsimp only
  rw [slice_disk_applyAll h, hwritten]
  have hread := slice_overwrite
    (applyAll cs ((Copy.mk false memory drive disk length).apply s)).memory
    memory' (slice s.memory memory length)
  rwa [length_slice] at hread

end Copies

end ArrayCopies
