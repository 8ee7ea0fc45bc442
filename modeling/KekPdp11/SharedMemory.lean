import KekPdp11.OperandForms
import KekPdp11.Lib.Footprints

/-!
# KEK PDP-11: memory that programs share

References to memory by bytes and words, in any modes and spaces.  The bus and
the MMU make them operations on one array of bytes: a reference goes to the
physical address that the mapping at the beginning gives, as references only
change what is noted about pages.

Where programs are mapped to different memory they do not notice each other,
however their references take turns.
-/

namespace KekPdp11

open StateExcept Footprints

/-- A read, or the write of a value. -/
structure MemoryReference where
  runMode : RunMode
  addr : Word
  space : Space
  wordMode : WordMode
  value : Option Word

namespace MemoryReference

variable {δ : Type}

/-- The physical address that it goes to. -/
def place (q : MemoryReference) (s : Machine δ) : PhysAddr :=
  match s.target q.runMode q.addr q.space with
  | .ram p _ => p
  | _ => 0

/-- It goes to memory, and a word to an even address. -/
structure InMemory (q : MemoryReference) (s : Machine δ) : Prop where
  reached : ∃ page,
    s.target q.runMode q.addr q.space = .ram (q.place s) page
  aligned : q.wordMode = .wmWord → (q.place s).toNat % 2 = 0

/-- The bytes of a byte or a word. -/
def bytes (wordMode : WordMode) (p : PhysAddr) : Set Nat :=
  {i | i = p.toNat ∨ (wordMode = .wmWord ∧ i = p.toNat + 1)}

/-- What it does on the bus. -/
def onBus [UnibusDevices δ] (q : MemoryReference) : Exec δ (Option Word) :=
  match q.value with
  | none => do
      let v ← Bus.read q.addr q.wordMode q.runMode q.space
      pure (some v)
  | some v => do
      let _ ← Bus.write q.addr q.wordMode v q.runMode q.space
      pure none

end MemoryReference

section Operations

variable (size p : PhysAddr) (wordMode : WordMode)

theorem readAt_congr
    {f g : Nat → Byte} (h : ∀ i ∈ MemoryReference.bytes wordMode p, f i = g i) :
    Ram.readAt ⟨size, f⟩ wordMode p = Ram.readAt ⟨size, g⟩ wordMode p := by
  have hlow : f p.toNat = g p.toNat := h _ (.inl rfl)
  cases wordMode with
  | wmByte =>
      change (f p.toNat).setWidth 16 = (g p.toNat).setWidth 16
      rw [hlow]
  | wmWord =>
      have hhigh : f (p.toNat + 1) = g (p.toNat + 1) := h _ (.inr ⟨rfl, rfl⟩)
      change f (p.toNat + 1) ++ f p.toNat = g (p.toNat + 1) ++ g p.toNat
      rw [hlow, hhigh]

/-- What is written does not depend on what was there. -/
theorem writeAt_congr
    (v : Word) (f g : Nat → Byte) {i : Nat}
    (h : i ∈ MemoryReference.bytes wordMode p) :
    (Ram.writeAt ⟨size, f⟩ wordMode p v).m i =
      (Ram.writeAt ⟨size, g⟩ wordMode p v).m i := by
  cases wordMode with
  | wmByte =>
      obtain rfl : i = p.toNat := h.resolve_right fun h => nomatch h.1
      change Function.update f p.toNat _ p.toNat =
        Function.update g p.toNat _ p.toNat
      rw [Function.update_self, Function.update_self]
  | wmWord =>
      change Function.update (Function.update f _ _) _ _ i =
        Function.update (Function.update g _ _) _ _ i
      rcases h with rfl | ⟨-, rfl⟩
      · have hne : p.toNat ≠ p.toNat + 1 := by omega
        rw [Function.update_of_ne hne, Function.update_of_ne hne,
          Function.update_self, Function.update_self]
      · rw [Function.update_self, Function.update_self]

/-- A read as an operation on the bytes of memory. -/
def readOp : Op Nat Byte (Option Word) where
  reads := MemoryReference.bytes wordMode p
  writes := ∅
  result f := some (Ram.readAt ⟨size, f⟩ wordMode p)
  apply f := f
  frame _ _ _ := rfl
  result_congr _ _ h := congrArg some (readAt_congr size p wordMode h)
  apply_congr _ _ _ _ h := absurd h (Set.notMem_empty _)

/-- A write. -/
def writeOp (v : Word) : Op Nat Byte (Option Word) where
  reads := ∅
  writes := MemoryReference.bytes wordMode p
  result _ := none
  apply f := (Ram.writeAt ⟨size, f⟩ wordMode p v).m
  frame _ _ h :=
    Ram.writeAt_of_ne _ _ _ _ (fun hi => h (.inl hi))
      fun hword hi => h (.inr ⟨hword, hi⟩)
  result_congr _ _ _ := rfl
  apply_congr f g _ _ h := writeAt_congr size p wordMode v f g h

end Operations

section Runs

variable {δ κ : Type} [UnibusDevices δ]

/-- What a reference does, as an operation on the bytes of memory. -/
def MemoryReference.op (q : MemoryReference) (s : Machine δ) :
    Op Nat Byte (Option Word) :=
  match q.value with
  | none => readOp s.ram.size (q.place s) q.wordMode
  | some v => writeOp s.ram.size (q.place s) q.wordMode v

/-- References one after the other, each with the program that makes it. -/
def onBusAll : List (κ × MemoryReference) → Exec δ (List (κ × Option Word))
  | [] => pure []
  | (k, q) :: refs => do
      let v ← q.onBus
      let rest ← onBusAll refs
      pure ((k, v) :: rest)

/-- The same references as operations on an array. -/
def turns (s : Machine δ) (refs : List (κ × MemoryReference)) :
    Turns κ Nat Byte (Option Word) :=
  refs.map fun x => (x.1, x.2.op s)

/-- Only the bytes of memory and the notes about pages differ. -/
structure SameMachine (s t : Machine δ) : Prop where
  others : ∃ mmu m, t = { s with mmu := mmu, ram := { s.ram with m := m } }
  touches : s.mmu.Touches t.mmu

namespace SameMachine

variable {s t u : Machine δ}

omit [UnibusDevices δ] in
theorem refl
    (s : Machine δ) :
    SameMachine s s :=
  ⟨⟨s.mmu, s.ram.m, rfl⟩, .refl s.mmu⟩

omit [UnibusDevices δ] in
theorem trans
    (h : SameMachine s t) (h' : SameMachine t u) :
    SameMachine s u := by
  obtain ⟨⟨mmu, m, rfl⟩, htouches⟩ := h
  obtain ⟨⟨mmu', m', rfl⟩, htouches'⟩ := h'
  exact ⟨⟨mmu', m', rfl⟩, htouches.trans htouches'⟩

omit [UnibusDevices δ] in
theorem mapping
    (h : SameMachine s t) :
    s.mmu.SameMapping t.mmu :=
  .of_touches h.touches

omit [UnibusDevices δ] in
theorem size_eq
    (h : SameMachine s t) :
    t.ram.size = s.ram.size := by
  obtain ⟨mmu, m, rfl⟩ := h.others
  rfl

omit [UnibusDevices δ] in
theorem target_eq
    (h : SameMachine s t) (runMode : RunMode) (a : Word) (space : Space) :
    t.target runMode a space = s.target runMode a space :=
  Machine.target_eq h.mapping h.size_eq runMode a space

omit [UnibusDevices δ] in
theorem place_eq
    (h : SameMachine s t) (q : MemoryReference) :
    q.place t = q.place s := by
  unfold MemoryReference.place
  rw [h.target_eq]

omit [UnibusDevices δ] in
theorem inMemory
    (h : SameMachine s t) {q : MemoryReference} (hq : q.InMemory s) :
    q.InMemory t := by
  refine ⟨?_, ?_⟩
  · rw [h.target_eq, h.place_eq]
    exact hq.reached
  · rw [h.place_eq]
    exact hq.aligned

omit [UnibusDevices δ] in
theorem op_eq
    (h : SameMachine s t) (q : MemoryReference) :
    q.op t = q.op s := by
  unfold MemoryReference.op
  rw [h.place_eq, h.size_eq]

end SameMachine

variable {s : Machine δ}

omit [UnibusDevices δ] in
theorem Machine.storedAt_eq
    (s : Machine δ) (wordMode : WordMode) (p : PhysAddr) (page : PageIndex)
    (v : Word) :
    s.storedAt wordMode p page v =
      { s with
        mmu := s.mmu.setPageWrittenTo page
        ram := { s.ram with m := (s.ram.writeAt wordMode p v).m } } := by
  cases wordMode with
  | wmByte =>
      rfl
  | wmWord =>
      rfl

/-- One reference is its operation. -/
theorem MemoryReference.onBus_eq
    {q : MemoryReference} (h : q.InMemory s) :
    ∃ t, q.onBus s = .ok ((q.op s).result s.ram.m) t ∧
      t.ram.m = (q.op s).apply s.ram.m ∧ SameMachine s t := by
  obtain ⟨page, htarget⟩ := h.reached
  obtain ⟨runMode, addr, space, wordMode, value⟩ := q
  cases value with
  | none =>
      have hread := Bus.read_ramAt htarget h.aligned
      exact ⟨_, bind_of_ok hread, rfl, ⟨_, _, rfl⟩, .accessed s.mmu page⟩
  | some v =>
      have hwrite := Bus.write_ramAt v htarget h.aligned
      exact ⟨_, bind_of_ok hwrite, rfl, ⟨_, _, Machine.storedAt_eq _ _ _ _ _⟩,
        .writtenTo s.mmu page⟩

/-- A run of references is the run of their operations. -/
theorem onBusAll_eq
    {refs : List (κ × MemoryReference)} (h : ∀ x ∈ refs, x.2.InMemory s) :
    ∃ t, onBusAll refs s = .ok (Footprints.run (turns s refs) s.ram.m).1 t ∧
      t.ram.m = (Footprints.run (turns s refs) s.ram.m).2 ∧
      SameMachine s t := by
  induction refs generalizing s with
  | nil =>
      exact ⟨s, rfl, rfl, .refl s⟩
  | cons x refs ih =>
      obtain ⟨k, q⟩ := x
      obtain ⟨hq, hrest⟩ := List.forall_mem_cons.mp h
      obtain ⟨t, ht, hm, hsame⟩ := MemoryReference.onBus_eq hq
      obtain ⟨u, hu, hum, hsame'⟩ :=
        ih fun x hx => hsame.inMemory (hrest x hx)
      have hturns : turns t refs = turns s refs := by
        unfold turns
        simp only [hsame.op_eq]
      rw [hturns, hm] at hu hum
      refine ⟨u, ?_, hum, hsame.trans hsame'⟩
      exact (bind_of_ok ht).trans (bind_of_ok hu)

end Runs

section Sharing

variable {δ κ : Type} [UnibusDevices δ] [DecidableEq κ] {s : Machine δ}

/-- The bytes that a reference goes to. -/
def MemoryReference.span (q : MemoryReference) (s : Machine δ) : Set Nat :=
  MemoryReference.bytes q.wordMode (q.place s)

omit [UnibusDevices δ] in
theorem MemoryReference.touches_op
    (q : MemoryReference) (s : Machine δ) :
    (q.op s).touches = q.span s := by
  ext i
  unfold op
  split
  · exact ⟨fun h => h.resolve_right (Set.notMem_empty _), .inl⟩
  · exact ⟨fun h => h.resolve_left (Set.notMem_empty _), .inr⟩

omit [UnibusDevices δ] in
theorem MemoryReference.of_mem_writes
    {q : MemoryReference} {i : Nat} (h : i ∈ (q.op s).writes) :
    q.value ≠ none ∧ i ∈ q.span s := by
  unfold op at h
  split at h
  · exact absurd h (Set.notMem_empty _)
  · next hvalue =>
      exact ⟨by rw [hvalue]; exact Option.some_ne_none _, h⟩

/-- No program writes a byte of memory that another one refers to. -/
def MappedApart (s : Machine δ) (refs : List (κ × MemoryReference)) : Prop :=
  ∀ x ∈ refs, ∀ y ∈ refs, x.1 ≠ y.1 → x.2.value ≠ none →
    Disjoint (x.2.span s) (y.2.span s)

omit [UnibusDevices δ] [DecidableEq κ] in
theorem independent_of_mappedApart
    {refs : List (κ × MemoryReference)} (h : MappedApart s refs) :
    Independent (turns s refs) := by
  intro x hx y hy hne
  obtain ⟨x', hx', rfl⟩ := List.mem_map.mp hx
  obtain ⟨y', hy', rfl⟩ := List.mem_map.mp hy
  refine Set.disjoint_left.mpr fun i hi hi' => ?_
  rw [MemoryReference.touches_op] at hi'
  obtain ⟨hvalue, hspan⟩ := MemoryReference.of_mem_writes hi
  exact Set.disjoint_left.mp (h x' hx' y' hy' hne hvalue) hspan hi'

omit [UnibusDevices δ] in
theorem only_turns
    (k : κ) (refs : List (κ × MemoryReference)) :
    only k (turns s refs) = turns s (only k refs) :=
  List.filter_map

/-- Memory that programs share is an array of bytes.  Programs that are mapped
apart do not notice each other: however their references take turns, each
program reads what it reads alone, and the bytes it refers to are in the end as
it leaves them alone. -/
theorem programs_do_not_notice_each_other
    {refs : List (κ × MemoryReference)} (hmemory : ∀ x ∈ refs, x.2.InMemory s) :
    ∃ results t, onBusAll refs s = .ok results t ∧ SameMachine s t ∧
      (results, t.ram.m) = Footprints.run (turns s refs) s.ram.m ∧
      (MappedApart s refs → ∀ k, ∃ u,
        onBusAll (only k refs) s = .ok (only k results) u ∧
          ∀ x ∈ only k refs, ∀ i ∈ x.2.span s, t.ram.m i = u.ram.m i) := by
  obtain ⟨t, ht, hm, hsame⟩ := onBusAll_eq hmemory
  refine ⟨_, t, ht, hsame, Prod.ext rfl hm, ?_⟩
  intro hapart k
  have halone : ∀ x ∈ only k refs, x.2.InMemory s := fun x hx =>
    hmemory x (List.mem_filter.mp hx).1
  obtain ⟨u, hu, hum, -⟩ := onBusAll_eq halone
  obtain ⟨hresults, harray⟩ :=
    independent_parties k (independent_of_mappedApart hapart) s.ram.m
  rw [only_turns] at hresults harray
  refine ⟨u, ?_, ?_⟩
  · rw [hu, hresults]
  · intro x hx i hi
    rw [hm, hum]
    refine harray i ⟨(x.1, x.2.op s), ?_, ?_⟩
    · rw [only_turns]
      exact List.mem_map_of_mem hx
    · rw [MemoryReference.touches_op]
      exact hi

/-- The program `true` writes and reads the word at 01000, and in between the
other one writes the word at 02000. -/
def threeTurns : List (Bool × MemoryReference) :=
  [(true, ⟨0, 0o1000, .dSpace, .wmWord, some 1⟩),
    (false, ⟨0, 0o2000, .dSpace, .wmWord, some 2⟩),
    (true, ⟨0, 0o1000, .dSpace, .wmWord, none⟩)]

theorem programs_do_not_notice_each_other_three_turns :
    ∃ results t u, onBusAll threeTurns (bareMachine 0o20000 []) =
        .ok results t ∧
      onBusAll (only true threeTurns) (bareMachine 0o20000 []) =
        .ok (only true results) u := by
  have hmemory : ∀ x ∈ threeTurns, x.2.InMemory (bareMachine 0o20000 []) := by
    intro x hx
    simp only [threeTurns, List.mem_cons, List.not_mem_nil, or_false] at hx
    rcases hx with rfl | rfl | rfl
    · exact ⟨⟨_, rfl⟩, fun _ => by decide⟩
    · exact ⟨⟨_, rfl⟩, fun _ => by decide⟩
    · exact ⟨⟨_, rfl⟩, fun _ => by decide⟩
  have hapart : MappedApart (bareMachine 0o20000 []) threeTurns := by
    have hspan : ∀ x ∈ threeTurns, ∀ i ∈ x.2.span (bareMachine 0o20000 []),
        (x.1 = true → i < 0o1002) ∧ (x.1 = false → 0o2000 ≤ i) := by
      intro x hx i hi
      simp only [threeTurns, List.mem_cons, List.not_mem_nil, or_false] at hx
      rcases hx with rfl | rfl | rfl
      · have hplace : i = 0o1000 ∨ i = 0o1001 := hi.imp id And.right
        exact ⟨fun _ => by omega, fun hk => absurd hk.symm Bool.false_ne_true⟩
      · have hplace : i = 0o2000 ∨ i = 0o2001 := hi.imp id And.right
        exact ⟨fun hk => absurd hk Bool.false_ne_true, fun _ => by omega⟩
      · have hplace : i = 0o1000 ∨ i = 0o1001 := hi.imp id And.right
        exact ⟨fun _ => by omega, fun hk => absurd hk.symm Bool.false_ne_true⟩
    intro x hx y hy hne _
    refine Set.disjoint_left.mpr fun i hi hi' => ?_
    have hx' := hspan x hx i hi
    have hy' := hspan y hy i hi'
    rcases Bool.eq_false_or_eq_true x.1 with hk | hk
    · have hk' : y.1 = false := Bool.eq_false_iff.mpr fun h =>
        hne (hk.trans h.symm)
      have hlow := hx'.1 hk
      have hhigh := hy'.2 hk'
      omega
    · have hk' : y.1 = true := Bool.of_not_eq_false fun h =>
        hne (hk.trans h.symm)
      have hlow := hy'.1 hk'
      have hhigh := hx'.2 hk
      omega
  obtain ⟨results, t, ht, -, -, halone⟩ :=
    programs_do_not_notice_each_other hmemory
  obtain ⟨u, hu, -⟩ := halone hapart true
  exact ⟨results, t, u, ht, hu⟩

end Sharing

end KekPdp11
