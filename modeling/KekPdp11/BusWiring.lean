import KekPdp11.Lib.Captures
import Mathlib.Data.Option.Basic
import Mathlib.Logic.Function.Basic

/-!
# KEK PDP-11: the wiring of the parts

The bus points to its parts.  Some parts keep pointers of their own: the MMU to
the RAM and the CPU, which begin() sets; the CPU to the MMU and the TM-11 to the
RAM, which their constructors take from the bus.  A part that is replaced is
deleted.

**When nothing deleted is used.**  add_ram, set_memory_size, add_cpu and add_mmu
call begin(), so that the MMU follows.  Nothing tells the CPU about a new MMU or
the TM-11 about a new RAM: they have to be replaced later.
-/

namespace KekPdp11

/-- A part: the number of the object. -/
abbrev PartId := Nat

/-- The pointers of class bus. -/
inductive PartSlot where
  | ram
  | cpu
  | mmu
  | tm11
  | rk05
  | rl02
  | tty
  | kw11l
  | dc11
  | dz11
  | rp06
  | deqna
deriving DecidableEq, Repr

/-- A part with the pointers that it keeps to RAM, CPU and MMU. -/
structure Part where
  id : PartId
  ram : Option PartId
  cpu : Option PartId
  mmu : Option PartId

structure PartsBus where
  slots : PartSlot → Option Part
  next : PartId
  deleted : List PartId

namespace PartsBus

/-- The object that the bus points to. -/
def idOf (b : PartsBus) (slot : PartSlot) : Option PartId :=
  (b.slots slot).map Part.id

/-- A part as its constructor makes it: tm_11 takes getRAM(), cpu takes
getMMU(). -/
def newPart (b : PartsBus) (slot : PartSlot) : Part where
  id := b.next
  ram := if slot = .tm11 then b.idOf .ram else none
  cpu := none
  mmu := if slot = .cpu then b.idOf .mmu else none

/-- A new part takes the place of the old one, which is deleted. -/
def replace (b : PartsBus) (slot : PartSlot) : PartsBus where
  slots := Function.update b.slots slot (some (b.newPart slot))
  next := b.next + 1
  deleted := (b.idOf slot).toList ++ b.deleted

/-- mmu::begin with the RAM and the CPU of the bus. -/
def beginMmu (b : PartsBus) : PartsBus :=
  { b with
    slots := Function.update b.slots .mmu
      ((b.slots .mmu).map fun p =>
        { p with ram := b.idOf .ram, cpu := b.idOf .cpu }) }

def addRam (b : PartsBus) : PartsBus := (b.replace .ram).beginMmu

def setMemorySize (b : PartsBus) : PartsBus := (b.replace .ram).beginMmu

def addCpu (b : PartsBus) : PartsBus := (b.replace .cpu).beginMmu

def addMmu (b : PartsBus) : PartsBus := (b.replace .mmu).beginMmu

def addTm11 (b : PartsBus) : PartsBus := b.replace .tm11

/-- add_rk05, add_rl02, add_tty, add_KW11_L, add_DC11, add_DZ11, add_RP06 and
add_DEQNA. -/
def addDevice (b : PartsBus) (slot : PartSlot) : PartsBus := b.replace slot

def delDz11 (b : PartsBus) : PartsBus :=
  { b with
    slots := Function.update b.slots .dz11 none
    deleted := (b.idOf .dz11).toList ++ b.deleted }

/-- bus::bus makes an MMU and a line clock. -/
def constructed : PartsBus where
  slots
    | .mmu => some ⟨0, none, none, none⟩
    | .kw11l => some ⟨1, none, none, none⟩
    | _ => none
  next := 2
  deleted := []

end PartsBus

/-- A configuration call with a newly created part. -/
inductive BusCall where
  | add (slot : PartSlot)
  | setMemorySize
  | delDz11

namespace PartsBus

def call (b : PartsBus) : BusCall → PartsBus
  | .add .ram => b.addRam
  | .add .cpu => b.addCpu
  | .add .mmu => b.addMmu
  | .add .tm11 => b.addTm11
  | .add slot => b.addDevice slot
  | .setMemorySize => b.setMemorySize
  | .delDz11 => b.delDz11

def run (calls : List BusCall) : PartsBus :=
  calls.foldl call constructed

end PartsBus

/-- The pointers that a part keeps. -/
def Part.references (p : Part) : List PartId :=
  p.ram.toList ++ p.cpu.toList ++ p.mmu.toList

/-- The parts of the bus use each other. -/
structure Wired (b : PartsBus) : Prop where
  mmu : ∀ p ∈ b.slots .mmu, p.ram = b.idOf .ram ∧ p.cpu = b.idOf .cpu
  cpu : ∀ p ∈ b.slots .cpu, p.mmu = b.idOf .mmu
  tm11 : ∀ p ∈ b.slots .tm11, p.ram = b.idOf .ram
  /-- No part uses one that is deleted. -/
  alive : ∀ slot, ∀ p ∈ b.slots slot, ∀ r ∈ p.references, r ∉ b.deleted

namespace BusCall

def replacesRam : BusCall → Bool
  | .add .ram | .setMemorySize => true
  | _ => false

def replacesMmu : BusCall → Bool
  | .add .mmu => true
  | _ => false

def addsCpu : BusCall → Bool
  | .add .cpu => true
  | _ => false

def addsTm11 : BusCall → Bool
  | .add .tm11 => true
  | _ => false

/-- The pointer that a call changes. -/
def slot : BusCall → PartSlot
  | .add slot => slot
  | .setMemorySize => .ram
  | .delDz11 => .dz11

theorem replacesRam_iff (c : BusCall) :
    c.replacesRam = true ↔ c.slot = .ram := by
  rcases c with slot | _ | _
  · cases slot <;> simp [replacesRam, BusCall.slot]
  · simp [replacesRam, BusCall.slot]
  · simp [replacesRam, BusCall.slot]

theorem replacesMmu_iff (c : BusCall) :
    c.replacesMmu = true ↔ c.slot = .mmu := by
  rcases c with slot | _ | _
  · cases slot <;> simp [replacesMmu, BusCall.slot]
  · simp [replacesMmu, BusCall.slot]
  · simp [replacesMmu, BusCall.slot]

theorem addsCpu_iff (c : BusCall) :
    c.addsCpu = true ↔ c.slot = .cpu := by
  rcases c with slot | _ | _
  · cases slot <;> simp [addsCpu, BusCall.slot]
  · simp [addsCpu, BusCall.slot]
  · simp [addsCpu, BusCall.slot]

theorem addsTm11_iff (c : BusCall) :
    c.addsTm11 = true ↔ c.slot = .tm11 := by
  rcases c with slot | _ | _
  · cases slot <;> simp [addsTm11, BusCall.slot]
  · simp [addsTm11, BusCall.slot]
  · simp [addsTm11, BusCall.slot]

end BusCall

namespace PartsBus

/-- What holds of the bus after any calls. -/
structure Sound (b : PartsBus) : Prop where
  present : (b.slots .mmu).isSome
  fresh : ∀ slot, ∀ p ∈ b.slots slot, p.id < b.next ∧ p.id ∉ b.deleted
  references : ∀ slot, ∀ p ∈ b.slots slot, ∀ r ∈ p.references, r < b.next
  distinct : ∀ slot slot', ∀ p ∈ b.slots slot, ∀ p' ∈ b.slots slot',
    p.id = p'.id → slot = slot'
  deleted : ∀ r ∈ b.deleted, r < b.next
  /-- Only the MMU, the CPU and the TM-11 keep pointers. -/
  none : ∀ slot, ∀ p ∈ b.slots slot,
    (slot ≠ .mmu → p.cpu = none) ∧ (slot ≠ .cpu → p.mmu = none) ∧
      (slot ≠ .mmu → slot ≠ .tm11 → p.ram = none)

/-- The MMU has been told of the RAM and the CPU. -/
def Begun (b : PartsBus) : Prop :=
  ∀ p ∈ b.slots .mmu, p.ram = b.idOf .ram ∧ p.cpu = b.idOf .cpu

section Slots

variable (b : PartsBus)

theorem slots_replace_self
    (slot : PartSlot) :
    (b.replace slot).slots slot = some (b.newPart slot) :=
  Function.update_self _ _ _

theorem slots_replace_of_ne
    {slot slot' : PartSlot} (h : slot' ≠ slot) :
    (b.replace slot).slots slot' = b.slots slot' :=
  Function.update_of_ne h _ _

theorem slots_beginMmu_of_ne
    {slot : PartSlot} (h : slot ≠ .mmu) :
    b.beginMmu.slots slot = b.slots slot :=
  Function.update_of_ne h _ _

theorem slots_beginMmu_mmu :
    b.beginMmu.slots .mmu = (b.slots .mmu).map fun p =>
      { p with ram := b.idOf .ram, cpu := b.idOf .cpu } := by
  simp [beginMmu]

theorem idOf_beginMmu
    (slot : PartSlot) :
    b.beginMmu.idOf slot = b.idOf slot := by
  unfold idOf
  by_cases h : slot = .mmu
  · subst h
    rw [slots_beginMmu_mmu, Option.map_map]
    rfl
  · rw [b.slots_beginMmu_of_ne h]

theorem idOf_replace_self
    (slot : PartSlot) :
    (b.replace slot).idOf slot = some b.next := by
  rw [idOf, slots_replace_self]
  rfl

theorem idOf_replace_of_ne
    {slot slot' : PartSlot} (h : slot' ≠ slot) :
    (b.replace slot).idOf slot' = b.idOf slot' := by
  rw [idOf, b.slots_replace_of_ne h]
  rfl

theorem beginMmu_begun :
    b.beginMmu.Begun := by
  intro p hp
  rw [slots_beginMmu_mmu] at hp
  obtain ⟨q, -, rfl⟩ := Option.map_eq_some_iff.mp hp
  rw [idOf_beginMmu, idOf_beginMmu]
  exact ⟨rfl, rfl⟩

/-- A part that is neither RAM, CPU nor MMU can be replaced. -/
theorem Begun.replace
    {b : PartsBus} (h : b.Begun) {slot : PartSlot}
    (hram : .ram ≠ slot) (hcpu : .cpu ≠ slot) (hmmu : .mmu ≠ slot) :
    (b.replace slot).Begun := by
  unfold Begun
  rw [b.slots_replace_of_ne hmmu, b.idOf_replace_of_ne hram,
    b.idOf_replace_of_ne hcpu]
  exact h

end Slots

section Soundness

variable {b : PartsBus}

theorem Sound.idOf_lt
    (h : b.Sound) {slot : PartSlot} {r : PartId} (hr : r ∈ b.idOf slot) :
    r < b.next ∧ r ∉ b.deleted := by
  obtain ⟨p, hp, rfl⟩ := Option.map_eq_some_iff.mp hr
  exact h.fresh slot p hp

/-- begin changes two pointers of the MMU. -/
theorem mem_beginMmu
    {slot : PartSlot} {p : Part} (hp : p ∈ b.beginMmu.slots slot) :
    ∃ q ∈ b.slots slot, p.id = q.id ∧
      (p = q ∨ slot = .mmu ∧
        p = { q with ram := b.idOf .ram, cpu := b.idOf .cpu }) := by
  by_cases h : slot = .mmu
  · subst h
    rw [slots_beginMmu_mmu] at hp
    obtain ⟨q, hq, rfl⟩ := Option.map_eq_some_iff.mp hp
    exact ⟨q, hq, rfl, .inr ⟨rfl, rfl⟩⟩
  · rw [b.slots_beginMmu_of_ne h] at hp
    exact ⟨p, hp, rfl, .inl rfl⟩

theorem Sound.beginMmu
    (h : b.Sound) :
    b.beginMmu.Sound where
  present := by
    rw [slots_beginMmu_mmu, Option.isSome_map]
    exact h.present
  fresh slot p hp := by
    obtain ⟨q, hq, hid, -⟩ := mem_beginMmu hp
    rw [hid]
    exact h.fresh slot q hq
  references slot p hp r hr := by
    obtain ⟨q, hq, -, rfl | ⟨-, rfl⟩⟩ := mem_beginMmu hp
    · exact h.references slot p hq r hr
    · simp only [Part.references, List.mem_append, Option.mem_toList] at hr
      rcases hr with (hram | hcpu) | hmmu
      · exact (h.idOf_lt hram).1
      · exact (h.idOf_lt hcpu).1
      · exact h.references slot q hq r (by simp [Part.references, hmmu])
  distinct slot slot' p hp p' hp' heq := by
    obtain ⟨q, hq, hid, -⟩ := mem_beginMmu hp
    obtain ⟨q', hq', hid', -⟩ := mem_beginMmu hp'
    exact h.distinct slot slot' q hq q' hq' (hid ▸ hid' ▸ heq)
  deleted := h.deleted
  none slot p hp := by
    obtain ⟨q, hq, -, rfl | ⟨rfl, rfl⟩⟩ := mem_beginMmu hp
    · exact h.none slot p hq
    · exact ⟨fun hne => absurd rfl hne, (h.none .mmu q hq).2.1,
        fun hne => absurd rfl hne⟩

/-- The parts after a replacement. -/
theorem mem_replace
    {slot slot' : PartSlot} {p : Part} (hp : p ∈ (b.replace slot).slots slot') :
    (slot' = slot ∧ p = b.newPart slot) ∨
      (slot' ≠ slot ∧ p ∈ b.slots slot') := by
  by_cases h : slot' = slot
  · subst h
    rw [slots_replace_self] at hp
    exact .inl ⟨rfl, (Option.mem_some_iff.mp hp).symm⟩
  · rw [b.slots_replace_of_ne h] at hp
    exact .inr ⟨h, hp⟩

/-- The pointers of a new part are those of the bus. -/
theorem Sound.newPart_references
    (h : b.Sound) (slot : PartSlot) {r : PartId}
    (hr : r ∈ (b.newPart slot).references) :
    r < b.next := by
  simp only [Part.references, newPart, List.mem_append, Option.mem_toList] at hr
  rcases hr with (hram | hcpu) | hmmu
  · split at hram
    · exact (h.idOf_lt hram).1
    · cases hram
  · cases hcpu
  · split at hmmu
    · exact (h.idOf_lt hmmu).1
    · cases hmmu

theorem Sound.replace
    (h : b.Sound) (slot : PartSlot) :
    (b.replace slot).Sound where
  present := by
    by_cases hslot : .mmu = slot
    · subst hslot
      rw [slots_replace_self]
      rfl
    · rw [b.slots_replace_of_ne hslot]
      exact h.present
  fresh slot' p hp := by
    change p.id < b.next + 1 ∧ p.id ∉ (b.idOf slot).toList ++ b.deleted
    rw [List.mem_append, Option.mem_toList]
    rcases mem_replace hp with ⟨rfl, rfl⟩ | ⟨hne, hold⟩
    · refine ⟨Nat.lt_succ_self _, ?_⟩
      rintro (hdeleted | hdeleted)
      · exact Nat.lt_irrefl _ (h.idOf_lt hdeleted).1
      · exact Nat.lt_irrefl _ (h.deleted _ hdeleted)
    · obtain ⟨hlt, hnot⟩ := h.fresh slot' p hold
      refine ⟨Nat.lt_succ_of_lt hlt, ?_⟩
      rintro (hdeleted | hdeleted)
      · obtain ⟨q, hq, hid⟩ := Option.map_eq_some_iff.mp hdeleted
        exact hne (h.distinct slot' slot p hold q hq hid.symm)
      · exact hnot hdeleted
  references slot' p hp r hr := by
    rcases mem_replace hp with ⟨rfl, rfl⟩ | ⟨-, hold⟩
    · exact Nat.lt_succ_of_lt (h.newPart_references slot' hr)
    · exact Nat.lt_succ_of_lt (h.references slot' p hold r hr)
  distinct slot₁ slot₂ p hp p' hp' heq := by
    rcases mem_replace hp with ⟨rfl, rfl⟩ | ⟨-, hold⟩ <;>
      rcases mem_replace hp' with ⟨rfl, rfl⟩ | ⟨-, hold'⟩
    · rfl
    · exact absurd heq (Nat.ne_of_gt (h.fresh slot₂ p' hold').1)
    · exact absurd heq (Nat.ne_of_lt (h.fresh slot₁ p hold).1)
    · exact h.distinct slot₁ slot₂ p hold p' hold' heq
  deleted r hr := by
    rcases List.mem_append.mp hr with hold | hold
    · exact Nat.lt_succ_of_lt (h.idOf_lt (Option.mem_toList.mp hold)).1
    · exact Nat.lt_succ_of_lt (h.deleted r hold)
  none slot' p hp := by
    rcases mem_replace hp with ⟨rfl, rfl⟩ | ⟨-, hold⟩
    · exact ⟨fun _ => rfl, fun hne => if_neg hne, fun _ hne => if_neg hne⟩
    · exact h.none slot' p hold

theorem Sound.delDz11
    (h : b.Sound) :
    b.delDz11.Sound := by
  have hmem : ∀ {slot p}, p ∈ b.delDz11.slots slot →
      slot ≠ .dz11 ∧ p ∈ b.slots slot := by
    intro slot p hp
    by_cases hslot : slot = .dz11
    · subst hslot
      simp [PartsBus.delDz11] at hp
    · simp only [PartsBus.delDz11, Function.update_of_ne hslot] at hp
      exact ⟨hslot, hp⟩
  refine ⟨?_, fun slot p hp => ?_, fun slot p hp => ?_,
    fun slot slot' p hp p' hp' => ?_, fun r hr => ?_, fun slot p hp => ?_⟩
  · exact h.present
  · obtain ⟨hne, hold⟩ := hmem hp
    obtain ⟨hlt, hnot⟩ := h.fresh slot p hold
    refine ⟨hlt, fun hdeleted => ?_⟩
    rcases List.mem_append.mp hdeleted with hnow | hbefore
    · obtain ⟨q, hq, hid⟩ :=
        Option.map_eq_some_iff.mp (Option.mem_toList.mp hnow)
      exact hne (h.distinct slot .dz11 p hold q hq hid.symm)
    · exact hnot hbefore
  · exact h.references slot p (hmem hp).2
  · exact h.distinct slot slot' p (hmem hp).2 p' (hmem hp').2
  · rcases List.mem_append.mp hr with hnow | hbefore
    · exact (h.idOf_lt (Option.mem_toList.mp hnow)).1
    · exact h.deleted r hbefore
  · exact h.none slot p (hmem hp).2

theorem mem_constructed
    {slot : PartSlot} {p : Part} (hp : p ∈ constructed.slots slot) :
    (slot = .mmu ∧ p = ⟨0, none, none, none⟩) ∨
      (slot = .kw11l ∧ p = ⟨1, none, none, none⟩) := by
  cases slot
  case mmu =>
    exact .inl ⟨rfl, (Option.mem_some_iff.mp hp).symm⟩
  case kw11l =>
    exact .inr ⟨rfl, (Option.mem_some_iff.mp hp).symm⟩
  all_goals cases hp

theorem constructed_sound :
    constructed.Sound := by
  refine ⟨rfl, fun slot p hp => ?_, fun slot p hp r hr => ?_,
    fun slot slot' p hp p' hp' heq => ?_, fun r hr => ?_, fun slot p hp => ?_⟩
  · rcases mem_constructed hp with ⟨-, rfl⟩ | ⟨-, rfl⟩
    · exact ⟨by decide, List.not_mem_nil⟩
    · exact ⟨by decide, List.not_mem_nil⟩
  · rcases mem_constructed hp with ⟨-, rfl⟩ | ⟨-, rfl⟩
    · cases hr
    · cases hr
  · rcases mem_constructed hp with ⟨rfl, rfl⟩ | ⟨rfl, rfl⟩ <;>
      rcases mem_constructed hp' with ⟨rfl, rfl⟩ | ⟨rfl, rfl⟩
    · rfl
    · cases heq
    · cases heq
    · rfl
  · cases hr
  · rcases mem_constructed hp with ⟨-, rfl⟩ | ⟨-, rfl⟩
    · exact ⟨fun _ => rfl, fun _ => rfl, fun _ _ => rfl⟩
    · exact ⟨fun _ => rfl, fun _ => rfl, fun _ _ => rfl⟩

theorem constructed_begun :
    constructed.Begun := by
  intro p hp
  cases Option.mem_some_iff.mp hp
  exact ⟨rfl, rfl⟩

/-- Every call keeps the bus sound. -/
theorem Sound.call
    (h : b.Sound) (c : BusCall) :
    (b.call c).Sound := by
  cases c with
  | setMemorySize =>
      exact (h.replace .ram).beginMmu
  | delDz11 =>
      exact h.delDz11
  | add slot =>
      cases slot
      case ram => exact (h.replace .ram).beginMmu
      case cpu => exact (h.replace .cpu).beginMmu
      case mmu => exact (h.replace .mmu).beginMmu
      all_goals exact h.replace _

/-- After every call the MMU knows the RAM and the CPU. -/
theorem Begun.call
    (h : b.Begun) (c : BusCall) :
    (b.call c).Begun := by
  cases c with
  | setMemorySize =>
      exact beginMmu_begun _
  | delDz11 =>
      exact h
  | add slot =>
      cases slot
      case ram => exact beginMmu_begun _
      case cpu => exact beginMmu_begun _
      case mmu => exact beginMmu_begun _
      all_goals exact h.replace (by decide) (by decide) (by decide)

theorem run_sound_begun
    (calls : List BusCall) :
    (run calls).Sound ∧ (run calls).Begun := by
  induction calls using List.reverseRecOn with
  | nil =>
      exact ⟨constructed_sound, constructed_begun⟩
  | append_singleton calls c ih =>
      rw [run, List.foldl_append]
      exact ⟨ih.1.call c, ih.2.call c⟩

end Soundness

section Wiring

variable (b : PartsBus) (c : BusCall)

/-- A call with a new part replaces one, and may begin the MMU again. -/
theorem call_eq
    (hnew : c ≠ .delDz11) :
    b.call c = b.replace c.slot ∨ b.call c = (b.replace c.slot).beginMmu := by
  cases c with
  | delDz11 =>
      exact absurd rfl hnew
  | setMemorySize =>
      exact .inr rfl
  | add slot =>
      cases slot
      case ram | cpu | mmu => exact .inr rfl
      all_goals exact .inl rfl

/-- A call leaves the other parts, but for the MMU. -/
theorem call_slots
    {slot : PartSlot} (hne : slot ≠ c.slot) (hmmu : slot ≠ .mmu) :
    (b.call c).slots slot = b.slots slot := by
  by_cases hdel : c = .delDz11
  · subst hdel
    exact Function.update_of_ne hne _ _
  · rcases b.call_eq c hdel with heq | heq
    · rw [heq, slots_replace_of_ne _ hne]
    · rw [heq, slots_beginMmu_of_ne _ hmmu, slots_replace_of_ne _ hne]

/-- A call leaves the other pointers. -/
theorem call_idOf
    {slot : PartSlot} (hne : slot ≠ c.slot) :
    (b.call c).idOf slot = b.idOf slot := by
  by_cases hdel : c = .delDz11
  · subst hdel
    exact congrArg (Option.map Part.id) (Function.update_of_ne hne _ _)
  · rcases b.call_eq c hdel with heq | heq
    · rw [heq, idOf_replace_of_ne _ hne]
    · rw [heq, idOf_beginMmu, idOf_replace_of_ne _ hne]

variable {c}

/-- A call that adds a part makes it with the pointers of the bus. -/
theorem call_slots_self
    (hnew : c ≠ .delDz11) (hmmu : c.slot ≠ .mmu) :
    (b.call c).slots c.slot = some (b.newPart c.slot) := by
  rcases b.call_eq c hnew with heq | heq
  · rw [heq, slots_replace_self]
  · rw [heq, slots_beginMmu_of_ne _ hmmu, slots_replace_self]

theorem call_idOf_self
    (hnew : c ≠ .delDz11) :
    (b.call c).idOf c.slot = some b.next := by
  rcases b.call_eq c hnew with heq | heq
  · rw [heq, idOf_replace_self]
  · rw [heq, idOf_beginMmu, idOf_replace_self]

theorem ne_delDz11
    (h : c.slot ≠ .dz11) :
    c ≠ .delDz11 := by
  rintro rfl
  exact h rfl

/-- A part whose constructor captures a pointer of the bus. -/
theorem captureLaws
    {holder target : PartSlot} {pointer : Part → Option PartId}
    {replaces captures : BusCall → Bool}
    (hreplaces : ∀ c, replaces c = true ↔ c.slot = target)
    (hcaptures : ∀ c, captures c = true ↔ c.slot = holder)
    (hpointer : ∀ b : PartsBus, pointer (b.newPart holder) = b.idOf target)
    (hreferences : ∀ p r, pointer p = some r → r ∈ p.references)
    (hne : holder ≠ target) (hmmu : holder ≠ .mmu)
    (hholder : holder ≠ .dz11) (htarget : target ≠ .dz11) :
    Captures.Laws call (fun b => b.idOf target)
      (fun b => (b.slots holder).map pointer) Sound replaces captures where
  keeps _ c h := h.call c
  captured b c hc := by
    have hslot := (hcaptures c).mp hc
    have hself := b.call_slots_self (ne_delDz11 (hslot ▸ hholder)) (hslot ▸ hmmu)
    constructor
    · rw [← Bool.not_eq_true, hreplaces, hslot]
      exact hne
    · rw [hslot] at hself
      rw [hself, call_idOf b c (hslot ▸ hne.symm), Option.map_some, hpointer]
  replaced b c h hc := by
    have hslot := (hreplaces c).mp hc
    have hself := b.call_idOf_self (ne_delDz11 (hslot ▸ htarget))
    constructor
    · rw [b.call_slots c (hslot ▸ hne) hmmu]
    · intro r hr heq
      obtain ⟨p, hp, rfl⟩ := Option.map_eq_some_iff.mp hr
      rw [hslot] at hself
      rw [hself] at heq
      exact Nat.lt_irrefl _
        (h.references holder p hp b.next (hreferences p _ heq))
  quiet b c hc hold := by
    rw [← Bool.not_eq_true, hcaptures] at hc
    rw [← Bool.not_eq_true, hreplaces] at hold
    rw [b.call_slots c (Ne.symm hc) hmmu, b.call_idOf c (Ne.symm hold)]
    exact ⟨rfl, rfl⟩

/-- The CPU captures the MMU. -/
theorem cpuLaws :
    Captures.Laws call (fun b => b.idOf .mmu)
      (fun b => (b.slots .cpu).map Part.mmu) Sound BusCall.replacesMmu
      BusCall.addsCpu :=
  captureLaws BusCall.replacesMmu_iff BusCall.addsCpu_iff (fun _ => rfl)
    (fun p r h => by simp [Part.references, h]) (by decide) (by decide)
    (by decide) (by decide)

/-- The TM-11 captures the RAM. -/
theorem tm11Laws :
    Captures.Laws call (fun b => b.idOf .ram)
      (fun b => (b.slots .tm11).map Part.ram) Sound BusCall.replacesRam
      BusCall.addsTm11 :=
  captureLaws BusCall.replacesRam_iff BusCall.addsTm11_iff (fun _ => rfl)
    (fun p r h => by simp [Part.references, h]) (by decide) (by decide)
    (by decide) (by decide)

variable {b}

/-- Parts that use each other use nothing deleted. -/
theorem Sound.wired
    (h : b.Sound) (hbegun : b.Begun)
    (hcpu : ∀ p ∈ b.slots .cpu, p.mmu = b.idOf .mmu)
    (htm11 : ∀ p ∈ b.slots .tm11, p.ram = b.idOf .ram) :
    Wired b where
  mmu := hbegun
  cpu := hcpu
  tm11 := htm11
  alive slot p hp r hr := by
    obtain ⟨hnoCpu, hnoMmu, hnoRam⟩ := h.none slot p hp
    simp only [Part.references, List.mem_append, Option.mem_toList] at hr
    rcases hr with (hram | hpcpu) | hmmu
    · by_cases hslot : slot = .mmu
      · subst hslot
        rw [(hbegun p hp).1] at hram
        exact (h.idOf_lt hram).2
      · by_cases htape : slot = .tm11
        · subst htape
          rw [htm11 p hp] at hram
          exact (h.idOf_lt hram).2
        · rw [hnoRam hslot htape] at hram
          cases hram
    · by_cases hslot : slot = .mmu
      · subst hslot
        rw [(hbegun p hp).2] at hpcpu
        exact (h.idOf_lt hpcpu).2
      · rw [hnoCpu hslot] at hpcpu
        cases hpcpu
    · by_cases hslot : slot = .cpu
      · subst hslot
        rw [hcpu p hp] at hmmu
        exact (h.idOf_lt hmmu).2
      · rw [hnoMmu hslot] at hmmu
        cases hmmu

end Wiring

/-- After any configuration calls the parts are wired together if and only if
every new MMU with a CPU before it has a new CPU behind it, and every new RAM
with a TM-11 before it a new TM-11. -/
theorem wired_iff
    (calls : List BusCall) :
    Wired (run calls) ↔
      Captures.UpToDate BusCall.replacesMmu BusCall.addsCpu calls ∧
        Captures.UpToDate BusCall.replacesRam BusCall.addsTm11 calls := by
  obtain ⟨hsound, hbegun⟩ := run_sound_begun calls
  have hcpu := cpuLaws.upToDate_iff constructed_sound rfl calls
  have htm11 := tm11Laws.upToDate_iff constructed_sound rfl calls
  rw [← hcpu, ← htm11]
  constructor
  · intro h
    constructor
    · rintro _ hheld
      obtain ⟨p, hp, rfl⟩ := Option.map_eq_some_iff.mp hheld
      exact h.cpu p hp
    · rintro _ hheld
      obtain ⟨p, hp, rfl⟩ := Option.map_eq_some_iff.mp hheld
      exact h.tm11 p hp
  · rintro ⟨hcpu, htm11⟩
    refine hsound.wired hbegun (fun p hp => ?_) fun p hp => ?_
    · exact hcpu p.mmu (Option.mem_map_of_mem _ hp)
    · exact htm11 p.ram (Option.mem_map_of_mem _ hp)

/-- The order of the snapshot loader, and a new memory size behind a TM-11. -/
theorem not_wired :
    ¬ Wired (run [.add .ram, .add .cpu, .add .mmu]) ∧
    ¬ Wired (run [.add .ram, .add .cpu, .add .tm11, .setMemorySize]) := by
  constructor
  · intro h
    exact absurd (h.cpu _ rfl) (by decide)
  · intro h
    exact absurd (h.tm11 _ rfl) (by decide)

end PartsBus

end KekPdp11
