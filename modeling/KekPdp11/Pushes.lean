import KekPdp11.Serving
import KekPdp11.InterruptQueues

/-!
# KEK PDP-11: pushes

A push in kernel mode compares the stack pointer with the stack limit.  From the
limit upwards, and in the other modes, the word is stored.  In the 32 bytes
below the limit it is stored as well, and a trap is left for the next step.
Below these, in the red zone, cpu::trap is called at once.

**Notes.**  A write that returns has not trapped: what the processor notes about
traps is as before.
-/

namespace KekPdp11

open StateExcept

variable {δ : Type}

section Notes

/-- What the processor notes about traps. -/
structure TrapNotes where
  entered : Nat
  lastVector : Word
  delayed : Option Word
  depth : Nat
  event : StopEvent

def Cpu.trapNotes (c : Cpu) : TrapNotes where
  entered := c.trapCounter
  lastVector := c.lastTrapVector
  delayed := c.delayedTrap
  depth := c.processingTrapDepth
  event := c.event

/-- When the program returns, the notes are as before. -/
abbrev ReturnsNoting (notes : TrapNotes) {α : Type} (m : Exec δ α) : Prop :=
  Triple (fun s => s.cpu.trapNotes = notes) m
    (fun _ s => s.cpu.trapNotes = notes) (fun _ _ => True)

variable {notes : TrapNotes}

theorem noting_update
    {f : Machine δ → Machine δ}
    (hf : ∀ s, (f s).cpu.trapNotes = s.cpu.trapNotes) :
    ReturnsNoting notes (update f) :=
  .update fun s hs => (hf s).trans hs

theorem noting_pure
    {α : Type} (a : α) :
    ReturnsNoting notes (pure a : Exec δ α) :=
  .pure fun _ hs => hs

theorem noting_thenPure
    {α β : Type} {m : Exec δ α} (h : ReturnsNoting notes m) (b : β) :
    ReturnsNoting notes (do let _ ← m; pure b) :=
  h.bind fun _ => noting_pure b

theorem Cpu.trapNotes_setRegister
    (c : Cpu) (nr : RegNr) (value : Word) :
    (c.setRegister nr value).trapNotes = c.trapNotes := by
  obtain ⟨regs05, sp, pc, h⟩ := c.setRegister_eq nr value
  rw [h]
  rfl

theorem Cpu.trapNotes_setPSW
    (c : Cpu) (v : Word) (limited : Bool) :
    (c.setPSW v limited).trapNotes = c.trapNotes := by
  rw [Cpu.setPSW_eq]
  rfl

theorem noting_writeByteRegister
    {a value : Word} {write : Exec δ Bool}
    (h : writeByteRegister a value = some write) :
    ReturnsNoting notes write := by
  unfold writeByteRegister at h
  split_ifs at h <;> cases h
  all_goals refine noting_thenPure (noting_update fun s => ?_) _
  · exact s.cpu.trapNotes_setPSW _ _
  · rfl
  · rfl
  · rfl

theorem noting_writeWordRegister
    {a value : Word} {write : Exec δ Bool}
    (h : writeWordRegister a value = some write) :
    ReturnsNoting notes write := by
  rcases writeWordRegister_cases h with ⟨-, rfl⟩ | ⟨m, rfl, hm⟩
  · exact noting_thenPure (noting_update fun s => s.cpu.trapNotes_setPSW _ _) _
  refine noting_thenPure ?_ _
  rcases hm with rfl | ⟨nr, rfl⟩ | ⟨runMode, rfl⟩ | rfl | rfl
  · exact noting_update fun _ => rfl
  · exact noting_update fun s => s.cpu.trapNotes_setRegister nr value
  · exact noting_update fun _ => rfl
  · exact noting_update fun _ => rfl
  · exact noting_update fun _ => rfl

theorem noting_writeCommonRegister
    {a value : Word} {write : Exec δ Unit}
    (h : writeCommonRegister a value = some write) :
    ReturnsNoting notes write := by
  unfold writeCommonRegister at h
  split_ifs at h <;> cases h <;> exact noting_update fun _ => rfl

theorem noting_writeTail
    {a value : Word} {wordMode : WordMode} {write : Exec δ Unit}
    (h : writeTail a value wordMode = some write) :
    ReturnsNoting notes write := by
  rcases writeTail_cases h with rfl | ⟨f, rfl, -⟩ | rfl
  · exact noting_pure ()
  · exact noting_update fun _ => rfl
  · exact noting_update fun _ => rfl

variable [UnibusDevices δ]

theorem noting_deviceWrite
    (slot : Slot) (a : Word) (wordMode : WordMode) (value : Word) :
    ReturnsNoting notes (deviceWrite slot a wordMode value : Exec δ Unit) := by
  have heffect : ∀ e : DeviceEffect δ, ReturnsNoting notes (takeEffect e) := by
    refine fun e => noting_update fun s => ?_
    obtain ⟨queued, any, h⟩ := s.cpu.applyRequests_eq e.requests
    change (s.cpu.applyRequests e.requests).trapNotes = _
    rw [h]
    rfl
  cases wordMode with
  | wmByte =>
      exact .view_bind_any fun e => heffect e
  | wmWord =>
      exact .view_bind_any fun e => heffect e

theorem noting_writeIo
    (a : Word) (wordMode : WordMode) (page : BitVec 3) (value : Word) :
    ReturnsNoting notes
      (writeIoVia trap a wordMode page value : Exec δ Bool) := by
  unfold writeIoVia
  refine Triple.bind (noting_update fun _ => rfl) fun _ => ?_
  dsimp only
  split
  · next write hfirst =>
      cases wordMode with
      | wmByte =>
          exact noting_writeByteRegister hfirst
      | wmWord =>
          exact noting_writeWordRegister hfirst
  · split
    · next write hcommon =>
        exact noting_thenPure (noting_writeCommonRegister hcommon) _
    · split
      · refine Triple.bind (noting_deviceWrite .kw11l a .wmWord value) fun _ => ?_
        exact noting_pure _
      · refine .view_bind_any fun slot => ?_
        split
        · exact Triple.bind (noting_deviceWrite _ _ _ _) fun _ => noting_pure _
        · split
          · next write htail =>
              exact noting_thenPure (noting_writeTail htail) _
          · split
            · exact .of_throws fun s => ⟨_, _, oddAbort_apply page 8 s⟩
            · -- the trap is followed by a throw
              exact (Triple.any _).bind fun _ => .of_throws fun s => ⟨_, _, rfl⟩

theorem noting_serveWrite
    (target : Target) (wordMode : WordMode) (apf : BitVec 3) (value : Word) :
    ReturnsNoting notes
      (serveWrite target wordMode apf value : Exec δ Bool) := by
  cases target with
  | accessFault page =>
      exact .of_throws fun s => ⟨_, abortAccess_throws page s⟩
  | lengthFault page =>
      exact .of_throws fun s => ⟨_, abortLength_throws page s⟩
  | boundsFault page =>
      exact .of_throws fun s => ⟨_, abortBounds_throws page s⟩
  | io a =>
      exact noting_writeIo a wordMode apf value
  | ram p page =>
      refine Triple.bind (noting_update fun _ => rfl) fun _ => ?_
      cases wordMode with
      | wmByte =>
          exact noting_thenPure (noting_update fun _ => rfl) false
      | wmWord =>
          change ReturnsNoting _ (if p &&& 1 ≠ 0 then oddAbort apf 10 else _)
          split
          · exact .of_throws fun s => ⟨_, _, oddAbort_apply apf 10 s⟩
          · exact noting_thenPure (noting_update fun _ => rfl) false

/-- A write that returns has not trapped. -/
theorem Bus.write_notes
    {a value : Word} {wordMode : WordMode} {runMode : RunMode} {space : Space}
    {b : Bool} {s t : Machine δ}
    (h : Bus.write a wordMode value runMode space s = .ok b t) :
    t.cpu.trapNotes = s.cpu.trapNotes := by
  rw [Bus.write_eq] at h
  cases hserve : (serveWrite (s.target runMode a space) wordMode
      (activePageField a) value : Exec δ Bool) s with
  | ok b' u =>
      rw [noteAbort_of_ok hserve] at h
      cases h
      exact (noting_serveWrite _ _ _ _).ok rfl hserve
  | error e u =>
      rw [noteAbort_of_error hserve] at h
      cases h

end Notes

section Zones

/-- push_stack traps at once. -/
def InRedZone (limit : Word) (runMode : RunMode) (a : Word) : Prop :=
  runMode = 0 ∧ a < limit ∧ ¬ (a.toNat : Int) ≥ (limit.toNat : Int) - 32

/-- A push from here traps at once. -/
def Machine.BelowYellowZone (s : Machine δ) : Prop :=
  InRedZone (useLimit s.cpu.stackLimitRegister) s.cpu.getPSWRunmode
    s.stackPointer

/-- A push from here is one in kernel mode, at most 32 bytes below the limit. -/
def InYellowZone (s : Machine δ) : Prop :=
  s.cpu.getPSWRunmode = 0 ∧
    s.stackPointer < useLimit s.cpu.stackLimitRegister ∧
    ((useLimit s.cpu.stackLimitRegister).toNat : Int) - 32 ≤
      s.stackPointer.toNat

/-- What a push in the yellow zone leaves besides its word. -/
def Machine.leavingTrap (t : Machine δ) : Machine δ :=
  { t with cpu := t.cpu.delayTrap, mmu := t.mmu.setCPUERRBit 14 }

end Zones

section Pushes

variable [UnibusDevices δ] {s t : Machine δ} {v : Word}

/-- The store of a push, below the stack pointer. -/
def storeBelow (v : Word) (s : Machine δ) :
    EStateM.Result Stop (Machine δ) Unit :=
  (do
    let _ ← Bus.write (s.stackPointer - 2) .wmWord v s.cpu.getPSWRunmode .dSpace
    pure () : Exec δ Unit)
    (s.withStackPointer (s.stackPointer - 2))

theorem storeOnStack_eq
    (v : Word) (s : Machine δ) :
    storeOnStackVia trap v s = storeBelow v s := by
  have hmoved : s.stackPointer + -2 = s.stackPointer - 2 := by
    rw [BitVec.sub_eq_add_neg]
  have hsp : (s.withStackPointer (s.stackPointer - 2)).stackPointer =
      s.stackPointer - 2 :=
    Function.update_self _ _ _
  change Bus.writeWordVia trap
    (s.withStackPointer (s.stackPointer + -2)).stackPointer v .dSpace
    (s.withStackPointer (s.stackPointer + -2)) = _
  rw [hmoved, hsp]
  rfl

theorem storeBelow_notes
    (h : storeBelow v s = .ok () t) :
    t.cpu.trapNotes = s.cpu.trapNotes := by
  unfold storeBelow at h
  obtain ⟨b, u, hwrite, hend⟩ := bind_eq_ok h
  cases hend
  exact (Bus.write_notes hwrite).trans rfl

theorem pushStack_of_yellow
    (v : Word) (h : InYellowZone s) :
    pushStack v s =
      (do
        storeOnStackVia trap v
        modifyCpu Cpu.delayTrap
        modifyMmu fun m => m.setCPUERRBit 14 : Exec δ Unit) s := by
  change (if s.cpu.getPSWRunmode = 0 ∧
    s.stackPointer < useLimit s.cpu.stackLimitRegister then
      (if (s.stackPointer.toNat : Int) ≥
          ((useLimit s.cpu.stackLimitRegister).toNat : Int) - 32 then _
      else _) else _ : Exec δ Unit) s = _
  rw [if_pos ⟨h.1, h.2.1⟩, if_pos h.2.2]
  rfl

omit [UnibusDevices δ] in
/-- The zones are all that push_stack tells apart. -/
theorem zone_cases
    (s : Machine δ) :
    s.AboveLimit ∨ InYellowZone s ∨ s.BelowYellowZone := by
  by_cases habove : s.AboveLimit
  · exact .inl habove
  · obtain ⟨hkernel, hlow⟩ := Classical.not_imp.mp habove
    have hbelow := not_not.mp hlow
    by_cases hyellow : (s.stackPointer.toNat : Int) ≥
        ((useLimit s.cpu.stackLimitRegister).toNat : Int) - 32
    · exact .inr (.inl ⟨hkernel, hbelow, hyellow⟩)
    · exact .inr (.inr ⟨hkernel, hbelow, hyellow⟩)

theorem pushStack_stored
    (h : InYellowZone s) (hstore : storeBelow v s = .ok () t) :
    pushStack v s = .ok () t.leavingTrap := by
  rw [pushStack_of_yellow v h]
  exact bind_of_ok ((storeOnStack_eq v s).trans hstore)

theorem pushStack_aborted
    {e : Stop} (h : InYellowZone s) (hstore : storeBelow v s = .error e t) :
    pushStack v s = .error e t := by
  rw [pushStack_of_yellow v h]
  exact bind_of_error ((storeOnStack_eq v s).trans hstore)

/-- A word is pushed from outside the red zone. -/
def Machine.Stores (s : Machine δ) (v : Word) (t : Machine δ) : Prop :=
  ∃ u, storeBelow v s = .ok () u ∧
    (s.AboveLimit ∧ t = u ∨ InYellowZone s ∧ t = u.leavingTrap)

theorem Machine.Stores.pushed
    (h : s.Stores v t) :
    pushStack v s = .ok () t := by
  obtain ⟨u, hstore, ⟨habove, rfl⟩ | ⟨hyellow, rfl⟩⟩ := h
  · exact (pushStack_eq v habove).trans hstore
  · exact pushStack_stored hyellow hstore

theorem pushStack_throws
    {e : Stop} (hzone : ¬ s.BelowYellowZone)
    (hstore : storeBelow v s = .error e t) :
    pushStack v s = .error e t := by
  rcases (or_assoc.mpr (zone_cases s)).resolve_right hzone with habove | hyellow
  · exact (pushStack_eq v habove).trans hstore
  · exact pushStack_aborted hyellow hstore

/-- Outside the red zone a push comes to its store. -/
theorem pushStack_cases
    (v : Word) (hzone : ¬ s.BelowYellowZone) :
    (∃ t, s.Stores v t) ∨ ∃ e t, storeBelow v s = .error e t := by
  cases hstore : storeBelow v s with
  | ok a t =>
      rcases (or_assoc.mpr (zone_cases s)).resolve_right hzone with
        habove | hyellow
      · exact .inl ⟨t, t, hstore, .inl ⟨habove, rfl⟩⟩
      · exact .inl ⟨_, t, hstore, .inr ⟨hyellow, rfl⟩⟩
  | error e t =>
      exact .inr ⟨e, t, rfl⟩

/-- A push has not trapped. -/
theorem Machine.Stores.counts
    (h : s.Stores v t) :
    t.cpu.trapCounter = s.cpu.trapCounter ∧
      t.cpu.lastTrapVector = s.cpu.lastTrapVector ∧
      t.cpu.processingTrapDepth = s.cpu.processingTrapDepth ∧
      t.cpu.event = s.cpu.event := by
  obtain ⟨u, hstore, hend⟩ := h
  have hnotes := storeBelow_notes hstore
  have hcounts : u.cpu.trapCounter = s.cpu.trapCounter ∧
      u.cpu.lastTrapVector = s.cpu.lastTrapVector ∧
      u.cpu.processingTrapDepth = s.cpu.processingTrapDepth ∧
      u.cpu.event = s.cpu.event :=
    ⟨congrArg TrapNotes.entered hnotes, congrArg TrapNotes.lastVector hnotes,
      congrArg TrapNotes.depth hnotes, congrArg TrapNotes.event hnotes⟩
  rcases hend with ⟨-, rfl⟩ | ⟨-, rfl⟩
  · exact hcounts
  · exact hcounts

/-- A push outside the red zone that returns has not trapped. -/
theorem pushStack_counts
    (hzone : ¬ s.BelowYellowZone) (h : pushStack v s = .ok () t) :
    t.cpu.trapCounter = s.cpu.trapCounter ∧
      t.cpu.lastTrapVector = s.cpu.lastTrapVector := by
  rcases pushStack_cases v hzone with ⟨u, hu⟩ | ⟨e, u, hu⟩
  · cases hu.pushed.symm.trans h
    exact ⟨hu.counts.1, hu.counts.2.1⟩
  · cases (pushStack_throws hzone hu).symm.trans h

end Pushes

end KekPdp11
