import KekPdp11.TrapEntry

/-!
# KEK PDP-11: the recursion between traps and references

cpu::trap reads its vector and pushes its frame over the bus, and the bus
calls cpu::trap for a reference it refuses.

**Why it stops.**  processing_trap_depth counts the levels.  A nested call is
made with at least one more level in progress, and the third level stops the
machine at once.  Two calls of cpu::trap that behave alike from `d + 1` levels
on are therefore made into two that behave alike from `d` levels on.  Where
one of the two runs out of fuel the other one has gone down to the third level;
a property `H` that lasts from there on is carried along.

**Result.**  `trap` satisfies the recursive equation of the source, and it
returns from every state.
-/

namespace KekPdp11

open StateExcept

variable {δ : Type}

/-- At least `d` levels of trap entry are in progress. -/
def Nested (d : Nat) (s : Machine δ) : Prop :=
  d ≤ s.cpu.processingTrapDepth

/-- The program ended with a C++ exception. -/
def Throws (e : Stop) (_ : Machine δ) : Prop :=
  ∃ number, e = .exception number

/-- What only depends on the stop event, EVENT_HALT. -/
class Lasting (H : Machine δ → Prop) : Prop where
  frame : ∀ s s', s'.cpu.event = s.cpu.event → H s → H s'

/-- From `d` levels on the two calls behave alike and return, unless the first
runs out of fuel. -/
def TrapsAlike (H : Machine δ → Prop) (d : Nat) (t t' : TrapCall δ) : Prop :=
  ∀ vector newIpl,
    AgreesUntil .outOfFuel H (Nested d) (fun _ => True) (fun _ _ => False)
      (t vector newIpl) (t' vector newIpl)

/-- From `d` levels on the two programs behave alike, unless the first runs
out of fuel; they stay there until they throw. -/
abbrev Alike {α : Type} (H : Machine δ → Prop) (d : Nat) (m m' : Exec δ α) :
    Prop :=
  AgreesUntil .outOfFuel H (Nested d) (Nested d) Throws m m'

section Atoms

variable {H : Machine δ → Prop} {d : Nat} {α : Type}

theorem view_alike
    (f : Machine δ → α) :
    Alike H d (view f) (view f) :=
  .of_triple (keeps_view f) (Triple.view fun _ hs => hs)

theorem pure_alike
    (a : α) :
    Alike H d (pure a : Exec δ α) (pure a) :=
  .of_triple (keeps_pure a) (Triple.pure fun _ hs => hs)

variable [Lasting H]

theorem update_alike
    {f : Machine δ → Machine δ}
    (hf : ∀ s, (f s).cpu.processingTrapDepth = s.cpu.processingTrapDepth ∧
      (f s).cpu.event = s.cpu.event) :
    Alike H d (update f) (update f) := by
  refine .of_triple (.update fun s => Lasting.frame s _ (hf s).2)
    (.update fun s hs => ?_)
  unfold Nested at hs ⊢
  rw [(hf s).1]
  exact hs

theorem logEvent_alike
    (e : Event) :
    Alike H d (logEvent e : Exec δ Unit) (logEvent e) :=
  update_alike fun _ => ⟨rfl, rfl⟩

theorem modifyMmu_alike
    (f : Mmu → Mmu) :
    Alike H d (modifyMmu f : Exec δ Unit) (modifyMmu f) :=
  update_alike fun _ => ⟨rfl, rfl⟩

theorem modifyCpu_alike
    (f : Cpu → Cpu)
    (hf : ∀ c, (f c).processingTrapDepth = c.processingTrapDepth ∧
      (f c).event = c.event) :
    Alike H d (modifyCpu f : Exec δ Unit) (modifyCpu f) :=
  update_alike fun s => hf s.cpu

/-- The depth that the red zone puts in place. -/
theorem modifyCpu_deep
    {I : Machine δ → Prop} {f : Cpu → Cpu}
    (hf : ∀ c, d ≤ (f c).processingTrapDepth ∧ (f c).event = c.event) :
    AgreesUntil .outOfFuel H I (Nested d) Throws
      (modifyCpu f : Exec δ Unit) (modifyCpu f) :=
  .of_triple (.update fun s => Lasting.frame s _ (hf s.cpu).2)
    (.update fun s _ => (hf s.cpu).1)

theorem modifyMmu_any
    {E : Stop → Machine δ → Prop} (f : Mmu → Mmu) :
    AgreesUntil .outOfFuel H (fun _ => True) (fun _ => True) E
      (modifyMmu f : Exec δ Unit) (modifyMmu f) :=
  .of_triple (.update fun s => Lasting.frame s _ rfl)
    (.update fun _ _ => trivial)

omit [Lasting H] in
theorem onlyIf_alike
    (c : Bool) {m : Exec δ Unit} (h : Alike H d m m) :
    Alike H d (onlyIf c m) (onlyIf c m) :=
  .ite h (pure_alike ())

omit [Lasting H] in
/-- A throw asks nothing of the state and promises everything. -/
theorem throwInt_alike
    {I J : Machine δ → Prop} (number : Nat) :
    AgreesUntil .outOfFuel H I J Throws (throwInt number : Exec δ α)
      (throwInt number) :=
  .of_triple (keeps_raise _) (.raise fun _ _ => ⟨number, rfl⟩)

theorem oddAbort_alike
    (apf : BitVec 3) (number : Nat) :
    Alike H d (oddAbort apf number : Exec δ α) (oddAbort apf number) := by
  unfold oddAbort
  refine (logEvent_alike _).bind fun _ => ?_
  exact (modifyMmu_alike _).bind fun _ => throwInt_alike number

theorem setPSW_alike
    (f : Cpu → Word) (limited : Bool) :
    Alike H d (modifyCpu fun c => c.setPSW (f c) limited : Exec δ Unit)
      (modifyCpu fun c => c.setPSW (f c) limited) :=
  modifyCpu_alike _ fun c => by rw [c.setPSW_eq]; exact ⟨rfl, rfl⟩

theorem setRegister_alike
    (nr : RegNr) (value : Word) :
    Alike H d (setRegister nr value : Exec δ Unit) (setRegister nr value) :=
  modifyCpu_alike _ fun c =>
    ⟨c.setRegister_processingTrapDepth nr value, c.setRegister_event nr value⟩

theorem addRegister_alike
    (nr : RegNr) (value : Word) :
    Alike H d (addRegister nr value : Exec δ Word) (addRegister nr value) :=
  (modifyCpu_alike _ fun c =>
    ⟨c.setRegister_processingTrapDepth nr _, c.setRegister_event nr _⟩).bind
    fun _ => view_alike _

omit [Lasting H] in
/-- A register write of the I/O page that ends with a fixed answer. -/
theorem thenPure_alike
    {β : Type} {m : Exec δ Unit} (h : Alike H d m m) (b : β) :
    Alike H d (do m; pure b) (do m; pure b) :=
  h.bind fun _ => pure_alike b

theorem writeByteRegister_alike
    (a value : Word) {write : Exec δ Bool}
    (h : writeByteRegister a value = some write) :
    Alike H d write write := by
  unfold writeByteRegister at h
  split_ifs at h <;> cases h <;> refine thenPure_alike ?_ _
  · exact setPSW_alike _ _
  · exact modifyCpu_alike _ fun _ => ⟨rfl, rfl⟩
  · exact update_alike fun _ => ⟨rfl, rfl⟩
  · exact modifyMmu_alike _

theorem writeWordRegister_alike
    (a value : Word) {write : Exec δ Bool}
    (h : writeWordRegister a value = some write) :
    Alike H d write write := by
  rcases writeWordRegister_cases h with ⟨-, rfl⟩ | ⟨m, rfl, hm⟩
  · exact thenPure_alike (setPSW_alike _ _) true
  refine thenPure_alike ?_ false
  rcases hm with rfl | ⟨nr, rfl⟩ | ⟨runMode, rfl⟩ | rfl | rfl
  · exact modifyCpu_alike _ fun _ => ⟨rfl, rfl⟩
  · exact setRegister_alike nr value
  · exact modifyCpu_alike _ fun _ => ⟨rfl, rfl⟩
  · exact modifyCpu_alike _ fun _ => ⟨rfl, rfl⟩
  · exact update_alike fun _ => ⟨rfl, rfl⟩

theorem writeCommonRegister_alike
    (a value : Word) {write : Exec δ Unit}
    (h : writeCommonRegister a value = some write) :
    Alike H d write write := by
  unfold writeCommonRegister at h
  split_ifs at h <;> cases h <;> exact modifyMmu_alike _

theorem writeTail_alike
    (a value : Word) (wordMode : WordMode) {write : Exec δ Unit}
    (h : writeTail a value wordMode = some write) :
    Alike H d write write := by
  rcases writeTail_cases h with rfl | ⟨f, rfl, -⟩ | rfl
  · exact pure_alike ()
  · exact modifyMmu_alike f
  · exact update_alike fun _ => ⟨rfl, rfl⟩

end Atoms

section Faults

variable {H : Machine δ → Prop} [Lasting H] {d : Nat} {t t' : TrapCall δ}

omit [Lasting H] in
theorem TrapsAlike.call
    {E : Stop → Machine δ → Prop}
    (h : TrapsAlike H d t t') (vector : Word) (newIpl : Option Level) :
    AgreesUntil .outOfFuel H (Nested d) (fun _ => True) E (t vector newIpl)
      (t' vector newIpl) :=
  (h vector newIpl).weaken (fun _ hs => hs) fun _ _ he => he.elim

theorem TrapsAlike.mmuTrap
    (h : TrapsAlike H d t t') :
    AgreesUntil .outOfFuel H (Nested d) (fun _ => True) Throws (mmuTrapVia t)
      (mmuTrapVia t') := by
  refine .view_bind fun _ => .view_bind fun _ => ?_
  exact (logEvent_alike _).bind fun _ => h.call _ _

theorem TrapsAlike.verifyPageAccess
    (h : TrapsAlike H d t t') (page : PageIndex) (isWrite : Bool) :
    Alike H d (verifyPageAccessVia t page isWrite)
      (verifyPageAccessVia t' page isWrite) := by
  refine .view_bind fun action => .ite (pure_alike ()) ?_
  refine (modifyMmu_alike _).bind fun _ => h.mmuTrap.bind fun _ => ?_
  exact (modifyMmu_any _).bind fun _ => throwInt_alike 5

theorem TrapsAlike.verifyPageLength
    (h : TrapsAlike H d t t') (virtAddr : Word) (page : PageIndex) :
    Alike H d (verifyPageLengthVia t virtAddr page)
      (verifyPageLengthVia t' virtAddr page) := by
  refine .view_bind fun fault => .ite ?_ (pure_alike ())
  refine (modifyMmu_alike _).bind fun _ => h.mmuTrap.bind fun _ => ?_
  exact (modifyMmu_any _).bind fun _ => throwInt_alike 7

theorem TrapsAlike.calculatePhysicalAddress
    (h : TrapsAlike H d t t') (runMode : RunMode) (a : Word) (isWrite : Bool)
    (space : Space) :
    Alike H d (calculatePhysicalAddressVia t runMode a isWrite space)
      (calculatePhysicalAddressVia t' runMode a isWrite space) := by
  refine .view_bind fun relocated => .ite ?_ (pure_alike _)
  refine .view_bind fun mOffset => ?_
  refine (h.verifyPageAccess _ _).bind fun _ => ?_
  exact (h.verifyPageLength _ _).bind fun _ => pure_alike _

theorem TrapsAlike.verifyPointerBounds
    (h : TrapsAlike H d t t') (mOffset : PhysAddr) (page : PageIndex) :
    Alike H d (verifyPointerBoundsVia t mOffset page)
      (verifyPointerBoundsVia t' mOffset page) := by
  refine .view_bind fun size => .ite ?_ (pure_alike ())
  refine (modifyMmu_alike _).bind fun _ => h.mmuTrap.bind fun _ => ?_
  exact throwInt_alike 6

omit [Lasting H] in
/-- The call of cpu::trap for an address nothing answers at, and its throw. -/
theorem TrapsAlike.noDevice
    {α : Type} (h : TrapsAlike H d t t') (number : Nat) :
    AgreesUntil .outOfFuel H (Nested d) (Nested d) Throws
      (t 0o4 none >>= fun _ => (throwInt number : Exec δ α))
      (t' 0o4 none >>= fun _ => throwInt number) :=
  (h.call _ _).bind fun _ => throwInt_alike number

theorem noteAbort_alike
    {α : Type} {m m' : Exec δ α} (h : Alike H d m m') :
    Alike H d (noteAbort m) (noteAbort m') where
  keeps := by
    intro s hs
    have hend := h.keeps s hs
    unfold noteAbort
    cases hm : m' s with
    | ok a u =>
        rw [hm] at hend
        exact hend
    | error e u =>
        rw [hm] at hend
        exact Lasting.frame u _ rfl hend
  alike s hs := by
    rcases h.alike s hs with ⟨heq, hend⟩ | ⟨⟨u, hu⟩, hlast⟩
    · refine .inl ⟨?_, ?_⟩
      · unfold noteAbort
        rw [heq]
      · unfold noteAbort
        cases hm : m s with
        | ok a u =>
            rw [hm] at hend
            exact hend
        | error e u =>
            rw [hm] at hend
            exact hend
    · refine .inr ⟨?_, ?_⟩
      · unfold noteAbort
        rw [hu]
        exact ⟨_, rfl⟩
      · unfold noteAbort
        cases hm : m' s with
        | ok a u =>
            rw [hm] at hlast
            exact hlast
        | error e u =>
            rw [hm] at hlast
            exact Lasting.frame u _ rfl hlast

end Faults

section References

variable [UnibusDevices δ]
variable {H : Machine δ → Prop} [Lasting H] {d : Nat} {t t' : TrapCall δ}

omit [UnibusDevices δ] in
theorem takeReply_alike
    {α : Type} (r : DeviceReply δ α) :
    Alike H d (takeReply r) (takeReply r) :=
  (update_alike fun s =>
    ⟨s.cpu.applyRequests_processingTrapDepth _, s.cpu.applyRequests_event _⟩).bind
    fun _ => pure_alike _

theorem deviceReadWord_alike
    (slot : Slot) (a : Word) :
    Alike H d (deviceReadWord slot a : Exec δ Word) (deviceReadWord slot a) :=
  .view_bind fun r => takeReply_alike r

theorem deviceReadByte_alike
    (slot : Slot) (a : Word) :
    Alike H d (deviceReadByte slot a : Exec δ Byte) (deviceReadByte slot a) :=
  .view_bind fun r => takeReply_alike r

theorem deviceRead_alike
    (slot : Slot) (a : Word) (wordMode : WordMode) :
    Alike H d (deviceRead slot a wordMode : Exec δ Word)
      (deviceRead slot a wordMode) := by
  cases wordMode with
  | wmByte =>
      exact (deviceReadByte_alike slot a).bind fun _ => pure_alike _
  | wmWord =>
      exact deviceReadWord_alike slot a

theorem TrapsAlike.readDeviceIo
    (h : TrapsAlike H d t t') (a : Word) (wordMode : WordMode) :
    Alike H d (readDeviceIoVia t a wordMode) (readDeviceIoVia t' a wordMode) := by
  refine .view_bind fun slot => ?_
  cases slot with
  | some slot =>
      exact deviceRead_alike slot a wordMode
  | none =>
      refine .view_bind fun size => .ite (pure_alike _) ?_
      exact .ite (pure_alike _) (h.noDevice 1)

theorem TrapsAlike.readIo
    (h : TrapsAlike H d t t') (a : Word) (wordMode : WordMode)
    (apf : BitVec 3) :
    Alike H d (readIoVia t a wordMode apf) (readIoVia t' a wordMode apf) := by
  refine (logEvent_alike _).bind fun _ => .view_bind fun register => ?_
  cases register with
  | some v =>
      exact pure_alike _
  | none =>
      refine .ite (oddAbort_alike _ _) <| .ite (view_alike _) <|
        .ite (pure_alike _) <| .ite (view_alike _) <| .ite (view_alike _) <|
        .ite (pure_alike _) <| .ite (deviceReadWord_alike _ _) <|
        .ite (pure_alike _) <| .ite (view_alike _) <| .ite (pure_alike _) <|
        .ite (pure_alike _) <| .ite (pure_alike _) ?_
      refine .view_bind fun plain => ?_
      cases plain with
      | some v =>
          exact pure_alike v
      | none =>
          exact h.readDeviceIo a wordMode

theorem deviceWriteByte_alike
    (slot : Slot) (a : Word) (v : Byte) :
    Alike H d (deviceWriteByte slot a v : Exec δ Unit)
      (deviceWriteByte slot a v) := by
  refine .view_bind fun e => ?_
  exact update_alike fun s =>
    ⟨s.cpu.applyRequests_processingTrapDepth _, s.cpu.applyRequests_event _⟩

theorem deviceWriteWord_alike
    (slot : Slot) (a v : Word) :
    Alike H d (deviceWriteWord slot a v : Exec δ Unit)
      (deviceWriteWord slot a v) := by
  refine .view_bind fun e => ?_
  exact update_alike fun s =>
    ⟨s.cpu.applyRequests_processingTrapDepth _, s.cpu.applyRequests_event _⟩

theorem deviceWrite_alike
    (slot : Slot) (a : Word) (wordMode : WordMode) (value : Word) :
    Alike H d (deviceWrite slot a wordMode value : Exec δ Unit)
      (deviceWrite slot a wordMode value) := by
  cases wordMode with
  | wmByte =>
      exact deviceWriteByte_alike slot a _
  | wmWord =>
      exact deviceWriteWord_alike slot a value

theorem TrapsAlike.writeIo
    (h : TrapsAlike H d t t') (a : Word) (wordMode : WordMode)
    (page : BitVec 3) (value : Word) :
    Alike H d (writeIoVia t a wordMode page value)
      (writeIoVia t' a wordMode page value) := by
  refine (logEvent_alike _).bind fun _ => ?_
  dsimp only
  split
  · next write hfirst =>
      cases wordMode with
      | wmByte =>
          exact writeByteRegister_alike a value hfirst
      | wmWord =>
          exact writeWordRegister_alike a value hfirst
  · split
    · next write hcommon =>
        exact thenPure_alike (writeCommonRegister_alike a value hcommon) _
    · refine .ite (thenPure_alike (deviceWriteWord_alike _ _ _) _) ?_
      refine .view_bind fun slot => ?_
      cases slot with
      | some slot =>
          exact thenPure_alike (deviceWrite_alike _ _ _ _) _
      | none =>
          dsimp only
          split
          · next write htail =>
              exact thenPure_alike (writeTail_alike a value wordMode htail) _
          · exact .ite (oddAbort_alike _ _) (h.noDevice 9)

theorem TrapsAlike.readAt
    (h : TrapsAlike H d t t') (addrIn : Word) (wordMode : WordMode)
    (mOffset : PhysAddr) (page : PageIndex) :
    Alike H d (Bus.readAtVia t addrIn wordMode mOffset page)
      (Bus.readAtVia t' addrIn wordMode mOffset page) := by
  refine .view_bind fun ioBase => .ite (h.readIo _ _ _) ?_
  refine (h.verifyPointerBounds _ _).bind fun _ => ?_
  refine (modifyMmu_alike _).bind fun _ => ?_
  cases wordMode with
  | wmByte =>
      exact view_alike _
  | wmWord =>
      exact .ite (oddAbort_alike _ _) (view_alike _)

theorem TrapsAlike.read
    (h : TrapsAlike H d t t') (addrIn : Word) (wordMode : WordMode)
    (runMode : RunMode) (spaceIn : Space) :
    Alike H d (Bus.readVia t addrIn wordMode runMode spaceIn)
      (Bus.readVia t' addrIn wordMode runMode spaceIn) := by
  refine noteAbort_alike (.view_bind fun space => ?_)
  refine (h.calculatePhysicalAddress _ _ _ _).bind fun target => ?_
  exact h.readAt _ _ _ _

theorem TrapsAlike.writeAt
    (h : TrapsAlike H d t t') (addrIn : Word) (wordMode : WordMode)
    (value : Word) (mOffset : PhysAddr) (page : PageIndex) :
    Alike H d (Bus.writeAtVia t addrIn wordMode value mOffset page)
      (Bus.writeAtVia t' addrIn wordMode value mOffset page) := by
  refine .view_bind fun ioBase => .ite (h.writeIo _ _ _ _) ?_
  refine (h.verifyPointerBounds _ _).bind fun _ => ?_
  refine (modifyMmu_alike _).bind fun _ => ?_
  cases wordMode with
  | wmByte =>
      exact thenPure_alike (update_alike fun _ => ⟨by rfl, by rfl⟩) _
  | wmWord =>
      refine .ite (oddAbort_alike _ _) (thenPure_alike ?_ _)
      exact update_alike fun _ => ⟨rfl, rfl⟩

theorem TrapsAlike.write
    (h : TrapsAlike H d t t') (addrIn : Word) (wordMode : WordMode)
    (value : Word) (runMode : RunMode) (spaceIn : Space) :
    Alike H d (Bus.writeVia t addrIn wordMode value runMode spaceIn)
      (Bus.writeVia t' addrIn wordMode value runMode spaceIn) := by
  refine noteAbort_alike (.view_bind fun space => ?_)
  refine (h.calculatePhysicalAddress _ _ _ _).bind fun target => ?_
  exact h.writeAt _ _ _ _ _

theorem TrapsAlike.readWord
    (h : TrapsAlike H d t t') (a : Word) (s : Space) :
    Alike H d (Bus.readWordVia t a s) (Bus.readWordVia t' a s) :=
  .view_bind fun _ => h.read _ _ _ _

theorem TrapsAlike.storeOnStack
    (h : TrapsAlike H d t t') (v : Word) :
    Alike H d (storeOnStackVia t v) (storeOnStackVia t' v) := by
  refine (addRegister_alike _ _).bind fun a => .view_bind fun _ => ?_
  exact (h.write _ _ _ _ _).bind fun _ => pure_alike ()

theorem TrapsAlike.pushStack
    (h : TrapsAlike H d t t') (hd : d ≤ 127) (v : Word) :
    Alike H d (pushStackVia t v) (pushStackVia t' v) := by
  refine .view_bind fun _ => .view_bind fun _ => .view_bind fun _ => ?_
  refine .ite (.ite ?_ ?_) (h.storeOnStack v)
  · refine (h.storeOnStack v).bind fun _ => ?_
    refine (modifyCpu_alike _ fun _ => ⟨by rfl, by rfl⟩).bind fun _ => ?_
    exact modifyMmu_alike _
  · -- the red zone puts the depth at 127, whatever the nested trap left
    refine (setRegister_alike _ _).bind fun _ => (h.call _ _).bind fun _ => ?_
    refine (modifyCpu_deep fun _ => ⟨by exact hd, by rfl⟩).bind fun _ => ?_
    exact modifyMmu_alike _

end References

section TrapEntry

variable [UnibusDevices δ]
variable {H : Machine δ → Prop} [Lasting H] {d : Nat} {t t' : TrapCall δ}

theorem TrapsAlike.loadVector
    (h : TrapsAlike H d t t') (vector beforePsw : Word)
    (newIpl : Option Level) :
    Alike H d (loadVectorVia t vector beforePsw newIpl)
      (loadVectorVia t' vector beforePsw newIpl) := by
  refine (modifyCpu_alike _ fun _ => ⟨by rfl, by rfl⟩).bind fun _ => ?_
  refine .view_bind fun space => (h.readWord _ _).bind fun newPC => ?_
  refine (modifyCpu_alike _ fun _ => ⟨by rfl, by rfl⟩).bind fun _ => ?_
  exact (h.readWord _ _).bind fun vectorPsw => setPSW_alike _ _

omit [UnibusDevices δ] [Lasting H] in
/-- A handler for all the ways in which a body can throw. -/
theorem catchInt_alike
    {m m' : Exec δ Unit} {handler : Nat → Exec δ Unit}
    {I J : Machine δ → Prop} {E : Stop → Machine δ → Prop}
    (h : AgreesUntil .outOfFuel H I J Throws m m')
    (hkeeps : ∀ number, Keeps H (handler number))
    (hh : ∀ number, Triple (fun _ => True) (handler number) (fun _ => J) E) :
    AgreesUntil .outOfFuel H I J E (catchInt m handler)
      (catchInt m' handler) := by
  refine h.rescue hkeeps rfl ?_ ?_
  · intro e number _
    exact (hh number).strengthen_pre fun _ _ => trivial
  · intro e s he hs
    obtain ⟨number, rfl⟩ := hs
    cases he

theorem TrapsAlike.saveFrame
    (h : TrapsAlike H d t t') (hd : d ≤ 127) (beforePsw beforePC : Word) :
    AgreesUntil .outOfFuel H (Nested d) (fun _ => True) Throws
      (saveFrameVia t beforePsw beforePC)
      (saveFrameVia t' beforePsw beforePC) := by
  refine .view_bind fun prevSp => catchInt_alike ?_ ?_ ?_
  · refine (h.pushStack hd _).bind fun _ => ?_
    exact (h.pushStack hd _).weaken (fun _ _ => trivial) fun _ _ he => he
  · exact fun _ => (setRegister_alike (d := d) 6 prevSp).keeps
  · exact fun _ => Triple.update fun _ _ => trivial

theorem TrapsAlike.enterTrap
    (h : TrapsAlike H d t t') (hd : d ≤ 127) (vector : Word)
    (newIpl : Option Level) (kernelMode : Bool) :
    AgreesUntil .outOfFuel H (Nested d) (fun _ => True) (fun _ _ => False)
      (enterTrapVia t vector newIpl kernelMode)
      (enterTrapVia t' vector newIpl kernelMode) := by
  refine .view_bind fun beforePsw => .view_bind fun beforePC => ?_
  refine catchInt_alike ?_
    (fun _ => (setPSW_alike (d := d) (fun _ => beforePsw) false).keeps)
    fun _ => Triple.update fun _ _ => trivial
  refine (h.loadVector _ _ _).bind fun _ => .view_bind fun depth => ?_
  refine (onlyIf_alike _ (setRegister_alike _ _)).bind fun _ => ?_
  refine (h.saveFrame hd _ _).bind fun _ => ?_
  exact .of_triple (.update fun s => Lasting.frame s _ rfl)
    (.update fun _ _ => trivial)

/-- One level of the recursion. -/
theorem TrapsAlike.trap
    (hkeeps : ∀ vector newIpl, Keeps H (trapVia t' vector newIpl))
    (h : d < 2 → TrapsAlike H (d + 1) t t') :
    TrapsAlike H d (trapVia t) (trapVia t') := by
  refine fun vector newIpl => ⟨hkeeps vector newIpl, fun s hs => ?_⟩
  have hdepth : Nested (d + 1) (atTrapLevel s vector newIpl) :=
    Nat.succ_le_succ hs
  by_cases hdeep : 2 ≤ s.cpu.processingTrapDepth
  · rw [trapVia_of_deep t vector newIpl hdeep,
      trapVia_of_deep t' vector newIpl hdeep]
    exact .inl ⟨rfl, trivial⟩
  · unfold Nested at hs
    have hnext : TrapsAlike H (d + 1) t t' := h (by omega)
    by_cases hfirst : s.cpu.processingTrapDepth = 0
    · rw [trapVia_of_first t vector newIpl hfirst,
        trapVia_of_first t' vector newIpl hfirst]
      exact (hnext.enterTrap (by omega) _ _ _).alike _ hdepth
    · have hone : s.cpu.processingTrapDepth = 1 := by omega
      rw [trapVia_of_nested t vector newIpl hone,
        trapVia_of_nested t' vector newIpl hone]
      have hset : AgreesUntil .outOfFuel H (Nested (d + 1)) (Nested (d + 1))
          (fun _ _ => False) (setRegister 6 4 : Exec δ Unit)
          (setRegister 6 4) :=
        .of_triple (setRegister_alike (d := d) 6 4).keeps
          (.update fun u hu => by simpa [Nested] using hu)
      have hbody := hnext.enterTrap (by omega)
        (if decide (s.cpu.getPSWRunmode = 0) then 4 else vector) newIpl
        (decide (s.cpu.getPSWRunmode = 0))
      exact (hset.bind fun _ => hbody).alike _ hdepth

end TrapEntry

section Closed

variable [UnibusDevices δ]

instance lasting_never : Lasting (fun _ : Machine δ => False) where
  frame _ _ _ h := h

/-- Unrolled often enough for the levels that are left, the recursion no longer
depends on how often it is unrolled, and it returns. -/
theorem trapFuel_alike
    (n n' : Nat) {d : Nat} (hn : 3 ≤ n + d) (hn' : 3 ≤ n' + d) (hd : d ≤ 2) :
    TrapsAlike (fun _ => False) d (trapFuel n : TrapCall δ) (trapFuel n') := by
  induction n generalizing n' d with
  | zero =>
      omega
  | succ n ih =>
      cases n' with
      | zero =>
          omega
      | succ n' =>
          exact TrapsAlike.trap (fun _ _ _ h => h.elim) fun _ =>
            ih n' (by omega) (by omega) (by omega)

omit [UnibusDevices δ] in
/-- Calls that never give up. -/
theorem TrapsAlike.returns
    {d : Nat} {t t' : TrapCall δ} (h : TrapsAlike (fun _ => False) d t t')
    (vector : Word) (newIpl : Option Level) {s : Machine δ} (hs : Nested d s) :
    t vector newIpl s = t' vector newIpl s ∧
      ∃ u, t vector newIpl s = .ok () u := by
  rcases (h vector newIpl).alike s hs with ⟨heq, hend⟩ | ⟨-, hlast⟩
  · refine ⟨heq, ?_⟩
    cases hr : t vector newIpl s with
    | ok a u =>
        exact ⟨u, rfl⟩
    | error e u =>
        rw [hr] at hend
        exact hend.elim
  · exact hlast.elim

/-- cpu::trap as the source defines it, in terms of itself. -/
theorem trap_eq :
    (trap : TrapCall δ) = trapVia trap := by
  funext vector newIpl s
  exact ((trapFuel_alike 3 4 (by omega) (by omega) (by omega)).returns vector
    newIpl (Nat.zero_le _)).1

/-- cpu::trap returns from every state. -/
theorem trap_returns
    (vector : Word) (newIpl : Option Level) (s : Machine δ) :
    ∃ u, trap vector newIpl s = .ok () u :=
  ((trapFuel_alike 3 3 (by omega) (by omega) (by omega)).returns vector newIpl
    (Nat.zero_le _)).2

theorem trap_total
    {I : Machine δ → Prop} {E : Stop → Machine δ → Prop} (vector : Word)
    (newIpl : Option Level) :
    Triple I (trap vector newIpl : Exec δ Unit) (fun _ _ => True) E := by
  intro s _
  obtain ⟨u, hu⟩ := trap_returns vector newIpl s
  rw [hu]
  trivial

/-- A call of cpu::trap with the recursion closed. -/
theorem trap_alike :
    TrapsAlike (fun _ => False) 0 (trap : TrapCall δ) trap :=
  trapFuel_alike 3 3 (by omega) (by omega) (by omega)

omit [UnibusDevices δ] in
/-- What is alike to itself ends with C++ exceptions only. -/
theorem Alike.throws
    {α : Type} {m : Exec δ α} (h : Alike (fun _ => False) 0 m m) :
    Triple (fun _ => True) m (fun _ _ => True) Throws := by
  intro s _
  rcases h.alike s (Nat.zero_le _) with ⟨-, hend⟩ | ⟨-, hlast⟩
  · cases hm : m s with
    | ok a u =>
        trivial
    | error e u =>
        rw [hm] at hend
        exact hend
  · exact hlast.elim

/-- Every error of a read is a C++ exception. -/
theorem Bus.read_throws
    (addrIn : Word) (wordMode : WordMode) (runMode : RunMode)
    (spaceIn : Space) :
    Triple (fun _ => True)
      (Bus.read addrIn wordMode runMode spaceIn : Exec δ Word)
      (fun _ _ => True) Throws :=
  Alike.throws (trap_alike.read _ _ _ _)

/-- Every error of a write is a C++ exception. -/
theorem Bus.write_throws
    (addrIn : Word) (wordMode : WordMode) (value : Word) (runMode : RunMode)
    (spaceIn : Space) :
    Triple (fun _ => True)
      (Bus.write addrIn wordMode value runMode spaceIn : Exec δ Bool)
      (fun _ _ => True) Throws :=
  Alike.throws (trap_alike.write _ _ _ _ _)

end Closed

end KekPdp11
