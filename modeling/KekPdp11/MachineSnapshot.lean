import KekPdp11.DiskSnapshot
import KekPdp11.Machine
import KekPdp11.Rk05
import KekPdp11.Rl02
import KekPdp11.Rp06

/-!
# KEK PDP-11: snapshots of the machine

bus::serialize writes the parts of a machine to a document and bus::deserialize
puts a machine together from one.  The parts refer to each other by pointers:
the processor has one to the memory management unit from its construction on,
the memory management unit has pointers to memory and processor, and the bus
has pointers to all three.  Objects are kept by the number of their allocation.
The documents are those of any JSON library.

**Left out.**  The DZ11 and its lines, and what no snapshot has a member for.
-/

namespace KekPdp11

open Slices JsonDocument

variable {D : Type} [JsonDocument D]

/-- A controller with its drives; a drive that is not loaded is a null
pointer. -/
structure Disked (ρ : Type) where
  controller : ρ
  fhs : List (Option Backend)

/-- The data of class kw11_l in a snapshot. -/
structure Kw11L where
  lfCsr : Word
  wallClock : Bool

/-- The parts of a machine. -/
structure Parts where
  m : Ram
  c : Cpu
  mmu : Mmu
  kw11l : Kw11L
  tty : Option RegisterFile
  rk05 : Option (Disked Rk05)
  rl02 : Option (Disked Rl02)
  rp06 : Option (Disked Rp06)

/-- The addresses of objects. -/
abbrev Ptr := Nat

/-- An object of class mmu. -/
structure MmuObject where
  parPreshifted : PageIndex → PhysAddr
  pdr : PageIndex → Word
  mmr0 : Word
  mmr1 : Word
  mmr2 : Word
  mmr3 : Word
  cpuerr : Word
  pir : Word
  csr : Word
  m : Option Ptr
  c : Option Ptr

/-- An object of class cpu; its pointer to the memory management unit is
const. -/
structure CpuObject where
  registers : Cpu
  mmu : Ptr

/-- An object of class bus. -/
structure BusObject where
  m : Option Ptr
  c : Option Ptr
  mmu : Ptr
  kw11l : Kw11L
  tty : Option RegisterFile
  rk05 : Option (Disked Rk05)
  rl02 : Option (Disked Rl02)
  rp06 : Option (Disked Rp06)

/-- A bus and the objects that there are. -/
structure World where
  next : Ptr
  memories : Ptr → Option Ram
  cpus : Ptr → Option CpuObject
  mmus : Ptr → Option MmuObject
  bus : BusObject

section Serialize

def Ram.serialize (r : Ram) : D :=
  null |> put "size" (ofBits r.size)
    |> put "contents" (array ((slice r.m 0 r.size.toNat).map ofBits))

def Kw11L.serialize (d : Kw11L) : D :=
  null |> put "CSR" (ofBits d.lfCsr) |> put "wall-clock" (bool d.wallClock)

/-- tty::serialize. -/
def serializeTty (registers : RegisterFile) : D :=
  null |> put "registers" (array ((slice registers 0 4).map ofBits))

/-- The number of a value of d_i_space_t. -/
def Space.number : Space → Nat
  | .dSpace => 0
  | .iSpace => 1

/-- The modes and spaces that mmu::serialize goes through. -/
def mmuTables : List (RunMode × Space) :=
  [(0, .dSpace), (0, .iSpace), (1, .dSpace), (1, .iSpace), (3, .dSpace),
    (3, .iSpace)]

def mmuTableKey (table : RunMode × Space) : String :=
  "runmode_" ++ toString table.1.toNat ++ "_d_" ++ toString table.2.number

def mmuTableIndex (table : RunMode × Space) (i : Nat) : PageIndex :=
  Mmu.calcParPdrIndex table.1 table.2 (BitVec.ofNat 3 i)

def Mmu.addParPdr (m : Mmu) (table : RunMode × Space) : D :=
  null
    |> put "par" (array ((List.range 8).map fun i =>
        ofBits (m.pages (mmuTableIndex table i)).parPreshifted))
    |> put "pdr" (array ((List.range 8).map fun i =>
        ofBits (m.pages (mmuTableIndex table i)).pdr))

def Mmu.serialize (m : Mmu) : D :=
  mmuTables.foldl (fun j table => put (mmuTableKey table) (m.addParPdr table) j)
      null
    |> put "MMR0" (ofBits m.mmr0)
    |> put "MMR1" (ofBits m.mmr1)
    |> put "MMR2" (ofBits m.mmr2)
    |> put "MMR3" (ofBits m.mmr3)
    |> put "CPUERR" (ofBits m.cpuerr)
    |> put "PIR" (ofBits m.pir)
    |> put "CSR" (ofBits m.csr)

def registerKey (set : Bool) (nr : Fin 6) : String :=
  "register-" ++ toString set.toNat ++ "-" ++ toString nr.val

def stackpointerKey (nr : Nat) : String :=
  "sp-" ++ toString nr

/-- The queues are added to a JsonVariant that refers to no document, which
takes no values. -/
def Cpu.queuedInterruptsDocument (_ : Cpu) : D :=
  null

def Cpu.serialize (c : Cpu) : D :=
  let j := [false, true].foldl
    (fun j set => (List.finRange 6).foldl
      (fun j nr => put (registerKey set nr) (ofBits (c.regs05 set nr)) j) j)
    null
  let j := (List.range 4).foldl
    (fun j nr =>
      put (stackpointerKey nr) (ofBits (c.sp (BitVec.ofNat 2 nr))) j) j
  let j := j
    |> put "pc" (ofBits c.pc)
    |> put "psw" (ofBits c.psw)
    |> put "fpsr" (ofBits c.fpsr)
    |> put "stack_limit_register" (ofBits c.stackLimitRegister)
    |> put "processing_trap_depth" (number c.processingTrapDepth)
    |> put "instructions_executed" (number c.instructionsExecuted)
  let j := match c.delayedTrap with
    | some vector => put "delayed_trap" (ofBits vector) j
    | none => j
  j |> put "queued_interrupts" c.queuedInterruptsDocument
    |> put "any_queued_interrupts" (bool c.anyQueuedInterrupts)

/-- The documents of the drives of a controller. -/
def serializeBackends (stack : Buffer) (fhs : List (Option Backend)) :
    Except DiskStop D := do
  let backends ← fhs.mapM fun dbe =>
    match dbe with
    | none => .error .nullAccess
    | some b =>
        match b.serialize stack with
        | .ok j _ => .ok j
        | .error e _ => .error e
  pure (array backends)

/-- The members for a row of registers. -/
def putRegisters (prefixKey : String) (n : Nat) (registers : RegisterFile)
    (j : D) : D :=
  (List.range n).foldl
    (fun j nr => put (prefixKey ++ toString nr) (ofBits (registers nr)) j) j

def Rk05.serialize (stack : Buffer) (d : Disked Rk05) : Except DiskStop D := do
  let backends ← serializeBackends stack d.fhs
  pure (null |> put "backends" backends
    |> putRegisters "register-" 7 d.controller.registers)

def Rl02.serialize (stack : Buffer) (d : Disked Rl02) : Except DiskStop D := do
  let backends ← serializeBackends stack d.fhs
  pure (null |> put "backends" backends
    |> putRegisters "register-" 4 d.controller.registers
    |> putRegisters "mpr-" 3 d.controller.mpr
    |> put "track" (JsonDocument.number d.controller.track)
    |> put "head" (JsonDocument.number d.controller.head)
    |> put "sector" (JsonDocument.number d.controller.sector))

/-- Nothing but the type is written. -/
def Rp06.serialize (d : Disked Rp06) : D :=
  null |> put "is-rp07" (bool d.controller.isRp07)

/-- The document of a part, if the bus has it. -/
def serializePart {α : Type} (f : α → Except DiskStop D) :
    Option α → Except DiskStop (Option D)
  | none => .ok none
  | some a => (f a).map some

/-- A member for a part that is there. -/
def putPart (key : String) (part : Option D) (j : D) : D :=
  match part with
  | some part => put key part j
  | none => j

/-- bus::serialize. -/
def Parts.serialize (stack : Buffer) (p : Parts) : Except DiskStop D := do
  let j := null
    |> put "memory" p.m.serialize
    |> put "kw11-l" p.kw11l.serialize
    |> putPart "tty" (p.tty.map serializeTty)
    |> put "mmu" p.mmu.serialize
    |> put "cpu" p.c.serialize
  let rl02 ← serializePart (Rl02.serialize stack) p.rl02
  let rk05 ← serializePart (Rk05.serialize stack) p.rk05
  pure (j |> putPart "rl02" rl02
    |> putPart "rk05" rk05
    |> putPart "rp06" (p.rp06.map Rp06.serialize))

end Serialize

section Deserialize

def Ram.deserialize (j : D) : Ram where
  size := toBits 32 (member "size" j)
  m i := ((elements (member "contents" j))[i]?.map (toBits 8)).getD 0

def Kw11L.deserialize (j : D) : Kw11L where
  lfCsr := toBits 16 (member "CSR" j)
  wallClock := toBool (member "wall-clock" j)

/-- tty::deserialize. -/
def deserializeTty (j : D) : RegisterFile :=
  fun i => ((elements (member "registers" j))[i]?.map (toBits 16)).getD 0

namespace MmuObject

/-- reset of class mmu, with its argument set. -/
def reset (o : MmuObject) : MmuObject where
  parPreshifted _ := 0
  pdr _ := 0
  mmr0 := 0
  mmr1 := 0
  mmr2 := 0
  mmr3 := 0
  cpuerr := 0
  pir := 0
  csr := 0
  m := o.m
  c := o.c

/-- begin. -/
def begin (m c : Option Ptr) (o : MmuObject) : MmuObject :=
  reset { o with m := m, c := c }

def new : MmuObject :=
  reset
    { parPreshifted := fun _ => 0
      pdr := fun _ => 0
      mmr0 := 0
      mmr1 := 0
      mmr2 := 0
      mmr3 := 0
      cpuerr := 0
      pir := 0
      csr := 0
      m := none
      c := none }

def setParPdr (j : D) (o : MmuObject) (table : RunMode × Space) :
    MmuObject :=
  { o with
    parPreshifted := (elements (member "par" j)).zipIdx.foldl
      (fun pars v =>
        Function.update pars (mmuTableIndex table v.2) (toBits 32 v.1))
      o.parPreshifted
    pdr := (elements (member "pdr" j)).zipIdx.foldl
      (fun pdrs v =>
        Function.update pdrs (mmuTableIndex table v.2) (toBits 16 v.1))
      o.pdr }

def deserialize (j : D) (m c : Option Ptr) : MmuObject :=
  { mmuTables.foldl
      (fun o table => o.setParPdr (member (mmuTableKey table) j) table)
      (begin m c new) with
    mmr0 := toBits 16 (member "MMR0" j)
    mmr1 := toBits 16 (member "MMR1" j)
    mmr2 := toBits 16 (member "MMR2" j)
    mmr3 := toBits 16 (member "MMR3" j)
    cpuerr := toBits 16 (member "CPUERR" j)
    pir := toBits 16 (member "PIR" j)
    csr := toBits 16 (member "CSR" j) }

end MmuObject

def Cpu.deserialize (j : D) : Cpu :=
  { Cpu.initial with
    regs05 := fun set nr => toBits 16 (member (registerKey set nr) j)
    sp := fun nr => toBits 16 (member (stackpointerKey nr.toNat) j)
    pc := toBits 16 (member "pc" j)
    psw := toBits 16 (member "psw" j)
    fpsr := toBits 16 (member "fpsr" j)
    stackLimitRegister := toBits 16 (member "stack_limit_register" j)
    processingTrapDepth := (toInt (member "processing_trap_depth" j)).toNat
    instructionsExecuted := (toInt (member "instructions_executed" j)).toNat
    delayedTrap :=
      if containsKey "delayed_trap" j then
        some (toBits 16 (member "delayed_trap" j))
      else
        none
    anyQueuedInterrupts := toBool (member "any_queued_interrupts" j)
    queuedInterrupts := fun level =>
      (elements (member (toString level.toNat)
          (member "queued_interrupts" j))).foldl
        (fun vectors v => insert (BitVec.ofInt 16 (toInt v)) vectors) ∅ }

/-- The drives of a controller, in their order. -/
def deserializeBackends (outside : Outside) (stack : Buffer) (depth : Nat)
    (j : D) : Except DiskStop (List (Option Backend)) :=
  (elements (member "backends" j)).mapM fun j =>
    (Backend.deserialize outside stack depth j).map some

/-- A row of registers; the others are as reset leaves them. -/
def getRegisters (prefixKey : String) (n : Nat) (j : D) : RegisterFile :=
  fun nr => if nr < n then toBits 16 (member (prefixKey ++ toString nr) j) else 0

def Rk05.deserialize (outside : Outside) (stack : Buffer) (depth : Nat)
    (j : D) : Except DiskStop (Disked Rk05) := do
  let fhs ← deserializeBackends outside stack depth j
  pure
    { controller :=
        { registers := getRegisters "register-" 7 j
          xferBuffer := fun _ => 0 }
      fhs := fhs }

def Rl02.deserialize (outside : Outside) (stack : Buffer) (depth : Nat)
    (j : D) : Except DiskStop (Disked Rl02) := do
  let fhs ← deserializeBackends outside stack depth j
  pure
    { controller :=
        { registers := getRegisters "register-" 4 j
          xferBuffer := fun _ => 0
          track := toInt (member "track" j)
          head := (toBits 8 (member "head" j)).toNat
          sector := (toBits 8 (member "sector" j)).toNat
          mpr := getRegisters "mpr-" 3 j }
      fhs := fhs }

/-- The constructor uses its argument is_rp07 for the geometry and does not
set the member of this name. -/
def Rp06.deserialize (j : D) : Disked Rp06 where
  controller :=
    { registers :=
        Function.update (fun _ => 0) (Rp06.regNum Rp06.RP06_DS) Rp06.defaultDS
      isRp07 := false
      nsect := if toBool (member "is-rp07" j) then 50 else 22
      ntrac := if toBool (member "is-rp07" j) then 32 else 19 }
  fhs := []

namespace World

/-- The constructor of class bus. -/
def new : World where
  next := 1
  memories _ := none
  cpus _ := none
  mmus := Function.update (fun _ => none) 0 (some MmuObject.new)
  bus :=
    { m := none
      c := none
      mmu := 0
      kw11l := { lfCsr := 0, wallClock := true }
      tty := none
      rk05 := none
      rl02 := none
      rp06 := none }

/-- begin of the memory management unit of the bus. -/
def beginMmu (w : World) : World :=
  { w with
    mmus := Function.update w.mmus w.bus.mmu
      ((w.mmus w.bus.mmu).map (MmuObject.begin w.bus.m w.bus.c)) }

/-- delete on a pointer that may be null. -/
def freed {α : Type} (objects : Ptr → Option α) : Option Ptr → Ptr → Option α
  | none => objects
  | some p => Function.update objects p none

/-- A new memory, and add_ram. -/
def addRam (r : Ram) (w : World) : World :=
  beginMmu
    { w with
      next := w.next + 1
      memories := Function.update (freed w.memories w.bus.m) w.next (some r)
      bus := { w.bus with m := some w.next } }

/-- A new processor, which takes over the pointer to the memory management
unit, and add_cpu. -/
def addCpu (c : Cpu) (w : World) : World :=
  beginMmu
    { w with
      next := w.next + 1
      cpus := Function.update (freed w.cpus w.bus.c) w.next
        (some { registers := c, mmu := w.bus.mmu })
      bus := { w.bus with c := some w.next } }

/-- A new memory management unit, and add_mmu. -/
def addMmu (o : MmuObject) (w : World) : World :=
  beginMmu
    { w with
      next := w.next + 1
      mmus := Function.update (freed w.mmus (some w.bus.mmu)) w.next (some o)
      bus := { w.bus with mmu := w.next } }

/-- A part of the document, if there is one. -/
def restorePart (j : D) (key : String)
    (restore : D → World → World) (w : World) : World :=
  if containsKey key j then restore (member key j) w else w

/-- A part that may stop. -/
def restoreDisks {ρ : Type} (j : D) (key : String)
    (restore : D → Except DiskStop (Disked ρ))
    (add : Disked ρ → BusObject → BusObject) (w : World) :
    Except DiskStop World :=
  if containsKey key j then
    (restore (member key j)).map fun d => { w with bus := add d w.bus }
  else
    .ok w

/-- A new terminal, and add_tty. -/
def addTty (j : D) (w : World) : World :=
  { w with bus := { w.bus with tty := some (deserializeTty j) } }

/-- A new line clock, and add_KW11_L. -/
def addKw11L (j : D) (w : World) : World :=
  { w with bus := { w.bus with kw11l := Kw11L.deserialize j } }

/-- A new controller without drives, and add_RP06. -/
def addRp06 (j : D) (w : World) : World :=
  { w with bus := { w.bus with rp06 := some (Rp06.deserialize j) } }

/-- The first parts of bus::deserialize. -/
def assemble (j : D) : World :=
  let w := new
  let w := w.restorePart j "memory" fun j => addRam (Ram.deserialize j)
  let w := w.restorePart j "tty" addTty
  let w := w.restorePart j "cpu" fun j => addCpu (Cpu.deserialize j)
  w.restorePart j "mmu" fun j w =>
    w.addMmu (MmuObject.deserialize j w.bus.m w.bus.c)

/-- bus::deserialize. -/
def deserialize (outside : Outside) (stack : Buffer) (depth : Nat)
    (j : D) : Except DiskStop World := do
  let w := assemble j
  let w ← w.restoreDisks j "rl02" (Rl02.deserialize outside stack depth)
    fun d bus => { bus with rl02 := some d }
  let w ← w.restoreDisks j "rk05" (Rk05.deserialize outside stack depth)
    fun d bus => { bus with rk05 := some d }
  let w := w.restorePart j "kw11-l" addKw11L
  pure (w.restorePart j "rp06" addRp06)

end World

end Deserialize

section Restored

/-- The registers of the processor. -/
structure SameCpu (c c' : Cpu) : Prop where
  regs05 : c'.regs05 = c.regs05
  sp : c'.sp = c.sp
  pc : c'.pc = c.pc
  psw : c'.psw = c.psw
  stackLimitRegister : c'.stackLimitRegister = c.stackLimitRegister
  delayedTrap : c'.delayedTrap = c.delayedTrap
  queuedInterrupts : c'.queuedInterrupts = c.queuedInterrupts

/-- The registers of the memory management unit, with the pages of the three
modes. -/
structure SameMmu (m : Mmu) (o : MmuObject) : Prop where
  pages : ∀ table ∈ mmuTables, ∀ i < 8,
    o.parPreshifted (mmuTableIndex table i) =
        (m.pages (mmuTableIndex table i)).parPreshifted ∧
      o.pdr (mmuTableIndex table i) = (m.pages (mmuTableIndex table i)).pdr
  mmr0 : o.mmr0 = m.mmr0
  mmr1 : o.mmr1 = m.mmr1
  mmr2 : o.mmr2 = m.mmr2
  mmr3 : o.mmr3 = m.mmr3
  cpuerr : o.cpuerr = m.cpuerr
  pir : o.pir = m.pir

/-- The two devices are there or not, and agree on the given part. -/
def SamePart {α γ : Type} (part : α → γ) (d d' : Option α) : Prop :=
  d'.map part = d.map part

/-- The bus of the world has the values of the machine, and its parts refer to
each other. -/
structure RestoredAs (p : Parts) (w : World) (pm pc : Ptr) (c : CpuObject)
    (o : MmuObject) : Prop where
  ramAt : w.bus.m = some pm
  ram : ∃ r, w.memories pm = some r ∧ r.size = p.m.size ∧
    ∀ i < p.m.size.toNat, r.m i = p.m.m i
  cpuAt : w.bus.c = some pc ∧ w.cpus pc = some c
  cpu : SameCpu p.c c.registers
  mmuAt : w.mmus w.bus.mmu = some o
  mmu : SameMmu p.mmu o
  cpuMmu : c.mmu = w.bus.mmu
  mmuRam : o.m = some pm
  mmuCpu : o.c = some pc
  kw11l : w.bus.kw11l.lfCsr = p.kw11l.lfCsr
  tty : SamePart (fun registers => slice registers 0 4) p.tty w.bus.tty
  rk05 : SamePart (fun d => slice d.controller.registers 0 7) p.rk05 w.bus.rk05
  rl02 : SamePart
    (fun d => (slice d.controller.registers 0 4, slice d.controller.mpr 0 3,
      d.controller.track, d.controller.head, d.controller.sector))
    p.rl02 w.bus.rl02
  rp06 : SamePart
    (fun d => (slice d.controller.registers 0 32, d.controller.isRp07))
    p.rp06 w.bus.rp06

/-- The snapshot of a machine is written, and restored to a machine with the
same values. -/
def Parts.SurviveSnapshot (D : Type) [JsonDocument D] (outside : Outside)
    (stack : Buffer) (p : Parts) : Prop :=
  ∃ (j : D) (depth : Nat) (w : World) (pm pc : Ptr) (c : CpuObject)
    (o : MmuObject), p.serialize stack = .ok j ∧
      World.deserialize outside stack depth j = .ok w ∧
      RestoredAs p w pm pc c o

end Restored

/-- The memory survives its own snapshot. -/
theorem Ram.deserialize_serialize
    (D : Type) [JsonDocument D] (r : Ram) :
    (Ram.deserialize (r.serialize : D)).size = r.size ∧
      ∀ i < r.size.toNat, (Ram.deserialize (r.serialize : D)).m i = r.m i := by
  constructor
  · unfold Ram.deserialize Ram.serialize
    dsimp only
    rw [member_put_of_ne (by decide), member_put_self _ _ takesMembers_null,
      toBits_ofBits]
  · intro i hi
    unfold Ram.deserialize Ram.serialize
    dsimp only
    rw [member_put_self _ _ (by simp), elements_array, List.getElem?_map,
      getElem?_slice hi]
    simp

/-- The interrupts that are queued do not survive the snapshot of the
processor. -/
theorem Cpu.deserialize_serialize_queuedInterrupts
    (D : Type) [JsonDocument D] (c : Cpu) :
    (Cpu.deserialize (c.serialize : D)).queuedInterrupts = fun _ => ∅ := by
  have hqueues : member "queued_interrupts" (c.serialize : D) = null := by
    unfold Cpu.serialize
    dsimp only
    rw [member_put_of_ne (by decide), member_put_self]
    · rfl
    · cases c.delayedTrap <;> simp
  unfold Cpu.deserialize
  dsimp only
  rw [hqueues]
  simp

theorem except_bind_eq_ok
    {ε α γ : Type} {x : Except ε α} {f : α → Except ε γ} {b : γ}
    (h : x >>= f = .ok b) :
    ∃ a, x = .ok a ∧ f a = .ok b := by
  cases x with
  | error e =>
      cases h
  | ok a =>
      exact ⟨a, rfl, h⟩

namespace World

/-- The memory management unit of the bus is not the next object. -/
def Allocated (w : World) : Prop :=
  w.bus.mmu < w.next

/-- The processor has the memory management unit of the bus. -/
def Attached (w : World) : Prop :=
  Allocated w ∧ ∃ pc c, w.bus.c = some pc ∧ w.cpus pc = some c ∧
    c.mmu = w.bus.mmu

/-- The processor has a memory management unit that has been freed, and the
one of the bus has just been reset. -/
structure Detached (w : World) : Prop where
  cpu : ∃ pc c, w.bus.c = some pc ∧ w.cpus pc = some c ∧
    c.mmu ≠ w.bus.mmu ∧ w.mmus c.mmu = none
  mmu : ∃ o, w.mmus w.bus.mmu = some o ∧ o.reset = o

theorem allocated_new :
    Allocated new :=
  Nat.one_pos

theorem allocated_addRam
    {w : World} (r : Ram) (h : Allocated w) :
    Allocated (w.addRam r) :=
  Nat.lt_succ_of_lt h

theorem allocated_restorePart
    {w : World} {j : D} {key : String}
    {restore : D → World → World}
    (hrestore : ∀ j w, Allocated w → Allocated (restore j w))
    (h : Allocated w) :
    Allocated (w.restorePart j key restore) := by
  unfold restorePart
  split
  · exact hrestore _ _ h
  · exact h

theorem attached_addCpu
    {w : World} (c : Cpu) (h : Allocated w) :
    Attached (w.addCpu c) := by
  refine ⟨Nat.lt_succ_of_lt h, w.next, { registers := c, mmu := w.bus.mmu },
    rfl, ?_, rfl⟩
  unfold addCpu beginMmu
  dsimp only
  rw [Function.update_self]

/-- add_mmu frees what the processor has and resets what the bus gets. -/
theorem detached_addMmu
    {w : World} (o : MmuObject) (h : Attached w) :
    Detached (w.addMmu o) := by
  obtain ⟨halloc, pc, c, hpc, hc, hmmu⟩ := h
  have hne : w.bus.mmu ≠ w.next := Nat.ne_of_lt halloc
  constructor
  · refine ⟨pc, c, hpc, hc, ?_, ?_⟩
    · rw [hmmu]
      exact hne
    · unfold addMmu beginMmu freed
      dsimp only
      rw [hmmu, Function.update_of_ne hne, Function.update_of_ne hne,
        Function.update_self]
  · refine ⟨MmuObject.begin w.bus.m w.bus.c o, ?_, rfl⟩
    unfold addMmu beginMmu
    dsimp only
    rw [Function.update_self, Function.update_self]
    rfl

/-- A change of the devices. -/
theorem detached_bus
    {w : World} {bus : BusObject} (h : Detached w) (hc : bus.c = w.bus.c)
    (hmmu : bus.mmu = w.bus.mmu) :
    Detached { w with bus := bus } := by
  constructor
  · dsimp only
    rw [hc, hmmu]
    exact h.cpu
  · dsimp only
    rw [hmmu]
    exact h.mmu

theorem detached_restorePart
    {w : World} {j : D} {key : String}
    {restore : D → World → World}
    (h : Detached w)
    (hrestore : ∀ j w, Detached w → Detached (restore j w)) :
    Detached (w.restorePart j key restore) := by
  unfold restorePart
  split
  · exact hrestore _ _ h
  · exact h

theorem detached_restoreDisks
    {ρ : Type} {w w' : World} {j : D} {key : String}
    {restore : D → Except DiskStop (Disked ρ)}
    {add : Disked ρ → BusObject → BusObject}
    (hw' : w.restoreDisks j key restore add = .ok w') (h : Detached w)
    (hadd : ∀ d bus, (add d bus).c = bus.c ∧ (add d bus).mmu = bus.mmu) :
    Detached w' := by
  unfold restoreDisks at hw'
  split at hw'
  · cases hd : restore (member key j) with
    | error e =>
        rw [hd] at hw'
        cases hw'
    | ok d =>
        rw [hd] at hw'
        injection hw' with hw'
        rw [← hw']
        exact detached_bus h (hadd _ _).1 (hadd _ _).2
  · injection hw' with hw'
    rw [← hw']
    exact h

theorem detached_assemble
    {j : D} (hcpu : containsKey "cpu" j = true)
    (hmmu : containsKey "mmu" j = true) :
    Detached (assemble j) := by
  unfold assemble
  dsimp only
  rw [restorePart.eq_1 j "mmu", if_pos hmmu, restorePart.eq_1 j "cpu",
    if_pos hcpu]
  refine detached_addMmu _ (attached_addCpu _ ?_)
  refine allocated_restorePart (fun j w h => h) ?_
  exact allocated_restorePart (fun j w => allocated_addRam _) allocated_new

/-- In a restored machine, the processor's memory management unit has been
freed, and that of the bus has been reset. -/
theorem detached_deserialize
    {outside : Outside} {stack : Buffer} {depth : Nat} {j : D}
    {w : World} (hcpu : containsKey "cpu" j = true)
    (hmmu : containsKey "mmu" j = true)
    (hw : deserialize outside stack depth j = .ok w) :
    Detached w := by
  obtain ⟨w₁, hrl02, hw⟩ := except_bind_eq_ok hw
  obtain ⟨w₂, hrk05, hw⟩ := except_bind_eq_ok hw
  have h₁ : Detached w₁ := detached_restoreDisks hrl02
    (detached_assemble hcpu hmmu) fun _ _ => ⟨rfl, rfl⟩
  have h₂ : Detached w₂ := detached_restoreDisks hrk05 h₁ fun _ _ => ⟨rfl, rfl⟩
  injection hw with hw
  rw [← hw]
  refine detached_restorePart ?_ fun j w h => detached_bus h rfl rfl
  exact detached_restorePart h₂ fun j w h => detached_bus h rfl rfl

end World

@[simp] theorem takesMembers_putPart
    (key : String) (part : Option D) (j : D) :
    TakesMembers (putPart key part j) ↔ TakesMembers j := by
  cases part with
  | none =>
      rfl
  | some part =>
      exact takesMembers_put key part j

theorem containsKey_putPart
    (key key' : String) (part : Option D) {j : D} (hj : TakesMembers j) :
    containsKey key' (putPart key part j) =
      (decide (part.isSome ∧ key' = key) || containsKey key' j) := by
  cases part with
  | none =>
      simp [putPart]
  | some part =>
      simp [putPart, hj]

/-- A snapshot has the processor and the memory management unit. -/
theorem Parts.serialize_containsKey
    {p : Parts} {stack : Buffer} {j : D}
    (h : p.serialize stack = .ok j) :
    containsKey "cpu" j = true ∧ containsKey "mmu" j = true := by
  obtain ⟨rl02, -, h⟩ := except_bind_eq_ok h
  obtain ⟨rk05, -, h⟩ := except_bind_eq_ok h
  injection h with h
  rw [← h]
  constructor
  · simp [containsKey_putPart]
  · simp [containsKey_putPart]

theorem World.Detached.not_restoredAs
    {w : World} (h : w.Detached) (p : Parts) (pm pc : Ptr) (c : CpuObject)
    (o : MmuObject) :
    ¬ RestoredAs p w pm pc c o := by
  intro hrestored
  obtain ⟨pc', c', hpc', hc', hne, -⟩ := h.cpu
  rw [hrestored.cpuAt.1] at hpc'
  injection hpc' with hpc'
  rw [← hpc', hrestored.cpuAt.2] at hc'
  injection hc' with hc'
  rw [← hc'] at hne
  exact hne hrestored.cpuMmu

/-- No snapshot of a machine is restored to the same machine. -/
theorem no_machine_snapshot_survives
    (D : Type) [JsonDocument D] (outside : Outside) (stack : Buffer)
    (p : Parts) :
    ¬ p.SurviveSnapshot D outside stack := by
  rintro ⟨j, depth, w, pm, pc, c, o, hj, hw, hrestored⟩
  obtain ⟨hcpu, hmmu⟩ := Parts.serialize_containsKey hj
  exact (World.detached_deserialize hcpu hmmu hw).not_restoredAs p pm pc c o
    hrestored

/-- The snapshot of a machine without RK05 and RL02 is written and restored,
and the restored machine is detached. -/
theorem diskless_snapshot_is_detached
    (D : Type) [JsonDocument D] {p : Parts} (hrl02 : p.rl02 = none)
    (hrk05 : p.rk05 = none) (outside : Outside) (stack : Buffer)
    (depth : Nat) :
    ∃ (j : D) (w : World), p.serialize stack = .ok j ∧
      World.deserialize outside stack depth j = .ok w ∧ w.Detached := by
  obtain ⟨j, hj, hnone⟩ : ∃ j : D, p.serialize stack = .ok j ∧
      containsKey "rl02" j = false ∧ containsKey "rk05" j = false := by
    unfold Parts.serialize
    rw [hrl02, hrk05]
    refine ⟨_, rfl, ?_, ?_⟩
    · simp [containsKey_putPart]
    · simp [containsKey_putPart]
  obtain ⟨w, hw⟩ : ∃ w, World.deserialize outside stack depth j = .ok w := by
    unfold World.deserialize World.restoreDisks
    simp only [hnone.1, hnone.2, Bool.false_eq_true, if_false]
    exact ⟨_, rfl⟩
  obtain ⟨hcpu, hmmu⟩ := Parts.serialize_containsKey hj
  exact ⟨j, w, hj, hw, World.detached_deserialize hcpu hmmu hw⟩

/-- A machine with a line clock and nothing else. -/
def bareParts : Parts where
  m := { size := 0o20000, m := fun _ => 0 }
  c := Cpu.initial
  mmu := Mmu.initial
  kw11l := { lfCsr := 0, wallClock := true }
  tty := none
  rk05 := none
  rl02 := none
  rp06 := none

/-- No files and no servers. -/
def nothingOutside : Outside where
  file _ := none
  server _ _ := emptyImage
  network := []

/-- Its snapshot is written and restored, and not to the same machine. -/
theorem bare_snapshot_is_not_restored :
    ∃ (j : Document) (w : World), bareParts.serialize (fun _ => 0) = .ok j ∧
      World.deserialize nothingOutside (fun _ => 0) 0 j = .ok w ∧
      ∀ pm pc c o, ¬ RestoredAs bareParts w pm pc c o := by
  obtain ⟨j, w, hj, hw, hdetached⟩ := diskless_snapshot_is_detached
    Document (p := bareParts) rfl rfl nothingOutside (fun _ => 0) 0
  exact ⟨j, w, hj, hw, hdetached.not_restoredAs bareParts⟩

end KekPdp11
