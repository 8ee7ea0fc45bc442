import KekPdp11.BareRuns
import KekPdp11.DiskInterrupts
import KekPdp11.HeadPosition

/-!
# KEK PDP-11: disk controllers on the bus

The machine hands the references to a disk controller's registers to the
controller, which has its drives and reaches memory on its own.  Here the three
controllers are put on the bus, among any other devices, and their registers
are written and read by a program on the bare machine.

**Ends of the emulator.**  What a command does when it does not return ends the
emulator, or keeps it waiting.  The bus has no place for that, so the controller
remembers it in `stopped`.
-/

namespace KekPdp11

open StateExcept Slices ArrayCopies

section Replies

variable {δ δ' α : Type}

/-- The reply of a part of the devices. -/
def DeviceReply.within (r : DeviceReply δ α) (f : δ → δ') : DeviceReply δ' α :=
  ⟨r.value, f r.devices, r.requests⟩

def DeviceEffect.within (e : DeviceEffect δ) (f : δ → δ') : DeviceEffect δ' :=
  ⟨e.ram, f e.devices, e.requests⟩

end Replies

/-- A controller on the bus with its drives. -/
structure DiskUnit (ρ β : Type) where
  controller : ρ
  fhs : List (Option β)
  stopped : Option DiskStop

namespace DiskUnit

variable {ρ β : Type}

/-- The controller at work, with what it reaches of the machine. -/
def bench (u : DiskUnit ρ β) (ram : Ram) : Bench ρ β where
  controller := u.controller
  fhs := u.fhs
  ram := ram
  requests := []
  trace := []

/-- The effect of a write of a register. -/
def write (u : DiskUnit ρ β) (ram : Ram) (m : Command ρ β Unit) :
    DeviceEffect (DiskUnit ρ β) :=
  match m (u.bench ram) with
  | .ok _ t =>
      ⟨t.ram, ⟨t.controller, t.fhs, u.stopped⟩, t.requests.reverse⟩
  | .error e t =>
      ⟨t.ram, ⟨t.controller, t.fhs, some e⟩, t.requests.reverse⟩

def read {α : Type} (u : DiskUnit ρ β) (f : ρ → α × ρ) :
    DeviceReply (DiskUnit ρ β) α :=
  ⟨(f u.controller).1, { u with controller := (f u.controller).2 }, []⟩

end DiskUnit

namespace Rk05

/-- rk05::reset. -/
def reset (c : Rk05) (hard : Bool) : Rk05 :=
  if hard then { c with registers := fun _ => 0 } else c

end Rk05

namespace Rp06

/-- rp06::reset. -/
def reset (c : Rp06) (hard : Bool) : Rp06 :=
  if hard then { c with registers := fun _ => 0 }.set RP06_DS defaultDS else c

end Rp06

/-- The devices of the bus: the disk controllers and all others. -/
structure Devices (β ω : Type) where
  rk05 : DiskUnit Rk05 β
  rl02 : DiskUnit Rl02 β
  rp06 : DiskUnit Rp06 β
  others : ω

namespace Devices

variable {β ω : Type}

def withRk05 (d : Devices β ω) (u : DiskUnit Rk05 β) : Devices β ω :=
  { d with rk05 := u }

def withRl02 (d : Devices β ω) (u : DiskUnit Rl02 β) : Devices β ω :=
  { d with rl02 := u }

def withRp06 (d : Devices β ω) (u : DiskUnit Rp06 β) : Devices β ω :=
  { d with rp06 := u }

def withOthers (d : Devices β ω) (o : ω) : Devices β ω :=
  { d with others := o }

end Devices

instance {β ω : Type} [DiskBackend β] [UnibusDevices ω] :
    UnibusDevices (Devices β ω) where
  readByte slot a d :=
    match slot with
    | .rk05 => (d.rk05.read (DiskController.readByte a)).within d.withRk05
    | .rl02 => (d.rl02.read (DiskController.readByte a)).within d.withRl02
    | .rp06 => (d.rp06.read (DiskController.readByte a)).within d.withRp06
    | slot => (UnibusDevices.readByte slot a d.others).within d.withOthers
  readWord slot a d :=
    match slot with
    | .rk05 => (d.rk05.read (DiskController.readWord a)).within d.withRk05
    | .rl02 => (d.rl02.read (DiskController.readWord a)).within d.withRl02
    | .rp06 => (d.rp06.read (DiskController.readWord a)).within d.withRp06
    | slot => (UnibusDevices.readWord slot a d.others).within d.withOthers
  writeByte slot a v ram d :=
    match slot with
    | .rk05 =>
        (d.rk05.write ram (DiskController.writeByte a v)).within d.withRk05
    | .rl02 =>
        (d.rl02.write ram (DiskController.writeByte a v)).within d.withRl02
    | .rp06 =>
        (d.rp06.write ram (DiskController.writeByte a v)).within d.withRp06
    | slot =>
        (UnibusDevices.writeByte slot a v ram d.others).within d.withOthers
  writeWord slot a v ram d :=
    match slot with
    | .rk05 =>
        (d.rk05.write ram (DiskController.writeWord a v)).within d.withRk05
    | .rl02 =>
        (d.rl02.write ram (DiskController.writeWord a v)).within d.withRl02
    | .rp06 =>
        (d.rp06.write ram (DiskController.writeWord a v)).within d.withRp06
    | slot =>
        (UnibusDevices.writeWord slot a v ram d.others).within d.withOthers
  reset slot hard d :=
    match slot with
    | .rk05 =>
        d.withRk05 { d.rk05 with controller := d.rk05.controller.reset hard }
    | .rl02 =>
        d.withRl02 { d.rl02 with controller := d.rl02.controller.reset hard }
    | .rp06 =>
        d.withRp06 { d.rp06 with controller := d.rp06.controller.reset hard }
    | slot => d.withOthers (UnibusDevices.reset slot hard d.others)

/-- The place of a controller on the bus. -/
class AttachedController (ρ : Type) [DiskController ρ] where
  slot : Slot
  unit {β ω : Type} : Devices β ω → DiskUnit ρ β
  withUnit {β ω : Type} : Devices β ω → DiskUnit ρ β → Devices β ω
  unit_withUnit {β ω : Type} (d : Devices β ω) (u : DiskUnit ρ β) :
    unit (withUnit d u) = u
  readByte {β ω : Type} [DiskBackend β] [UnibusDevices ω] (a : Word)
    (d : Devices β ω) :
    UnibusDevices.readByte slot a d =
      ((unit d).read (DiskController.readByte a)).within (withUnit d)
  writeWord {β ω : Type} [DiskBackend β] [UnibusDevices ω] (a v : Word)
    (ram : Ram) (d : Devices β ω) :
    UnibusDevices.writeWord slot a v ram d =
      ((unit d).write ram (DiskController.writeWord a v)).within (withUnit d)

instance : AttachedController Rk05 where
  slot := .rk05
  unit := Devices.rk05
  withUnit := Devices.withRk05
  unit_withUnit _ _ := rfl
  readByte _ _ := rfl
  writeWord _ _ _ _ := rfl

instance : AttachedController Rl02 where
  slot := .rl02
  unit := Devices.rl02
  withUnit := Devices.withRl02
  unit_withUnit _ _ := rfl
  readByte _ _ := rfl
  writeWord _ _ _ _ := rfl

instance : AttachedController Rp06 where
  slot := .rp06
  unit := Devices.rp06
  withUnit := Devices.withRp06
  unit_withUnit _ _ := rfl
  readByte _ _ := rfl
  writeWord _ _ _ _ := rfl

section Registers

variable {ρ β ω : Type} [DiskController ρ] [AttachedController ρ]

/-- An address of one device only. -/
def OnlyOf (slot : Slot) (a : Word) : Prop :=
  (deviceRanges.filter fun r => decide (r.2.1 ≤ a) && decide (a < r.2.2)).map
    (·.1) = [slot]

instance (slot : Slot) (a : Word) : Decidable (OnlyOf slot a) :=
  inferInstanceAs (Decidable (_ = _))

theorem OnlyOf.deviceAt
    {slot : Slot} {a : Word} (h : OnlyOf slot a) {attached : Slot → Bool}
    (hattached : attached slot = true) :
    deviceAt attached a = some slot := by
  obtain ⟨r, hr, rfl⟩ := List.map_eq_singleton_iff.mp h
  have hfind : deviceRanges.find? (fun r =>
      attached r.1 && decide (r.2.1 ≤ a) && decide (a < r.2.2)) =
        [r].find? fun r => attached r.1 := by
    rw [← hr, List.find?_filter]
    congr 1
    funext r
    grind
  unfold KekPdp11.deviceAt
  rw [hfind, List.find?_singleton, if_pos hattached]
  rfl

/-- What a program on the machine has to do with one of the controllers. -/
structure Facing (pc r0 : Word) (ram : Ram) (u : DiskUnit ρ β)
    (attached : Slot → Bool) (v : Sight (Devices β ω)) : Prop where
  pc : v.reg 7 = pc
  r0 : v.reg 0 = r0
  ram : v.ram = ram
  unit : AttachedController.unit v.devices = u
  attached : v.attached = attached

/-- The program gets from what it faces to what it faces then. -/
def Leads {α : Type} (v : Sight (Devices β ω)) (m : Exec (Devices β ω) α)
    (a : α) (Q : Sight (Devices β ω) → Prop) : Prop :=
  ∃ v', Does v m a v' ∧ Q v'

variable {pc r0 : Word} {ram : Ram} {u : DiskUnit ρ β}
variable {attached : Slot → Bool} {v : Sight (Devices β ω)} {a : Word}
variable [DiskBackend β] [UnibusDevices ω]

/-- A write of a register during which the controller asks for nothing. -/
theorem Facing.writes
    (h : Facing pc r0 ram u attached v) (ha : DiskRegister a)
    (honly : OnlyOf (AttachedController.slot ρ) a)
    (hattached : attached (AttachedController.slot ρ) = true) {value : Word}
    {t : Bench ρ β}
    (hwrite : DiskController.writeWord a value (u.bench ram) = .ok () t)
    (hquiet : t.requests = []) (runMode : RunMode) (space : Space) :
    Leads v (Bus.write a .wmWord value runMode space) false
      (Facing pc r0 { t.ram with size := ram.size }
        ⟨t.controller, t.fhs, u.stopped⟩ attached) := by
  obtain ⟨rfl, rfl, rfl, rfl, rfl⟩ := h
  have heffect := AttachedController.writeWord (ρ := ρ) a value v.ram v.devices
  unfold DiskUnit.write at heffect
  rw [hwrite] at heffect
  have hrequests : (UnibusDevices.writeWord (AttachedController.slot ρ) a value
      v.ram v.devices).requests = [] := by
    rw [heffect]
    exact List.reverse_eq_nil_iff.mpr hquiet
  have hdoes := does_deviceWriteWord ha (honly.deviceAt hattached) hrequests
    runMode space
  rw [heffect] at hdoes
  exact ⟨_, hdoes, rfl, rfl, rfl, AttachedController.unit_withUnit _ _, rfl⟩

/-- A read of a byte of a register. -/
theorem Facing.reads
    (h : Facing pc r0 ram u attached v) (ha : DiskRegister a)
    (honly : OnlyOf (AttachedController.slot ρ) a)
    (hattached : attached (AttachedController.slot ρ) = true)
    (runMode : RunMode) (space : Space) :
    Leads v (Bus.read a .wmByte runMode space)
      ((DiskController.readByte a u.controller).1.setWidth 16)
      (Facing pc r0 ram
        { u with controller := (DiskController.readByte a u.controller).2 }
        attached) := by
  obtain ⟨rfl, rfl, rfl, rfl, rfl⟩ := h
  have hreply := AttachedController.readByte (ρ := ρ) a v.devices
  have hrequests : (UnibusDevices.readByte (AttachedController.slot ρ) a
      v.devices).requests = [] := by
    rw [hreply]
    rfl
  have hdoes := does_deviceReadByte ha (honly.deviceAt hattached) hrequests
    runMode space
  rw [hreply] at hdoes
  exact ⟨_, hdoes, rfl, rfl, rfl, AttachedController.unit_withUnit _ _, rfl⟩

end Registers

end KekPdp11
