import KekPdp11.Lib.Sights
import KekPdp11.DebuggerLoop
import KekPdp11.Decoding
import KekPdp11.DeviceIndices
import KekPdp11.OperandForms

/-!
# KEK PDP-11: programs on the bare machine

Before an operating system runs, the machine is in kernel mode, its MMU is off
and nothing is queued.  What a program sees of it then is its registers and
condition codes, memory and the devices: a `Sight`.  Here are the effects of
references and of the instructions that small programs are made of on what is
seen.
-/

namespace KekPdp11

open StateExcept

/-- What a program on the bare machine sees. -/
structure Sight (δ : Type) where
  reg : RegNr → Word
  codes : ConditionCodes
  ram : Ram
  attached : Slot → Bool
  devices : δ

namespace Sight

variable {δ : Type}

/-- One register changed. -/
def set (v : Sight δ) (nr : RegNr) (value : Word) : Sight δ :=
  { v with reg := Function.update v.reg nr value }

/-- The address is one of memory. -/
def InMemory (v : Sight δ) (wordMode : WordMode) (a : Word) : Prop :=
  a < 0o160000 ∧ a.setWidth 32 < v.ram.size ∧
    (wordMode = .wmWord → a.toNat % 2 = 0)

/-- The byte or word at an address of memory. -/
def load (v : Sight δ) (wordMode : WordMode) (a : Word) : Word :=
  v.ram.readAt wordMode (a.setWidth 32)

/-- A byte or word of memory stored. -/
def store (v : Sight δ) (wordMode : WordMode) (a value : Word) : Sight δ :=
  { v with ram := v.ram.writeAt wordMode (a.setWidth 32) value }

@[simp] theorem set_reg_self
    (v : Sight δ) (nr : RegNr) (value : Word) :
    (v.set nr value).reg nr = value :=
  Function.update_self _ _ _

theorem set_reg_of_ne
    (v : Sight δ) {nr nr' : RegNr} (value : Word) (h : nr' ≠ nr) :
    (v.set nr value).reg nr' = v.reg nr' :=
  Function.update_of_ne h _ _

end Sight

namespace Machine

variable {δ : Type}

/-- Kernel mode, the MMU off, nothing queued. -/
structure Bare (s : Machine δ) : Prop where
  kernel : s.cpu.getPSWRunmode = 0
  physical : s.mmu.isEnabled = false
  idle : s.cpu.anyQueuedInterrupts = false

def sight (s : Machine δ) : Sight δ where
  reg := s.cpu.getRegister
  codes := s.cpu.conditionCodes
  ram := s.ram
  attached := s.attached
  devices := s.devices

end Machine

variable {δ : Type}

/-- From the bare machine that looks like `v` the program returns `a` on the
bare machine that looks like `v'`. -/
abbrev Does {α : Type} (v : Sight δ) (m : Exec δ α) (a : α) (v' : Sight δ) :
    Prop :=
  Yields Machine.Bare Machine.sight v m a v'

section Registers

variable {v : Sight δ}

theorem does_getRegister
    (nr : RegNr) :
    Does v (getRegister nr) (v.reg nr) v :=
  .view fun _ _ hv => by rw [← hv]; rfl

theorem does_getPC :
    Does v getPC (v.reg 7) v :=
  .view fun _ _ hv => by rw [← hv]; rfl

theorem does_getPSWRunmode :
    Does v getPSWRunmode 0 v :=
  .view fun _ hs _ => hs.kernel

/-- The registers after a register write. -/
theorem getRegister_setRegister_eq
    (c : Cpu) (nr : RegNr) (value : Word) :
    (c.setRegister nr value).getRegister =
      Function.update c.getRegister nr value := by
  funext nr'
  by_cases h : nr' = nr
  · subst h
    rw [Function.update_self, Cpu.getRegister_setRegister]
  · rw [Function.update_of_ne h, Cpu.getRegister_setRegister_of_ne _ _ h]

theorem does_setRegister
    (nr : RegNr) (value : Word) :
    Does v (setRegister nr value) () (v.set nr value) := by
  refine .update fun s hs hv => ⟨⟨?_, hs.physical, ?_⟩, ?_⟩
  · exact (Cpu.setRegister_runmode _ _ _).trans hs.kernel
  · obtain ⟨_, _, _, h⟩ := s.cpu.setRegister_eq nr value
    change (s.cpu.setRegister nr value).anyQueuedInterrupts = false
    rw [h]
    exact hs.idle
  · subst hv
    unfold Machine.sight Sight.set
    simp only [getRegister_setRegister_eq, Cpu.setRegister_conditionCodes]

theorem does_setPC
    (value : Word) :
    Does v (setPC value) () (v.set 7 value) :=
  does_setRegister 7 value

theorem does_addRegister
    (nr : RegNr) (value : Word) :
    Does v (addRegister nr value) (v.reg nr + value)
      (v.set nr (v.reg nr + value)) := by
  have hadd : Does v (modifyCpu fun c => c.addRegister nr value) ()
      (v.set nr (v.reg nr + value)) := by
    intro s hs hv
    have hreg : v.reg nr = s.cpu.getRegister nr := by
      rw [← hv]
      rfl
    rw [hreg]
    exact does_setRegister nr _ s hs hv
  have hget := does_getRegister (v := v.set nr (v.reg nr + value)) nr
  rw [Sight.set_reg_self] at hget
  exact hadd.bind hget

/-- A program that sets the condition codes. -/
theorem does_setsCodes
    {f : ConditionCodes → ConditionCodes} {m : Exec δ Unit}
    (h : SetsCodes f m) :
    Does v m () { v with codes := f v.codes } := by
  intro s hs hv
  obtain ⟨c, hrun, honly, hcodes⟩ := h s
  refine ⟨_, hrun, ⟨?_, hs.physical, ?_⟩, ?_⟩
  · exact (Cpu.getPSWRunmode_of_upper honly.upper).trans hs.kernel
  · change c.anyQueuedInterrupts = false
    rw [honly.rest]
    exact hs.idle
  · subst hv
    have hreg : c.getRegister = s.cpu.getRegister :=
      funext honly.getRegister_eq
    unfold Machine.sight Machine.withCpu
    simp only [hreg, hcodes]

theorem does_logEvent
    (e : Event) :
    Does v (logEvent e) () v :=
  .update fun _ hs hv => ⟨⟨hs.kernel, hs.physical, hs.idle⟩, hv⟩

/-- A change of the MMU that leaves it off. -/
theorem does_modifyMmu
    {f : Mmu → Mmu} (h : ∀ m, (f m).isEnabled = m.isEnabled) :
    Does v (modifyMmu f) () v :=
  .update fun s hs hv =>
    ⟨⟨hs.kernel, (h s.mmu).trans hs.physical, hs.idle⟩, hv⟩

/-- The record of an address mode in MMR1 is not seen. -/
theorem does_addToMMR1
    (reg : RegNr) {delta : Int} (hdelta : -2 ≤ delta ∧ delta ≤ 2) :
    Does v (addToMMR1 reg delta) () v := by
  intro s hs hv
  refine ⟨_, addToMMR1_apply reg s hdelta, ?_⟩
  split
  · exact ⟨hs, hv⟩
  · exact ⟨⟨hs.kernel, hs.physical, hs.idle⟩, hv⟩

end Registers

section Targets

variable {s : Machine δ}

/-- With the MMU off the I/O page is the last page of the 16-bit space. -/
theorem Machine.Bare.ioBase
    (hs : s.Bare) :
    s.mmu.ioBase = 0o160000 := by
  have hphysical := hs.physical
  unfold Mmu.isEnabled at hphysical
  rw [decide_eq_false_iff_not] at hphysical
  rw [s.mmu.ioBase_eq]
  unfold ioBaseOf
  rw [if_neg hphysical]

theorem Machine.Bare.target
    (hs : s.Bare) (runMode : RunMode) (a : Word) (space : Space) :
    s.target runMode a space =
      s.mmu.dispatch s.ram.size (a.setWidth 32)
        ((activePageField a).setWidth 6) := by
  unfold Machine.target
  rw [Mmu.target_of_permits (fun henabled => ?_)]
  · unfold Mmu.physical Mmu.physicalPage
    rw [hs.physical]
    rfl
  · rw [hs.physical] at henabled
    cases henabled

/-- An address of memory. -/
theorem Machine.Bare.target_memory
    (hs : s.Bare) (runMode : RunMode) {a : Word} (space : Space)
    (ha : a < 0o160000) (hsize : a.setWidth 32 < s.ram.size) :
    s.target runMode a space =
      .ram (a.setWidth 32) ((activePageField a).setWidth 6) := by
  rw [hs.target]
  unfold Mmu.dispatch
  rw [hs.ioBase, if_neg (by bv_omega), if_neg (by bv_omega)]

/-- An address of the I/O page. -/
theorem Machine.Bare.target_io
    (hs : s.Bare) (runMode : RunMode) {a : Word} (space : Space)
    (ha : 0o160000 ≤ a) :
    s.target runMode a space = .io a := by
  rw [hs.target]
  unfold Mmu.dispatch
  have hbase : (0o160000 : PhysAddr) ≤ a.setWidth 32 := by
    bv_omega
  have haddress : Bus.ioAddress (a.setWidth 32) 0o160000 = a := by
    have hlt := a.isLt
    refine BitVec.eq_of_toNat_eq ?_
    rw [ioAddress_toNat hbase, BitVec.toNat_setWidth]
    change (a.toNat % 2 ^ 32 - 0o160000 + 0o160000) % 2 ^ 16 = a.toNat
    bv_omega
  rw [hs.ioBase, if_pos hbase, haddress]

end Targets

section References

variable {v : Sight δ}

theorem does_noteAbort
    {α : Type} {m : Exec δ α} {a : α} {v' : Sight δ} (h : Does v m a v') :
    Does v (noteAbort m) a v' := by
  intro s hs hv
  obtain ⟨t, hrun, ht⟩ := h s hs hv
  exact ⟨t, noteAbort_of_ok hrun, ht⟩

/-- The reply of a device that asks for no interrupt. -/
theorem does_takeReply
    {α : Type} {r : DeviceReply δ α} (hquiet : r.requests = []) :
    Does v (takeReply r) r.value { v with devices := r.devices } := by
  intro s hs hv
  subst hv
  refine ⟨_, rfl, ?_, ?_⟩
  · rw [hquiet]
    exact ⟨hs.kernel, hs.physical, hs.idle⟩
  · rw [hquiet]
    rfl

/-- The effect of a device that asks for no interrupt. -/
theorem does_takeEffect
    {e : DeviceEffect δ} (hquiet : e.requests = []) :
    Does v (takeEffect e) ()
      { v with
        ram := { e.ram with size := v.ram.size }
        devices := e.devices } := by
  intro s hs hv
  subst hv
  refine ⟨_, rfl, ?_, ?_⟩
  · rw [hquiet]
    exact ⟨hs.kernel, hs.physical, hs.idle⟩
  · rw [hquiet]
    rfl

variable [UnibusDevices δ]

/-- A reference to memory that reads. -/
theorem does_read
    {wordMode : WordMode} {a : Word} (h : v.InMemory wordMode a)
    (runMode : RunMode) (space : Space) :
    Does v (Bus.read a wordMode runMode space) (v.load wordMode a) v := by
  intro s hs hv
  subst hv
  have htarget := hs.target_memory runMode space h.1 h.2.1
  have haligned : wordMode = .wmWord →
      (a.setWidth 32 : PhysAddr).toNat % 2 = 0 := by
    intro hword
    have := h.2.2 hword
    bv_omega
  exact ⟨_, Bus.read_ramAt htarget haligned,
    ⟨hs.kernel, hs.physical, hs.idle⟩, rfl⟩

/-- A reference to memory that writes. -/
theorem does_write
    {wordMode : WordMode} {a : Word} (h : v.InMemory wordMode a)
    (value : Word) (runMode : RunMode) (space : Space) :
    Does v (Bus.write a wordMode value runMode space) false
      (v.store wordMode a value) := by
  intro s hs hv
  subst hv
  have htarget := hs.target_memory runMode space h.1 h.2.1
  have haligned : wordMode = .wmWord →
      (a.setWidth 32 : PhysAddr).toNat % 2 = 0 := by
    intro hword
    have := h.2.2 hword
    bv_omega
  exact ⟨_, Bus.write_ramAt value htarget haligned,
    ⟨hs.kernel, hs.physical, hs.idle⟩, rfl⟩

/-- A register address of a disk controller; the bus has no register of its
own there. -/
def DiskRegister (a : Word) : Prop :=
  (0o174000 ≤ a ∧ a < 0o177000) ∨ (0o177400 ≤ a ∧ a < 0o177416)

instance (a : Word) : Decidable (DiskRegister a) :=
  inferInstanceAs (Decidable (_ ∨ _))

theorem DiskRegister.ne
    {a : Word} (ha : DiskRegister a) {b : Word} (hb : ¬ DiskRegister b) :
    a ≠ b := by
  rintro rfl
  exact hb ha

/-- A byte of a device register. -/
theorem does_deviceReadByte
    {slot : Slot} {a : Word} (ha : DiskRegister a)
    (hslot : deviceAt v.attached a = some slot)
    (hquiet : (UnibusDevices.readByte slot a v.devices).requests = [])
    (runMode : RunMode) (space : Space) :
    Does v (Bus.read a .wmByte runMode space)
      ((UnibusDevices.readByte slot a v.devices).value.setWidth 16)
      { v with
        devices := (UnibusDevices.readByte slot a v.devices).devices } := by
  have hrange := ha
  unfold DiskRegister at hrange
  have hgeneral : ∀ c, generalRegister c a = none := by
    intro c
    unfold generalRegister
    rw [if_neg (by unfold addrKernelR; bv_omega),
      if_neg (by unfold addrUserR; bv_omega), if_neg (ha.ne (by decide)),
      if_neg (ha.ne (by decide)), if_neg (ha.ne (by decide)),
      if_neg (ha.ne (by decide))]
  have hwindow : inMmuWindow a = false :=
    decide_eq_false (by bv_omega)
  have hcache : inCacheControl a = false :=
    decide_eq_false (by bv_omega)
  have hmap : inUnibusMap a = false :=
    decide_eq_false (by bv_omega)
  have hparity : inParity a = false :=
    decide_eq_false (by bv_omega)
  have hpir : ¬ (a = addrPir ∨ a = addrPir + 1) := by
    rintro (h | h)
    · exact ha.ne (by decide) h
    · exact ha.ne (by decide) h
  have hplain : ∀ u : Machine δ, plainRegister u a .wmByte = none := by
    intro u
    simp only [plainRegister, if_neg (ha.ne (b := addrPsw) (by decide)),
      if_neg (ha.ne (b := addrPsw + 1) (by decide)),
      if_neg (ha.ne (b := addrStacklim) (by decide)),
      if_neg (ha.ne (b := addrStacklim + 1) (by decide)),
      if_neg (ha.ne (b := addrMicroprogBreakReg) (by decide)),
      if_neg (ha.ne (b := addrMicroprogBreakReg + 1) (by decide)),
      if_neg (ha.ne (b := addrMmr0) (by decide)),
      if_neg (ha.ne (b := addrMmr0 + 1) (by decide))]
  have hread : ∀ s : Machine δ, s.attached = v.attached →
      readIoVia trap a .wmByte (activePageField a) s =
        (logEvent (.readIo a .wmByte) >>= fun _ =>
          deviceRead slot a .wmByte) s := by
    intro s hattached
    unfold readIoVia
    simp only [logEvent, update_bind_apply, cpuView_bind_apply, hgeneral,
      hpir, hwindow, hcache, hmap, hparity, hplain, reduceCtorEq, and_false,
      if_neg (ha.ne (b := addrCpuErr) (by decide)),
      if_neg (ha.ne (b := addrMaint) (by decide)),
      if_neg (ha.ne (b := addrConsw) (by decide)),
      if_neg (ha.ne (b := addrSystemId) (by decide)),
      if_neg (ha.ne (b := addrLfc) (by decide)),
      if_neg (ha.ne (b := addrLp11Csr) (by decide)),
      Bool.false_eq_true, if_false, view_bind_apply, readDeviceIoVia,
      hattached, hslot]
  have hdevice : Does v (deviceRead slot a .wmByte)
      ((UnibusDevices.readByte slot a v.devices).value.setWidth 16)
      { v with
        devices := (UnibusDevices.readByte slot a v.devices).devices } := by
    have hbyte : Does v (deviceReadByte slot a)
        (UnibusDevices.readByte slot a v.devices).value
        { v with
          devices := (UnibusDevices.readByte slot a v.devices).devices } := by
      refine .view_bind fun s hs hv => ?_
      have hdevices : s.devices = v.devices := congrArg Sight.devices hv
      rw [hdevices]
      exact does_takeReply hquiet
    exact hbyte.bind (.pure _)
  have hlogged : Does v
      (logEvent (.readIo a .wmByte) >>= fun _ => deviceRead slot a .wmByte)
      ((UnibusDevices.readByte slot a v.devices).value.setWidth 16)
      { v with devices := (UnibusDevices.readByte slot a v.devices).devices } :=
    (does_logEvent _).bind hdevice
  intro s hs hv
  rw [Bus.read_eq, hs.target_io runMode space (by bv_omega)]
  refine does_noteAbort (fun t ht htv => ?_) s hs hv
  have hattached : t.attached = v.attached := congrArg Sight.attached htv
  obtain ⟨u, hrun, hu⟩ := hlogged t ht htv
  exact ⟨u, (hread t hattached).trans hrun, hu⟩

/-- A word written to a device register. -/
theorem does_deviceWriteWord
    {slot : Slot} {a value : Word} (ha : DiskRegister a)
    (hslot : deviceAt v.attached a = some slot)
    (hquiet : (UnibusDevices.writeWord slot a value v.ram
      v.devices).requests = [])
    (runMode : RunMode) (space : Space) :
    Does v (Bus.write a .wmWord value runMode space) false
      { v with
        ram :=
          { (UnibusDevices.writeWord slot a value v.ram v.devices).ram with
            size := v.ram.size }
        devices :=
          (UnibusDevices.writeWord slot a value v.ram v.devices).devices } := by
  have hrange := ha
  unfold DiskRegister at hrange
  have hword : (writeWordRegister a value : Option (Exec δ Bool)) = none := by
    unfold writeWordRegister
    rw [if_neg (ha.ne (by decide)), if_neg (ha.ne (by decide)),
      if_neg (by unfold addrKernelR; bv_omega),
      if_neg (by unfold addrUserR; bv_omega), if_neg (ha.ne (by decide)),
      if_neg (ha.ne (by decide)), if_neg (ha.ne (by decide)),
      if_neg (ha.ne (by decide)), if_neg (ha.ne (by decide))]
  have hcommon : (writeCommonRegister a value : Option (Exec δ Unit)) =
      none := by
    simp only [writeCommonRegister,
      if_neg (ha.ne (b := addrCpuErr) (by decide)),
      if_neg (ha.ne (b := addrMmr3) (by decide)),
      if_neg (ha.ne (b := addrMmr0) (by decide)),
      if_neg (ha.ne (b := addrPir) (by decide))]
  let logged : Exec δ Bool := do
    logEvent (.writeIo a .wmWord)
    deviceWriteWord slot a value
    pure false
  have hwrite : ∀ s : Machine δ, s.attached = v.attached →
      writeIoVia trap a .wmWord (activePageField a) value s = logged s := by
    intro s hattached
    have hslot' : deviceAt s.attached a = some slot := by
      rw [hattached]
      exact hslot
    unfold writeIoVia
    simp only [hword, hcommon, if_neg (ha.ne (b := addrLfc) (by decide)),
      logEvent, update_bind_apply, view_bind_apply, hslot']
    rfl
  have hdevice : Does v (deviceWriteWord slot a value) ()
      { v with
        ram :=
          { (UnibusDevices.writeWord slot a value v.ram v.devices).ram with
            size := v.ram.size }
        devices :=
          (UnibusDevices.writeWord slot a value v.ram v.devices).devices } := by
    refine .view_bind fun s hs hv => ?_
    have hdevices : s.devices = v.devices := congrArg Sight.devices hv
    have hram : s.ram = v.ram := congrArg Sight.ram hv
    rw [hdevices, hram]
    exact does_takeEffect hquiet
  have hlogged : Does v logged false
      { v with
        ram :=
          { (UnibusDevices.writeWord slot a value v.ram v.devices).ram with
            size := v.ram.size }
        devices :=
          (UnibusDevices.writeWord slot a value v.ram v.devices).devices } :=
    (does_logEvent _).bind (hdevice.bind (.pure false))
  intro s hs hv
  rw [Bus.write_eq, hs.target_io runMode space (by bv_omega)]
  refine does_noteAbort (fun t ht htv => ?_) s hs hv
  have hattached : t.attached = v.attached := congrArg Sight.attached htv
  obtain ⟨u, hrun, hu⟩ := hlogged t ht htv
  exact ⟨u, (hwrite t hattached).trans hrun, hu⟩

end References

section Operands

variable [UnibusDevices δ] {v v' v'' : Sight δ} {reg : RegNr} {a : Word}

/-- The operand at an address. -/
def operandAt (wordMode : WordMode) (space : Space) (a value : Word) :
    GamRc where
  wordMode := wordMode
  space := space
  isAddr := true
  addr := a
  reg := 0
  value := value

/-- The space of an operand that a register names. -/
def registerSpace (reg : RegNr) : Space :=
  if reg = 7 then .iSpace else .dSpace

omit [UnibusDevices δ] in
theorem does_assertFits
    {value : Word} {wordMode : WordMode} (h : fits value wordMode = true) :
    Does v (assertThat .byteOperand
      (decide (value < 256) || decide (wordMode = .wmWord))) () v :=
  .ite_pos h (.pure ())

theorem does_getGAM_register
    (reg : RegNr) (readValue : Bool) :
    Does v (getGAM 0 reg .wmWord readValue)
      (registerOperand reg .wmWord (v.reg reg &&& wordModeMask .wmWord)) v :=
  .ite_pos rfl ((does_getRegister reg).bind (.pure _))

theorem does_getGAM
    {mode : RegNr} {wordMode : WordMode} {readValue : Bool}
    {space readSpace : Space} {value : Word} (hmode : mode ≠ 0)
    (haddress : Does v (gamAddress mode reg wordMode 0)
      (a, space, readSpace) v')
    (hread : Does v'
      (if readValue then Bus.read a wordMode 0 readSpace else pure 0)
      value v'')
    (hvalue : fits value wordMode = true) :
    Does v (getGAM mode reg wordMode readValue)
      (operandAt wordMode space a value) v'' := by
  refine .ite_neg hmode ?_
  refine does_getPSWRunmode.bind (haddress.bind (hread.bind ?_))
  exact (does_assertFits hvalue).bind (.pure _)

theorem does_putGAM_register
    (reg : RegNr) {wordMode : WordMode} {old value : Word}
    (hvalue : fits value wordMode = true) :
    Does v (putGAM (registerOperand reg wordMode old) value) true
      (v.set reg value) := by
  refine (does_assertFits hvalue).bind (.ite_neg nofun ?_)
  exact (does_setRegister reg value).bind (.pure true)

/-- (Rn). -/
theorem does_gamAddress_deferred
    (wordMode : WordMode) :
    Does v (gamAddress 1 reg wordMode 0)
      (v.reg reg, registerSpace reg, registerSpace reg) v :=
  (does_getRegister reg).bind (.pure _)

/-- #n. -/
theorem does_gamAddress_immediate :
    Does v (gamAddress 2 7 .wmWord 0) (v.reg 7, .iSpace, .iSpace)
      (v.set 7 (v.reg 7 + 2)) := by
  refine (does_getRegister 7).bind ((does_addRegister 7 2).bind ?_)
  exact (does_addToMMR1 7 (autoDelta_range 7 .wmWord)).bind (.pure _)

/-- -(Rn). -/
theorem does_gamAddress_decrement :
    Does v (gamAddress 4 reg .wmWord 0)
      (v.reg reg - 2, .dSpace, registerSpace reg)
      (v.set reg (v.reg reg - 2)) := by
  have hdelta : BitVec.ofInt 16 (-autoDelta reg .wmWord) = -2 := by
    unfold autoDelta
    rw [if_pos (Or.inl rfl)]
    rfl
  have hadd := does_addRegister (v := v) reg
    (BitVec.ofInt 16 (-autoDelta reg .wmWord))
  rw [show v.reg reg + BitVec.ofInt 16 (-autoDelta reg .wmWord) =
    v.reg reg - 2 by rw [hdelta, BitVec.sub_eq_add_neg]] at hadd
  have hrecord := does_addToMMR1 (v := v.set reg (v.reg reg - 2)) reg
    (neg_autoDelta_range reg .wmWord)
  exact Yields.bind hadd (Yields.bind hrecord (.pure _))

/-- x(Rn). -/
theorem does_gamAddress_indexed
    (hreg : reg ≠ 7) (h : v.InMemory .wmWord (v.reg 7)) :
    Does v (gamAddress 6 reg .wmWord 0)
      (v.reg reg + v.load .wmWord (v.reg 7), .dSpace, .dSpace)
      (v.set 7 (v.reg 7 + 2)) := by
  refine does_getPC.bind ((does_read h 0 .iSpace).bind ?_)
  refine (does_addRegister 7 2).bind ?_
  have hbase := does_getRegister (v := v.set 7 (v.reg 7 + 2)) reg
  rw [Sight.set_reg_of_ne _ _ hreg] at hbase
  exact hbase.bind (.pure _)

end Operands

section Instructions

variable [UnibusDevices δ] {v v' v'' : Sight δ} {reg : RegNr} {a : Word}

/-- The condition codes after a word has been moved. -/
def movCodes (x : Word) (old : ConditionCodes) : ConditionCodes :=
  ⟨sign x .wmWord, isZero x .wmWord, false, old.c⟩

/-- Sees the same but for the condition codes. -/
def Sight.withCodes (v : Sight δ) (codes : ConditionCodes) : Sight δ :=
  { v with codes := codes }

/-- The immediate operand of an instruction. -/
theorem does_immediate
    (h : v.InMemory .wmWord (v.reg 7)) :
    Does v (getGAM 2 7 .wmWord true)
      (operandAt .wmWord .iSpace (v.reg 7) (v.load .wmWord (v.reg 7)))
      (v.set 7 (v.reg 7 + 2)) := by
  refine does_getGAM (by decide) does_gamAddress_immediate ?_ (fits_word _)
  exact does_read (v := v.set 7 (v.reg 7 + 2)) h 0 .iSpace

/-- MOV #n,Rn. -/
theorem does_movToRegister
    (h : v.InMemory .wmWord (v.reg 7)) :
    Does v (opMov 2 7 0 reg .wmWord) true
      (((v.set 7 (v.reg 7 + 2)).set reg (v.load .wmWord (v.reg 7))).withCodes
        (movCodes (v.load .wmWord (v.reg 7)) v.codes)) := by
  have hput : Does (v.set 7 (v.reg 7 + 2)) (do
      let gDst ← getGAMAddress 0 reg .wmWord
      putGAM gDst (v.load .wmWord (v.reg 7))) true
      ((v.set 7 (v.reg 7 + 2)).set reg (v.load .wmWord (v.reg 7))) := by
    refine (does_getGAM_register reg false).bind ?_
    exact does_putGAM_register reg (fits_word _)
  have hflags := does_setsCodes
    (v := (v.set 7 (v.reg 7 + 2)).set reg (v.load .wmWord (v.reg 7)))
    (.setPSWFlagsNzv (v.load .wmWord (v.reg 7)) .wmWord)
  refine (does_immediate h).bind (Yields.bind (.ite_neg ?_ hput)
    (hflags.bind (.pure true)))
  rintro ⟨hbyte, -⟩
  cases hbyte

/-- MOV #n to an operand with an address. -/
theorem does_movToAddress
    {mode : RegNr} {space readSpace : Space} (hmode : mode ≠ 0)
    (h : v.InMemory .wmWord (v.reg 7))
    (haddress : Does (v.set 7 (v.reg 7 + 2)) (gamAddress mode reg .wmWord 0)
      (a, space, readSpace) v')
    (hwrite : Does v'
      (Bus.write a .wmWord (v.load .wmWord (v.reg 7)) 0 space) false v'') :
    Does v (opMov 2 7 mode reg .wmWord) true
      (v''.withCodes (movCodes (v.load .wmWord (v.reg 7)) v''.codes)) := by
  have hput : Does (v.set 7 (v.reg 7 + 2)) (do
      let gDst ← getGAMAddress mode reg .wmWord
      putGAM gDst (v.load .wmWord (v.reg 7))) true v'' := by
    refine Yields.bind (does_getGAM hmode haddress (.pure 0) rfl) ?_
    refine (does_assertFits (fits_word _)).bind (.ite_pos rfl ?_)
    exact does_getPSWRunmode.bind (hwrite.bind (.pure true))
  have hflags := does_setsCodes (v := v'')
    (.setPSWFlagsNzv (v.load .wmWord (v.reg 7)) .wmWord)
  refine (does_immediate h).bind (Yields.bind (.ite_neg ?_ hput)
    (hflags.bind (.pure true)))
  rintro ⟨hbyte, -⟩
  cases hbyte

/-- TSTB (Rn). -/
theorem does_tstByte
    {value : Word} (hvalue : fits value .wmByte = true)
    (hread : Does v (Bus.read (v.reg reg) .wmByte 0 (registerSpace reg))
      value v') :
    Does v (opTst 1 reg .wmByte) true
      (v'.withCodes
        ⟨sign value .wmByte, isZero value .wmByte, false, false⟩) := by
  have hget : Does v (getGAM 1 reg .wmByte true)
      (operandAt .wmByte (registerSpace reg) (v.reg reg) value) v' :=
    does_getGAM (by decide) (does_gamAddress_deferred .wmByte) hread hvalue
  refine hget.bind ?_
  exact (does_setsCodes (.setPSWFlagsNzv value .wmByte)).bind
    ((does_setsCodes (.setPSWc false)).bind (.pure true))

omit [UnibusDevices δ] in
/-- BPL after a negative value. -/
theorem does_bpl_not_taken
    {instr : Word} (hinstr : ((instr >>> 8).setWidth 8 : BitVec 8) = 0b10000000)
    (hcodes : v.codes.n = true) :
    Does v (conditionalBranchInstructions instr) true v := by
  refine .view_bind fun s hs hv => ?_
  have hn : s.cpu.getPSWn = true := by
    rw [← hv] at hcodes
    exact hcodes
  unfold conditionalBranchInstructionsEvaluate
  rw [hinstr]
  simp only [hn, Bool.not_true]
  exact .bind (.pure ()) (.pure true)

/-- CLR Rn. -/
theorem does_clrRegister :
    Does v (opClr 0 reg .wmWord) true
      ((v.set reg 0).withCodes ⟨false, true, false, false⟩) := by
  have hput : Does v (do
      let gDst ← getGAMAddress 0 reg .wmWord
      putGAM gDst 0) true (v.set reg 0) := by
    refine (does_getGAM_register reg false).bind ?_
    exact does_putGAM_register reg (fits_word _)
  have hflags := does_setsCodes (v := v.set reg 0)
    ((SetsCodes.setPSWn false).bind ((SetsCodes.setPSWz true).bind
      ((SetsCodes.setPSWv false).bind (.setPSWc false))))
  refine Yields.bind (.ite_neg ?_ hput) (hflags.bind (.pure true))
  rintro ⟨hbyte, -⟩
  cases hbyte

/-- JMP (Rn). -/
theorem does_jmpDeferred :
    Does v (opJmp 1 reg) true (v.set 7 (v.reg reg)) := by
  refine .ite_neg (by decide) ?_
  have hget : Does v (getGAM 1 reg .wmWord false)
      (operandAt .wmWord (registerSpace reg) (v.reg reg) 0) v :=
    does_getGAM (by decide) (does_gamAddress_deferred .wmWord) (.pure 0) rfl
  refine hget.bind ?_
  exact (does_setPC _).bind (.pure true)

end Instructions

section Steps

variable [UnibusDevices δ] {v v' : Sight δ}

theorem does_fetchInstruction
    (h : v.InMemory .wmWord (v.reg 7)) :
    Does v fetchInstruction (v.load .wmWord (v.reg 7))
      (v.set 7 (v.reg 7 + 2)) := by
  have hstart := does_modifyMmu (v := v)
    (f := fun m => m.mmrStartInstruction (v.reg 7)) fun m =>
      (Mmu.SameMapping.mmrStartInstruction m (v.reg 7)).isEnabled
  have hread : Does v (Bus.readWord (v.reg 7) .iSpace)
      (v.load .wmWord (v.reg 7)) v :=
    does_getPSWRunmode.bind (does_read h 0 .iSpace)
  refine does_getPC.bind (hstart.bind (hread.bind ?_))
  exact (does_addRegister 7 2).bind (.pure _)

/-- Nothing is queued before the instruction. -/
theorem does_serviceInterrupts :
    Does v serviceInterrupts () v := by
  refine .view_bind fun s hs _ => ?_
  simp only [hs.idle]
  have hclear : Does v
      (modifyCpu fun c => { c with anyQueuedInterrupts := false }) () v :=
    .update fun t ht hv => ⟨⟨ht.kernel, ht.physical, rfl⟩, hv⟩
  exact hclear.bind (.pure ())

theorem does_executeInstruction
    {instr : Word} {operation : Operation}
    (hdecode : decode instr = some operation)
    (hop : Does v operation.execute true v') :
    Does v (executeInstruction instr) true v' := by
  have hruns := executeInstruction_runs (δ := δ) instr
  rw [hdecode] at hruns
  generalize (executeInstruction instr : Exec δ Bool) = m at hruns ⊢
  cases hruns with
  | operation _ rest =>
      exact hop.bind (.ite_pos rfl (.pure true))

/-- One step of the machine. -/
theorem does_step
    {instr : Word} {operation : Operation}
    (h : v.InMemory .wmWord (v.reg 7))
    (hload : v.load .wmWord (v.reg 7) = instr)
    (hdecode : decode instr = some operation)
    (hop : Does (v.set 7 (v.reg 7 + 2)) operation.execute true v') :
    Does v step true v' := by
  have hcount : Does v (modifyCpu fun c =>
      { c with instructionsExecuted := c.instructionsExecuted + 1 }) () v :=
    .update fun s hs hv => ⟨⟨hs.kernel, hs.physical, hs.idle⟩, hv⟩
  subst hload
  have hexecute := does_executeInstruction hdecode hop
  refine hcount.bind (does_serviceInterrupts.bind (.rescue ?_))
  exact (does_fetchInstruction h).bind
    (hexecute.bind (.ite_pos rfl (.pure true)))

end Steps

end KekPdp11
