import KekPdp11.Machine

/-!
# KEK PDP-11: the bus

The members of class bus that move data between the processor, memory and the
I/O page, with the members of class mmu that trap and throw.

Bus references trap and trap entry makes bus references.  This module opens
that recursion: whatever can enter a trap takes `trap`, the call of cpu::trap,
as a parameter, and its name ends in `Via`.  The module TrapEntry ties the
knot.
-/

namespace KekPdp11

open StateExcept

/-- Calls of cpu::trap. -/
abbrev TrapCall (δ : Type) := Word → Option Level → Exec δ Unit

section Addresses

def addrPsw : Word := 0o177776
def addrStacklim : Word := 0o177774
def addrPir : Word := 0o177772
def addrMicroprogBreakReg : Word := 0o177770
def addrCpuErr : Word := 0o177766
def addrSystemId : Word := 0o177764
def addrSyssize : Word := 0o177760
def addrMaint : Word := 0o177750
def addrUserSp : Word := 0o177717
def addrSvSp : Word := 0o177716
def addrUserR : Word := 0o177710
def addrPc : Word := 0o177707
def addrKernelSp : Word := 0o177706
def addrKernelR : Word := 0o177700
def addrMmr2 : Word := 0o177576
def addrMmr1 : Word := 0o177574
def addrMmr0 : Word := 0o177572
def addrConsw : Word := 0o177570
def addrLfc : Word := 0o177546
def addrLp11Csr : Word := 0o177514
def addrMmr3 : Word := 0o172516

/-- The devices that the bus dispatches to by address range, in the order in
which it looks at them, with the first address and the end of each range. -/
def deviceRanges : List (Slot × Word × Word) :=
  [(.tm11, 0o172520, 0o172534),
   (.rk05, 0o177400, 0o177416),
   (.rl02, 0o174400, 0o174410),
   (.tty, 0o177560, 0o177570),
   (.dc11, 0o174000, 0o174042),
   (.dz11, 0o160100, 0o160110),
   (.rp06, 0o176700, 0o176752),
   (.deqna, 0o174440, 0o174460)]

/-- The first attached device whose range holds the address. -/
def deviceAt (attached : Slot → Bool) (a : Word) : Option Slot :=
  (deviceRanges.find? fun r =>
    attached r.1 && decide (r.2.1 ≤ a) && decide (a < r.2.2)).map (·.1)

/-- The page register windows as read_IO and write_IO test for them. -/
def inMmuWindow (a : Word) : Bool :=
  decide ((0o172200 ≤ a ∧ a < 0o172300) ∨ (0o172300 ≤ a ∧ a < 0o172400) ∨
    (0o177600 ≤ a ∧ a < 0o177700))

def inCacheControl (a : Word) : Bool :=
  decide (0o177740 ≤ a ∧ a ≤ 0o177753)

def inUnibusMap (a : Word) : Bool :=
  decide (0o170200 ≤ a ∧ a ≤ 0o170377)

def inParity (a : Word) : Bool :=
  decide (0o172100 ≤ a ∧ a ≤ 0o172137)

/-- The number of the register at `a` in the window that starts at `base`. -/
def windowRegNr (base a : Word) : RegNr :=
  (a - base).setWidth 3

end Addresses

variable {δ : Type}

section Faults

variable (trap : TrapCall δ)

/-- Trap through 0250 for a reference the MMU refuses. -/
def mmuTrapVia : Exec δ Unit := do
  let c ← cpuView id
  let m ← mmuView id
  logEvent (.mmuFault c m)
  trap 0o250 none

def verifyPageAccessVia (page : PageIndex) (isWrite : Bool) : Exec δ Unit := do
  let trapAction ← mmuView fun m => m.getTrapAction page isWrite
  if trapAction = .tProceed then
    pure ()
  else do
    modifyMmu fun m =>
      m.latchMMR0
        (Mmu.accessAbortMMR0 m.mmr0 page isWrite (m.getAccessControl page))
    mmuTrapVia trap
    modifyMmu fun m => m.setCPUERRBit 10
    throwInt 5

def verifyPageLengthVia (virtAddr : Word) (page : PageIndex) : Exec δ Unit := do
  let fault ← mmuView fun m => m.pageLengthFault virtAddr page
  if fault then do
    modifyMmu fun m => m.latchMMR0 (Mmu.lengthAbortMMR0 m.mmr0 page)
    mmuTrapVia trap
    modifyMmu fun m => m.setCPUERRBit 10
    throwInt 7
  else
    pure ()

/-- mmu::calculate_physical_address for an access: address and page. -/
def calculatePhysicalAddressVia
    (runMode : RunMode) (a : Word) (isWrite : Bool) (space : Space) :
    Exec δ (PhysAddr × PageIndex) := do
  let relocated ← mmuView fun m =>
    m.isEnabled || (isWrite && decide (m.mmr0 &&& (1#16 <<< 8) ≠ 0))
  if relocated then do
    let page := Mmu.calcParPdrIndex runMode space (activePageField a)
    let mOffset ← mmuView fun m => m.relocate page a
    verifyPageAccessVia trap page isWrite
    verifyPageLengthVia trap a page
    pure (mOffset, page)
  else
    pure (a.setWidth 32, (activePageField a).setWidth 6)

def verifyPointerBoundsVia (mOffset : PhysAddr) (page : PageIndex) :
    Exec δ Unit := do
  let size ← view fun s => s.ram.size
  if size ≤ mOffset then do
    modifyMmu fun m => m.latchMMR0 (Mmu.boundsAbortMMR0 m.mmr0 page)
    mmuTrapVia trap
    throwInt 6
  else
    pure ()

/-- trap_if_odd and the throw that follows it. -/
def oddAbort {α : Type} (apf : BitVec 3) (number : Nat) : Exec δ α := do
  logEvent .oddAddress
  modifyMmu fun m => m.trapIfOdd apf
  throwInt number

/-- Note in the trace that a reference throws and whether it trapped. -/
def noteAbort {α : Type} (reference : Exec δ α) : Exec δ α :=
  fun s =>
    match reference s with
    | .ok a s' => .ok a s'
    | .error e s' =>
        .error e
          { s' with
            trace :=
              .aborted (decide (s.cpu.trapCounter < s'.cpu.trapCounter)) ::
                s'.trace }

end Faults

section IORegisters

/-- The value of a register at the width of the reference. -/
def atWidth (wordMode : WordMode) (v : Word) : Word :=
  match wordMode with
  | .wmByte => v &&& 0xff
  | .wmWord => v

/-- The general registers that read_IO looks at before anything else. -/
def generalRegister (c : Cpu) (a : Word) : Option Word :=
  if addrKernelR ≤ a ∧ a ≤ addrKernelR + 5 then
    some (c.getRegister (windowRegNr addrKernelR a))
  else if addrUserR ≤ a ∧ a ≤ addrUserR + 5 then
    some (c.getRegister (windowRegNr addrUserR a))
  else if a = addrKernelSp then some (c.sp 0)
  else if a = addrPc then some c.pc
  else if a = addrSvSp then some (c.sp 1)
  else if a = addrUserSp then some (c.sp 3)
  else none

/-- The registers whose value at byte or word width is fixed by the state of
the processor, the MMU and the bus itself. -/
def plainRegister (s : Machine δ) (a : Word) (wordMode : WordMode) :
    Option Word :=
  match wordMode with
  | .wmByte =>
      if a = addrPsw then some (s.cpu.psw &&& 0xff)
      else if a = addrPsw + 1 then some (s.cpu.psw >>> 8)
      else if a = addrStacklim then some (s.cpu.stackLimitRegister &&& 0xff)
      else if a = addrStacklim + 1 then some (s.cpu.stackLimitRegister >>> 8)
      else if a = addrMicroprogBreakReg then
        some (s.microprogramBreakRegister &&& 0xff)
      else if a = addrMicroprogBreakReg + 1 then
        some (s.microprogramBreakRegister >>> 8)
      else if a = addrMmr0 then some (s.mmu.mmr0 &&& 0xff)
      else if a = addrMmr0 + 1 then some (s.mmu.mmr0 >>> 8)
      else none
  | .wmWord =>
      if a = addrMmr0 then some s.mmu.mmr0
      else if a = addrMmr1 then some s.mmu.mmr1
      else if a = addrMmr2 then some s.mmu.mmr2
      else if a = addrMmr3 then some s.mmu.mmr3
      else if a = addrPsw then some s.cpu.psw
      else if a = addrStacklim then some s.cpu.stackLimitRegister
      else if a = addrCpuErr then some s.mmu.cpuerr
      else if a = addrMicroprogBreakReg then some s.microprogramBreakRegister
      else none

/-- The system size register pair, one less than the number of 64-byte blocks. -/
def systemSize (size : PhysAddr) : PhysAddr :=
  let systemSize := size / 64 - 1
  if systemSize = 0o177777 then 0o167777 else systemSize

/-- The loop of the PIR write: one more level for each significant bit. -/
def pirLoop : Nat → Word → Word → Word
  | 0, _, value => value
  | fuel + 1, bits, value =>
      if bits = 0 then value
      else pirLoop fuel (bits >>> 1) (value + 0o42)

/-- The value that a write to PIR leaves there; bits has seven bits. -/
def pirValue (value : Word) : Word :=
  let value := value &&& 0o177000
  pirLoop 7 (value >>> 9) value

/-- The cases of write_IO that come first for a byte; they return whether the
status word was written. -/
def writeByteRegister (a value : Word) : Option (Exec δ Bool) :=
  if a = addrPsw ∨ a = addrPsw + 1 then
    some do
      modifyCpu fun c =>
        c.setPSW (updateWord c.psw (isOdd a) (value.setWidth 8) &&& ~~~16)
          false
      pure true
  else if a = addrStacklim ∨ a = addrStacklim + 1 then
    some do
      modifyCpu fun c =>
        { c with
          stackLimitRegister :=
            updateWord c.stackLimitRegister (isOdd a) (value.setWidth 8) &&&
              0xff00 }
      pure false
  else if a = addrMicroprogBreakReg ∨ a = addrMicroprogBreakReg + 1 then
    some do
      update fun s =>
        { s with
          microprogramBreakRegister :=
            updateWord s.microprogramBreakRegister (isOdd a)
              (value.setWidth 8) }
      pure false
  else if a = addrMmr0 ∨ a = addrMmr0 + 1 then
    some do
      modifyMmu fun m =>
        m.setMMR0 (updateWord m.mmr0 (isOdd a) (value.setWidth 8))
      pure false
  else
    none

/-- The cases of write_IO that come first for a word. -/
def writeWordRegister (a value : Word) : Option (Exec δ Bool) :=
  if a = addrPsw then
    some do
      modifyCpu fun c => c.setPSW (value &&& ~~~16) false
      pure true
  else if a = addrStacklim then
    some do
      modifyCpu fun c => { c with stackLimitRegister := value &&& 0xff00 }
      pure false
  else if addrKernelR ≤ a ∧ a ≤ addrKernelR + 5 then
    some do
      setRegister (windowRegNr addrKernelR a) value
      pure false
  else if addrUserR ≤ a ∧ a ≤ addrUserR + 5 then
    some do
      setRegister (windowRegNr addrUserR a) value
      pure false
  else if a = addrKernelSp then
    some do
      modifyCpu fun c => c.setStackpointer 0 value
      pure false
  else if a = addrPc then
    some do
      setPC value
      pure false
  else if a = addrSvSp then
    some do
      modifyCpu fun c => c.setStackpointer 1 value
      pure false
  else if a = addrUserSp then
    some do
      modifyCpu fun c => c.setStackpointer 3 value
      pure false
  else if a = addrMicroprogBreakReg then
    some do
      update fun s =>
        { s with microprogramBreakRegister := value &&& 0xff }
      pure false
  else
    none

/-- The registers that write_IO treats alike for bytes and words. -/
def writeCommonRegister (a value : Word) : Option (Exec δ Unit) :=
  if a = addrCpuErr then
    some (modifyMmu fun m => m.clrCPUERR)
  else if a = addrMmr3 then
    some (modifyMmu fun m => m.setMMR3 value)
  else if a = addrMmr0 then
    some (modifyMmu fun m => m.setMMR0 value)
  else if a = addrPir then
    some (modifyMmu fun m => m.setPIR (pirValue value))
  else
    none

/-- The addresses after the devices whose writes are accepted. -/
def writeTail (a value : Word) (wordMode : WordMode) : Option (Exec δ Unit) :=
  if inParity a then
    some (pure ())
  else if inMmuWindow a then
    some (modifyMmu fun m =>
      match wordMode with
      | .wmWord => m.writeWord a value
      | .wmByte => m.writeByte a (value.setWidth 8))
  else if inCacheControl a then
    some (pure ())
  else if inUnibusMap a then
    some (pure ())
  else if a = addrConsw then
    some (update fun s => { s with consoleLeds := value })
  else if a = addrSyssize ∨ a = addrSyssize + 2 then
    some (pure ())
  else if a = addrSystemId then
    some (pure ())
  else
    none

/-- One branch of a chain of cases. -/
theorem eq_or_of_ite_some
    {α : Type} {c : Prop} [Decidable c] {x y : α} {rest : Option α}
    (h : (if c then some x else rest) = some y) :
    (c ∧ y = x) ∨ rest = some y := by
  split at h
  · next hc =>
      exact .inl ⟨hc, (Option.some.inj h).symm⟩
  · exact .inr h

/-- What a word write to a register of the first cases does. -/
theorem writeWordRegister_cases
    {a value : Word} {write : Exec δ Bool}
    (h : writeWordRegister a value = some write) :
    (a = addrPsw ∧ write = do
      modifyCpu fun c => c.setPSW (value &&& ~~~16) false
      pure true) ∨
    ∃ m : Exec δ Unit, (write = do m; pure false) ∧
      ((m = modifyCpu fun c =>
          { c with stackLimitRegister := value &&& 0xff00 }) ∨
        (∃ nr, m = setRegister nr value) ∨
        (∃ runMode, m = modifyCpu fun c => c.setStackpointer runMode value) ∨
        m = setPC value ∨
        m = update fun s =>
          { s with microprogramBreakRegister := value &&& 0xff }) := by
  unfold writeWordRegister at h
  rcases eq_or_of_ite_some h with ⟨ha, rfl⟩ | h
  · exact .inl ⟨ha, rfl⟩
  right
  rcases eq_or_of_ite_some h with ⟨-, rfl⟩ | h
  · exact ⟨_, rfl, .inl rfl⟩
  rcases eq_or_of_ite_some h with ⟨-, rfl⟩ | h
  · exact ⟨_, rfl, .inr (.inl ⟨_, rfl⟩)⟩
  rcases eq_or_of_ite_some h with ⟨-, rfl⟩ | h
  · exact ⟨_, rfl, .inr (.inl ⟨_, rfl⟩)⟩
  rcases eq_or_of_ite_some h with ⟨-, rfl⟩ | h
  · exact ⟨_, rfl, .inr (.inr (.inl ⟨0, rfl⟩))⟩
  rcases eq_or_of_ite_some h with ⟨-, rfl⟩ | h
  · exact ⟨_, rfl, .inr (.inr (.inr (.inl rfl)))⟩
  rcases eq_or_of_ite_some h with ⟨-, rfl⟩ | h
  · exact ⟨_, rfl, .inr (.inr (.inl ⟨1, rfl⟩))⟩
  rcases eq_or_of_ite_some h with ⟨-, rfl⟩ | h
  · exact ⟨_, rfl, .inr (.inr (.inl ⟨3, rfl⟩))⟩
  rcases eq_or_of_ite_some h with ⟨-, rfl⟩ | h
  · exact ⟨_, rfl, .inr (.inr (.inr (.inr rfl)))⟩
  cases h

/-- What a write to one of the addresses after the devices does. -/
theorem writeTail_cases
    {a value : Word} {wordMode : WordMode} {write : Exec δ Unit}
    (h : writeTail a value wordMode = some write) :
    write = pure () ∨
      (∃ f : Mmu → Mmu, write = modifyMmu f ∧
        ∀ m, ∃ pages, f m = { m with pages := pages }) ∨
      write = update fun s => { s with consoleLeds := value } := by
  unfold writeTail at h
  rcases eq_or_of_ite_some h with ⟨-, rfl⟩ | h
  · exact .inl rfl
  rcases eq_or_of_ite_some h with ⟨-, rfl⟩ | h
  · refine .inr (.inl ⟨_, rfl, fun m => ?_⟩)
    cases wordMode with
    | wmWord =>
        exact m.writeAt_eq a value .wmWord
    | wmByte =>
        exact m.writeAt_eq a _ .wmByte
  rcases eq_or_of_ite_some h with ⟨-, rfl⟩ | h
  · exact .inl rfl
  rcases eq_or_of_ite_some h with ⟨-, rfl⟩ | h
  · exact .inl rfl
  rcases eq_or_of_ite_some h with ⟨-, rfl⟩ | h
  · exact .inr (.inr rfl)
  rcases eq_or_of_ite_some h with ⟨-, rfl⟩ | h
  · exact .inl rfl
  rcases eq_or_of_ite_some h with ⟨-, rfl⟩ | h
  · exact .inl rfl
  cases h

end IORegisters

section InputOutput

variable [UnibusDevices δ] (trap : TrapCall δ)

/-- Device registers, then the system size, then the trap for no such I/O. -/
def readDeviceIoVia (a : Word) (wordMode : WordMode) : Exec δ Word := do
  let slot ← view fun s => deviceAt s.attached a
  match slot with
  | some slot => deviceRead slot a wordMode
  | none => do
      let size ← view fun s => systemSize s.ram.size
      if a = addrSyssize + 2 then
        pure ((size >>> 16).setWidth 16)
      else if a = addrSyssize then
        pure (size.setWidth 16)
      else do
        trap 0o4 none
        throwInt 1

/-- bus::read_IO. -/
def readIoVia (a : Word) (wordMode : WordMode) (apf : BitVec 3) :
    Exec δ Word := do
  logEvent (.readIo a wordMode)
  let register ← cpuView fun c => generalRegister c a
  match register with
  | some v => pure (atWidth wordMode v)
  | none =>
      if isOdd a ∧ wordMode = .wmWord then
        oddAbort apf 0
      else if a = addrCpuErr then
        mmuView fun m => m.cpuerr &&& 0xff
      else if a = addrMaint then
        pure 1
      else if a = addrConsw then
        view fun s => s.consoleSwitches
      else if a = addrPir ∨ a = addrPir + 1 then
        mmuView fun m =>
          match wordMode with
          | .wmWord => m.pir
          | .wmByte => if a = addrPir then m.pir &&& 255 else m.pir >>> 8
      else if a = addrSystemId then
        pure 0o011064
      else if a = addrLfc then
        deviceReadWord .kw11l a
      else if a = addrLp11Csr then
        pure 0x80
      else if inMmuWindow a then
        mmuView fun m =>
          match wordMode with
          | .wmWord => m.readWord a
          | .wmByte => (m.readByte a).setWidth 16
      else if inCacheControl a then
        pure 0
      else if inUnibusMap a then
        pure 0
      else if inParity a then
        pure 1
      else do
        let register ← view fun s => plainRegister s a wordMode
        match register with
        | some v => pure v
        | none => readDeviceIoVia trap a wordMode

/-- bus::write_IO; it returns whether the status word was written. -/
def writeIoVia (a : Word) (wordMode : WordMode) (page : BitVec 3)
    (value : Word) : Exec δ Bool := do
  logEvent (.writeIo a wordMode)
  let first :=
    match wordMode with
    | .wmByte => writeByteRegister a value
    | .wmWord => writeWordRegister a value
  match first with
  | some write => write
  | none =>
      match writeCommonRegister a value with
      | some write => do
          write
          pure false
      | none =>
          if a = addrLfc then do
            deviceWriteWord .kw11l a value
            pure false
          else do
            let slot ← view fun s => deviceAt s.attached a
            match slot with
            | some slot => do
                deviceWrite slot a wordMode value
                pure false
            | none =>
                match writeTail a value wordMode with
                | some write => do
                    write
                    pure false
                | none =>
                    if wordMode = .wmWord ∧ isOdd a then
                      oddAbort page 8
                    else do
                      trap 0o4 none
                      throwInt 9

end InputOutput

namespace Bus

variable [UnibusDevices δ] (trap : TrapCall δ)

/-- The address inside the I/O page as read and write hand it on. -/
def ioAddress (mOffset ioBase : PhysAddr) : Word :=
  (mOffset - ioBase + 0o160000).setWidth 16

/-- The part of bus::read that follows the translation. -/
def readAtVia (addrIn : Word) (wordMode : WordMode) (mOffset : PhysAddr)
    (page : PageIndex) : Exec δ Word := do
  let ioBase ← mmuView fun m => m.ioBase
  let apf := activePageField addrIn
  if ioBase ≤ mOffset then
    readIoVia trap (ioAddress mOffset ioBase) wordMode apf
  else do
    verifyPointerBoundsVia trap mOffset page
    modifyMmu fun m => m.setPageAccessed page
    match wordMode with
    | .wmByte => view fun s => (s.ram.readByte mOffset).setWidth 16
    | .wmWord =>
        if mOffset &&& 1 ≠ 0 then
          oddAbort apf 2
        else
          view fun s => s.ram.readWord mOffset

/-- bus::read. -/
def readVia (addrIn : Word) (wordMode : WordMode) (runMode : RunMode)
    (spaceIn : Space) : Exec δ Word :=
  noteAbort do
    let space ← mmuView fun m => m.referenceSpace runMode spaceIn
    let (mOffset, page) ←
      calculatePhysicalAddressVia trap runMode addrIn false space
    readAtVia trap addrIn wordMode mOffset page

/-- The part of bus::write that follows the translation. -/
def writeAtVia (addrIn : Word) (wordMode : WordMode) (value : Word)
    (mOffset : PhysAddr) (page : PageIndex) : Exec δ Bool := do
  let ioBase ← mmuView fun m => m.ioBase
  let apf := activePageField addrIn
  if ioBase ≤ mOffset then
    writeIoVia trap (ioAddress mOffset ioBase) wordMode apf value
  else do
    verifyPointerBoundsVia trap mOffset page
    modifyMmu fun m => m.setPageWrittenTo page
    match wordMode with
    | .wmByte => do
        update fun s =>
          { s with ram := s.ram.writeByte mOffset (value.setWidth 8) }
        pure false
    | .wmWord =>
        if mOffset &&& 1 ≠ 0 then
          oddAbort apf 10
        else do
          update fun s => { s with ram := s.ram.writeWord mOffset value }
          pure false

/-- bus::write; it returns whether the status word was written.  The
translation is asked for a read, as in the source. -/
def writeVia (addrIn : Word) (wordMode : WordMode) (value : Word)
    (runMode : RunMode) (spaceIn : Space) : Exec δ Bool :=
  noteAbort do
    let space ← mmuView fun m => m.referenceSpace runMode spaceIn
    let (mOffset, page) ←
      calculatePhysicalAddressVia trap runMode addrIn false space
    writeAtVia trap addrIn wordMode value mOffset page

/-- bus::read_word with a space. -/
def readWordVia (a : Word) (s : Space) : Exec δ Word := do
  let runMode ← getPSWRunmode
  readVia trap a .wmWord runMode s

/-- bus::write_word with a space. -/
def writeWordVia (a value : Word) (s : Space) : Exec δ Unit := do
  let runMode ← getPSWRunmode
  discard (writeVia trap a .wmWord value runMode s)

/-- bus::reset, for the devices in the order of the source. -/
def reset (hard : Bool) : Exec δ Unit := do
  logEvent .busReset
  modifyMmu fun m => m.reset hard
  [Slot.tm11, .rk05, .rl02, .tty, .kw11l, .dz11, .dc11, .rp06, .deqna].forM
    fun slot => do
      let attached ← view fun s => s.attached slot
      if attached then deviceReset slot hard else pure ()
  modifyMmu fun m => m.setMMR0 0
  modifyMmu fun m => m.setMMR3 0

end Bus

end KekPdp11
