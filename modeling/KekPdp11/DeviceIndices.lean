import KekPdp11.Bus
import KekPdp11.LineClock

/-!
# KEK PDP-11: the indices of device registers

Every device finds a register by half the distance of the address from its
base, and uses that number for its array of registers and for a table of
register names; the DC11 derives the number of a line from it as well.  The bus
hands a device the addresses from its base to an end of its own.

**Recording.**  To see what read_IO and write_IO hand to the devices, the
machine is given devices that do nothing but note the references made to them.
What trap entry reads and writes are references of their own and are left out.
-/

namespace KekPdp11

open StateExcept

/-- The four functions of the register interface. -/
inductive Access where
  | readByte
  | readWord
  | writeByte
  | writeWord
deriving DecidableEq, Repr

/-- The function of a width. -/
def Access.reading : WordMode → Access
  | .wmByte => .readByte
  | .wmWord => .readWord

def Access.writing : WordMode → Access
  | .wmByte => .writeByte
  | .wmWord => .writeWord

/-- A call of a device's register interface. -/
structure Reference where
  slot : Slot
  a : Word
  access : Access
deriving DecidableEq, Repr

/-- Devices that note the calls. -/
abbrev Recorder := List Reference

instance : UnibusDevices Recorder where
  readByte slot a d := ⟨0, ⟨slot, a, .readByte⟩ :: d, []⟩
  readWord slot a d := ⟨0, ⟨slot, a, .readWord⟩ :: d, []⟩
  writeByte slot a _ ram d := ⟨ram, ⟨slot, a, .writeByte⟩ :: d, []⟩
  writeWord slot a _ ram d := ⟨ram, ⟨slot, a, .writeWord⟩ :: d, []⟩
  reset _ _ d := d

/-- A call of cpu::trap whose own references are not looked at. -/
def unseenTrap {δ : Type} : TrapCall δ :=
  fun _ _ => pure ()

/-- What read_IO hands to the devices. -/
def handedByRead (s : Machine Recorder) (a : Word) (wordMode : WordMode)
    (apf : BitVec 3) : List Reference :=
  (final (readIoVia unseenTrap a wordMode apf { s with devices := [] })).devices

/-- What write_IO hands to the devices. -/
def handedByWrite (s : Machine Recorder) (a : Word) (wordMode : WordMode)
    (page : BitVec 3) (value : Word) : List Reference :=
  (final (writeIoVia unseenTrap a wordMode page value
    { s with devices := [] })).devices

section Arrays

/-- An array of `size` elements is used at `index`. -/
structure Subscript where
  size : Nat
  index : Int

def Subscript.InBounds (x : Subscript) : Prop :=
  0 ≤ x.index ∧ x.index < x.size

instance (x : Subscript) : Decidable x.InBounds :=
  inferInstanceAs (Decidable (0 ≤ x.index ∧ x.index < x.size))

/-- The register number that every device computes. -/
def regNr (base a : Word) : Int :=
  ((a.toNat : Int) - base.toNat).tdiv 2

/-- What a device with one array of registers uses its number for. -/
structure Layout where
  base : Word
  /-- Size of the array of registers. -/
  registers : Nat
  /-- Size of the table of names in read_word. -/
  readNames : Option Nat
  /-- Size of the table of names in write_word. -/
  writeNames : Option Nat
  /-- write_byte clears the low bit of the address for write_word. -/
  clearsLowBit : Bool

namespace Layout

def readWord (l : Layout) (a : Word) : List Subscript :=
  ⟨l.registers, regNr l.base a⟩ ::
    (l.readNames.map fun size => ⟨size, regNr l.base a⟩).toList

def readByte (l : Layout) (a : Word) : List Subscript :=
  l.readWord (a &&& ~~~1)

def writeWord (l : Layout) (a : Word) : List Subscript :=
  ⟨l.registers, regNr l.base a⟩ ::
    (l.writeNames.map fun size => ⟨size, regNr l.base a⟩).toList

def writeByte (l : Layout) (a : Word) : List Subscript :=
  ⟨l.registers, regNr l.base a⟩ ::
    l.writeWord (if l.clearsLowBit then a &&& ~~~1 else a)

def subscripts (l : Layout) (a : Word) : Access → List Subscript
  | .readByte => l.readByte a
  | .readWord => l.readWord a
  | .writeByte => l.writeByte a
  | .writeWord => l.writeWord a

end Layout

def tm11Layout : Layout := ⟨0o172520, 6, none, none, false⟩
def rk05Layout : Layout := ⟨0o177400, 7, some 7, none, false⟩
def rl02Layout : Layout := ⟨0o174400, 4, some 4, some 4, false⟩
def ttyLayout : Layout := ⟨0o177560, 4, some 4, some 4, false⟩
def dz11Layout : Layout := ⟨0o160100, 6, some 4, some 4, true⟩
def rp06Layout : Layout := ⟨0o176700, 32, some 17, some 17, true⟩
def deqnaLayout : Layout := ⟨0o174440, 8, none, none, false⟩

namespace Dc11

def base : Word := 0o174000
def nLines : Nat := 4

/-- read_word: the lock of the line, the registers, what the register needs of
the line, and the name. -/
def readWord (a : Word) : List Subscript :=
  let reg := regNr base a
  let lineNr := reg.tdiv 4
  let subReg := reg % 4
  [⟨nLines, lineNr⟩, ⟨4 * nLines, reg⟩] ++
    (if subReg = 0 then [⟨4 * nLines, lineNr * 4⟩, ⟨nLines, lineNr⟩]
    else if subReg = 1 then [⟨nLines, lineNr⟩, ⟨4 * nLines, lineNr * 4⟩]
    else if subReg = 2 then [⟨4 * nLines, lineNr * 4 + 2⟩]
    else []) ++
    [⟨4, subReg⟩]

/-- write_word: the lock of the line, the name, for a transmit buffer the
transmit status of the line, and the registers. -/
def writeWord (a : Word) : List Subscript :=
  let reg := regNr base a
  let lineNr := reg.tdiv 4
  let subReg := reg % 4
  [⟨nLines, lineNr⟩, ⟨4, subReg⟩] ++
    (if subReg = 3 then [⟨4 * nLines, lineNr * 4 + 2⟩] else []) ++
    [⟨4 * nLines, reg⟩]

def subscripts (a : Word) : Access → List Subscript
  | .readByte => readWord (a &&& ~~~1)
  | .readWord => readWord a
  | .writeByte => ⟨4 * nLines, regNr base a⟩ :: writeWord a
  | .writeWord => writeWord a

end Dc11

/-- The DEQNA also finds the bytes of its hardware address by the number. -/
def deqnaSubscripts (a : Word) (access : Access) : List Subscript :=
  let mac (a : Word) : List Subscript :=
    if regNr deqnaLayout.base a < 6 then [⟨6, regNr deqnaLayout.base a⟩] else []
  deqnaLayout.subscripts a access ++
    match access with
    | .readByte => mac (a &&& ~~~1)
    | .readWord => mac a
    | .writeByte | .writeWord => []

/-- What a device uses the address of a reference for. -/
def Reference.subscripts (r : Reference) : List Subscript :=
  match r.slot with
  | .tm11 => tm11Layout.subscripts r.a r.access
  | .rk05 => rk05Layout.subscripts r.a r.access
  | .rl02 => rl02Layout.subscripts r.a r.access
  | .tty => ttyLayout.subscripts r.a r.access
  | .dc11 => Dc11.subscripts r.a r.access
  | .dz11 => dz11Layout.subscripts r.a r.access
  | .rp06 => rp06Layout.subscripts r.a r.access
  | .deqna => deqnaSubscripts r.a r.access
  | .kw11l => []

/-- The device uses none of its arrays outside of its bounds. -/
def Reference.InBounds (r : Reference) : Prop :=
  ∀ x ∈ r.subscripts, x.InBounds

instance (r : Reference) : Decidable r.InBounds :=
  inferInstanceAs (Decidable (∀ x ∈ r.subscripts, x.InBounds))

/-- The addresses of a device's range that its arrays do not reach to: the two
behind the last line of the DC11, and the registers of the RP06 that have no
name. -/
def pastArrays (slot : Slot) (a : Word) : Bool :=
  (decide (slot = .dc11) && decide (0o174040 ≤ a)) ||
    (decide (slot = .rp06) && decide (0o176742 ≤ a))

/-- The ranges, address by address. -/
theorem inBounds_of_offset :
    ∀ r ∈ deviceRanges, ∀ k < (r.2.2 - r.2.1).toNat,
      ∀ access ∈ [Access.readByte, .readWord, .writeByte, .writeWord],
        decide (Reference.InBounds ⟨r.1, r.2.1 + BitVec.ofNat 16 k, access⟩) =
          !pastArrays r.1 (r.2.1 + BitVec.ofNat 16 k) := by
  decide +kernel

theorem inBounds_iff
    {slot : Slot} {first stop a : Word}
    (hrange : (slot, first, stop) ∈ deviceRanges)
    (hfirst : first ≤ a) (hstop : a < stop) (access : Access) :
    Reference.InBounds ⟨slot, a, access⟩ ↔ pastArrays slot a = false := by
  have hk : (a - first).toNat < (stop - first).toNat := by
    bv_omega
  have ha : first + BitVec.ofNat 16 (a - first).toNat = a := by
    bv_omega
  have haccess :
      access ∈ [Access.readByte, .readWord, .writeByte, .writeWord] := by
    cases access <;> decide
  have h := inBounds_of_offset (slot, first, stop) hrange
    (a - first).toNat hk access haccess
  dsimp only at h
  rw [ha] at h
  rw [← decide_eq_true_iff (p := Reference.InBounds ⟨slot, a, access⟩), h]
  simp

end Arrays

section Dispatch

theorem deviceAt_range
    {attached : Slot → Bool} {a : Word} {slot : Slot}
    (h : deviceAt attached a = some slot) :
    ∃ first stop, (slot, first, stop) ∈ deviceRanges ∧ first ≤ a ∧ a < stop ∧
      attached slot = true := by
  unfold deviceAt at h
  obtain ⟨⟨slot', first, stop⟩, hfind, rfl⟩ := Option.map_eq_some_iff.mp h
  have hmem := List.mem_of_find?_eq_some hfind
  have hcond := List.find?_some hfind
  simp only [Bool.and_eq_true, decide_eq_true_eq] at hcond
  exact ⟨first, stop, hmem, hcond.1.2, hcond.2, hcond.1.1⟩

/-- No two ranges have an address in common. -/
theorem deviceRanges_disjoint :
    ∀ r ∈ deviceRanges, ∀ r' ∈ deviceRanges,
      r.1 = r'.1 ∨ r.2.2 ≤ r'.2.1 ∨ r'.2.2 ≤ r.2.1 := by
  decide

theorem deviceAt_of_range
    {attached : Slot → Bool} {a first stop : Word} {slot : Slot}
    (hrange : (slot, first, stop) ∈ deviceRanges)
    (hfirst : first ≤ a) (hstop : a < stop) (hattached : attached slot = true) :
    deviceAt attached a = some slot := by
  cases hat : deviceAt attached a with
  | none =>
      have hfind := List.find?_eq_none.mp (Option.map_eq_none_iff.mp hat)
        _ hrange
      simp [hattached, hfirst, hstop] at hfind
  | some slot' =>
      obtain ⟨first', stop', hrange', hfirst', hstop', -⟩ := deviceAt_range hat
      rcases deviceRanges_disjoint _ hrange _ hrange' with h | h | h
      · exact congrArg some h.symm
      · exact absurd (lt_of_lt_of_le hstop h) (not_lt.mpr hfirst')
      · exact absurd (lt_of_lt_of_le hstop' h) (not_lt.mpr hfirst)

/-- The devices attached stay, and only allowed references are noted. -/
def Notes (attached : Slot → Bool) (Allowed : Reference → Prop)
    (t : Machine Recorder) : Prop :=
  t.attached = attached ∧ ∀ r ∈ t.devices, Allowed r

variable {attached : Slot → Bool} {Allowed : Reference → Prop}
variable {a : Word} {wordMode : WordMode}

theorem Notes.cons
    {t : Machine Recorder} {r : Reference} {cpu : Cpu}
    (h : Notes attached Allowed t) (hr : Allowed r) :
    Notes attached Allowed { t with devices := r :: t.devices, cpu := cpu } := by
  refine ⟨h.1, fun r' hr' => ?_⟩
  rcases List.mem_cons.mp hr' with rfl | hmem
  · exact hr
  · exact h.2 r' hmem

theorem notes_deviceRead
    {slot : Slot} (h : Allowed ⟨slot, a, .reading wordMode⟩) :
    Keeps (Notes attached Allowed) (deviceRead slot a wordMode) := by
  cases wordMode with
  | wmByte =>
      exact fun t ht => ht.cons h
  | wmWord =>
      exact fun t ht => ht.cons h

theorem notes_deviceWrite
    {slot : Slot} (value : Word) (h : Allowed ⟨slot, a, .writing wordMode⟩) :
    Keeps (Notes attached Allowed) (deviceWrite slot a wordMode value) := by
  cases wordMode with
  | wmByte =>
      exact fun t ht => (ht.cons h :)
  | wmWord =>
      exact fun t ht => (ht.cons h :)

/-- A read hands on a reference to the line clock, or one to the device whose
range has the address, but not a word at an odd address. -/
theorem readIo_notes
    (apf : BitVec 3)
    (hclock : ∀ r : Reference, r.slot = .kw11l → Allowed r)
    (hslot : ∀ slot, deviceAt attached a = some slot →
      ¬ (isOdd a ∧ wordMode = .wmWord) →
        Allowed ⟨slot, a, .reading wordMode⟩) :
    Keeps (Notes attached Allowed)
      (readIoVia unseenTrap a wordMode apf) := by
  have hlog : Keeps (Notes attached Allowed) (logEvent (.readIo a wordMode)) :=
    .update fun _ ht => ht
  refine hlog.bind fun _ => .view_bind_any fun register => ?_
  cases register with
  | some v =>
      exact keeps_pure _
  | none =>
      refine .ite (fun _ => fun _ ht => ht) fun hodd =>
        .ite (fun _ => keeps_view _) fun _ => .ite (fun _ => keeps_pure _)
        fun _ => .ite (fun _ => keeps_view _) fun _ =>
        .ite (fun _ => keeps_view _) fun _ => .ite (fun _ => keeps_pure _)
        fun _ => .ite (fun _ => ?_) fun _ => .ite (fun _ => keeps_pure _)
        fun _ => .ite (fun _ => keeps_view _) fun _ =>
        .ite (fun _ => keeps_pure _) fun _ => .ite (fun _ => keeps_pure _)
        fun _ => .ite (fun _ => keeps_pure _) fun _ =>
        .view_bind_any fun plain => ?_
      · exact fun t ht => ht.cons (hclock _ rfl)
      · cases plain with
        | some v =>
            exact keeps_pure v
        | none =>
            refine .view_bind fun slot => ?_
            rintro t ⟨ht, hat⟩
            rw [ht.1] at hat
            cases slot with
            | some slot =>
                exact notes_deviceRead (hslot slot hat hodd) t ht
            | none =>
                have hrest : Keeps (Notes attached Allowed)
                    (do
                      let size ← view fun u : Machine Recorder =>
                        systemSize u.ram.size
                      if a = addrSyssize + 2 then
                        pure ((size >>> 16).setWidth 16)
                      else if a = addrSyssize then
                        pure (size.setWidth 16)
                      else do
                        unseenTrap 0o4 none
                        throwInt 1) :=
                  .view_bind_any fun size => .ite (fun _ => keeps_pure _)
                    fun _ => .ite (fun _ => keeps_pure _) fun _ =>
                    (keeps_pure _).bind fun _ => keeps_raise _
                exact hrest t ht

theorem notes_writeByteRegister
    {value : Word} {write : Exec Recorder Bool}
    (h : writeByteRegister a value = some write) :
    Keeps (Notes attached Allowed) write := by
  unfold writeByteRegister at h
  split_ifs at h <;> cases h <;> exact fun _ ht => ht

theorem notes_writeWordRegister
    {value : Word} {write : Exec Recorder Bool}
    (h : writeWordRegister a value = some write) :
    Keeps (Notes attached Allowed) write := by
  rcases writeWordRegister_cases h with ⟨-, rfl⟩ | ⟨m, rfl, hm⟩
  · exact fun _ ht => ht
  rcases hm with rfl | ⟨nr, rfl⟩ | ⟨runMode, rfl⟩ | rfl | rfl <;>
    exact fun _ ht => ht

theorem notes_writeCommonRegister
    {value : Word} {write : Exec Recorder Unit}
    (h : writeCommonRegister a value = some write) :
    Keeps (Notes attached Allowed) write := by
  unfold writeCommonRegister at h
  split_ifs at h <;> cases h <;> exact fun _ ht => ht

theorem notes_writeTail
    {value : Word} {write : Exec Recorder Unit}
    (h : writeTail a value wordMode = some write) :
    Keeps (Notes attached Allowed) write := by
  rcases writeTail_cases h with rfl | ⟨f, rfl, -⟩ | rfl <;>
    exact fun _ ht => ht

/-- A write hands on a reference to the line clock, or one to the device whose
range has the address, odd or not. -/
theorem writeIo_notes
    (page : BitVec 3) (value : Word)
    (hclock : ∀ r : Reference, r.slot = .kw11l → Allowed r)
    (hslot : ∀ slot, deviceAt attached a = some slot →
      Allowed ⟨slot, a, .writing wordMode⟩) :
    Keeps (Notes attached Allowed)
      (writeIoVia unseenTrap a wordMode page value) := by
  have hlog : Keeps (Notes attached Allowed)
      (logEvent (.writeIo a wordMode)) :=
    .update fun _ ht => ht
  refine hlog.bind fun _ => ?_
  dsimp only
  split
  · next write hfirst =>
      cases wordMode with
      | wmByte =>
          exact notes_writeByteRegister hfirst
      | wmWord =>
          exact notes_writeWordRegister hfirst
  · split
    · next write hcommon =>
        exact keeps_thenPure (notes_writeCommonRegister hcommon) _
    · refine .ite (fun _ => ?_) fun _ => .view_bind fun slot => ?_
      · refine keeps_thenPure (fun t ht => ?_) _
        exact (ht.cons (hclock ⟨.kw11l, a, .writeWord⟩ rfl) :)
      · rintro t ⟨ht, hat⟩
        rw [ht.1] at hat
        cases slot with
        | some slot =>
            exact keeps_thenPure (notes_deviceWrite value (hslot slot hat)) _ t
              ht
        | none =>
            cases htail : (writeTail a value wordMode :
                Option (Exec Recorder Unit)) with
            | some write =>
                exact keeps_thenPure (notes_writeTail htail) _ t ht
            | none =>
                have hrest : Keeps (Notes attached Allowed)
                    (if wordMode = .wmWord ∧ isOdd a then oddAbort page 8
                    else do
                      unseenTrap 0o4 none
                      throwInt 9 : Exec Recorder Bool) :=
                  .ite (fun _ => fun _ ht => ht) fun _ =>
                    (keeps_pure _).bind fun _ => keeps_raise _
                exact hrest t ht

end Dispatch

section Exactly

variable {s : Machine Recorder} {a : Word} {wordMode : WordMode} {slot : Slot}

/-- A read in the range of addresses in which the bus has no register of its
own goes to the device that has the address. -/
theorem handedByRead_device
    (hlow : 0o174000 ≤ a) (hhigh : a < 0o177000)
    (hodd : ¬ (isOdd a ∧ wordMode = .wmWord))
    (hslot : deviceAt s.attached a = some slot) (apf : BitVec 3) :
    handedByRead s a wordMode apf = [⟨slot, a, .reading wordMode⟩] := by
  have hne : ∀ b : Word, b < 0o174000 ∨ 0o177000 ≤ b → a ≠ b := by
    rintro b hb rfl
    bv_omega
  have hgeneral : ∀ c, generalRegister c a = none := by
    intro c
    unfold generalRegister
    rw [if_neg (by unfold addrKernelR; bv_omega),
      if_neg (by unfold addrUserR; bv_omega), if_neg (hne _ (by decide)),
      if_neg (hne _ (by decide)), if_neg (hne _ (by decide)),
      if_neg (hne _ (by decide))]
  have hwindow : inMmuWindow a = false := by
    unfold inMmuWindow
    exact decide_eq_false (by bv_omega)
  have hcache : inCacheControl a = false := by
    unfold inCacheControl
    exact decide_eq_false (by bv_omega)
  have hmap : inUnibusMap a = false := by
    unfold inUnibusMap
    exact decide_eq_false (by bv_omega)
  have hparity : inParity a = false := by
    unfold inParity
    exact decide_eq_false (by bv_omega)
  have hplain : ∀ u : Machine Recorder, plainRegister u a wordMode = none := by
    intro u
    cases wordMode with
    | wmByte =>
        simp only [plainRegister, if_neg (hne addrPsw (by decide)),
          if_neg (hne (addrPsw + 1) (by decide)),
          if_neg (hne addrStacklim (by decide)),
          if_neg (hne (addrStacklim + 1) (by decide)),
          if_neg (hne addrMicroprogBreakReg (by decide)),
          if_neg (hne (addrMicroprogBreakReg + 1) (by decide)),
          if_neg (hne addrMmr0 (by decide)),
          if_neg (hne (addrMmr0 + 1) (by decide))]
    | wmWord =>
        simp only [plainRegister, if_neg (hne addrPsw (by decide)),
          if_neg (hne addrStacklim (by decide)),
          if_neg (hne addrMicroprogBreakReg (by decide)),
          if_neg (hne addrMmr0 (by decide)), if_neg (hne addrMmr1 (by decide)),
          if_neg (hne addrMmr2 (by decide)), if_neg (hne addrMmr3 (by decide)),
          if_neg (hne addrCpuErr (by decide))]
  have hpir : ¬ (a = addrPir ∨ a = addrPir + 1) := by
    rintro (h | h)
    · exact hne addrPir (by decide) h
    · exact hne (addrPir + 1) (by decide) h
  unfold handedByRead readIoVia
  simp only [logEvent, update_bind_apply, cpuView_bind_apply, hgeneral,
    if_neg hodd, if_neg hpir, hwindow, hcache, hmap, hparity, hplain,
    if_neg (hne addrCpuErr (by decide)), if_neg (hne addrMaint (by decide)),
    if_neg (hne addrConsw (by decide)), if_neg (hne addrSystemId (by decide)),
    if_neg (hne addrLfc (by decide)), if_neg (hne addrLp11Csr (by decide)),
    Bool.false_eq_true, if_false, view_bind_apply, readDeviceIoVia, hslot]
  cases wordMode with
  | wmByte =>
      rfl
  | wmWord =>
      rfl

/-- So does a write. -/
theorem handedByWrite_device
    (hlow : 0o174000 ≤ a) (hhigh : a < 0o177000)
    (hslot : deviceAt s.attached a = some slot) (page : BitVec 3)
    (value : Word) :
    handedByWrite s a wordMode page value =
      [⟨slot, a, .writing wordMode⟩] := by
  have hne : ∀ b : Word, b < 0o174000 ∨ 0o177000 ≤ b → a ≠ b := by
    rintro b hb rfl
    bv_omega
  have hpair : ∀ b : Word, (b < 0o174000 ∨ 0o177000 ≤ b) →
      (b + 1 < 0o174000 ∨ 0o177000 ≤ b + 1) → ¬ (a = b ∨ a = b + 1) := by
    rintro b hb hb' (h | h)
    · exact hne b hb h
    · exact hne (b + 1) hb' h
  have hbyte : (writeByteRegister a value : Option (Exec Recorder Bool)) =
      none := by
    simp only [writeByteRegister, if_neg (hpair addrPsw (by decide) (by decide)),
      if_neg (hpair addrStacklim (by decide) (by decide)),
      if_neg (hpair addrMicroprogBreakReg (by decide) (by decide)),
      if_neg (hpair addrMmr0 (by decide) (by decide))]
  have hword : (writeWordRegister a value : Option (Exec Recorder Bool)) =
      none := by
    unfold writeWordRegister
    rw [if_neg (hne _ (by decide)), if_neg (hne _ (by decide)),
      if_neg (by unfold addrKernelR; bv_omega),
      if_neg (by unfold addrUserR; bv_omega), if_neg (hne _ (by decide)),
      if_neg (hne _ (by decide)), if_neg (hne _ (by decide)),
      if_neg (hne _ (by decide)), if_neg (hne _ (by decide))]
  have hcommon : (writeCommonRegister a value : Option (Exec Recorder Unit)) =
      none := by
    simp only [writeCommonRegister, if_neg (hne addrCpuErr (by decide)),
      if_neg (hne addrMmr3 (by decide)), if_neg (hne addrMmr0 (by decide)),
      if_neg (hne addrPir (by decide))]
  unfold handedByWrite writeIoVia
  cases wordMode with
  | wmByte =>
      simp only [hbyte, hcommon, if_neg (hne addrLfc (by decide)), logEvent,
        update_bind_apply, view_bind_apply, hslot]
      rfl
  | wmWord =>
      simp only [hword, hcommon, if_neg (hne addrLfc (by decide)), logEvent,
        update_bind_apply, view_bind_apply, hslot]
      rfl

/-- An attached device is handed the address although its arrays end before
it. -/
def HandedPastArrays (attached : Slot → Bool) (a : Word) : Prop :=
  (attached .dc11 = true ∧ 0o174040 ≤ a ∧ a < 0o174042) ∨
    (attached .rp06 = true ∧ 0o176742 ≤ a ∧ a < 0o176752)

/-- Otherwise every reference to the device that has the address is in
bounds. -/
theorem inBounds_of_deviceAt
    {attached : Slot → Bool} (hpast : ¬ HandedPastArrays attached a)
    (hslot : deviceAt attached a = some slot) (access : Access) :
    Reference.InBounds ⟨slot, a, access⟩ := by
  obtain ⟨first, stop, hrange, hfirst, hstop, hattached⟩ :=
    deviceAt_range hslot
  refine (inBounds_iff hrange hfirst hstop access).mpr ?_
  refine Bool.eq_false_of_not_eq_true fun hp => hpast ?_
  simp only [pastArrays, Bool.or_eq_true, Bool.and_eq_true,
    decide_eq_true_eq] at hp
  rcases hp with ⟨rfl, hlow⟩ | ⟨rfl, hlow⟩
  · refine .inl ⟨hattached, hlow, ?_⟩
    have hends : ∀ r ∈ deviceRanges, r.1 = .dc11 → r.2.2 = 0o174042 := by
      decide
    exact hends _ hrange rfl ▸ hstop
  · refine .inr ⟨hattached, hlow, ?_⟩
    have hends : ∀ r ∈ deviceRanges, r.1 = .rp06 → r.2.2 = 0o176752 := by
      decide
    exact hends _ hrange rfl ▸ hstop

/-- There the device that has the address is out of bounds. -/
theorem not_inBounds_of_past
    {attached : Slot → Bool} (hpast : HandedPastArrays attached a) :
    ∃ slot, deviceAt attached a = some slot ∧ 0o174000 ≤ a ∧ a < 0o177000 ∧
      ∀ access, ¬ Reference.InBounds ⟨slot, a, access⟩ := by
  rcases hpast with ⟨h, hlow, hhigh⟩ | ⟨h, hlow, hhigh⟩
  · have hrange : (Slot.dc11, 0o174000, 0o174042) ∈ deviceRanges := by
      decide
    have hfirst : 0o174000 ≤ a := by
      bv_omega
    refine ⟨.dc11, deviceAt_of_range hrange hfirst hhigh h, hfirst,
      by bv_omega, fun access hin => ?_⟩
    have hp := (inBounds_iff hrange hfirst hhigh access).mp hin
    simp only [pastArrays, decide_eq_true hlow] at hp
    simp at hp
  · have hrange : (Slot.rp06, 0o176700, 0o176752) ∈ deviceRanges := by
      decide
    have hfirst : 0o176700 ≤ a := by
      bv_omega
    refine ⟨.rp06, deviceAt_of_range hrange hfirst hhigh h, by bv_omega,
      by bv_omega, fun access hin => ?_⟩
    have hp := (inBounds_iff hrange hfirst hhigh access).mp hin
    simp only [pastArrays, decide_eq_true hlow] at hp
    simp at hp

theorem clock_inBounds
    (r : Reference) (h : r.slot = .kw11l) :
    r.InBounds := by
  intro x hx
  rw [Reference.subscripts, h] at hx
  cases hx

theorem handedByRead_inBounds_iff
    (s : Machine Recorder) (a : Word) (wordMode : WordMode)
    (apf : BitVec 3) :
    (∀ r ∈ handedByRead s a wordMode apf, r.InBounds) ↔
      ¬ (HandedPastArrays s.attached a ∧
        ¬ (isOdd a ∧ wordMode = .wmWord)) := by
  constructor
  · rintro h ⟨hpast, hodd⟩
    obtain ⟨slot, hslot, hlow, hhigh, hout⟩ := not_inBounds_of_past hpast
    rw [handedByRead_device hlow hhigh hodd hslot] at h
    exact hout _ (h _ (List.mem_singleton.mpr rfl))
  · intro h
    have hkeeps := readIo_notes apf clock_inBounds
      fun slot hslot hodd => inBounds_of_deviceAt
        (fun hpast => h ⟨hpast, hodd⟩) hslot (.reading wordMode)
    have hstart : Notes s.attached Reference.InBounds
        { s with devices := [] } :=
      ⟨rfl, fun _ hr => by cases hr⟩
    exact (hkeeps.final hstart).2

theorem handedByWrite_inBounds_iff
    (s : Machine Recorder) (a : Word) (wordMode : WordMode)
    (page : BitVec 3) (value : Word) :
    (∀ r ∈ handedByWrite s a wordMode page value, r.InBounds) ↔
      ¬ HandedPastArrays s.attached a := by
  constructor
  · intro h hpast
    obtain ⟨slot, hslot, hlow, hhigh, hout⟩ := not_inBounds_of_past hpast
    rw [handedByWrite_device hlow hhigh hslot] at h
    exact hout _ (h _ (List.mem_singleton.mpr rfl))
  · intro h
    have hkeeps := writeIo_notes page value clock_inBounds
      fun slot hslot => inBounds_of_deviceAt h hslot (.writing wordMode)
    have hstart : Notes s.attached Reference.InBounds
        { s with devices := [] } :=
      ⟨rfl, fun _ hr => by cases hr⟩
    exact (hkeeps.final hstart).2

/-- The devices stay in their arrays, unless the address is one of the two
behind the DC11's lines, or one of the RP06's registers without a name; of
these, the reads of words at odd addresses are not handed on. -/
theorem device_indices_inBounds_iff
    (s : Machine Recorder) (a : Word) (wordMode : WordMode)
    (page : BitVec 3) (value : Word) :
    ((∀ r ∈ handedByRead s a wordMode page, r.InBounds) ↔
      ¬ (HandedPastArrays s.attached a ∧
        ¬ (isOdd a ∧ wordMode = .wmWord))) ∧
    ((∀ r ∈ handedByWrite s a wordMode page value, r.InBounds) ↔
      ¬ HandedPastArrays s.attached a) :=
  ⟨handedByRead_inBounds_iff s a wordMode page,
    handedByWrite_inBounds_iff s a wordMode page value⟩

/-- A machine with a DC11 and no other device. -/
def dc11Machine : Machine Recorder :=
  let s := bareMachine 0o20000 []
  { cpu := s.cpu
    mmu := s.mmu
    ram := s.ram
    microprogramBreakRegister := 0
    consoleSwitches := 0
    consoleLeds := 0
    attached := fun slot => decide (slot = .dc11)
    devices := []
    trace := [] }

/-- The word behind the last line is written to a register and under a lock
that the DC11 does not have. -/
theorem dc11_write_past_lines :
    handedByWrite dc11Machine 0o174040 .wmWord 7 0 =
        [⟨.dc11, 0o174040, .writeWord⟩] ∧
      ¬ Reference.InBounds ⟨.dc11, 0o174040, .writeWord⟩ := by
  decide +kernel

end Exactly

end KekPdp11
