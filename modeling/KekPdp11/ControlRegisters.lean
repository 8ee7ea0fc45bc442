import KekPdp11.DeviceIndices
import KekPdp11.ReadModifyWrite

/-!
# KEK PDP-11: the control registers

The registers of the processor and the MMU that a guest sets by a word or byte
by byte: the status word, the stack limit, the microprogram break register,
MMR0 and the page registers of the three modes.

A write puts the new bits into the old value and then forces some bits to
zero; which ones depends on the register, for MMR0 on its old value, and for
the microprogram break register on the width of the write.

**Result.**  Writing the low byte and then the high one leaves what a word
write leaves, except for a value that does not fit in the low byte of the
microprogram break register, and for an even value with bits of the high byte
in an MMR0 that holds error bits.
-/

namespace KekPdp11

open StateExcept

variable {δ : Type}

section Registers

/-- The modes that have page registers in the I/O page. -/
inductive PageMode where
  | supervisor
  | kernel
  | user
deriving DecidableEq, Repr

/-- A page of one of these modes. -/
structure PageKey where
  mode : PageMode
  space : Space
  apf : BitVec 3
deriving DecidableEq, Repr

inductive ControlRegister where
  | psw
  | stackLimit
  | microprogramBreak
  | mmr0
  | pdr (key : PageKey)
  | par (key : PageKey)
deriving DecidableEq, Repr

namespace PageKey

variable (key : PageKey)

def runMode : RunMode :=
  match key.mode with
  | .supervisor => 1
  | .kernel => 0
  | .user => 3

def index : PageIndex :=
  Mmu.calcParPdrIndex key.runMode key.space key.apf

/-- The address of the page descriptor register. -/
def pdrAddress : Word :=
  (match key.mode with
    | .supervisor => 0o172200
    | .kernel => 0o172300
    | .user => 0o177600) +
  (match key.space with
    | .iSpace => 0
    | .dSpace => 16) +
  2 * key.apf.setWidth 16

/-- The address of the page address register. -/
def parAddress : Word :=
  key.pdrAddress + 0o40

/-- The bytes of the registers of a page are where the windows look for
them. -/
theorem window_bytes
    (msb : Bool) :
    Mmu.window (key.pdrAddress + boolWord msb) = some (.pdr key.runMode) ∧
      Mmu.window (key.parAddress + boolWord msb) = some (.par key.runMode) ∧
      Mmu.windowPage (key.pdrAddress + boolWord msb) key.runMode = key.index ∧
      Mmu.windowPage (key.parAddress + boolWord msb) key.runMode = key.index ∧
      isOdd (key.pdrAddress + boolWord msb) = msb ∧
      isOdd (key.parAddress + boolWord msb) = msb := by
  obtain ⟨mode, space, apf⟩ := key
  cases mode <;> cases space <;> cases msb <;> revert apf <;> decide

end PageKey

namespace ControlRegister

/-- The even address, the one of the low byte. -/
def address : ControlRegister → Word
  | psw => addrPsw
  | stackLimit => addrStacklim
  | microprogramBreak => addrMicroprogBreakReg
  | mmr0 => addrMmr0
  | pdr key => key.pdrAddress
  | par key => key.parAddress

/-- The bits of a page descriptor register that a write leaves. -/
def pdrMask : Word :=
  ~~~(32768 + 128 + 64 + 32 + 16)

/-- What a word write leaves in a register that held `old`. -/
def written (old v : Word) : ControlRegister → Word
  | psw => (v &&& ~~~16) &&& 0o174377
  | stackLimit => v &&& 0xff00
  | microprogramBreak => v &&& 0xff
  | mmr0 => Mmu.guestMMR0 old v
  | pdr _ => v &&& pdrMask
  | par _ => v

/-- What a write of one byte leaves. -/
def writtenByte (old : Word) (msb : Bool) (v : Byte) :
    ControlRegister → Word
  | psw => (updateWord old msb v &&& ~~~16) &&& 0o174377
  | stackLimit => updateWord old msb v &&& 0xff00
  | microprogramBreak => updateWord old msb v
  | mmr0 => Mmu.guestMMR0 old (updateWord old msb v)
  | pdr _ => updateWord old msb v &&& pdrMask
  | par _ => updateWord old msb v

end ControlRegister

/-- The value of a control register, as a word read returns it. -/
def Machine.control (s : Machine δ) : ControlRegister → Word
  | .psw => s.cpu.psw
  | .stackLimit => s.cpu.stackLimitRegister
  | .microprogramBreak => s.microprogramBreakRegister
  | .mmr0 => s.mmu.mmr0
  | .pdr key => (s.mmu.pages key.index).pdr
  | .par key => (s.mmu.pages key.index).par

end Registers

section Windows

theorem Page.par_setPar
    (p : Page) (v : Word) :
    (p.setPar v).par = v := by
  ext i hi
  have hwide : 6 + i < 32 := by omega
  have hlow : ¬ 6 + i < 6 := by omega
  have hsub : 6 + i - 6 = i := by omega
  simp [Page.par, Page.setPar, hwide, hlow, hsub, BitVec.getLsbD_eq_getElem hi]

@[simp] theorem Page.par_setPdr
    (p : Page) (v : Word) :
    (p.setPdr v).par = p.par := by
  rfl

variable {a : Word}

theorem window_isSome
    (h : (Mmu.window a).isSome) :
    inMmuWindow a = true := by
  unfold Mmu.window at h
  unfold inMmuWindow
  rw [decide_eq_true_iff]
  split_ifs at h <;> first | bv_omega | cases h

theorem window_ne
    (h : inMmuWindow a = true) {b : Word} (hb : inMmuWindow b = false) :
    a ≠ b := by
  rintro rfl
  rw [h] at hb
  cases hb

variable [UnibusDevices δ]

omit [UnibusDevices δ] in
theorem generalRegister_window
    (h : inMmuWindow a = true) (c : Cpu) :
    generalRegister c a = none := by
  have hrange := of_decide_eq_true h
  unfold generalRegister addrKernelR addrUserR
  rw [if_neg (by bv_omega), if_neg (by bv_omega),
    if_neg (window_ne h (by decide)), if_neg (window_ne h (by decide)),
    if_neg (window_ne h (by decide)), if_neg (window_ne h (by decide))]

omit [UnibusDevices δ] in
theorem deviceAt_window
    (h : inMmuWindow a = true) (attached : Slot → Bool) :
    deviceAt attached a = none := by
  cases hat : deviceAt attached a with
  | none =>
      rfl
  | some slot =>
      obtain ⟨first, stop, hrange, hfirst, hstop, -⟩ := deviceAt_range hat
      have hout : ∀ r ∈ deviceRanges,
          ¬ (r.2.1 < 0o177700 ∧ 0o177600 < r.2.2) ∧
          ¬ (r.2.1 < 0o172400 ∧ 0o172200 < r.2.2) := by
        decide
      have hin := of_decide_eq_true h
      have := hout _ hrange
      dsimp only at this
      bv_omega

omit [UnibusDevices δ] in
theorem writeFirst_window
    (h : inMmuWindow a = true) (value : Word) :
    writeByteRegister a value = (none : Option (Exec δ Bool)) ∧
      writeWordRegister a value = (none : Option (Exec δ Bool)) := by
  have hrange := of_decide_eq_true h
  have hne : ∀ {b : Word}, inMmuWindow b = false → a ≠ b :=
    fun hb => window_ne h hb
  have hpair : ∀ {b : Word}, inMmuWindow b = false →
      inMmuWindow (b + 1) = false → ¬ (a = b ∨ a = b + 1) :=
    fun hb hb' hor => hor.elim (hne hb) (hne hb')
  constructor
  · unfold writeByteRegister
    rw [if_neg (hpair (by decide) (by decide)),
      if_neg (hpair (by decide) (by decide)),
      if_neg (hpair (by decide) (by decide)),
      if_neg (hpair (by decide) (by decide))]
  · unfold writeWordRegister addrKernelR addrUserR
    rw [if_neg (hne (by decide)), if_neg (hne (by decide)),
      if_neg (by bv_omega), if_neg (by bv_omega), if_neg (hne (by decide)),
      if_neg (hne (by decide)), if_neg (hne (by decide)),
      if_neg (hne (by decide)), if_neg (hne (by decide))]

/-- A write to a window is one of the page registers. -/
theorem writeIo_window
    (h : inMmuWindow a = true) (wordMode : WordMode) (apf : BitVec 3)
    (value : Word) (s : Machine δ) :
    writeIoVia trap a wordMode apf value s =
      .ok false
        { s.log (.writeIo a wordMode) with
          mmu := s.mmu.writeAt a
            (match wordMode with
              | .wmWord => value
              | .wmByte => (value.setWidth 8).setWidth 16) wordMode } := by
  have hne : ∀ {b : Word}, inMmuWindow b = false → a ≠ b :=
    fun hb => window_ne h hb
  have hrange := of_decide_eq_true h
  have hcommon : writeCommonRegister a value =
      (none : Option (Exec δ Unit)) := by
    unfold writeCommonRegister
    rw [if_neg (hne (by decide)), if_neg (hne (by decide)),
      if_neg (hne (by decide)), if_neg (hne (by decide))]
  have hparity : inParity a = false := by
    unfold inParity
    exact decide_eq_false (by bv_omega)
  obtain ⟨hbyte, hword⟩ := writeFirst_window (δ := δ) h value
  unfold writeIoVia
  simp only [logEvent, update_bind_apply, hbyte, hword, hcommon,
    if_neg (hne (show inMmuWindow addrLfc = false by decide)),
    deviceAt_window h, writeTail, hparity, h, Bool.false_eq_true, if_false,
    if_true]
  cases wordMode with
  | wmByte =>
      rfl
  | wmWord =>
      rfl

/-- A read of a window is one of the page registers. -/
theorem readIo_window
    (h : inMmuWindow a = true) (wordMode : WordMode) (apf : BitVec 3)
    (hodd : ¬ (isOdd a ∧ wordMode = .wmWord)) (s : Machine δ) :
    readIoVia trap a wordMode apf s =
      .ok
        (match wordMode with
          | .wmWord => s.mmu.readWord a
          | .wmByte => (s.mmu.readByte a).setWidth 16)
        (s.log (.readIo a wordMode)) := by
  have hne : ∀ {b : Word}, inMmuWindow b = false → a ≠ b :=
    fun hb => window_ne h hb
  have hpir : ¬ (a = addrPir ∨ a = addrPir + 1) :=
    fun hor => hor.elim (hne (by decide)) (hne (by decide))
  unfold readIoVia
  simp only [logEvent, update_bind_apply, cpuView_bind_apply,
    generalRegister_window h, if_neg hodd, if_neg hpir, h, if_true,
    if_neg (hne (show inMmuWindow addrCpuErr = false by decide)),
    if_neg (hne (show inMmuWindow addrMaint = false by decide)),
    if_neg (hne (show inMmuWindow addrConsw = false by decide)),
    if_neg (hne (show inMmuWindow addrSystemId = false by decide)),
    if_neg (hne (show inMmuWindow addrLfc = false by decide)),
    if_neg (hne (show inMmuWindow addrLp11Csr = false by decide))]
  cases wordMode with
  | wmByte =>
      rfl
  | wmWord =>
      rfl

end Windows

section Values

/-- The page registers after a write to one of them. -/
theorem writeAt_pdr
    (m : Mmu) (key : PageKey) (msb : Bool) (value : Word)
    (wordMode : WordMode) :
    m.writeAt (key.pdrAddress + boolWord msb) value wordMode =
      m.modifyPage key.index fun p => p.setPdr
        ((match wordMode with
          | .wmByte => updateWord p.pdr msb (value.setWidth 8)
          | .wmWord => value) &&& ControlRegister.pdrMask) := by
  obtain ⟨hwindow, -, hpage, -, hodd, -⟩ := key.window_bytes msb
  unfold Mmu.writeAt
  rw [hwindow]
  dsimp only
  unfold Mmu.writePdr
  rw [hpage, hodd]
  rfl

theorem writeAt_par
    (m : Mmu) (key : PageKey) (msb : Bool) (value : Word)
    (wordMode : WordMode) :
    m.writeAt (key.parAddress + boolWord msb) value wordMode =
      m.modifyPage key.index fun p => (p.setPar
        (match wordMode with
          | .wmByte => updateWord p.par msb (value.setWidth 8)
          | .wmWord => value)).setPdr (p.pdr &&& ~~~(128 + 64)) := by
  obtain ⟨-, hwindow, -, hpage, -, hodd⟩ := key.window_bytes msb
  unfold Mmu.writeAt
  rw [hwindow]
  dsimp only
  unfold Mmu.writePar
  rewrite [hpage, hodd]
  rfl

theorem readWord_pdr
    (m : Mmu) (key : PageKey) (msb : Bool) :
    m.readWord (key.pdrAddress + boolWord msb) = (m.pages key.index).pdr := by
  obtain ⟨hwindow, -, hpage, -, -, -⟩ := key.window_bytes msb
  unfold Mmu.readWord
  rw [hwindow]
  dsimp only
  unfold Mmu.readPdr
  rw [hpage]

theorem readWord_par
    (m : Mmu) (key : PageKey) (msb : Bool) :
    m.readWord (key.parAddress + boolWord msb) = (m.pages key.index).par := by
  obtain ⟨-, hwindow, -, hpage, -, -⟩ := key.window_bytes msb
  unfold Mmu.readWord
  rw [hwindow]
  dsimp only
  unfold Mmu.readPar
  rw [hpage]

/-- The addresses of a page are in the windows, the even ones not odd. -/
theorem inMmuWindow_pdr
    (key : PageKey) (msb : Bool) :
    inMmuWindow (key.pdrAddress + boolWord msb) = true := by
  refine window_isSome ?_
  rw [(key.window_bytes msb).1]
  rfl

theorem inMmuWindow_par
    (key : PageKey) (msb : Bool) :
    inMmuWindow (key.parAddress + boolWord msb) = true := by
  refine window_isSome ?_
  rw [(key.window_bytes msb).2.1]
  rfl

variable [UnibusDevices δ] (apf : BitVec 3) (v : Word) (s : Machine δ)

/-- A word write to a control register. -/
theorem writeIo_word
    (r : ControlRegister) :
    ∃ b t, writeIoVia trap r.address .wmWord apf v s = .ok b t ∧
      t.control r = r.written (s.control r) v := by
  cases r with
  | psw | stackLimit | microprogramBreak | mmr0 =>
      exact ⟨_, _, rfl, rfl⟩
  | pdr key =>
      have haddr : ControlRegister.address (.pdr key) =
          key.pdrAddress + boolWord false := (BitVec.add_zero _).symm
      rw [haddr]
      refine ⟨_, _, writeIo_window (inMmuWindow_pdr key false) _ _ _ _, ?_⟩
      change ((s.mmu.writeAt _ _ _).pages key.index).pdr = _
      rw [writeAt_pdr]
      simp [Mmu.modifyPage, Page.setPdr, ControlRegister.written]
  | par key =>
      have haddr : ControlRegister.address (.par key) =
          key.parAddress + boolWord false := (BitVec.add_zero _).symm
      rw [haddr]
      refine ⟨_, _, writeIo_window (inMmuWindow_par key false) _ _ _ _, ?_⟩
      change ((s.mmu.writeAt _ _ _).pages key.index).par = _
      rw [writeAt_par]
      simp [Mmu.modifyPage, Page.par_setPar, ControlRegister.written]

/-- A byte write to one. -/
theorem writeIo_byte
    (r : ControlRegister) (msb : Bool) :
    ∃ b t, writeIoVia trap (r.address + boolWord msb) .wmByte apf v s =
        .ok b t ∧
      t.control r = r.writtenByte (s.control r) msb (v.setWidth 8) := by
  cases r with
  | psw | stackLimit | microprogramBreak | mmr0 =>
      cases msb <;> exact ⟨_, _, rfl, rfl⟩
  | pdr key =>
      refine ⟨_, _, writeIo_window (inMmuWindow_pdr key msb) _ _ _ _, ?_⟩
      change ((s.mmu.writeAt _ _ _).pages key.index).pdr = _
      rw [writeAt_pdr]
      simp [Mmu.modifyPage, Page.setPdr, ControlRegister.writtenByte,
        Machine.control]
  | par key =>
      refine ⟨_, _, writeIo_window (inMmuWindow_par key msb) _ _ _ _, ?_⟩
      change ((s.mmu.writeAt _ _ _).pages key.index).par = _
      rw [writeAt_par]
      simp [Mmu.modifyPage, Page.par_setPar, ControlRegister.writtenByte,
        Machine.control]

/-- A word read of one. -/
theorem readIo_word
    (r : ControlRegister) :
    readIoVia trap r.address .wmWord apf s =
      .ok (s.control r) (s.log (.readIo r.address .wmWord)) := by
  have heven : ∀ {a : Word}, isOdd a = false →
      ¬ (isOdd a ∧ WordMode.wmWord = .wmWord) := by
    intro a h hodd
    rw [h] at hodd
    cases hodd.1
  cases r with
  | psw | stackLimit | microprogramBreak | mmr0 =>
      rfl
  | pdr key =>
      obtain ⟨-, -, -, -, hodd, -⟩ := key.window_bytes false
      have haddr : ControlRegister.address (.pdr key) =
          key.pdrAddress + boolWord false := (BitVec.add_zero _).symm
      rw [haddr]
      refine (readIo_window (inMmuWindow_pdr key false) _ _ (heven hodd)
        s).trans ?_
      dsimp only
      rw [readWord_pdr]
      rfl
  | par key =>
      obtain ⟨-, -, -, -, -, hodd⟩ := key.window_bytes false
      have haddr : ControlRegister.address (.par key) =
          key.parAddress + boolWord false := (BitVec.add_zero _).symm
      rw [haddr]
      refine (readIo_window (inMmuWindow_par key false) _ _ (heven hodd)
        s).trans ?_
      dsimp only
      rw [readWord_par]
      rfl

end Values

section Bytes

variable (old v : Word)

/-- The high byte of a word, put above the low byte of the same word. -/
theorem updateWord_high
    {x : Word} (hlow : x &&& 0xff = v &&& 0xff) :
    updateWord x true ((v >>> 8).setWidth 8) = v := by
  refine (congrArg (fun y => y ||| ((v >>> 8).setWidth 8).setWidth 16 <<< 8)
    hlow).trans ?_
  ext i hi
  interval_cases i <;> simp

theorem updateWord_low
    (b : Byte) :
    updateWord old false b &&& 0xff = b.setWidth 16 ∧
      updateWord old false b &&& 0xff00 = old &&& 0xff00 := by
  unfold updateWord
  rw [if_neg (by decide)]
  constructor
  · ext i hi
    interval_cases i <;> simp
  · ext i hi
    interval_cases i <;> simp

/-- Some of the bits of a word, taken from a part of it. -/
theorem and_of_subset
    {x y mask small : Word} (h : x &&& mask = y &&& mask)
    (hsub : mask &&& small = small) :
    x &&& small = y &&& small := by
  rw [← hsub, ← BitVec.and_assoc, h, BitVec.and_assoc]

/-- The three cases of a guest write to MMR0. -/
theorem guestMMR0_eq :
    Mmu.guestMMR0 old v =
      if v &&& 1 ≠ 0 then v &&& ~~~0o166000
      else if old &&& 0o160000 ≠ 0 then v &&& 0o376
      else v &&& ~~~0o6000 := by
  have hone : (v &&& ~~~(3#16 <<< 10)) &&& 1 = v &&& 1 := by
    rw [BitVec.and_assoc]
    rfl
  have hone' : ((v &&& ~~~(3#16 <<< 10)) &&& ~~~(7#16 <<< 13)) &&& 1 =
      v &&& 1 := by
    rw [BitVec.and_assoc, BitVec.and_assoc]
    rfl
  unfold Mmu.guestMMR0
  dsimp only
  rw [hone]
  by_cases hbit : v &&& 1 = 0
  · rw [if_neg (not_not.mpr hbit), if_neg (not_not.mpr hbit),
      if_pos (hone.trans hbit), BitVec.and_assoc]
    rfl
  · have hset : ¬ ((v &&& ~~~(3#16 <<< 10)) &&& ~~~(7#16 <<< 13)) &&& 1 = 0 := by
      rw [hone']
      exact hbit
    rw [if_pos hbit, if_pos hbit, if_neg hset, ite_self, BitVec.and_assoc]
    rfl

/-- Nothing in the low byte is lost. -/
theorem guestMMR0_low :
    Mmu.guestMMR0 old v &&& 0xff = v &&& 0xff := by
  rw [guestMMR0_eq]
  split_ifs with hbit hlocked
  · rw [BitVec.and_assoc]
    rfl
  · have hzero : v &&& 1 = 0 := not_not.mp hbit
    have hsplit : v &&& 0xff = (v &&& 0o376) ||| (v &&& 1) := by
      rw [← BitVec.and_or_distrib_left]
      rfl
    rw [hsplit, hzero, BitVec.and_assoc]
    exact BitVec.or_zero.symm
  · rw [BitVec.and_assoc]
    rfl

/-- After a write of the low byte no error bits are left. -/
theorem guestMMR0_unlocked
    (b : Byte) :
    Mmu.guestMMR0 old (updateWord old false b) &&& 0o160000 = 0 := by
  rw [guestMMR0_eq]
  split_ifs with hbit hlocked
  · rw [BitVec.and_assoc]
    exact BitVec.and_zero
  · rw [BitVec.and_assoc]
    exact BitVec.and_zero
  · have hhigh : updateWord old false b &&& 0o160000 = old &&& 0o160000 :=
      and_of_subset (updateWord_low old b).2 (by decide)
    rw [BitVec.and_assoc]
    exact hhigh.trans (not_not.mp hlocked)

/-- The values that byte writes put together as word writes would. -/
def ControlRegister.BytesAgree (old v : Word) : ControlRegister → Prop
  | microprogramBreak => v &&& 0xff00 = 0
  | mmr0 => ¬ (old &&& 0o160000 ≠ 0 ∧ v &&& 1 = 0 ∧ v &&& 0o171400 ≠ 0)
  | _ => True

/-- MMR0 byte by byte. -/
theorem guestMMR0_bytes_iff :
    Mmu.guestMMR0 (Mmu.guestMMR0 old (updateWord old false (v.setWidth 8)))
        (updateWord
          (Mmu.guestMMR0 old (updateWord old false (v.setWidth 8))) true
          ((v >>> 8).setWidth 8)) =
        Mmu.guestMMR0 old v ↔
      ControlRegister.BytesAgree old v .mmr0 := by
  have hlow : Mmu.guestMMR0 old (updateWord old false (v.setWidth 8)) &&&
      0xff = v &&& 0xff := by
    rw [guestMMR0_low, (updateWord_low old _).1]
    ext i hi
    interval_cases i <;> simp
  have hunlocked := guestMMR0_unlocked old (v.setWidth 8)
  rw [updateWord_high v hlow, guestMMR0_eq _ v, guestMMR0_eq old v]
  unfold ControlRegister.BytesAgree
  by_cases hbit : v &&& 1 = 0
  · rw [if_neg (not_not.mpr hbit), if_neg (not_not.mpr hbit),
      if_neg (not_not.mpr hunlocked)]
    by_cases hlocked : old &&& 0o160000 = 0
    · rw [if_neg (not_not.mpr hlocked)]
      exact ⟨fun _ h => h.1 hlocked, fun _ => rfl⟩
    · rw [if_pos hlocked]
      have hparts : v &&& ~~~0o6000 = (v &&& 0o376) ||| (v &&& 0o171400) := by
        have hall : v &&& ~~~0o6000 =
            (v &&& 1) ||| ((v &&& 0o376) ||| (v &&& 0o171400)) := by
          rw [← BitVec.and_or_distrib_left, ← BitVec.and_or_distrib_left]
          rfl
        rw [hall, hbit]
        exact BitVec.zero_or
      rw [hparts]
      constructor
      · rintro h ⟨-, -, hne⟩
        apply hne
        have hupper := congrArg (fun x => x &&& 0o171400) h
        rw [BitVec.and_or_distrib_right, BitVec.and_assoc, BitVec.and_assoc]
          at hupper
        exact (BitVec.zero_or.symm.trans
          (congrArg (fun x => x ||| (v &&& 0o171400)) BitVec.and_zero.symm)).trans
            (hupper.trans BitVec.and_zero)
      · intro h
        have hzero : v &&& 0o171400 = 0 :=
          not_not.mp fun hne => h ⟨hlocked, hbit, hne⟩
        rw [hzero]
        exact BitVec.or_zero
  · rw [if_pos hbit, if_pos hbit]
    exact ⟨fun _ h => hbit h.2.1, fun _ => rfl⟩

/-- The low byte and then the high byte, compared with the word. -/
theorem ControlRegister.bytes_eq_word_iff
    (r : ControlRegister) :
    r.writtenByte (r.writtenByte old false (v.setWidth 8)) true
        ((v >>> 8).setWidth 8) = r.written old v ↔
      r.BytesAgree old v := by
  have hlow : updateWord old false (v.setWidth 8) &&& 0xff = v &&& 0xff := by
    rw [(updateWord_low old _).1]
    ext i hi
    interval_cases i <;> simp
  cases r with
  | psw =>
      refine iff_of_true ?_ trivial
      ext i hi
      interval_cases i <;> simp [writtenByte, written, updateWord]
  | stackLimit =>
      refine iff_of_true ?_ trivial
      ext i hi
      interval_cases i <;> simp [writtenByte, written, updateWord]
  | microprogramBreak =>
      have hparts : v = (v &&& 0xff) ||| (v &&& 0xff00) := by
        rw [← BitVec.and_or_distrib_left]
        exact BitVec.and_allOnes.symm
      change updateWord (updateWord old false _) true _ = v &&& 0xff ↔
        v &&& 0xff00 = 0
      rw [updateWord_high v hlow]
      constructor
      · intro h
        rw [h, BitVec.and_assoc]
        exact BitVec.and_zero
      · intro h
        rw [h] at hparts
        exact hparts.trans BitVec.or_zero
  | mmr0 =>
      exact guestMMR0_bytes_iff old v
  | pdr key =>
      refine iff_of_true ?_ trivial
      ext i hi
      interval_cases i <;> simp [writtenByte, written, updateWord, pdrMask]
  | par key =>
      refine iff_of_true ?_ trivial
      exact updateWord_high v hlow

end Bytes

section References

variable [UnibusDevices δ]

/-- The reference goes to an address of the I/O page. -/
def DestinationRef.Reaches (ref : DestinationRef) (s : Machine δ)
    (a : Word) : Prop :=
  s.target ref.runMode ref.addr ref.space = .io a

variable {ref : DestinationRef} {s : Machine δ} {a : Word}

theorem DestinationRef.write_io
    (h : ref.Reaches s a) {wordMode : WordMode} {v : Word} {b : Bool}
    {t : Machine δ}
    (hwrite : writeIoVia trap a wordMode (activePageField ref.addr) v s =
      .ok b t) :
    ref.write wordMode v s = .ok b t := by
  unfold DestinationRef.write
  rw [Bus.write_eq, show s.target ref.runMode ref.addr ref.space = _ from h]
  exact noteAbort_of_ok hwrite

theorem DestinationRef.read_io
    (h : ref.Reaches s a) {wordMode : WordMode} {v : Word} {t : Machine δ}
    (hread : readIoVia trap a wordMode (activePageField ref.addr) s =
      .ok v t) :
    ref.read wordMode s = .ok v t := by
  unfold DestinationRef.read
  rw [Bus.read_eq, show s.target ref.runMode ref.addr ref.space = _ from h]
  exact noteAbort_of_ok hread

/-- A control register is written byte by byte and, from the same state, as a
word.  The values read back afterwards are the same if and only if the value
written is not too long for the microprogram break register, and is not an
even one with bits of the high byte for an MMR0 that holds error bits. -/
theorem bytes_agree_with_word_iff
    (r : ControlRegister) (v : Word) {low word : DestinationRef}
    {s : Machine δ} (hlow : low.Reaches s r.address)
    (hword : word.Reaches s r.address) :
    ∃ b t, low.write .wmByte (v &&& 0xff) s = .ok b t ∧
      ∃ b₁ t₁, word.write .wmWord v s = .ok b₁ t₁ ∧
      ∀ high : DestinationRef, high.Reaches t (r.address + 1) →
        ∃ b₂ t₂, high.write .wmByte (v >>> 8) t = .ok b₂ t₂ ∧
        ∀ ref ref₁ : DestinationRef, ref.Reaches t₂ r.address →
          ref₁.Reaches t₁ r.address →
          ∃ x u x₁ u₁, ref.read .wmWord t₂ = .ok x u ∧
            ref₁.read .wmWord t₁ = .ok x₁ u₁ ∧
            (x = x₁ ↔ r.BytesAgree (s.control r) v) := by
  obtain ⟨b, t, hwrite, ht⟩ := writeIo_byte (activePageField low.addr)
    (v &&& 0xff) s r false
  rw [show r.address + boolWord false = r.address from BitVec.add_zero _]
    at hwrite
  obtain ⟨b₁, t₁, hwrite₁, ht₁⟩ := writeIo_word (activePageField word.addr)
    v s r
  refine ⟨b, t, low.write_io hlow hwrite, b₁, t₁, word.write_io hword hwrite₁,
    fun high hhigh => ?_⟩
  obtain ⟨b₂, t₂, hwrite₂, ht₂⟩ := writeIo_byte (activePageField high.addr)
    (v >>> 8) t r true
  refine ⟨b₂, t₂, high.write_io hhigh hwrite₂, fun ref ref₁ href href₁ =>
    ⟨_, _, _, _, ref.read_io href (readIo_word _ t₂ r),
      ref₁.read_io href₁ (readIo_word _ t₁ r), ?_⟩⟩
  have hbyte : (v &&& 0xff).setWidth 8 = v.setWidth 8 := by
    ext i hi
    interval_cases i <;> simp
  rw [ht₂, ht₁, ht, hbyte]
  exact r.bytes_eq_word_iff (s.control r) v

/-- References in kernel mode to the address itself, which is what it is
without address translation. -/
def directRef (a : Word) : DestinationRef where
  addr := a
  runMode := 0
  space := .dSpace

/-- The stack limit is set by two bytes and by a word. -/
theorem stackLimit_bytes_agree :
    ∃ t t₁ t₂ : Machine LineClock, ∃ x u u₁,
      (directRef 0o177774).write .wmByte 0xab (bareMachine 0o20000 []) =
        .ok false t ∧
      (directRef 0o177775).write .wmByte 0x12 t = .ok false t₂ ∧
      (directRef 0o177774).write .wmWord 0x12ab (bareMachine 0o20000 []) =
        .ok false t₁ ∧
      (directRef 0o177774).read .wmWord t₂ = .ok x u ∧
      (directRef 0o177774).read .wmWord t₁ = .ok x u₁ := by
  obtain ⟨b, t, hwrite, b₁, t₁, hwrite₁, hhigh⟩ :=
    bytes_agree_with_word_iff .stackLimit 0x12ab (s := bareMachine 0o20000 [])
      (show (directRef 0o177774).Reaches _ _ from rfl)
      (show (directRef 0o177774).Reaches _ _ from rfl)
  have ht : (directRef 0o177774).write .wmByte 0xab (bareMachine 0o20000 []) =
      .ok false _ := rfl
  have ht₁ : (directRef 0o177774).write .wmWord 0x12ab
      (bareMachine 0o20000 []) = .ok false _ := rfl
  cases hwrite.symm.trans ht
  cases hwrite₁.symm.trans ht₁
  obtain ⟨b₂, t₂, hwrite₂, hread⟩ := hhigh (directRef 0o177775) rfl
  cases (show EStateM.Result.ok false _ = .ok b₂ t₂ from hwrite₂)
  obtain ⟨x, u, x₁, u₁, hx, hx₁, hsame⟩ :=
    hread (directRef 0o177774) (directRef 0o177774) rfl rfl
  cases hsame.mpr trivial
  exact ⟨_, _, _, x, u, u₁, hwrite, hwrite₂, hwrite₁, hx, hx₁⟩

/-- The microprogram break register set to 256: the two bytes leave 256, the
word leaves zero. -/
theorem microprogramBreak_bytes_differ :
    ∃ t t₁ t₂ u u₁ : Machine LineClock,
      (directRef 0o177770).write .wmByte 0 (bareMachine 0o20000 []) =
        .ok false t ∧
      (directRef 0o177771).write .wmByte 1 t = .ok false t₂ ∧
      (directRef 0o177770).write .wmWord 0o400 (bareMachine 0o20000 []) =
        .ok false t₁ ∧
      (directRef 0o177770).read .wmWord t₂ = .ok 0o400 u ∧
      (directRef 0o177770).read .wmWord t₁ = .ok 0 u₁ :=
  ⟨_, _, _, _, _, rfl, rfl, rfl, rfl, rfl⟩

end References

end KekPdp11
