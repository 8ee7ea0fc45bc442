import KekPdp11.ControlRegisters

/-!
# KEK PDP-11: the page register windows

Without address translation the windows of the I/O page give access to the
page registers of three modes.  Reading them back after any number of writes
is compared with what the writes put together: a word replaces a register, a
byte one half of it.

**Result.**  The registers are distinct, and each holds what the writes to it
have put together.  A page descriptor register drops bits 15 and 7 to 4 of it,
and loses bits 7 and 6 when the page address register of its page is written.
-/

namespace KekPdp11

open StateExcept

variable {δ : Type}

section Writes

/-- The two registers of a page. -/
inductive PageRegister where
  | pdr (key : PageKey)
  | par (key : PageKey)
deriving DecidableEq, Repr

def PageRegister.address : PageRegister → Word
  | pdr key => key.pdrAddress
  | par key => key.parAddress

/-- What a write puts into a register. -/
inductive WrittenPart where
  | word (v : Word)
  | byte (msb : Bool) (v : Byte)
deriving DecidableEq, Repr

/-- The value put together from the old one and the part written. -/
def WrittenPart.into (old : Word) : WrittenPart → Word
  | word v => v
  | byte msb v => updateWord old msb v

/-- A write to a window, in any mode and space. -/
structure PageWrite where
  register : PageRegister
  part : WrittenPart
  runMode : RunMode
  space : Space
deriving DecidableEq, Repr

/-- The value that the writes to a register put together, from `old` on. -/
def composed (r : PageRegister) (old : Word) (writes : List PageWrite) : Word :=
  writes.foldl
    (fun v w => if w.register = r then w.part.into v else v) old

/-- The register is among those written. -/
def IsWritten (r : PageRegister) (writes : List PageWrite) : Prop :=
  ∃ w ∈ writes, w.register = r

instance (r : PageRegister) (writes : List PageWrite) :
    Decidable (IsWritten r writes) :=
  inferInstanceAs (Decidable (∃ w ∈ writes, w.register = r))

variable [UnibusDevices δ]

/-- The write on the bus. -/
def PageWrite.perform (w : PageWrite) : Exec δ Unit :=
  match w.part with
  | .word v =>
      discard (Bus.write w.register.address .wmWord v w.runMode w.space)
  | .byte msb v =>
      discard (Bus.write (w.register.address + boolWord msb) .wmByte
        (v.setWidth 16) w.runMode w.space)

def performWrites (writes : List PageWrite) : Exec δ Unit :=
  writes.forM PageWrite.perform

end Writes

section Pages

/-- The page registers after a write. -/
def PageWrite.store (w : PageWrite) (m : Mmu) : Mmu :=
  match w.register with
  | .pdr key =>
      m.modifyPage key.index fun p =>
        p.setPdr (w.part.into p.pdr &&& ControlRegister.pdrMask)
  | .par key =>
      m.modifyPage key.index fun p =>
        (p.setPar (w.part.into p.par)).setPdr (p.pdr &&& ~~~(128 + 64))

/-- Two pages of the windows have two places in the page array. -/
theorem PageKey.index_injective :
    Function.Injective PageKey.index := by
  rintro ⟨mode, space, apf⟩ ⟨mode', space', apf'⟩ h
  cases mode <;> cases space <;> cases mode' <;> cases space' <;>
    revert apf apf' <;> decide

theorem PageRegister.address_injective :
    Function.Injective PageRegister.address := by
  have hpdr : Function.Injective PageKey.pdrAddress := by
    rintro ⟨mode, space, apf⟩ ⟨mode', space', apf'⟩ h
    cases mode <;> cases space <;> cases mode' <;> cases space' <;>
      revert apf apf' <;> decide
  have hapart : ∀ key key' : PageKey, key.pdrAddress ≠ key'.parAddress := by
    rintro ⟨mode, space, apf⟩ ⟨mode', space', apf'⟩
    cases mode <;> cases space <;> cases mode' <;> cases space' <;>
      revert apf apf' <;> decide
  rintro (key | key) (key' | key') h
  · exact congrArg _ (hpdr h)
  · exact absurd h (hapart key key')
  · exact absurd h.symm (hapart key' key)
  · exact congrArg _ (hpdr ((BitVec.add_left_inj _).mp h))

/-- A write is one of page registers. -/
theorem PageWrite.store_eq
    (w : PageWrite) (m : Mmu) :
    ∃ pages, w.store m = { m with pages := pages } := by
  unfold PageWrite.store
  split <;> exact ⟨_, rfl⟩

/-- The page registers after some writes. -/
def storeAll (writes : List PageWrite) (m : Mmu) : Mmu :=
  writes.foldl (fun m w => w.store m) m

theorem storeAll_append
    (writes : List PageWrite) (w : PageWrite) (m : Mmu) :
    storeAll (writes ++ [w]) m = w.store (storeAll writes m) :=
  List.foldl_append

theorem composed_append
    (r : PageRegister) (old : Word) (writes : List PageWrite)
    (w : PageWrite) :
    composed r old (writes ++ [w]) =
      if w.register = r then w.part.into (composed r old writes)
      else composed r old writes :=
  List.foldl_append

theorem isWritten_append
    (r : PageRegister) (writes : List PageWrite) (w : PageWrite) :
    IsWritten r (writes ++ [w]) ↔ IsWritten r writes ∨ w.register = r := by
  unfold IsWritten
  simp only [List.mem_append, List.mem_singleton, or_and_right, exists_or,
    exists_eq_left]

/-- The bits that matter come from bits that matter. -/
theorem into_and_pdrMask
    {x y : Word} (part : WrittenPart)
    (h : x &&& ControlRegister.pdrMask = y &&& ControlRegister.pdrMask) :
    part.into x &&& ControlRegister.pdrMask =
      part.into y &&& ControlRegister.pdrMask := by
  have hbit : ∀ i, ControlRegister.pdrMask.getLsbD i = true →
      x.getLsbD i = y.getLsbD i := by
    intro i hi
    have hi' := congrArg (fun z => z.getLsbD i) h
    simpa [hi] using hi'
  cases part with
  | word v =>
      rfl
  | byte msb v =>
      apply BitVec.eq_of_getLsbD_eq
      intro i hi
      have hsame := hbit i
      simp only [WrittenPart.into, updateWord, BitVec.getLsbD_and]
      cases hmask : ControlRegister.pdrMask.getLsbD i with
      | false =>
          simp
      | true =>
          cases msb <;> simp [hsame hmask]

/-- Writes to the windows are writes of page registers. -/
theorem storeAll_eq
    (writes : List PageWrite) (m : Mmu) :
    ∃ pages, storeAll writes m = { m with pages := pages } := by
  induction writes using List.reverseRecOn with
  | nil =>
      exact ⟨m.pages, rfl⟩
  | append_singleton writes w ih =>
      obtain ⟨pages, hpages⟩ := ih
      obtain ⟨pages', hpages'⟩ := w.store_eq (storeAll writes m)
      refine ⟨pages', ?_⟩
      rw [storeAll_append, hpages', hpages]

variable (key : PageKey) (m : Mmu) (writes : List PageWrite)

/-- A page address register holds what the writes put together. -/
theorem storeAll_par :
    ((storeAll writes m).pages key.index).par =
      composed (.par key) (m.pages key.index).par writes := by
  induction writes using List.reverseRecOn with
  | nil =>
      rfl
  | append_singleton writes w ih =>
      rw [storeAll_append, composed_append, ← ih]
      unfold PageWrite.store
      cases hregister : w.register with
      | pdr key' =>
          rw [if_neg (by simp)]
          by_cases hkey : key.index = key'.index
          · simp [Mmu.modifyPage, hkey]
          · simp [Mmu.modifyPage, Function.update_of_ne hkey]
      | par key' =>
          by_cases hkey : key' = key
          · subst hkey
            simp [Mmu.modifyPage, Page.par_setPar]
          · have hindex : key.index ≠ key'.index :=
              fun h => hkey (PageKey.index_injective h.symm)
            rw [if_neg (by simpa using hkey)]
            simp [Mmu.modifyPage, Function.update_of_ne hindex]

/-- What a page descriptor register holds after the writes. -/
def pdrAfter (old : Word) : Word :=
  if IsWritten (.pdr key) writes then
    composed (.pdr key) old writes &&& ControlRegister.pdrMask
  else if IsWritten (.par key) writes then
    old &&& ~~~(128 + 64)
  else
    old

theorem pdrAfter_and_pdrMask
    (old : Word) :
    pdrAfter key writes old &&& ControlRegister.pdrMask =
      composed (.pdr key) old writes &&& ControlRegister.pdrMask := by
  have hunwritten : ¬ IsWritten (.pdr key) writes →
      composed (.pdr key) old writes = old := by
    intro hnone
    induction writes using List.reverseRecOn with
    | nil =>
        rfl
    | append_singleton writes w ih =>
        rw [isWritten_append, not_or] at hnone
        rw [composed_append, if_neg hnone.2, ih hnone.1]
  unfold pdrAfter
  split_ifs with hpdr hpar
  · rw [BitVec.and_assoc, BitVec.and_self]
  · rw [hunwritten hpdr, BitVec.and_assoc]
    rfl
  · rw [hunwritten hpdr]

theorem pdrAfter_append_of_ne
    {w : PageWrite} (old : Word) (hpdr : w.register ≠ .pdr key)
    (hpar : w.register ≠ .par key) :
    pdrAfter key (writes ++ [w]) old = pdrAfter key writes old := by
  unfold pdrAfter
  simp only [isWritten_append, composed_append, hpdr, hpar, or_false, if_false]

/-- A page descriptor register. -/
theorem storeAll_pdr :
    ((storeAll writes m).pages key.index).pdr =
      pdrAfter key writes (m.pages key.index).pdr := by
  induction writes using List.reverseRecOn with
  | nil =>
      rfl
  | append_singleton writes w ih =>
      rw [storeAll_append]
      unfold PageWrite.store
      cases hregister : w.register with
      | pdr key' =>
          by_cases hkey : key' = key
          · subst hkey
            have hmasked := into_and_pdrMask w.part
              ((congrArg (fun x => x &&& ControlRegister.pdrMask) ih).trans
                (pdrAfter_and_pdrMask key' writes (m.pages key'.index).pdr))
            have hwritten : IsWritten (.pdr key') (writes ++ [w]) :=
              (isWritten_append _ _ _).mpr (.inr hregister)
            unfold pdrAfter
            rw [if_pos hwritten, composed_append, if_pos hregister]
            simpa [Mmu.modifyPage, Page.setPdr] using hmasked
          · have hindex : key.index ≠ key'.index :=
              fun h => hkey (PageKey.index_injective h.symm)
            rw [pdrAfter_append_of_ne key writes _ (by simpa [hregister])
              (by simp [hregister]), ← ih]
            simp [Mmu.modifyPage, Function.update_of_ne hindex]
      | par key' =>
          by_cases hkey : key' = key
          · subst hkey
            have hcleared : pdrAfter key' (writes ++ [w])
                (m.pages key'.index).pdr =
                pdrAfter key' writes (m.pages key'.index).pdr &&&
                  ~~~(128 + 64) := by
              unfold pdrAfter
              simp only [isWritten_append, composed_append, hregister,
                reduceCtorEq, or_false, if_false, or_true, if_true]
              split_ifs
              · rw [BitVec.and_assoc]
                rfl
              · rw [BitVec.and_assoc, BitVec.and_self]
              · rfl
            rw [hcleared, ← ih]
            simp [Mmu.modifyPage, Page.setPdr]
          · have hindex : key.index ≠ key'.index :=
              fun h => hkey (PageKey.index_injective h.symm)
            rw [pdrAfter_append_of_ne key writes _ (by simp [hregister])
              (by simpa [hregister]), ← ih]
            simp [Mmu.modifyPage, Function.update_of_ne hindex]

/-- The pages without a register in the windows. -/
theorem storeAll_other
    {page : PageIndex} (hpage : ∀ key : PageKey, page ≠ key.index) :
    (storeAll writes m).pages page = m.pages page := by
  induction writes using List.reverseRecOn with
  | nil =>
      rfl
  | append_singleton writes w ih =>
      rw [storeAll_append, ← ih]
      unfold PageWrite.store
      split
      · next key _ =>
          exact Function.update_of_ne (hpage key) _ _
      · next key _ =>
          exact Function.update_of_ne (hpage key) _ _

end Pages

section Bus

variable {s : Machine δ}

/-- Without address translation the I/O page is at the end of the addresses. -/
theorem target_of_disabled
    (hoff : s.mmu.isEnabled = false) {a : Word} (ha : 0o160000 ≤ a)
    (runMode : RunMode) (space : Space) :
    s.target runMode a space = .io a := by
  have hbase : s.mmu.ioBase = 0o160000 := by
    have hbit : ¬ s.mmu.mmr0 &&& 1 ≠ 0 := of_decide_eq_false hoff
    rw [s.mmu.ioBase_eq]
    exact if_neg hbit
  have hle : (0o160000 : PhysAddr) ≤ a.setWidth 32 := by
    rw [BitVec.le_def] at ha ⊢
    rw [BitVec.toNat_setWidth_of_le (by decide)]
    exact ha
  have hback : Bus.ioAddress (a.setWidth 32) 0o160000 = a := by
    unfold Bus.ioAddress
    rw [BitVec.sub_add_cancel, BitVec.setWidth_setWidth_of_le _ (by decide),
      BitVec.setWidth_eq]
  unfold Machine.target Mmu.target Mmu.dispatch Mmu.physical
  rw [hoff, hbase]
  simp only [Bool.false_eq_true, false_and, if_false]
  rw [if_pos hle, hback]

/-- An address of a window is in the I/O page. -/
theorem io_of_inMmuWindow
    {a : Word} (h : inMmuWindow a = true) :
    0o160000 ≤ a := by
  have hrange := of_decide_eq_true h
  bv_omega

variable [UnibusDevices δ]

/-- A write to a window on the bus. -/
theorem PageWrite.perform_apply
    (w : PageWrite) (hoff : s.mmu.isEnabled = false) :
    ∃ trace, w.perform s =
      .ok () { s with mmu := w.store s.mmu, trace := trace } := by
  obtain ⟨register, part, runMode, space⟩ := w
  have hbyte : ∀ v : Byte, (v.setWidth 16).setWidth 8 = v := by
    intro v
    rw [BitVec.setWidth_setWidth_of_le v (by decide), BitVec.setWidth_eq]
  cases part with
  | word v =>
      have hrun : ∀ a : Word, inMmuWindow a = true →
          (discard (Bus.write a .wmWord v runMode space) : Exec δ Unit) s =
            .ok () { s.log (.writeIo a .wmWord) with
              mmu := s.mmu.writeAt a v .wmWord } := by
        intro a hwindow
        refine bind_of_ok (a := false) ?_
        rw [Bus.write_eq, target_of_disabled hoff (io_of_inMmuWindow hwindow)]
        exact noteAbort_of_ok
          (writeIo_window hwindow .wmWord (activePageField a) v s)
      cases register with
      | pdr key =>
          have hin := inMmuWindow_pdr key false
          have hstore := writeAt_pdr s.mmu key false v .wmWord
          rw [show key.pdrAddress + boolWord false = key.pdrAddress from
            BitVec.add_zero _] at hin hstore
          refine ⟨.writeIo key.pdrAddress .wmWord :: s.trace,
            (hrun _ hin).trans ?_⟩
          rw [hstore]
          rfl
      | par key =>
          have hin := inMmuWindow_par key false
          have hstore := writeAt_par s.mmu key false v .wmWord
          rw [show key.parAddress + boolWord false = key.parAddress from
            BitVec.add_zero _] at hin hstore
          refine ⟨.writeIo key.parAddress .wmWord :: s.trace,
            (hrun _ hin).trans ?_⟩
          rw [hstore]
          rfl
  | byte msb v =>
      have hrun : ∀ a : Word, inMmuWindow a = true →
          (discard (Bus.write a .wmByte (v.setWidth 16) runMode space) :
              Exec δ Unit) s =
            .ok () { s.log (.writeIo a .wmByte) with
              mmu := s.mmu.writeAt a (v.setWidth 16) .wmByte } := by
        intro a hwindow
        refine bind_of_ok (a := false) ?_
        rw [Bus.write_eq, target_of_disabled hoff (io_of_inMmuWindow hwindow)]
        have hwrite := writeIo_window hwindow .wmByte (activePageField a)
          (v.setWidth 16) s
        dsimp only at hwrite
        rw [hbyte] at hwrite
        exact noteAbort_of_ok hwrite
      cases register with
      | pdr key =>
          refine ⟨.writeIo (key.pdrAddress + boolWord msb) .wmByte :: s.trace,
            (hrun _ (inMmuWindow_pdr key msb)).trans ?_⟩
          rw [writeAt_pdr]
          dsimp only
          rw [hbyte]
          rfl
      | par key =>
          refine ⟨.writeIo (key.parAddress + boolWord msb) .wmByte :: s.trace,
            (hrun _ (inMmuWindow_par key msb)).trans ?_⟩
          rw [writeAt_par]
          dsimp only
          rw [hbyte]
          rfl

/-- Any number of writes. -/
theorem performWrites_apply
    (writes : List PageWrite) (hoff : s.mmu.isEnabled = false) :
    ∃ trace, performWrites writes s =
      .ok () { s with mmu := storeAll writes s.mmu, trace := trace } := by
  induction writes generalizing s with
  | nil =>
      exact ⟨s.trace, rfl⟩
  | cons w writes ih =>
      obtain ⟨trace, hw⟩ := w.perform_apply hoff
      have hoff' : (w.store s.mmu).isEnabled = false := by
        obtain ⟨pages, hpages⟩ := w.store_eq s.mmu
        rw [hpages]
        exact hoff
      obtain ⟨trace', hrest⟩ := ih
        (s := { s with mmu := w.store s.mmu, trace := trace }) hoff'
      exact ⟨trace', (bind_of_ok hw).trans hrest⟩

/-- One half of a word. -/
def halfOf (msb : Bool) (v : Word) : Word :=
  if msb then v >>> 8 else v &&& 0xff

/-- A word read and a byte read of a page register. -/
theorem read_window
    {a : Word} {msb : Bool} (hin : inMmuWindow (a + boolWord msb) = true)
    (hodd : isOdd (a + boolWord msb) = msb) (hoff : s.mmu.isEnabled = false)
    {v : Word} (hword : s.mmu.readWord (a + boolWord msb) = v)
    (runMode : RunMode) (space : Space) :
    (msb = false → ∃ u, Bus.read a .wmWord runMode space s = .ok v u) ∧
      ∃ u, Bus.read (a + boolWord msb) .wmByte runMode space s =
        .ok (halfOf msb v) u := by
  refine ⟨fun hmsb => ?_, ?_⟩
  · subst hmsb
    rw [show a + boolWord false = a from BitVec.add_zero _] at hin hodd hword
    have heven : ¬ (isOdd a ∧ WordMode.wmWord = .wmWord) := by
      rw [hodd]
      exact fun h => by cases h.1
    have hread := readIo_window hin .wmWord (activePageField a) heven s
    dsimp only at hread
    rw [hword] at hread
    refine ⟨s.log (.readIo a .wmWord), ?_⟩
    rw [Bus.read_eq, target_of_disabled hoff (io_of_inMmuWindow hin)]
    exact noteAbort_of_ok hread
  · have hread := readIo_window hin .wmByte
      (activePageField (a + boolWord msb)) (fun h => by cases h.2) s
    have hhalf : (s.mmu.readByte (a + boolWord msb)).setWidth 16 =
        halfOf msb v := by
      unfold Mmu.readByte halfOf
      dsimp only
      rw [hword, hodd]
      cases msb with
      | true =>
          ext i hi
          interval_cases i <;> simp
      | false =>
          ext i hi
          interval_cases i <;> simp
    dsimp only at hread
    rw [hhalf] at hread
    refine ⟨s.log (.readIo (a + boolWord msb) .wmByte), ?_⟩
    rw [Bus.read_eq, target_of_disabled hoff (io_of_inMmuWindow hin)]
    exact noteAbort_of_ok hread

/-- The register reads as the value, as a word and byte by byte, in every mode
and space. -/
def ReadsAs (t : Machine δ) (r : PageRegister) (v : Word) : Prop :=
  ∀ runMode space,
    (∃ u, Bus.read r.address .wmWord runMode space t = .ok v u) ∧
      ∀ msb, ∃ u,
        Bus.read (r.address + boolWord msb) .wmByte runMode space t =
          .ok (halfOf msb v) u

theorem readsAs_pdr
    (hoff : s.mmu.isEnabled = false) (key : PageKey) :
    ReadsAs s (.pdr key) (s.mmu.pages key.index).pdr := by
  intro runMode space
  have hread := fun msb => read_window (inMmuWindow_pdr key msb)
    (key.window_bytes msb).2.2.2.2.1 hoff (readWord_pdr s.mmu key msb) runMode
    space
  exact ⟨(hread false).1 rfl, fun msb => (hread msb).2⟩

theorem readsAs_par
    (hoff : s.mmu.isEnabled = false) (key : PageKey) :
    ReadsAs s (.par key) (s.mmu.pages key.index).par := by
  intro runMode space
  have hread := fun msb => read_window (inMmuWindow_par key msb)
    (key.window_bytes msb).2.2.2.2.2 hoff (readWord_par s.mmu key msb) runMode
    space
  exact ⟨(hread false).1 rfl, fun msb => (hread msb).2⟩

/-- The windows are a register file.  After any writes, with relocation off, a
page address register reads as what was put together for it, and a page
descriptor register as that without bits 15 and 7 to 4, or without a write of
its own as before, less bits 7 and 6 if the page address register was written.
No two registers share an address or a place, and nothing else changes. -/
theorem windows_are_a_register_file
    {s : Machine δ} (hoff : s.mmu.isEnabled = false)
    (writes : List PageWrite) :
    Function.Injective PageRegister.address ∧
    Function.Injective PageKey.index ∧
    ∃ pages trace t,
      t = { s with mmu := { s.mmu with pages := pages }, trace := trace } ∧
      performWrites writes s = .ok () t ∧
      (∀ key, ReadsAs t (.par key)
        (composed (.par key) (s.mmu.pages key.index).par writes)) ∧
      (∀ key, ReadsAs t (.pdr key)
        (pdrAfter key writes (s.mmu.pages key.index).pdr)) ∧
      ∀ page, (∀ key : PageKey, page ≠ key.index) →
        t.mmu.pages page = s.mmu.pages page := by
  refine ⟨PageRegister.address_injective, PageKey.index_injective, ?_⟩
  obtain ⟨trace, hrun⟩ := performWrites_apply writes hoff
  obtain ⟨pages, hpages⟩ := storeAll_eq writes s.mmu
  have hoff' : (storeAll writes s.mmu).isEnabled = false := by
    rw [hpages]
    exact hoff
  refine ⟨pages, trace,
    { s with mmu := storeAll writes s.mmu, trace := trace }, ?_, hrun,
    fun key => ?_, fun key => ?_, fun page hpage => ?_⟩
  · rw [hpages]
  · rw [← storeAll_par key s.mmu writes]
    exact readsAs_par hoff' key
  · rw [← storeAll_pdr key s.mmu writes]
    exact readsAs_pdr hoff' key
  · exact storeAll_other s.mmu writes hpage

/-- The high byte of the first user page address register, then a word of the
first kernel page descriptor register. -/
theorem two_page_registers_written :
    ∃ t u u₁ : Machine LineClock,
      performWrites
        [⟨.par ⟨.user, .iSpace, 0⟩, .byte true 0x12, 0, .dSpace⟩,
          ⟨.pdr ⟨.kernel, .iSpace, 0⟩, .word 0xffff, 0, .dSpace⟩]
        (bareMachine 0o20000 []) = .ok () t ∧
      Bus.read 0o177640 .wmWord 0 .dSpace t = .ok 0x1200 u ∧
      Bus.read 0o172300 .wmWord 0 .dSpace t = .ok 0x7f0f u₁ := by
  obtain ⟨-, -, pages, trace, t, -, hrun, hpar, hpdr, -⟩ :=
    windows_are_a_register_file (s := bareMachine 0o20000 []) rfl
      [⟨.par ⟨.user, .iSpace, 0⟩, .byte true 0x12, 0, .dSpace⟩,
        ⟨.pdr ⟨.kernel, .iSpace, 0⟩, .word 0xffff, 0, .dSpace⟩]
  obtain ⟨u, hu⟩ := (hpar ⟨.user, .iSpace, 0⟩ 0 .dSpace).1
  obtain ⟨u₁, hu₁⟩ := (hpdr ⟨.kernel, .iSpace, 0⟩ 0 .dSpace).1
  exact ⟨t, u, u₁, hrun, hu, hu₁⟩

end Bus

end KekPdp11
