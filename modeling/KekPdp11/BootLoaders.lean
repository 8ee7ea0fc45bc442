import KekPdp11.AttachedDisks

/-!
# KEK PDP-11: boot programs

The boot programs that set_boot_loader stores to memory, and what the machine
does when it is started there: the program has the disk controller read the
first sectors of its first drive to the start of memory, waits for it and jumps
to what it has read.
-/

namespace KekPdp11

open StateExcept Slices ArrayCopies

/-- bootloader_t. -/
inductive Bootloader where
  | none
  | rk05
  | rl02
  | rp06
  | tm11
deriving DecidableEq, Repr

namespace Bootloader

def start : Bootloader → Option Word
  | none => Option.none
  | rk05 => some 0o1000
  | rl02 => some 0o1000
  | rp06 => some 0o2000
  | tm11 => some 0o10000

def code : Bootloader → List Word
  | none => []
  | rk05 =>
      [0o12700, 0o177406, 0o12710, 0o177400, 0o12740, 0o5, 0o105710, 0o100376,
        0o5007]
  | rl02 =>
      [0o12700, 0o174400, 0o12760, 0o177400, 0o6, 0o12710, 0o14, 0o105710,
        0o100376, 0o5007]
  | rp06 =>
      [0o12701, 0o176700, 0o12700, 0o176704, 0o12740, 0o177000, 0o12740, 0o71,
        0o12700, 0, 0o110, 0]
  | tm11 =>
      [0o12700, 0o1000, 0o10006, 0o10046, 0o12701, 0o1, 0o10037, 0o172526,
        0o12737, 0o177000, 0o172524, 0o12737, 0o3, 0o172522, 0o32737, 0o200,
        0o172522, 0o1774, 0o207]

end Bootloader

section Boot

variable {δ : Type} [UnibusDevices δ]

def storeWords : Word → List Word → Exec δ Unit
  | _, [] => pure ()
  | a, w :: ws => do
      Bus.writeWordVia trap a w .iSpace
      storeWords (a + 2) ws

def setBootLoader (which : Bootloader) : Exec δ (Option Word) := do
  match which.start with
  | none => pure none
  | some offset => do
      storeWords offset which.code
      pure (some offset)

/-- What main does for a boot program: store it and start there. -/
def boot (which : Bootloader) : Exec δ Unit := do
  match ← setBootLoader which with
  | none => pure ()
  | some start => setRegister 7 start

/-- Some steps of the machine. -/
def steps : Nat → Exec δ Unit
  | 0 => pure ()
  | n + 1 => do
      discard step
      steps n

end Boot

section Programs

/-- The bytes of words in memory. -/
def bytesOf (ws : List Word) : List Byte :=
  ws.flatMap fun w : Word => [w.setWidth 8, (w >>> 8).setWidth 8]

/-- Words one after the other. -/
theorem overwrite_bytesOf_cons
    (f : Nat → Byte) (a : Nat) (w : Word) (ws : List Word) :
    overwrite f a (bytesOf (w :: ws)) =
      overwrite (overwrite f a [w.setWidth 8, (w >>> 8).setWidth 8]) (a + 2)
        (bytesOf ws) :=
  (overwrite_append f a [w.setWidth 8, (w >>> 8).setWidth 8] (bytesOf ws)).symm

/-- What is stored is there. -/
theorem word_overwrite_bytesOf
    (f : Nat → Byte) (a : Nat) {ws : List Word} {i : Nat}
    (hi : i < ws.length) :
    overwrite f a (bytesOf ws) (a + 2 * i + 1) ++
      overwrite f a (bytesOf ws) (a + 2 * i) = ws[i] := by
  induction ws generalizing f a i with
  | nil =>
      cases hi
  | cons w ws ih =>
      rw [overwrite_bytesOf_cons]
      cases i with
      | zero =>
          have hlow : overwrite
              (overwrite f a [w.setWidth 8, (w >>> 8).setWidth 8]) (a + 2)
              (bytesOf ws) a = w.setWidth 8 := by
            rw [overwrite_before (by omega), overwrite_pair, if_pos rfl]
          have hhigh : overwrite
              (overwrite f a [w.setWidth 8, (w >>> 8).setWidth 8]) (a + 2)
              (bytesOf ws) (a + 1) = (w >>> 8).setWidth 8 := by
            rw [overwrite_before (by omega), overwrite_pair,
              if_neg (by omega), if_pos rfl]
          change overwrite _ _ _ (a + 1) ++ overwrite _ _ _ a = w
          rw [hlow, hhigh]
          exact append_bytes w
      | succ i =>
          have h := ih (overwrite f a [w.setWidth 8, (w >>> 8).setWidth 8])
            (a + 2) (Nat.lt_of_succ_lt_succ hi)
          rw [show a + 2 + 2 * i = a + 2 * (i + 1) by omega] at h
          exact h

/-- The words are in memory from an address on. -/
structure CodeAt (start : Word) (code : List Word) (ram : Ram) : Prop where
  even : start.toNat % 2 = 0
  low : start.toNat + 2 * code.length < 0o160000
  inside : start.toNat + 2 * code.length ≤ ram.size.toNat
  words {i : Nat} (hi : i < code.length) :
    ram.m (start.toNat + 2 * i + 1) ++ ram.m (start.toNat + 2 * i) = code[i]

variable {δ : Type} {start : Word} {code : List Word} {v : Sight δ}

/-- The address of a word of the program. -/
def codeAddress (start : Word) (i : Nat) : Word :=
  start + BitVec.ofNat 16 (2 * i)

theorem codeAddress_succ
    (start : Word) (i : Nat) :
    codeAddress start i + 2 = codeAddress start (i + 1) := by
  unfold codeAddress
  rw [Nat.mul_succ, BitVec.ofNat_add, BitVec.add_assoc]
  rfl

theorem CodeAt.word
    (h : CodeAt start code v.ram) {i : Nat} (hi : i < code.length) :
    v.InMemory .wmWord (codeAddress start i) ∧
      v.load .wmWord (codeAddress start i) = code[i] := by
  have heven := h.even
  have hlow := h.low
  have hinside := h.inside
  have haddress : (codeAddress start i).toNat = start.toNat + 2 * i := by
    unfold codeAddress
    rw [BitVec.toNat_add, BitVec.toNat_ofNat]
    omega
  have hwide : ((codeAddress start i).setWidth 32 : PhysAddr).toNat =
      start.toNat + 2 * i := by
    rw [BitVec.toNat_setWidth, haddress]
    omega
  refine ⟨⟨?_, ?_, fun _ => by omega⟩, ?_⟩
  · rw [BitVec.lt_def, haddress]
    change _ < 0o160000
    omega
  · rw [BitVec.lt_def, hwide]
    omega
  · change v.ram.readWord ((codeAddress start i).setWidth 32) = _
    unfold Ram.readWord
    rw [hwide]
    exact h.words hi

/-- The memory with the words stored. -/
def Ram.storing (r : Ram) (a : Word) (ws : List Word) : Ram :=
  { r with m := overwrite r.m a.toNat (bytesOf ws) }

theorem CodeAt.stored
    {r : Ram} (heven : start.toNat % 2 = 0)
    (hlow : start.toNat + 2 * code.length < 0o160000)
    (hinside : start.toNat + 2 * code.length ≤ r.size.toNat) :
    CodeAt start code (r.storing start code) :=
  ⟨heven, hlow, hinside, word_overwrite_bytesOf _ _⟩

variable [UnibusDevices δ]

theorem does_storeWords
    {a : Word} {ws : List Word} (heven : a.toNat % 2 = 0)
    (hlow : a.toNat + 2 * ws.length < 0o160000)
    (hinside : a.toNat + 2 * ws.length ≤ v.ram.size.toNat) :
    Does v (storeWords a ws) () { v with ram := v.ram.storing a ws } := by
  induction ws generalizing a v with
  | nil =>
      unfold Ram.storing
      rw [show bytesOf [] = [] from rfl, overwrite_nil]
      exact .pure ()
  | cons w ws ih =>
      rw [List.length_cons] at hlow hinside
      have hnext : (a + 2).toNat = a.toNat + 2 := by
        bv_omega
      have hwide : (a.setWidth 32 : PhysAddr).toNat = a.toNat := by
        rw [BitVec.toNat_setWidth]
        omega
      have hmemory : v.InMemory .wmWord a := by
        refine ⟨?_, ?_, fun _ => heven⟩
        · rw [BitVec.lt_def]
          change _ < 0o160000
          omega
        · rw [BitVec.lt_def, hwide]
          omega
      have hstore : Does v (Bus.writeWordVia trap a w .iSpace) ()
          (v.store .wmWord a w) :=
        does_getPSWRunmode.bind ((does_write hmemory w 0 .iSpace).bind
          (.pure ()))
      have hrest := ih (a := a + 2) (v := v.store .wmWord a w) (by omega)
        (by omega) (by
          change (a + 2).toNat + 2 * ws.length ≤ v.ram.size.toNat
          omega)
      refine hstore.bind (hrest.congr ?_)
      have hm : overwrite v.ram.m a.toNat
          [w.setWidth 8, (w >>> 8).setWidth 8] =
            (v.ram.writeWord (a.setWidth 32) w).m := by
        unfold Ram.writeWord
        dsimp only
        rw [hwide]
        funext i
        rw [overwrite_pair]
        unfold Function.update
        grind
      unfold Ram.storing
      rw [overwrite_bytesOf_cons, hm, hnext]
      rfl

end Programs

theorem fits_byte
    (b : Byte) :
    fits (b.setWidth 16) .wmByte = true := by
  unfold fits
  rw [decide_eq_true (by bv_omega), Bool.true_or]

section Steps

variable {ρ β ω : Type} [DiskController ρ] [AttachedController ρ]
variable [DiskBackend β] [UnibusDevices ω]
variable {v v' : Sight (Devices β ω)}

theorem Leads.step
    {instr : Word} {operation : Operation} {Q : Sight (Devices β ω) → Prop}
    (h : v.InMemory .wmWord (v.reg 7))
    (hload : v.load .wmWord (v.reg 7) = instr)
    (hdecode : decode instr = some operation)
    (hop : Leads (v.set 7 (v.reg 7 + 2)) operation.execute true Q) :
    Leads v step true Q := by
  obtain ⟨v', hdoes, hv'⟩ := hop
  exact ⟨v', does_step h hload hdecode hdoes, hv'⟩

theorem Leads.steps
    {n : Nat} {Q Q' : Sight (Devices β ω) → Prop}
    (h : Leads v KekPdp11.step true Q)
    (hrest : ∀ v', Q v' → Leads v' (KekPdp11.steps n) () Q') :
    Leads v (KekPdp11.steps (n + 1)) () Q' := by
  obtain ⟨v', hdoes, hv'⟩ := h
  obtain ⟨v'', hdoes', hv''⟩ := hrest v' hv'
  exact ⟨v'', (hdoes.bind (.pure ())).bind hdoes', hv''⟩

namespace Facing

variable {pc r0 : Word} {ram : Ram} {u : DiskUnit ρ β}
variable {attached : Slot → Bool} {start : Word} {code : List Word} {i : Nat}

omit [DiskBackend β] [UnibusDevices ω] in
theorem jump
    (h : Facing pc r0 ram u attached v) (pc' : Word) :
    Facing pc' r0 ram u attached (v.set 7 pc') :=
  ⟨Sight.set_reg_self _ _ _,
    (Sight.set_reg_of_ne _ _ (by decide)).trans h.r0, h.ram, h.unit,
    h.attached⟩

omit [DiskBackend β] [UnibusDevices ω] in
/-- PC moves over a word of the program. -/
theorem advance
    (h : Facing (codeAddress start i) r0 ram u attached v) :
    Facing (codeAddress start (i + 1)) r0 ram u attached
      (v.set 7 (v.reg 7 + 2)) := by
  rw [h.pc, codeAddress_succ]
  exact h.jump _

omit [DiskBackend β] [UnibusDevices ω] in
theorem setR0
    (h : Facing pc r0 ram u attached v) (r0' : Word) :
    Facing pc r0' ram u attached (v.set 0 r0') :=
  ⟨(Sight.set_reg_of_ne _ _ (by decide)).trans h.pc, Sight.set_reg_self _ _ _,
    h.ram, h.unit, h.attached⟩

omit [DiskBackend β] [UnibusDevices ω] in
/-- Neither PC nor R0. -/
theorem setOther
    (h : Facing pc r0 ram u attached v) {reg : RegNr} (hpc : 7 ≠ reg)
    (hr0 : 0 ≠ reg) (value : Word) :
    Facing pc r0 ram u attached (v.set reg value) :=
  ⟨(Sight.set_reg_of_ne _ _ hpc).trans h.pc,
    (Sight.set_reg_of_ne _ _ hr0).trans h.r0, h.ram, h.unit, h.attached⟩

omit [DiskBackend β] [UnibusDevices ω] in
theorem withCodes
    (h : Facing pc r0 ram u attached v) (codes : ConditionCodes) :
    Facing pc r0 ram u attached (v.withCodes codes) :=
  ⟨h.pc, h.r0, h.ram, h.unit, h.attached⟩

omit [DiskBackend β] [UnibusDevices ω] in
/-- The word of the program at PC. -/
theorem word
    (h : Facing (codeAddress start i) r0 ram u attached v)
    (hcode : CodeAt start code ram) (hi : i < code.length) :
    v.InMemory .wmWord (v.reg 7) ∧ v.load .wmWord (v.reg 7) = code[i] := by
  obtain ⟨hpc, -, rfl, -, -⟩ := h
  rw [hpc]
  exact hcode.word hi

theorem deferred
    (h : Facing pc r0 ram u attached v) :
    Leads v (gamAddress 1 0 .wmWord 0) (r0, .dSpace, .dSpace)
      (Facing pc r0 ram u attached) := by
  refine ⟨v, ?_, h⟩
  rw [← h.r0]
  exact does_gamAddress_deferred .wmWord

theorem decrement
    (h : Facing pc r0 ram u attached v) :
    Leads v (gamAddress 4 0 .wmWord 0) (r0 - 2, .dSpace, .dSpace)
      (Facing pc (r0 - 2) ram u attached) := by
  refine ⟨v.set 0 (r0 - 2), ?_, h.setR0 _⟩
  rw [← h.r0]
  exact does_gamAddress_decrement

theorem indexed
    (h : Facing (codeAddress start i) r0 ram u attached v)
    (hcode : CodeAt start code ram) {a : Word} (hi : i < code.length)
    (ha : r0 + code[i] = a) :
    Leads v (gamAddress 6 0 .wmWord 0) (a, .dSpace, .dSpace)
      (Facing (codeAddress start (i + 1)) r0 ram u attached) := by
  obtain ⟨hmemory, hload⟩ := h.word hcode hi
  subst ha
  refine ⟨_, ?_, h.advance⟩
  rw [← hload, ← h.r0]
  exact does_gamAddress_indexed (by decide) hmemory

/-- MOV #n,R0. -/
theorem movToR0
    (h : Facing (codeAddress start i) r0 ram u attached v)
    (hcode : CodeAt start code ram) (value : Word) (hi : i + 1 < code.length)
    (hdecode : decode code[i] =
      some (.double .mov ⟨2, 7⟩ ⟨0, 0⟩ .wmWord))
    (hvalue : code[i + 1] = value) :
    Leads v KekPdp11.step true
      (Facing (codeAddress start (i + 2)) value ram u attached) := by
  obtain ⟨hmemory, hload⟩ := h.word hcode (by omega)
  obtain ⟨hmemory', hload'⟩ := h.advance.word hcode hi
  refine .step hmemory hload hdecode ⟨_, does_movToRegister hmemory', ?_⟩
  rw [hload', hvalue]
  exact (h.advance.advance.setR0 _).withCodes _

/-- MOV #n,R1. -/
theorem movToR1
    (h : Facing (codeAddress start i) r0 ram u attached v)
    (hcode : CodeAt start code ram) (hi : i + 1 < code.length)
    (hdecode : decode code[i] =
      some (.double .mov ⟨2, 7⟩ ⟨0, 1⟩ .wmWord)) :
    Leads v KekPdp11.step true
      (Facing (codeAddress start (i + 2)) r0 ram u attached) := by
  obtain ⟨hmemory, hload⟩ := h.word hcode (by omega)
  obtain ⟨hmemory', _⟩ := h.advance.word hcode hi
  refine .step hmemory hload hdecode ⟨_, does_movToRegister hmemory', ?_⟩
  exact (h.advance.advance.setOther (by decide) (by decide) _).withCodes _

/-- MOV #n to a register of the controller. -/
theorem movToDevice
    (h : Facing (codeAddress start i) r0 ram u attached v)
    (hcode : CodeAt start code ram)
    (hattached : attached (AttachedController.slot ρ) = true)
    {mode : RegNr} {a value r0' pc' : Word} {space readSpace : Space}
    {t : Bench ρ β} (hi : i + 1 < code.length)
    (hdecode : decode code[i] =
      some (.double .mov ⟨2, 7⟩ ⟨mode, 0⟩ .wmWord))
    (hvalue : code[i + 1] = value) (hmode : mode ≠ 0)
    (haddress : ∀ v : Sight (Devices β ω),
      Facing (codeAddress start (i + 2)) r0 ram u attached v →
      Leads v (gamAddress mode 0 .wmWord 0) (a, space, readSpace)
        (Facing pc' r0' ram u attached))
    (ha : DiskRegister a) (honly : OnlyOf (AttachedController.slot ρ) a)
    (hwrite : DiskController.writeWord a value (u.bench ram) = .ok () t)
    (hquiet : t.requests = []) :
    Leads v KekPdp11.step true
      (Facing pc' r0' { t.ram with size := ram.size }
        ⟨t.controller, t.fhs, u.stopped⟩ attached) := by
  obtain ⟨hmemory, hload⟩ := h.word hcode (by omega)
  obtain ⟨hmemory', hload'⟩ := h.advance.word hcode hi
  obtain ⟨v', hdoes, h'⟩ := haddress _ h.advance.advance
  subst hvalue
  obtain ⟨v'', hdoes', h''⟩ :=
    h'.writes ha honly hattached hwrite hquiet 0 space
  rw [← hload'] at hdoes'
  refine .step hmemory hload hdecode
    ⟨_, does_movToAddress hmode hmemory' hdoes hdoes', ?_⟩
  exact h''.withCodes _

/-- TSTB (R0). -/
theorem tstb
    (h : Facing (codeAddress start i) r0 ram u attached v)
    (hcode : CodeAt start code ram)
    (hattached : attached (AttachedController.slot ρ) = true)
    (hi : i < code.length)
    (hdecode : decode code[i] = some (.single .tst ⟨1, 0⟩ .wmByte))
    (ha : DiskRegister r0) (honly : OnlyOf (AttachedController.slot ρ) r0) :
    Leads v KekPdp11.step true fun v' =>
      Facing (codeAddress start (i + 1)) r0 ram
        { u with controller := (DiskController.readByte r0 u.controller).2 }
        attached v' ∧
      v'.codes.n =
        sign ((DiskController.readByte r0 u.controller).1.setWidth 16)
          .wmByte := by
  obtain ⟨hmemory, hload⟩ := h.word hcode hi
  obtain ⟨v', hdoes, h'⟩ := h.advance.reads ha honly hattached 0
    (registerSpace 0)
  rw [← h.advance.r0] at hdoes
  have htst := does_tstByte
    (fits_byte (DiskController.readByte _ u.controller).1) hdoes
  rw [h.advance.r0] at htst
  exact .step hmemory hload hdecode ⟨_, htst, h'.withCodes _, rfl⟩

/-- BPL after a negative value. -/
theorem bpl
    (h : Facing (codeAddress start i) r0 ram u attached v)
    (hcode : CodeAt start code ram) (hn : v.codes.n = true)
    (hi : i < code.length) (hdecode : decode code[i] = some (.branch code[i]))
    (hbpl : ((code[i] >>> 8).setWidth 8 : BitVec 8) = 0b10000000) :
    Leads v KekPdp11.step true
      (Facing (codeAddress start (i + 1)) r0 ram u attached) := by
  obtain ⟨hmemory, hload⟩ := h.word hcode hi
  exact .step hmemory hload hdecode
    ⟨_, does_bpl_not_taken (v := v.set 7 (v.reg 7 + 2)) hbpl hn, h.advance⟩

/-- CLR PC. -/
theorem clrPC
    (h : Facing (codeAddress start i) r0 ram u attached v)
    (hcode : CodeAt start code ram) (hi : i < code.length)
    (hdecode : decode code[i] = some (.single .clr ⟨0, 7⟩ .wmWord)) :
    Leads v KekPdp11.step true (Facing 0 r0 ram u attached) := by
  obtain ⟨hmemory, hload⟩ := h.word hcode hi
  exact .step hmemory hload hdecode
    ⟨_, does_clrRegister, (h.advance.jump 0).withCodes _⟩

/-- JMP (R0). -/
theorem jmpR0
    (h : Facing (codeAddress start i) r0 ram u attached v)
    (hcode : CodeAt start code ram) (hi : i < code.length)
    (hdecode : decode code[i] = some (.jmp ⟨1, 0⟩)) :
    Leads v KekPdp11.step true (Facing r0 r0 ram u attached) := by
  obtain ⟨hmemory, hload⟩ := h.word hcode hi
  refine .step hmemory hload hdecode ⟨_, does_jmpDeferred, ?_⟩
  rw [h.advance.r0]
  exact h.advance.jump r0

end Facing

end Steps

section Booting

variable {ρ β ω : Type} [DiskController ρ] [AttachedController ρ]
variable [DiskBackend β] [UnibusDevices ω]

/-- The program is stored and PC set to its start. -/
theorem boot_leads
    {which : Bootloader} {start : Word} {v : Sight (Devices β ω)}
    (hstart : which.start = some start) (heven : start.toNat % 2 = 0)
    (hlow : start.toNat + 2 * which.code.length < 0o160000)
    (hinside : start.toNat + 2 * which.code.length ≤ v.ram.size.toNat) :
    Leads v (boot which) ()
      (Facing (ρ := ρ) (codeAddress start 0) (v.reg 0)
        (v.ram.storing start which.code) (AttachedController.unit v.devices)
        v.attached) := by
  have hstored : Does v (setBootLoader which) (some start)
      { v with ram := v.ram.storing start which.code } := by
    unfold setBootLoader
    rw [hstart]
    exact (does_storeWords heven hlow hinside).bind (.pure _)
  refine ⟨_, hstored.bind (does_setRegister 7 start), ?_⟩
  refine ⟨?_, ?_, rfl, rfl, rfl⟩
  · rw [Sight.set_reg_self]
    exact (BitVec.add_zero start).symm
  · exact Sight.set_reg_of_ne _ _ (by decide)

variable [CopyingController ρ] [LawfulCopyingController ρ]
variable [InterruptingController ρ] [LawfulInterruptingController ρ]

omit [AttachedController ρ] in
/-- A write of a register that starts a transfer to the start of memory. -/
theorem writeWord_reads_first
    {holds : Nat → (Nat → Byte) → β → Prop} {size : Nat → Nat} {n : Nat}
    {p : Stores Byte}
    {s : Bench ρ β} (a value : Word)
    (hserves : ServesSectors (CopyingController.sectorSize ρ) size holds)
    (hshows : Shows holds p s.ram.size s) (hloaded : Loaded 0 s)
    (hrequests : s.requests = [])
    (hcopy : (GuestAccess.writeWord a value).copy s.controller =
      some ⟨true, 0, 0, 0, n⟩)
    (hasked : (GuestAccess.writeWord a value).asked s = none)
    (hsectors : CopyingController.sectorSize ρ ∣ n)
    (hmemory : n ≤ s.ram.size.toNat) (hsize : n ≤ size 0) :
    ∃ t, DiskController.writeWord a value s = .ok () t ∧ t.requests = [] ∧
      Shows holds
        { p with memory := overwrite p.memory 0 (slice (p.disk 0) 0 n) }
        s.ram.size t := by
  have hlt := s.ram.size.isLt
  have hcopies := LawfulCopyingController.perform hserves
    (.writeWord a value) s hshows fun c hc => by
      rw [hcopy] at hc
      injection hc with hc
      subst hc
      refine ⟨hsectors, ⟨?_, ?_⟩, ?_, hloaded⟩
      · exact (Nat.zero_add n).trans_le hmemory
      · exact (Nat.zero_add n).trans_le hsize
      · change 0 + n < _
        omega
  have hasks := LawfulInterruptingController.perform (.writeWord a value) s
  rw [hcopy] at hcopies
  rw [hasked, hrequests] at hasks
  cases hrun : (GuestAccess.writeWord a value).perform s with
  | ok _ t =>
      rw [hrun] at hcopies hasks
      exact ⟨t, hrun, hasks, hcopies⟩
  | error e t =>
      rw [hrun] at hcopies
      exact hcopies.elim

end Booting

section Programs

variable {β ω : Type} [DiskBackend β] [UnibusDevices ω]
variable {holds : Nat → (Nat → Byte) → β → Prop}
variable {size : Nat → Nat} {p : Stores Byte}
variable {ram : Ram} {attached : Slot → Bool} {r0 : Word}

omit [DiskBackend β] in
/-- The transfer leaves the program where it is. -/
theorem CodeAt.stays
    {ρ : Type} {start : Word} {code : List Word} {n : Nat} {t : Bench ρ β}
    (h : CodeAt start code ram) (hn : n ≤ start.toNat)
    (hbefore : ram.m = p.memory)
    (hshows : Shows holds
      { p with memory := overwrite p.memory 0 (slice (p.disk 0) 0 n) }
      ram.size t) :
    CodeAt start code { t.ram with size := ram.size } := by
  have hm : ∀ i, start.toNat ≤ i → t.ram.m i = ram.m i := by
    intro i hi
    rw [hshows.memory, hbefore]
    dsimp only
    refine overwrite_after ?_
    rw [length_slice]
    omega
  refine ⟨h.even, h.low, h.inside, fun hi => ?_⟩
  dsimp only
  rw [hm _ (by omega), hm _ (by omega)]
  exact h.words hi

/-- The first bytes of the first drive are at the start of memory, and the
machine goes on there. -/
structure Arrived (ρ : Type) [DiskController ρ] [AttachedController ρ]
    (holds : Nat → (Nat → Byte) → β → Prop) (p : Stores Byte) (ram : Ram)
    (n : Nat)
    (v : Sight (Devices β ω)) : Prop where
  pc : v.reg 7 = 0
  ram : v.ram = { ram with m := overwrite ram.m 0 (slice (p.disk 0) 0 n) }
  shows : Shows holds { p with memory := v.ram.m } v.ram.size
    ((AttachedController.unit (ρ := ρ) v.devices).bench v.ram)
  running : (AttachedController.unit (ρ := ρ) v.devices).stopped = none

omit [DiskBackend β] [UnibusDevices ω] in
/-- The machine after a jump to the start of memory. -/
theorem Facing.arrived
    {ρ : Type} [DiskController ρ] [AttachedController ρ] {n : Nat}
    {t : Bench ρ β} {u : DiskUnit ρ β} {v : Sight (Devices β ω)}
    (h : Facing 0 r0 { t.ram with size := ram.size } u attached v)
    (hfhs : u.fhs = t.fhs) (hrunning : u.stopped = none)
    (hbefore : ram.m = p.memory)
    (hshows : Shows holds
      { p with memory := overwrite p.memory 0 (slice (p.disk 0) 0 n) }
      ram.size t) :
    Arrived ρ holds p ram n v := by
  have hram : v.ram = { t.ram with size := ram.size } := h.ram
  have hm : v.ram.m = overwrite p.memory 0 (slice (p.disk 0) 0 n) := by
    rw [hram]
    exact hshows.memory
  have hsize : v.ram.size = ram.size := by
    rw [hram]
  refine ⟨h.pc, ?_, ?_, ?_⟩
  · rw [hbefore, ← hm, ← hsize]
  · rw [h.unit, hm, hsize]
    refine ⟨hm, hsize, fun hdrive => hshows.drives ?_⟩
    rw [← hfhs]
    exact hdrive
  · rw [h.unit]
    exact hrunning

end Programs

/-- The ready bit is the sign of the low byte. -/
theorem sign_setBit
    (x : Word) :
    sign (((setBit x 7 true).setWidth 8 : Byte).setWidth 16) .wmByte =
      true := by
  have hbit : (((setBit x 7 true).setWidth 8 : Byte).setWidth 16 &&&
      0x80 : Word).getLsbD 7 = true := by
    simp [setBit]
  unfold sign
  refine decide_eq_true fun hzero => ?_
  rw [hzero] at hbit
  cases hbit

namespace Rk05

/-- What the boot program starts. -/
theorem fresh_starts
    (c : Rk05) :
    startedCopy RK05_CS 5 ((c.reset true).set RK05_WC 0o177400) =
      some ⟨true, 0, 0, 0, 512⟩ := by
  have hda : ((c.reset true).set RK05_WC 0o177400).get RK05_DA = 0 := rfl
  have hba : ((c.reset true).set RK05_WC 0o177400).get RK05_BA = 0 := rfl
  have hwc : ((c.reset true).set RK05_WC 0o177400).get RK05_WC = 0o177400 :=
    rfl
  unfold startedCopy programmedBus programmedDisk selected
  rw [hda, hba, hwc]
  rfl

/-- A read of the control register shows the ready bit. -/
theorem readByte_ready
    (c : Rk05) :
    sign ((DiskController.readByte RK05_CS c).1.setWidth 16) .wmByte =
      true := by
  have hword : (readWord RK05_CS c).1 =
      setBit (setBit (setBit (c.get RK05_CS) 15 false) 14 false) 7 true := by
    unfold readWord
    rw [if_neg (by decide), if_neg (by decide), if_pos rfl, modify]
    dsimp only
    exact get_set_self _ _ _
  have hvalue : (DiskController.readByte RK05_CS c).1 =
      (readWord RK05_CS c).1.setWidth 8 := rfl
  rw [hvalue, hword]
  exact sign_setBit _

end Rk05

namespace Rl02

theorem fresh_starts
    (c : Rl02) :
    startedCopy RL02_CSR 0o14 ((c.reset true).set RL02_MPR 0o177400) =
      some ⟨true, 0, 0, 0, 512⟩ := by
  have hda : ((c.reset true).set RL02_MPR 0o177400).get RL02_DAR = 0 := rfl
  have hba : ((c.reset true).set RL02_MPR 0o177400).get RL02_BAR = 0 := rfl
  have hwc : ((c.reset true).set RL02_MPR 0o177400).get RL02_MPR = 0o177400 :=
    rfl
  unfold startedCopy programmedBus programmedDisk
  rw [hda, hba, hwc]
  rfl

theorem readByte_ready
    (c : Rl02) :
    sign ((DiskController.readByte RL02_CSR c).1.setWidth 16) .wmByte =
      true := by
  have hword : (readWord RL02_CSR c).1 =
      setBit (setBit (c.get RL02_CSR) 0 true) 7 true := by
    unfold readWord
    dsimp only
    rw [if_pos rfl, if_neg (by decide), modify]
    dsimp only
    exact get_set_self _ _ _
  have hvalue : (DiskController.readByte RL02_CSR c).1 =
      (readWord RL02_CSR c).1.setWidth 8 := rfl
  rw [hvalue, hword]
  exact sign_setBit _

end Rl02

namespace Rp06

theorem fresh_starts
    (c : Rp06) :
    startedCopy RP06_CS1 0o71 ((c.reset true).set RP06_WC 0o177000) =
      some ⟨true, 0, 0, 0, 1024⟩ := by
  have hda : ((c.reset true).set RP06_WC 0o177000).get RP06_DA = 0 := rfl
  have hdc : ((c.reset true).set RP06_WC 0o177000).get RP06_DC = 0 := rfl
  have huba : ((c.reset true).set RP06_WC 0o177000).get RP06_UBA = 0 := rfl
  have hbae : ((c.reset true).set RP06_WC 0o177000).get RP06_BAE = 0 := rfl
  have hwc : ((c.reset true).set RP06_WC 0o177000).get RP06_WC = 0o177000 :=
    rfl
  have hoffset : ((c.reset true).set RP06_WC 0o177000).computeOffset = 0 := by
    unfold computeOffset
    rw [hda, hdc]
    simp
  unfold startedCopy programmedBus
  rw [hoffset, huba, hbae, hwc]
  rfl

end Rp06

section Programs

variable {β ω : Type} [DiskBackend β] [UnibusDevices ω]
variable {holds : Nat → (Nat → Byte) → β → Prop}
variable {size : Nat → Nat} {p : Stores Byte}
variable {ram : Ram} {attached : Slot → Bool} {r0 : Word}
variable {v : Sight (Devices β ω)}

theorem rk05_program
    {u : DiskUnit Rk05 β} {c : Rk05}
    (h : Facing (codeAddress 0o1000 0) r0 ram u attached v)
    (hcode : CodeAt 0o1000 Bootloader.rk05.code ram)
    (hattached : attached .rk05 = true)
    (hserves : ServesSectors 512 size holds) (hsize : 512 ≤ size 0)
    (hfresh : u.controller = c.reset true) (hrunning : u.stopped = none)
    (hshows : Shows holds p ram.size (u.bench ram))
    (hloaded : Loaded 0 (u.bench ram)) :
    Leads v (steps 6) () (Arrived Rk05 holds p ram 512) := by
  have hinside : 512 + 2 * 9 ≤ ram.size.toNat := hcode.inside
  refine .steps (h.movToR0 hcode Rk05.RK05_WC (by decide) (by decide)
    rfl) fun v₁ h₁ => ?_
  refine .steps (h₁.movToDevice hcode hattached (by decide) (by decide) rfl
    (by decide) (fun _ hv => hv.deferred) (by decide) (by decide) rfl rfl)
    fun v₂ h₂ => ?_
  obtain ⟨t, hwrite, hquiet, hshows'⟩ := writeWord_reads_first (n := 512)
    (s := { u.bench ram with
      controller := u.controller.set Rk05.RK05_WC 0o177400 })
    Rk05.RK05_CS 5 hserves
    (hshows.of_frame rfl rfl) hloaded rfl
    (by rw [hfresh]; exact Rk05.fresh_starts c) rfl (Nat.dvd_refl _)
    (by change 512 ≤ ram.size.toNat; omega) hsize
  refine .steps (h₂.movToDevice hcode hattached (by decide) (by decide) rfl
    (by decide) (fun _ hv => hv.decrement) (by decide) (by decide) hwrite
    hquiet) fun v₃ h₃ => ?_
  have hcode₃ := hcode.stays (Nat.le_refl 512) hshows.memory hshows'
  refine .steps (h₃.tstb hcode₃ hattached (by decide) (by decide) (by decide)
    (by decide)) fun v₄ ⟨h₄, hn⟩ => ?_
  refine .steps (h₄.bpl hcode₃ (hn.trans (Rk05.readByte_ready _)) (by decide)
    (by decide) (by decide)) fun v₅ h₅ => ?_
  refine .steps (h₅.clrPC hcode₃ (by decide) (by decide)) fun v₆ h₆ => ?_
  exact ⟨v₆, .pure (), h₆.arrived rfl hrunning hshows.memory hshows'⟩

theorem rl02_program
    {u : DiskUnit Rl02 β} {c : Rl02}
    (h : Facing (codeAddress 0o1000 0) r0 ram u attached v)
    (hcode : CodeAt 0o1000 Bootloader.rl02.code ram)
    (hattached : attached .rl02 = true)
    (hserves : ServesSectors 256 size holds) (hsize : 512 ≤ size 0)
    (hfresh : u.controller = c.reset true) (hrunning : u.stopped = none)
    (hshows : Shows holds p ram.size (u.bench ram))
    (hloaded : Loaded 0 (u.bench ram)) :
    Leads v (steps 6) () (Arrived Rl02 holds p ram 512) := by
  have hinside : 512 + 2 * 10 ≤ ram.size.toNat := hcode.inside
  have hoffset : 4 < Bootloader.rl02.code.length := by decide
  refine .steps (h.movToR0 hcode Rl02.RL02_CSR (by decide)
    (by decide) rfl) fun v₁ h₁ => ?_
  refine .steps (h₁.movToDevice hcode hattached (by decide) (by decide) rfl
    (by decide)
    (fun _ hv => hv.indexed hcode (a := Rl02.RL02_MPR) hoffset rfl)
    (by decide) (by decide) rfl rfl) fun v₂ h₂ => ?_
  obtain ⟨t, hwrite, hquiet, hshows'⟩ := writeWord_reads_first (n := 512)
    (s := { u.bench ram with
      controller := u.controller.set Rl02.RL02_MPR 0o177400 })
    Rl02.RL02_CSR 0o14 hserves
    (hshows.of_frame rfl rfl) hloaded rfl
    (by rw [hfresh]; exact Rl02.fresh_starts c) rfl (Nat.dvd_mul_left 256 2)
    (by change 512 ≤ ram.size.toNat; omega) hsize
  refine .steps (h₂.movToDevice hcode hattached (by decide) (by decide) rfl
    (by decide) (fun _ hv => hv.deferred) (by decide) (by decide) hwrite
    hquiet) fun v₃ h₃ => ?_
  have hcode₃ := hcode.stays (Nat.le_refl 512) hshows.memory hshows'
  refine .steps (h₃.tstb hcode₃ hattached (by decide) (by decide) (by decide)
    (by decide)) fun v₄ ⟨h₄, hn⟩ => ?_
  refine .steps (h₄.bpl hcode₃ (hn.trans (Rl02.readByte_ready _)) (by decide)
    (by decide) (by decide)) fun v₅ h₅ => ?_
  refine .steps (h₅.clrPC hcode₃ (by decide) (by decide)) fun v₆ h₆ => ?_
  exact ⟨v₆, .pure (), h₆.arrived rfl hrunning hshows.memory hshows'⟩

theorem rp06_program
    {u : DiskUnit Rp06 β} {c : Rp06}
    (h : Facing (codeAddress 0o2000 0) r0 ram u attached v)
    (hcode : CodeAt 0o2000 Bootloader.rp06.code ram)
    (hattached : attached .rp06 = true)
    (hserves : ServesSectors 512 size holds) (hsize : 1024 ≤ size 0)
    (hfresh : u.controller = c.reset true) (hrunning : u.stopped = none)
    (hshows : Shows holds p ram.size (u.bench ram))
    (hloaded : Loaded 0 (u.bench ram)) :
    Leads v (steps 6) () (Arrived Rp06 holds p ram 1024) := by
  have hinside : 1024 + 2 * 12 ≤ ram.size.toNat := hcode.inside
  refine .steps (h.movToR1 hcode (by decide) (by decide)) fun v₁ h₁ => ?_
  refine .steps (h₁.movToR0 hcode Rp06.RP06_UBA (by decide)
    (by decide) rfl) fun v₂ h₂ => ?_
  refine .steps (h₂.movToDevice hcode hattached (by decide) (by decide) rfl
    (by decide) (fun _ hv => hv.decrement) (by decide) (by decide) rfl rfl)
    fun v₃ h₃ => ?_
  obtain ⟨t, hwrite, hquiet, hshows'⟩ := writeWord_reads_first (n := 1024)
    (s := { u.bench ram with
      controller := u.controller.set Rp06.RP06_WC 0o177000 })
    Rp06.RP06_CS1 0o71 hserves
    (hshows.of_frame rfl rfl) hloaded rfl
    (by rw [hfresh]; exact Rp06.fresh_starts c) rfl (Nat.dvd_mul_left 512 2)
    (by change 1024 ≤ ram.size.toNat; omega) hsize
  refine .steps (h₃.movToDevice hcode hattached (by decide) (by decide) rfl
    (by decide) (fun _ hv => hv.decrement) (by decide) (by decide) hwrite
    hquiet) fun v₄ h₄ => ?_
  have hcode₄ := hcode.stays (Nat.le_refl 1024) hshows.memory hshows'
  refine .steps (h₄.movToR0 hcode₄ 0 (by decide) (by decide) rfl)
    fun v₅ h₅ => ?_
  refine .steps (h₅.jmpR0 hcode₄ (by decide) (by decide)) fun v₆ h₆ => ?_
  exact ⟨v₆, .pure (), h₆.arrived rfl hrunning hshows.memory hshows'⟩

/-- A machine on which a boot program can be started: the controller is there
and its first drive is loaded. -/
structure Bootable (ρ : Type) [DiskController ρ] [AttachedController ρ]
    (holds : Nat → (Nat → Byte) → β → Prop) (p : Stores Byte)
    (s : Machine (Devices β ω)) : Prop where
  bare : s.Bare
  memory : 0o20000 ≤ s.ram.size.toNat
  attached : s.attached (AttachedController.slot ρ) = true
  running : (AttachedController.unit (ρ := ρ) s.devices).stopped = none
  shows : Shows holds p s.ram.size
    ((AttachedController.unit (ρ := ρ) s.devices).bench s.ram)
  loaded : Loaded 0
    ((AttachedController.unit (ρ := ρ) s.devices).bench s.ram)

/-- The machine after the boot program: it goes on at the start of memory, where
the first bytes of the first drive are, and the rest of memory is as before but
for the program itself. -/
structure Booted (ρ : Type) [DiskController ρ] [AttachedController ρ]
    (holds : Nat → (Nat → Byte) → β → Prop) (p : Stores Byte) (start : Word)
    (code : List Word) (n : Nat) (s t : Machine (Devices β ω)) : Prop where
  bare : t.Bare
  pc : t.cpu.pc = 0
  ram : t.ram =
    { s.ram with
      m := overwrite (overwrite s.ram.m start.toNat (bytesOf code)) 0
        (slice (p.disk 0) 0 n) }
  running : (AttachedController.unit (ρ := ρ) t.devices).stopped = none
  drives : Shows holds { p with memory := t.ram.m } s.ram.size
    ((AttachedController.unit (ρ := ρ) t.devices).bench t.ram)

/-- From the run of the program to the run of the machine. -/
theorem boots_of_program
    {ρ : Type} [DiskController ρ] [AttachedController ρ] {which : Bootloader}
    {start : Word} {n k : Nat} {s : Machine (Devices β ω)}
    (hs : Bootable ρ holds p s) (hstart : which.start = some start)
    (heven : start.toNat % 2 = 0)
    (hend : start.toNat + 2 * which.code.length ≤ 0o20000)
    (hprogram : ∀ v : Sight (Devices β ω),
      Facing (ρ := ρ) (codeAddress start 0) (s.sight.reg 0)
        (s.ram.storing start which.code) (AttachedController.unit s.devices)
        s.attached v →
      CodeAt start which.code (s.ram.storing start which.code) →
      Shows holds
        { p with memory := (s.ram.storing start which.code).m } s.ram.size
        ((AttachedController.unit (ρ := ρ) s.devices).bench
          (s.ram.storing start which.code)) →
      Leads v (steps k) ()
        (Arrived ρ holds
          { p with memory := (s.ram.storing start which.code).m }
          (s.ram.storing start which.code) n)) :
    ∃ t, (boot which >>= fun _ => steps k) s = .ok () t ∧
      Booted ρ holds p start which.code n s t := by
  have hmemory := hs.memory
  obtain ⟨v, hboot, hv⟩ := boot_leads (ρ := ρ) (v := s.sight) hstart heven
    (by omega) (show _ ≤ s.ram.size.toNat by omega)
  obtain ⟨v', hsteps, hv'⟩ := hprogram v hv
    (.stored heven (by omega) (by omega))
    ⟨rfl, rfl, hs.shows.drives⟩
  have hboth := hboot.bind (k := fun _ => steps k) hsteps
  obtain ⟨t, hrun, hbare, rfl⟩ := hboth s hs.bare rfl
  have hsize : t.ram.size = s.ram.size := by
    rw [show t.ram = _ from hv'.ram]
    rfl
  refine ⟨t, hrun, hbare, hv'.pc, hv'.ram, hv'.running, ?_⟩
  rw [← hsize]
  exact hv'.shows

/-- Whatever other devices there are and whatever was in memory: a machine with
a controller after its hard reset and a loaded first drive has, six steps after
it was started with the boot program for the controller, the first bytes of the
drive at the start of memory and is about to run them. -/
theorem boot_programs_load_first_sectors :
    (∀ s : Machine (Devices β ω), Bootable Rk05 holds p s →
      (∃ c : Rk05, s.devices.rk05.controller = c.reset true) →
      ServesSectors 512 size holds → 512 ≤ size 0 →
      ∃ t, (boot .rk05 >>= fun _ => steps 6) s = .ok () t ∧
        Booted Rk05 holds p 0o1000 Bootloader.rk05.code 512 s t) ∧
    (∀ s : Machine (Devices β ω), Bootable Rl02 holds p s →
      (∃ c : Rl02, s.devices.rl02.controller = c.reset true) →
      ServesSectors 256 size holds → 512 ≤ size 0 →
      ∃ t, (boot .rl02 >>= fun _ => steps 6) s = .ok () t ∧
        Booted Rl02 holds p 0o1000 Bootloader.rl02.code 512 s t) ∧
    (∀ s : Machine (Devices β ω), Bootable Rp06 holds p s →
      (∃ c : Rp06, s.devices.rp06.controller = c.reset true) →
      ServesSectors 512 size holds → 1024 ≤ size 0 →
      ∃ t, (boot .rp06 >>= fun _ => steps 6) s = .ok () t ∧
        Booted Rp06 holds p 0o2000 Bootloader.rp06.code 1024 s t) := by
  refine ⟨fun s hs ⟨c, hfresh⟩ hserves hsize => ?_,
    fun s hs ⟨c, hfresh⟩ hserves hsize => ?_,
    fun s hs ⟨c, hfresh⟩ hserves hsize => ?_⟩
  · refine boots_of_program hs rfl (by decide) (by decide)
      fun v hv hcode hshows => ?_
    exact rk05_program hv hcode hs.attached hserves hsize hfresh hs.running
      hshows hs.loaded
  · refine boots_of_program hs rfl (by decide) (by decide)
      fun v hv hcode hshows => ?_
    exact rl02_program hv hcode hs.attached hserves hsize hfresh hs.running
      hshows hs.loaded
  · refine boots_of_program hs rfl (by decide) (by decide)
      fun v hv hcode hshows => ?_
    exact rp06_program hv hcode hs.attached hserves hsize hfresh hs.running
      hshows hs.loaded

end Programs

section Example

/-- A controller without drives. -/
def unloaded {ρ : Type} (c : ρ) : DiskUnit ρ Backend :=
  ⟨c, [], none⟩

/-- An RL02 with an image of three sectors. -/
def loadedRl02 : Devices Backend LineClock where
  rk05 := unloaded ⟨fun _ => 0, fun _ => 0⟩
  rl02 :=
    { controller := numberedRl02.controller.reset true
      fhs := numberedRl02.fhs
      stopped := none }
  rp06 := unloaded ⟨fun _ => 0, false, 22, 19⟩
  others := { lfCsr := 0 }

def rl02Machine : Machine (Devices Backend LineClock) :=
  Machine.initial numberedRl02.ram (fun _ => true) loadedRl02

/-- The first two of the three sectors. -/
theorem boot_programs_load_first_sectors_rl02 :
    ∃ t, (boot .rl02 >>= fun _ => steps 6) rl02Machine = .ok () t ∧
      Booted Rl02 (fun _ => FileHolds 256 768) numberedArrays 0o1000
        Bootloader.rl02.code 512 rl02Machine t :=
  boot_programs_load_first_sectors.2.1 rl02Machine
    { bare := ⟨rfl, rfl, rfl⟩
      memory := by decide
      attached := rfl
      running := rfl
      shows := numberedRl02_shows.of_frame rfl rfl
      loaded := rfl }
    ⟨_, rfl⟩ (fileHolds_serves (by decide) fun _ => 768) (by decide)

end Example

end KekPdp11
