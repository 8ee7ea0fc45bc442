import KekPdp11.Priority
import KekPdp11.Privilege
import KekPdp11.TrapReturn

/-!
# KEK PDP-11: what a program in user mode can change

In user mode, with user mode as the previous mode as well and no user page in
the I/O page, a step that ends without a trap and without an aborted reference
leaves the rest of the machine alone: `Isolated` says what the rest is.

**Shape of the proof.**  As long as nothing has been logged that ends the
quiet stretch, each operation is one of user mode, and what it changes is
among the things that may change (`keeps_of_user`).  Afterwards there is
nothing to show but that the log grows, which the module Watching has.
-/

namespace KekPdp11

open StateExcept

variable {δ : Type}

/-- The bits of the status word besides the condition codes and the T bit. -/
def pswControl : Word := 0o177740

/-- A page of user mode. -/
def IsUserPage (page : PageIndex) : Prop :=
  ∃ space apf, page = Mmu.calcParPdrIndex 3 space apf

/-- Some reference of user mode is served by the byte of memory. -/
def UserMaps (s : Machine δ) (p : Nat) : Prop :=
  ∃ a space q page, s.target 3 a space = .ram q page ∧ q.toNat = p

/-- User mode is the current and the previous mode, and no reference of it
goes to the I/O page. -/
structure InUserMode (s : Machine δ) : Prop where
  mode : s.cpu.getPSWRunmode = 3
  previousMode : s.cpu.getPSWPrevRunmode = 3
  enabled : s.mmu.isEnabled = true
  noIo : ∀ a space io, s.target 3 a space ≠ .io io

/-- The processor's part of it.  RTI and RTT clear the reserved bits of the
status word; what else setPSW could raise is already at its maximum. -/
structure CpuIsolated (returns : Prop) (c c' : Cpu) : Prop where
  others : ∃ regs05 sp pc psw executed any, c' =
    { c with
      regs05 := regs05
      sp := sp
      pc := pc
      psw := psw
      instructionsExecuted := executed
      anyQueuedInterrupts := any }
  registerSet : c'.regs05 (!c.getRegisterSet) = c.regs05 (!c.getRegisterSet)
  stackPointers : ∀ mode, mode ≠ 3 → c'.sp mode = c.sp mode
  psw : c'.psw &&& pswControl = c.psw &&& pswControl ∨
    returns ∧ c'.psw &&& pswControl = c.psw &&& pswControl &&& ~~~0o3400#16
  queues : c'.anyQueuedInterrupts = c.anyQueuedInterrupts ∨
    ∀ i, c.queuedInterrupts i = ∅

/-- The MMU's part of it: of the pages only the accessed and written bits of
user pages change. -/
structure MmuIsolated (m m' : Mmu) : Prop where
  others : ∃ mmr1 mmr2 pages, m' =
    { m with mmr1 := mmr1, mmr2 := mmr2, pages := pages }
  par : ∀ page, (m'.pages page).parPreshifted = (m.pages page).parPreshifted
  pdr : ∀ page, (m'.pages page).pdr &&& ~~~0o300#16 =
    (m.pages page).pdr &&& ~~~0o300#16
  otherPages : ∀ page, ¬ IsUserPage page → m'.pages page = m.pages page

/-- What a step of user mode leaves alone. -/
structure Isolated (returns : Prop) (s t : Machine δ) : Prop where
  cpu : CpuIsolated returns s.cpu t.cpu
  mmu : MmuIsolated s.mmu t.mmu
  ram : ∀ p < s.ram.size.toNat, ¬ UserMaps s p → t.ram.m p = s.ram.m p
  others : ∃ cpu mmu m trace, t =
    { s with
      cpu := cpu
      mmu := mmu
      ram := { s.ram with m := m }
      trace := trace }

section Relations

variable {returns : Prop} {c c' c'' : Cpu} {m m' m'' : Mmu}
variable {s t u : Machine δ}

theorem CpuIsolated.refl
    (c : Cpu) :
    CpuIsolated returns c c where
  others := ⟨_, _, _, _, _, _, rfl⟩
  registerSet := rfl
  stackPointers _ _ := rfl
  psw := .inl rfl
  queues := .inl rfl

/-- The mode fields and the register set are among the control bits. -/
theorem pswControl_fields
    {w w' : Word} (mask : Word) (hmask : pswControl &&& mask = mask)
    (h : w' &&& pswControl = w &&& pswControl) :
    w' &&& mask = w &&& mask := by
  calc
    w' &&& mask = (w' &&& pswControl) &&& mask := by
      rw [BitVec.and_assoc, hmask]
    _ = (w &&& pswControl) &&& mask := by rw [h]
    _ = w &&& mask := by rw [BitVec.and_assoc, hmask]

/-- Modes, register set and priority are kept in both cases. -/
theorem CpuIsolated.psw_fields
    (h : CpuIsolated returns c c') (mask : Word)
    (hmask : pswControl &&& ~~~0o3400#16 &&& mask = mask)
    (hcontrol : pswControl &&& mask = mask) :
    c'.psw &&& mask = c.psw &&& mask := by
  rcases h.psw with hsame | ⟨-, hcleared⟩
  · exact pswControl_fields mask hcontrol hsame
  · calc
      c'.psw &&& mask = (c'.psw &&& pswControl) &&& mask := by
        rw [BitVec.and_assoc, hcontrol]
      _ = (c.psw &&& (pswControl &&& ~~~0o3400#16)) &&& mask := by
        rw [hcleared, BitVec.and_assoc c.psw]
      _ = c.psw &&& mask := by rw [BitVec.and_assoc, hmask]

theorem CpuIsolated.getPSWRunmode_eq
    (h : CpuIsolated returns c c') :
    c'.getPSWRunmode = c.getPSWRunmode := by
  have hfield : ∀ w : Word, ((w >>> 14).setWidth 2 : RunMode) =
      ((w &&& 0o140000) >>> 14).setWidth 2 := by
    intro w
    ext i hi
    interval_cases i <;> simp
  unfold Cpu.getPSWRunmode
  rw [hfield, h.psw_fields _ (by decide) (by decide), ← hfield]

theorem CpuIsolated.getPSWPrevRunmode_eq
    (h : CpuIsolated returns c c') :
    c'.getPSWPrevRunmode = c.getPSWPrevRunmode := by
  have hfield : ∀ w : Word, (((w >>> 12) &&& 3).setWidth 2 : RunMode) =
      (((w &&& 0o30000) >>> 12) &&& 3).setWidth 2 := by
    intro w
    ext i hi
    interval_cases i <;> simp
  unfold Cpu.getPSWPrevRunmode
  rw [hfield, h.psw_fields _ (by decide) (by decide), ← hfield]

theorem CpuIsolated.getRegisterSet_eq
    (h : CpuIsolated returns c c') :
    c'.getRegisterSet = c.getRegisterSet := by
  unfold Cpu.getRegisterSet
  rw [h.psw_fields _ (by decide) (by decide)]

theorem CpuIsolated.trans
    (h : CpuIsolated returns c c') (h' : CpuIsolated returns c' c'') :
    CpuIsolated returns c c'' := by
  have hset := h.getRegisterSet_eq
  constructor
  · obtain ⟨_, _, _, _, _, _, hc⟩ := h.others
    obtain ⟨_, _, _, _, _, _, hc'⟩ := h'.others
    exact ⟨_, _, _, _, _, _, by rw [hc', hc]⟩
  · rw [← hset, h'.registerSet, hset, h.registerSet]
  · intro mode hmode
    exact (h'.stackPointers mode hmode).trans (h.stackPointers mode hmode)
  · rcases h.psw with hsame | ⟨hreturns, hcleared⟩
    · rcases h'.psw with hsame' | ⟨hreturns, hcleared'⟩
      · exact .inl (hsame'.trans hsame)
      · exact .inr ⟨hreturns, by rw [hcleared', hsame]⟩
    · rcases h'.psw with hsame' | ⟨-, hcleared'⟩
      · exact .inr ⟨hreturns, hsame'.trans hcleared⟩
      · refine .inr ⟨hreturns, ?_⟩
        rw [hcleared', hcleared, BitVec.and_assoc, BitVec.and_self]
  · obtain ⟨_, _, _, _, _, _, hc⟩ := h.others
    have hqueued : c'.queuedInterrupts = c.queuedInterrupts := by
      rw [hc]
    rcases h.queues with hsame | hempty
    · rcases h'.queues with hsame' | hempty'
      · exact .inl (hsame'.trans hsame)
      · exact .inr (hqueued ▸ hempty')
    · exact .inr hempty

theorem MmuIsolated.refl
    (m : Mmu) :
    MmuIsolated m m where
  others := ⟨_, _, _, rfl⟩
  par _ := rfl
  pdr _ := rfl
  otherPages _ _ := rfl

theorem MmuIsolated.trans
    (h : MmuIsolated m m') (h' : MmuIsolated m' m'') :
    MmuIsolated m m'' where
  others := by
    obtain ⟨_, _, _, hm⟩ := h.others
    obtain ⟨_, _, _, hm'⟩ := h'.others
    exact ⟨_, _, _, by rw [hm', hm]⟩
  par page := (h'.par page).trans (h.par page)
  pdr page := (h'.pdr page).trans (h.pdr page)
  otherPages page hpage :=
    (h'.otherPages page hpage).trans (h.otherPages page hpage)

/-- MMR1 and MMR2 do not take part in the mapping. -/
theorem MmuIsolated.sameMapping
    (h : MmuIsolated m m') :
    m.SameMapping m' := by
  obtain ⟨mmr1, mmr2, pages, rfl⟩ := h.others
  have htouches : m.Touches { m with pages := pages } :=
    ⟨pages, rfl, fun page => ⟨h.par page, h.pdr page⟩⟩
  have hmapping := Mmu.SameMapping.of_touches htouches
  exact ⟨hmapping.accessControl, hmapping.pdrLen, hmapping.pdrDirection,
    hmapping.par, hmapping.isEnabled, hmapping.mmr3, hmapping.ioBase⟩

theorem Isolated.size_eq
    (h : Isolated returns s t) :
    t.ram.size = s.ram.size := by
  obtain ⟨_, _, _, _, ht⟩ := h.others
  rw [ht]

theorem Isolated.target_eq
    (h : Isolated returns s t) (runMode : RunMode) (a : Word)
    (space : Space) :
    t.target runMode a space = s.target runMode a space :=
  Machine.target_eq h.mmu.sameMapping h.size_eq runMode a space

theorem Isolated.userMaps_iff
    (h : Isolated returns s t) (p : Nat) :
    UserMaps t p ↔ UserMaps s p := by
  unfold UserMaps
  simp only [h.target_eq]

theorem Isolated.refl
    (s : Machine δ) :
    Isolated returns s s where
  cpu := .refl _
  mmu := .refl _
  ram _ _ _ := rfl
  others := ⟨_, _, _, _, rfl⟩

theorem Isolated.trans
    (h : Isolated returns s t) (h' : Isolated returns t u) :
    Isolated returns s u where
  cpu := h.cpu.trans h'.cpu
  mmu := h.mmu.trans h'.mmu
  ram p hsize hp := by
    have hp' : ¬ UserMaps t p := (h.userMaps_iff p).not.mpr hp
    rw [h'.ram p (h.size_eq ▸ hsize) hp', h.ram p hsize hp]
  others := by
    obtain ⟨_, _, _, _, hs⟩ := h.others
    obtain ⟨_, _, _, _, ht⟩ := h'.others
    exact ⟨_, _, _, _, by rw [ht, hs]⟩

/-- User mode goes on. -/
theorem InUserMode.isolated
    (hs : InUserMode s) (h : Isolated returns s t) :
    InUserMode t where
  mode := h.cpu.getPSWRunmode_eq.trans hs.mode
  previousMode := h.cpu.getPSWPrevRunmode_eq.trans hs.previousMode
  enabled := h.mmu.sameMapping.isEnabled.trans hs.enabled
  noIo a space io := by
    rw [h.target_eq]
    exact hs.noIo a space io

/-- It is enough that no user page, of either space, reaches the I/O page. -/
theorem InUserMode.of_pages
    (hmode : s.cpu.getPSWRunmode = 3) (hprev : s.cpu.getPSWPrevRunmode = 3)
    (henabled : s.mmu.isEnabled = true)
    (hpages : ∀ page, IsUserPage page →
      ∀ a, ¬ s.mmu.ioBase ≤ s.mmu.relocate page a) :
    InUserMode s where
  mode := hmode
  previousMode := hprev
  enabled := henabled
  noIo a space io h := by
    have hbelow := hpages (s.mmu.referencePage 3 a space) ⟨_, _, rfl⟩ a
    unfold Machine.target Mmu.target Mmu.dispatch Mmu.physical at h
    rw [if_pos henabled, if_neg hbelow] at h
    dsimp only at h
    split_ifs at h

end Relations

section Changes

variable {returns : Prop} {c : Cpu} {m : Mmu} {s : Machine δ}

/-- A register of user mode: R0-R5 of the selected set, its stack pointer or
PC. -/
theorem CpuIsolated.setRegister
    (hmode : c.getPSWRunmode = 3) (nr : RegNr) (value : Word) :
    CpuIsolated returns c (c.setRegister nr value) := by
  unfold Cpu.setRegister
  split
  · refine ⟨⟨_, _, _, _, _, _, rfl⟩, ?_, fun _ _ => rfl, .inl rfl, .inl rfl⟩
    exact Function.update_of_ne (by simp) _ _
  · split
    · refine ⟨⟨_, _, _, _, _, _, rfl⟩, rfl, fun mode hne => ?_, .inl rfl,
        .inl rfl⟩
      rw [hmode]
      exact Function.update_of_ne hne _ _
    · exact ⟨⟨_, _, _, _, _, _, rfl⟩, rfl, fun _ _ => rfl, .inl rfl, .inl rfl⟩

theorem CpuIsolated.setStackpointer
    (c : Cpu) (value : Word) :
    CpuIsolated returns c (c.setStackpointer 3 value) :=
  ⟨⟨_, _, _, _, _, _, rfl⟩, rfl, fun _ hne => Function.update_of_ne hne _ _,
    .inl rfl, .inl rfl⟩

/-- A condition code. -/
theorem CpuIsolated.setBitPSW
    (c : Cpu) {bit : Nat} (v : Bool) (hbit : bit < 4) :
    CpuIsolated returns c (c.setBitPSW bit v) := by
  refine ⟨⟨_, _, _, _, _, _, rfl⟩, rfl, fun _ _ => rfl, .inl ?_, .inl rfl⟩
  unfold Cpu.setBitPSW pswControl
  ext i hi
  interval_cases bit <;> interval_cases i <;> simp

/-- No mode field exceeds the one of user mode. -/
theorem max_of_user
    {x y : Word} (hx : x = x &&& 3) (hy : (y.setWidth 2 : RunMode) = 3) :
    max x y = y := by
  have hle : x.toNat ≤ 3 := by
    rw [hx, BitVec.toNat_and]
    exact Nat.and_le_right
  have huser : y.toNat % 2 ^ 2 = 3 := by
    rw [← BitVec.toNat_setWidth, hy]
    rfl
  refine max_eq_right ?_
  rw [BitVec.le_def]
  omega

/-- The status word that RTI and RTT leave in user mode. -/
theorem CpuIsolated.setPSW
    (hreturns : returns) (hmode : c.getPSWRunmode = 3)
    (hprev : c.getPSWPrevRunmode = 3) (v : Word) :
    CpuIsolated returns c (c.setPSW v true) := by
  have hfield : v >>> 14 = (v >>> 14) &&& 3 := by
    ext i hi
    interval_cases i <;> simp
  have hprevField : (v >>> 12) &&& (3 : Word) =
      ((v >>> 12) &&& (3 : Word)) &&& (3 : Word) := by
    rw [BitVec.and_assoc, BitVec.and_self]
  have hpsw : (c.setPSW v true).psw =
      limitedPSW c.psw v (c.psw >>> 14) ((c.psw >>> 12) &&& 3) := by
    rw [setPSW_limited, max_of_user hfield hmode, max_of_user hprevField hprev]
  refine ⟨⟨_, _, _, _, _, _, rfl⟩, rfl, fun _ _ => rfl,
    .inr ⟨hreturns, ?_⟩, .inl rfl⟩
  rw [hpsw]
  unfold limitedPSW pswControl
  ext i hi
  interval_cases i <;> simp

/-- What only touches the processor. -/
theorem Isolated.of_cpu
    {c' : Cpu} (h : CpuIsolated returns s.cpu c') :
    Isolated returns s { s with cpu := c' } :=
  ⟨h, .refl _, fun _ _ _ => rfl, ⟨_, _, _, _, rfl⟩⟩

/-- What only touches the MMU. -/
theorem Isolated.of_mmu
    {m' : Mmu} (h : MmuIsolated s.mmu m') :
    Isolated returns s { s with mmu := m' } :=
  ⟨.refl _, h, fun _ _ _ => rfl, ⟨_, _, _, _, rfl⟩⟩

theorem MmuIsolated.setMMR1
    (m : Mmu) (value : Word) :
    MmuIsolated m (m.setMMR1 value) :=
  ⟨⟨_, _, _, rfl⟩, fun _ => rfl, fun _ => rfl, fun _ _ => rfl⟩

theorem MmuIsolated.mmrStartInstruction
    (m : Mmu) (pc : Word) :
    MmuIsolated m (m.mmrStartInstruction pc) := by
  unfold Mmu.mmrStartInstruction
  split
  · exact .refl m
  · exact ⟨⟨_, _, _, rfl⟩, fun _ => rfl, fun _ => rfl, fun _ _ => rfl⟩

/-- The accessed and written bits of a user page. -/
theorem MmuIsolated.modifyPage
    {page : PageIndex} (hpage : IsUserPage page) {bits : Word}
    (hbits : bits &&& ~~~0o300#16 = 0) :
    MmuIsolated m (m.modifyPage page fun p => p.setPdr (p.pdr ||| bits)) := by
  have htouches := Mmu.Touches.of_modifyPage m page hbits
  obtain ⟨pages, heq, hpages⟩ := htouches
  refine ⟨⟨_, _, _, rfl⟩, fun page' => ?_, fun page' => ?_, fun page' h => ?_⟩
  · rw [heq]
    exact (hpages page').1
  · rw [heq]
    exact (hpages page').2
  · have hne : page' ≠ page := by
      rintro rfl
      exact h hpage
    exact Function.update_of_ne hne _ _

end Changes

/-- The rest of the machine is left alone, or something disturbs the step. -/
def IsolatedUnless (returns : Prop) (s t : Machine δ) : Prop :=
  AppendLog.UnlessLogged Machine.trace Disturbs (Isolated returns) s t

section Judgment

variable {returns : Prop} {s₀ s t u : Machine δ} {α β : Type}

theorem IsolatedUnless.refl
    (s : Machine δ) :
    IsolatedUnless returns s s :=
  AppendLog.UnlessLogged.refl Isolated.refl s

theorem IsolatedUnless.trans
    (h : IsolatedUnless returns s t) (h' : IsolatedUnless returns t u) :
    IsolatedUnless returns s u :=
  AppendLog.UnlessLogged.trans (fun hst htu => hst.trans htu) h h'

/-- What comes next, given that it is from user mode if nothing has disturbed
the step before. -/
theorem IsolatedUnless.next
    (hs₀ : InUserMode s₀) (h : IsolatedUnless returns s₀ s)
    (hextends : AppendLog.Extends Machine.trace s t)
    (hnext : InUserMode s → IsolatedUnless returns s t) :
    IsolatedUnless returns s₀ t :=
  AppendLog.UnlessLogged.next h hextends fun hisolated =>
    h.trans (hnext (hs₀.isolated hisolated))

/-- A program that leaves the machine alone when it starts in user mode. -/
theorem keeps_of_user
    (hs₀ : InUserMode s₀) {m : Exec δ α}
    (hguards : ∀ s, Guards (Later s) m)
    (huser : ∀ s, InUserMode s → IsolatedUnless returns s (final (m s))) :
    Keeps (IsolatedUnless returns s₀) m := by
  refine .of_final fun s hs => ?_
  have hlater := guards_final (hguards s) (Later.refl s)
  exact hs.next hs₀ hlater.extend (huser s)

/-- A value that is the same in all states of user mode. -/
theorem keeps_view_user
    (hs₀ : InUserMode s₀) {f : Machine δ → β} {b : β} {k : β → Exec δ α}
    (hf : ∀ s, InUserMode s → f s = b)
    (hguards : ∀ s, Guards (Later s) (view f >>= k))
    (hk : ∀ s, InUserMode s → Keeps (IsolatedUnless returns s) (k b)) :
    Keeps (IsolatedUnless returns s₀) (view f >>= k) := by
  refine keeps_of_user hs₀ hguards fun s hs => ?_
  change IsolatedUnless returns s (final (k (f s) s))
  rw [hf s hs]
  exact (hk s hs).final (.refl s)

theorem keeps_modifyCpu
    (hs₀ : InUserMode s₀) {f : Cpu → Cpu}
    (hf : ∀ c : Cpu, c.getPSWRunmode = 3 → c.getPSWPrevRunmode = 3 →
      CpuIsolated returns c (f c)) :
    Keeps (IsolatedUnless returns s₀) (modifyCpu f) :=
  .update fun s hs =>
    hs.next hs₀ (.of_log_eq rfl) fun h =>
      .silent rfl (.of_cpu (hf s.cpu h.mode h.previousMode))

theorem keeps_modifyMmu
    (hs₀ : InUserMode s₀) {f : Mmu → Mmu}
    (hf : ∀ m, MmuIsolated m (f m)) :
    Keeps (IsolatedUnless returns s₀) (modifyMmu f) :=
  .update fun s hs =>
    hs.next hs₀ (.of_log_eq rfl) fun _ => .silent rfl (.of_mmu (hf s.mmu))

theorem isolatedUnless_setRegister
    (hs₀ : InUserMode s₀) (nr : RegNr) (value : Word) :
    Keeps (IsolatedUnless returns s₀) (setRegister nr value) :=
  keeps_modifyCpu hs₀ fun _ hmode _ => .setRegister hmode nr value

theorem isolatedUnless_addRegister
    (hs₀ : InUserMode s₀) (nr : RegNr) (value : Word) :
    Keeps (IsolatedUnless returns s₀) (addRegister nr value) := by
  have hadd : Keeps (IsolatedUnless returns s₀)
      (modifyCpu fun c => c.addRegister nr value) :=
    keeps_modifyCpu hs₀ fun _ hmode _ => .setRegister hmode nr _
  exact hadd.bind fun _ => .view fun _ hs => hs

theorem isolatedUnless_flag
    (hs₀ : InUserMode s₀) (bit : Nat) (v : Bool) (hbit : bit < 4) :
    Keeps (IsolatedUnless returns s₀) (modifyCpu fun c => c.setBitPSW bit v) :=
  keeps_modifyCpu hs₀ fun c _ _ => .setBitPSW c v hbit

theorem isolatedUnless_addToMMR1
    (hs₀ : InUserMode s₀) (reg : RegNr) (delta : Int) :
    Keeps (IsolatedUnless returns s₀) (addToMMR1 reg delta) := by
  have hassert : ∀ failed c, Keeps (IsolatedUnless returns s₀)
      (assertThat failed c : Exec δ Unit) := fun failed c =>
    .ite (fun _ => .pure fun _ hs => hs) fun _ => .raise fun _ hs => hs
  refine (hassert _ _).bind fun _ => .view_bind_any fun locked =>
    .ite (fun _ => .pure fun _ hs => hs) fun _ => ?_
  refine (hassert _ _).bind fun _ => .view_bind_any fun locked => ?_
  refine (hassert _ _).bind fun _ => ?_
  exact keeps_modifyMmu hs₀ fun m => .setMMR1 m _

end Judgment

section References

variable {returns : Prop} {s₀ s t : Machine δ} {α : Type}

/-- A reference that throws disturbs the step. -/
theorem isolatedUnless_noteAbort
    {m : Exec δ α} (hguards : Guards (Later s) m)
    (hok : ∀ a t, noteAbort m s = .ok a t → IsolatedUnless returns s t) :
    IsolatedUnless returns s (final (noteAbort m s)) := by
  have hlater := guards_final hguards (Later.refl s)
  cases hm : m s with
  | ok a t =>
      rw [noteAbort_of_ok hm]
      exact hok a t (noteAbort_of_ok hm)
  | error e t =>
      rw [hm] at hlater
      obtain ⟨new, hnew⟩ := hlater.extend
      rw [noteAbort_of_error hm]
      refine ⟨.aborted _ :: new, congrArg _ hnew, fun hquiet => ?_⟩
      exact absurd trivial (hquiet _ List.mem_cons_self)

section Pages

variable {a : Word} {space : Space} {p : PhysAddr} {page : PageIndex}

/-- A reference of user mode that memory serves goes through a user page. -/
theorem userPage_of_ram
    (hs : InUserMode s) (h : s.target 3 a space = .ram p page) :
    IsUserPage page ∧ p = s.mmu.physical 3 a space := by
  obtain ⟨-, hp, hpage, -⟩ := Mmu.target_ram h
  rw [Mmu.physicalPage, if_pos hs.enabled] at hpage
  exact ⟨⟨_, _, hpage⟩, hp⟩

theorem even_of_physical
    {m : Mmu} (henabled : m.isEnabled = true)
    (heven : (m.physical 3 a space).toNat % 2 = 0) :
    a.toNat % 2 = 0 := by
  have hsum : (m.relocatedSum (m.referencePage 3 a space) a) % 2 = 0 := by
    rw [physical_toNat henabled] at heven
    split at heven
    · omega
    · exact heven
  unfold Mmu.relocatedSum at hsum
  omega

theorem toNat_succ_of_even
    (ha : a.toNat % 2 = 0) :
    (a + 1).toNat = a.toNat + 1 := by
  have := a.isLt
  rw [BitVec.toNat_add]
  change (_ + 1) % 2 ^ 16 = _
  omega

/-- The byte after an even address is on the same page. -/
theorem referencePage_succ
    (m : Mmu) (ha : a.toNat % 2 = 0) :
    m.referencePage 3 (a + 1) space = m.referencePage 3 a space := by
  have hapf : activePageField (a + 1) = activePageField a := by
    apply BitVec.eq_of_toNat_eq
    simp only [activePageField, BitVec.toNat_setWidth,
      BitVec.toNat_ushiftRight, Nat.shiftRight_eq_div_pow,
      toNat_succ_of_even ha]
    omega
  unfold Mmu.referencePage
  rw [hapf]

/-- It is in the same block of the page. -/
theorem pageLengthFault_succ
    (m : Mmu) (ha : a.toNat % 2 = 0) (page : PageIndex) :
    m.pageLengthFault (a + 1) page = m.pageLengthFault a page := by
  have hblock : (a + 1) >>> 6 = a >>> 6 := by
    apply BitVec.eq_of_toNat_eq
    simp only [BitVec.toNat_ushiftRight, Nat.shiftRight_eq_div_pow,
      toNat_succ_of_even ha]
    omega
  unfold Mmu.pageLengthFault
  rw [hblock]

theorem physical_succ
    {m : Mmu} (henabled : m.isEnabled = true)
    (heven : (m.physical 3 a space).toNat % 2 = 0) :
    (m.physical 3 (a + 1) space).toNat = (m.physical 3 a space).toNat + 1 := by
  have ha := even_of_physical henabled heven
  rw [physical_toNat henabled, physical_toNat henabled, referencePage_succ m ha]
  have hsucc : m.relocatedSum (m.referencePage 3 a space) (a + 1) =
      m.relocatedSum (m.referencePage 3 a space) a + 1 := by
    have := toNat_succ_of_even ha
    unfold Mmu.relocatedSum
    omega
  rw [physical_toNat henabled] at heven
  rw [hsucc]
  split
  · split at heven
    · omega
    · contradiction
  · rfl

/-- A word of memory is mapped with both of its bytes. -/
theorem userMaps_succ
    (hs : InUserMode s) (h : s.target 3 a space = .ram p page)
    (heven : p.toNat % 2 = 0) (hsize : p.toNat + 1 < s.ram.size.toNat) :
    UserMaps s (p.toNat + 1) := by
  obtain ⟨hpermits, hp, -, hbase, -⟩ := Mmu.target_ram h
  rw [hp] at heven
  have ha := even_of_physical hs.enabled heven
  have hnext := physical_succ hs.enabled heven
  have hpermits' : s.mmu.Permits 3 (a + 1) space := by
    intro henabled
    rw [referencePage_succ s.mmu ha, pageLengthFault_succ s.mmu ha]
    exact hpermits henabled
  refine ⟨a + 1, space, s.mmu.physical 3 (a + 1) space,
    s.mmu.physicalPage 3 (a + 1) space, ?_, by rw [hnext, hp]⟩
  unfold Machine.target
  rw [Mmu.target_of_permits hpermits', Mmu.dispatch]
  -- the I/O page starts at an even address
  have hbaseEven : s.mmu.ioBase.toNat % 2 = 0 := by
    rw [s.mmu.ioBase_eq]
    unfold ioBaseOf
    split_ifs <;> decide
  have hlow : ¬ s.mmu.ioBase ≤ s.mmu.physical 3 (a + 1) space := by
    rw [BitVec.le_def, hnext, ← hp]
    rw [BitVec.le_def] at hbase
    rw [← hp] at heven
    omega
  have hin : ¬ s.ram.size ≤ s.mmu.physical 3 (a + 1) space := by
    rw [BitVec.le_def, hnext, ← hp]
    omega
  rw [if_neg hlow, if_neg hin]

end Pages

variable [UnibusDevices δ] {a v : Word} {wordMode : WordMode} {space : Space}

/-- What the page registers or the end of memory refuse throws. -/
theorem served_or_throws
    (target : Target) (wordMode : WordMode) (apf : BitVec 3) (v : Word)
    (s : Machine δ) :
    (∃ r, target = .io r) ∨ (∃ p page, target = .ram p page) ∨
      (∃ e t, serveRead target wordMode apf s = .error e t) ∧
        ∃ e t, serveWrite target wordMode apf v s = .error e t := by
  cases target with
  | accessFault page =>
      exact .inr (.inr ⟨⟨_, abortAccess_throws page s⟩,
        ⟨_, abortAccess_throws page s⟩⟩)
  | lengthFault page =>
      exact .inr (.inr ⟨⟨_, abortLength_throws page s⟩,
        ⟨_, abortLength_throws page s⟩⟩)
  | boundsFault page =>
      exact .inr (.inr ⟨⟨_, abortBounds_throws page s⟩,
        ⟨_, abortBounds_throws page s⟩⟩)
  | io r =>
      exact .inl ⟨r, rfl⟩
  | ram p page =>
      exact .inr (.inl ⟨p, page, rfl⟩)

/-- A read of user mode that returns only notes the access. -/
theorem Bus.read_user
    (hs : InUserMode s) (h : Bus.read a wordMode 3 space s = .ok v t) :
    IsolatedUnless returns s t := by
  rcases served_or_throws (s.target 3 a space) wordMode (activePageField a) 0 s
    with ⟨r, hr⟩ | ⟨p, page, hram⟩ | ⟨⟨e, u, hu⟩, -⟩
  · exact absurd hr (hs.noIo a space r)
  · have hstate : t = s.accessed page := by
      cases wordMode with
      | wmByte =>
          rw [Bus.read_eq, hram] at h
          injection h with _ hstate
          exact hstate.symm
      | wmWord =>
          rw [Bus.read_ram hram] at h
          split at h
          · injection h with _ hstate
            exact hstate.symm
          · cases h
    subst hstate
    obtain ⟨hpage, -⟩ := userPage_of_ram hs hram
    exact .silent rfl (.of_mmu (.modifyPage hpage (by decide)))
  · rw [Bus.read_eq, noteAbort_of_error hu] at h
    cases h

/-- What a write changes when memory serves it. -/
theorem Bus.write_user
    {b : Bool}
    (hs : InUserMode s) (h : Bus.write a wordMode v 3 space s = .ok b t) :
    IsolatedUnless returns s t := by
  rcases served_or_throws (s.target 3 a space) wordMode (activePageField a) v s
    with ⟨r, hr⟩ | ⟨p, page, hram⟩ | ⟨-, e, u, hu⟩
  · exact absurd hr (hs.noIo a space r)
  · obtain ⟨hpage, hp⟩ := userPage_of_ram hs hram
    have hmmu : MmuIsolated s.mmu (s.mmu.setPageWrittenTo page) :=
      .modifyPage hpage (by decide)
    cases wordMode with
    | wmByte =>
        rw [Bus.write_eq, hram] at h
        injection h with _ hstate
        subst hstate
        refine .silent rfl
          ⟨.refl _, hmmu, fun q _ hq => ?_, ⟨_, _, _, _, rfl⟩⟩
        refine Function.update_of_ne ?_ _ _
        rintro rfl
        exact hq ⟨a, space, p, page, hram, rfl⟩
    | wmWord =>
        rw [Bus.write_ram v hram] at h
        split at h
        · next heven =>
            injection h with _ hstate
            subst hstate
            refine .silent rfl ⟨.refl _, hmmu, fun q hsize hq => ?_,
              ⟨_, _, _, _, rfl⟩⟩
            have hlow : q ≠ p.toNat := by
              rintro rfl
              exact hq ⟨a, space, p, page, hram, rfl⟩
            have hhigh : q ≠ p.toNat + 1 := by
              rintro rfl
              exact hq (userMaps_succ hs hram heven hsize)
            change Function.update (Function.update s.ram.m _ _) _ _ q = _
            rw [Function.update_of_ne hhigh, Function.update_of_ne hlow]
        · cases h
  · rw [Bus.write_eq, noteAbort_of_error hu] at h
    cases h

theorem isolatedUnless_read
    (hs₀ : InUserMode s₀) (a : Word) (wordMode : WordMode) (space : Space) :
    Keeps (IsolatedUnless returns s₀) (Bus.read a wordMode 3 space) := by
  refine keeps_of_user hs₀ (fun s => (later_rules s).referring.read _ _ _ _)
    fun s hs => ?_
  have R := (later_rules s).toReferenceRules
  have T := (later_rules s).trap
  refine isolatedUnless_noteAbort (.view_bind_any fun space =>
    (R.calculatePhysicalAddress T _ _ _ _).bind fun target =>
      R.readAt T _ _ _ _) fun v t h => ?_
  exact Bus.read_user hs h

theorem isolatedUnless_write
    (hs₀ : InUserMode s₀) (a : Word) (wordMode : WordMode) (v : Word)
    (space : Space) :
    Keeps (IsolatedUnless returns s₀) (Bus.write a wordMode v 3 space) := by
  refine keeps_of_user hs₀ (fun s => (later_rules s).referring.write _ _ _ _ _)
    fun s hs => ?_
  have R := (later_rules s).toReferenceRules
  have T := (later_rules s).trap
  refine isolatedUnless_noteAbort (.view_bind_any fun space =>
    (R.calculatePhysicalAddress T _ _ _ _).bind fun target =>
      R.writeAt T _ _ _ _ _) fun b t h => ?_
  exact Bus.write_user hs h

/-- A trap disturbs the step. -/
theorem trap_disturbs
    (vector : Word) (newIpl : Option Level) (s : Machine δ) :
    IsolatedUnless returns s (final (trap vector newIpl s)) := by
  obtain ⟨t, ht⟩ := trap_returns vector newIpl s
  have hloud : Disturbs (.trapEntry vector newIpl) := trivial
  rw [ht]
  exact .of_loud rfl hloud (trap_later ht).extend

theorem isolatedUnless_trap
    (vector : Word) (newIpl : Option Level) :
    Keeps (IsolatedUnless returns s₀) (trap vector newIpl : Exec δ Unit) :=
  .of_final fun s hs => hs.trans (trap_disturbs vector newIpl s)

end References

end KekPdp11
