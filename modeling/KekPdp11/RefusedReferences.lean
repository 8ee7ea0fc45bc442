import KekPdp11.Protection
import KekPdp11.Serving

/-!
# KEK PDP-11: references that are refused

A word reference is refused by the page registers, for the size of memory, or
because there is no such register in the I/O page.  Then cpu::trap is called
and the reference throws.  Every other one is served: it returns, or it throws
for its odd address without a trap.

Which of these it is depends on the state that it starts in, and `Refusal` says
so without the reference being made: it gives the vector and the state in which
cpu::trap is called.
-/

namespace KekPdp11

open StateExcept

variable {δ : Type}

section References

/-- The addresses, besides those of the general registers and of the devices,
that read_IO knows by themselves, in the order in which it looks. -/
def AnswersRead (a : Word) : Prop :=
  a = addrCpuErr ∨ a = addrMaint ∨ a = addrConsw ∨
    (a = addrPir ∨ a = addrPir + 1) ∨ a = addrSystemId ∨ a = addrLfc ∨
    a = addrLp11Csr ∨ inMmuWindow a ∨ inCacheControl a ∨ inUnibusMap a ∨
    inParity a ∨ a = addrSyssize + 2 ∨ a = addrSyssize

/-- A word that is read from the I/O page comes to the trap for no such
register. -/
structure NoRegisterRead (s : Machine δ) (a : Word) : Prop where
  general : generalRegister s.cpu a = none
  even : isOdd a = false
  unknown : ¬ AnswersRead a
  plain : plainRegister s a .wmWord = none
  device : deviceAt s.attached a = none

/-- A word that is written to the I/O page comes to the trap for no such
register. -/
def NoRegisterWritten (s : Machine δ) (value a : Word) : Prop :=
  unanswered s a .wmWord value ∧ isOdd a = false

/-- A word reference with this target is refused: cpu::trap is called with
`vector` in `r`. -/
inductive Refusal (s : Machine δ) (note : Word → Event)
    (missing : Word → Prop) :
    Target → Machine δ → Word → Prop
  | access (page : PageIndex) :
      Refusal s note missing (.accessFault page)
        (s.faulted (Mmu.accessAbortMMR0 s.mmu.mmr0 page false
          (s.mmu.getAccessControl page))) 0o250
  | length (page : PageIndex) :
      Refusal s note missing (.lengthFault page)
        (s.faulted (Mmu.lengthAbortMMR0 s.mmu.mmr0 page)) 0o250
  | bounds (page : PageIndex) :
      Refusal s note missing (.boundsFault page)
        (s.faulted (Mmu.boundsAbortMMR0 s.mmu.mmr0 page)) 0o250
  | register (a : Word) :
      missing a → Refusal s note missing (.io a) (s.log (note a)) 0o4

/-- bus::read_word is refused. -/
def ReadRefused (s : Machine δ) (a : Word) (space : Space) :
    Machine δ → Word → Prop :=
  Refusal s (fun r => .readIo r .wmWord) (NoRegisterRead s)
    (s.target s.cpu.getPSWRunmode a space)

/-- bus::write_word is refused. -/
def WriteRefused (s : Machine δ) (a value : Word) :
    Machine δ → Word → Prop :=
  Refusal s (fun r => .writeIo r .wmWord) (NoRegisterWritten s value)
    (s.target s.cpu.getPSWRunmode a .dSpace)

variable [UnibusDevices δ] {s : Machine δ} {α : Type}

/-- The reference returns, or it throws without a trap. -/
def Untrapped (s : Machine δ) : EStateM.Result Stop (Machine δ) α → Prop :=
  After (fun _ _ => True) fun e t => (∃ number, e = .exception number) ∧
    t.cpu = s.cpu

/-- The reference calls cpu::trap and throws. -/
def TrapsAndThrows (r : Machine δ) (vector : Word)
    (result : EStateM.Result Stop (Machine δ) α) : Prop :=
  ∃ number t, result = .error (.exception number) t ∧
    t.cpu = (final (trap vector none r)).cpu

/-- read_IO where there is no such register. -/
theorem readIo_missing
    {a : Word} (apf : BitVec 3) (h : NoRegisterRead s a) :
    readIoVia trap a .wmWord apf s =
      (trap 0o4 none >>= fun _ => throwInt 1) (s.log (.readIo a .wmWord)) := by
  have hunknown := h.unknown
  simp only [AnswersRead, not_or] at hunknown
  obtain ⟨h₁, h₂, h₃, h₄, h₅, h₆, h₇, h₈, h₉, h₁₀, h₁₁, h₁₂, h₁₃⟩ := hunknown
  have hgeneral : generalRegister (s.log (.readIo a .wmWord)).cpu a = none :=
    h.general
  have hplain : plainRegister (s.log (.readIo a .wmWord)) a .wmWord = none :=
    h.plain
  have hdevice : deviceAt (s.log (.readIo a .wmWord)).attached a = none :=
    h.device
  have heven : ¬ (isOdd a = true ∧ WordMode.wmWord = .wmWord) := by
    simp [h.even]
  unfold readIoVia logEvent
  rw [update_bind_apply]
  change (cpuView _ >>= _) (s.log (.readIo a .wmWord)) = _
  rw [cpuView_bind_apply, hgeneral]
  dsimp only
  rw [if_neg heven, if_neg h₁, if_neg h₂, if_neg h₃,
    if_neg (not_or.mpr h₄), if_neg h₅, if_neg h₆, if_neg h₇, if_neg h₈,
    if_neg h₉, if_neg h₁₀, if_neg h₁₁, view_bind_apply, hplain]
  change (view _ >>= _) (s.log (.readIo a .wmWord)) = _
  rw [view_bind_apply, hdevice]
  change (view _ >>= _) (s.log (.readIo a .wmWord)) = _
  rw [view_bind_apply, if_neg h₁₂, if_neg h₁₃]

/-- read_IO where there is one. -/
theorem readIo_untrapped
    {a : Word} (apf : BitVec 3) (h : ¬ NoRegisterRead s a) :
    Untrapped s (readIoVia trap a .wmWord apf s) := by
  have huntrapped : Triple (fun u => u = s) (readIoVia trap a .wmWord apf)
      (fun _ _ => True)
      fun e t => (∃ number, e = Stop.exception number) ∧ t.cpu = s.cpu := by
    refine Triple.bind (Q := fun _ u => u = s.log (.readIo a .wmWord))
      (.update fun u hu => congrArg (Machine.log · _) hu) fun _ =>
        .view_bind fun register => ?_
    cases register with
    | some v =>
        exact .pure fun _ _ => trivial
    | none =>
        refine .ite (fun _ => ?_) fun heven => .ite (fun _ => ?_) fun h₁ =>
          .ite (fun _ => ?_) fun h₂ => .ite (fun _ => ?_) fun h₃ =>
          .ite (fun _ => ?_) fun h₄ => .ite (fun _ => ?_) fun h₅ =>
          .ite (fun _ => ?_) fun h₆ => .ite (fun _ => ?_) fun h₇ =>
          .ite (fun _ => ?_) fun h₈ => .ite (fun _ => ?_) fun h₉ =>
          .ite (fun _ => ?_) fun h₁₀ => .ite (fun _ => ?_) fun h₁₁ =>
          .view_bind fun plain => ?_
        · rintro u ⟨rfl, -⟩
          exact ⟨⟨0, rfl⟩, rfl⟩
        iterate 11 exact fun _ _ => trivial
        cases plain with
        | some v =>
            exact .pure fun _ _ => trivial
        | none =>
            refine .view_bind fun slot => ?_
            cases slot with
            | some slot =>
                exact fun _ _ => trivial
            | none =>
                refine .view_bind_any fun size =>
                  .ite (fun _ _ _ => trivial) fun h₁₂ =>
                    .ite (fun _ _ _ => trivial) fun h₁₃ => ?_
                rintro u ⟨⟨⟨rfl, hgeneral⟩, hplain⟩, hdevice⟩
                refine absurd ⟨hgeneral, ?_, ?_, hplain, hdevice⟩ h
                · simpa using heven
                · simp only [AnswersRead, not_or]
                  exact ⟨h₁, h₂, h₃, not_or.mp h₄, h₅, h₆, h₇, h₈, h₉, h₁₀,
                    h₁₁, h₁₂, h₁₃⟩
  exact huntrapped s rfl

/-- write_IO where there is no such register. -/
theorem writeIo_missing
    {a value : Word} (page : BitVec 3) (h : NoRegisterWritten s value a) :
    writeIoVia trap a .wmWord page value s =
      (trap 0o4 none >>= fun _ => throwInt 9) (s.log (.writeIo a .wmWord)) := by
  rw [writeIo_of_unanswered a .wmWord value h.1, if_neg (by simp [h.2])]

/-- write_IO where there is one. -/
theorem writeIo_untrapped
    {a value : Word} (page : BitVec 3) (h : ¬ NoRegisterWritten s value a) :
    Untrapped s (writeIoVia trap a .wmWord page value s) := by
  by_cases hanswer : unanswered s a .wmWord value
  · have hodd : isOdd a = true := by
      by_contra heven
      exact h ⟨hanswer, Bool.eq_false_of_not_eq_true heven⟩
    rw [writeIo_of_unanswered a .wmWord value hanswer, if_pos ⟨rfl, hodd⟩]
    exact ⟨⟨8, rfl⟩, rfl⟩
  · obtain ⟨b, t, ht⟩ := writeIo_of_answered a .wmWord value hanswer page
    rw [ht]
    trivial

omit [UnibusDevices δ] in
/-- A word reference ends as its service does, with a note in the trace if it
throws. -/
theorem Untrapped.noted
    {m : Exec δ α} (h : Untrapped s (m s)) :
    Untrapped s (noteAbort m s) := by
  cases hr : m s with
  | ok a t =>
      rw [noteAbort_of_ok hr]
      trivial
  | error e t =>
      rw [hr] at h
      rw [noteAbort_of_error hr]
      exact h

theorem TrapsAndThrows.noted
    {m : Exec δ α} {r : Machine δ} {vector : Word}
    (h : TrapsAndThrows r vector (m s)) :
    TrapsAndThrows r vector (noteAbort m s) := by
  obtain ⟨number, t, ht, hcpu⟩ := h
  rw [noteAbort_of_error ht]
  exact ⟨number, _, rfl, hcpu⟩

theorem trapsAndThrows_of_call
    (r : Machine δ) (vector : Word) (f : Mmu → Mmu) (number : Nat) :
    TrapsAndThrows r vector
      ((do
        trap vector none
        modifyMmu f
        throwInt number : Exec δ α) r) := by
  obtain ⟨t, ht⟩ := trap_returns vector none r
  refine ⟨number, { t with mmu := f t.mmu }, bind_of_ok ht, ?_⟩
  rw [ht]
  rfl

/-- What an MMU fault or a missing register does, for any reference. -/
theorem Refusal.traps
    {target : Target} {note : Word → Event} {missing : Word → Prop}
    {r : Machine δ} {vector : Word} (serve : Target → Exec δ α)
    (haccess : ∀ page, serve (.accessFault page) = abortAccess page)
    (hlength : ∀ page, serve (.lengthFault page) = abortLength page)
    (hbounds : ∀ page, serve (.boundsFault page) = abortBounds page)
    (hio : ∀ a, missing a → ∃ number, serve (.io a) s =
      (trap 0o4 none >>= fun _ => throwInt number) (s.log (note a)))
    (h : Refusal s note missing target r vector) :
    TrapsAndThrows r vector (serve target s) := by
  cases h with
  | access page =>
      rw [haccess]
      exact trapsAndThrows_of_call _ _ (fun m => m.setCPUERRBit 10) 5
  | length page =>
      rw [hlength]
      exact trapsAndThrows_of_call _ _ (fun m => m.setCPUERRBit 10) 7
  | bounds page =>
      rw [hbounds]
      exact trapsAndThrows_of_call _ _ id 6
  | register a ha =>
      obtain ⟨number, hnumber⟩ := hio a ha
      rw [hnumber]
      exact trapsAndThrows_of_call _ _ id number

theorem Bus.readWord_refused
    {a : Word} {space : Space} {r : Machine δ} {vector : Word}
    (h : ReadRefused s a space r vector) :
    TrapsAndThrows r vector (Bus.readWord a space s) := by
  change TrapsAndThrows r vector (Bus.read a .wmWord s.cpu.getPSWRunmode space s)
  rw [Bus.read_eq]
  exact .noted (Refusal.traps
    (fun target => serveRead target .wmWord (activePageField a))
    (fun _ => rfl) (fun _ => rfl) (fun _ => rfl)
    (fun b hb => ⟨1, readIo_missing _ hb⟩) h)

theorem Bus.write_refused
    {a value : Word} {r : Machine δ} {vector : Word}
    (h : WriteRefused s a value r vector) :
    TrapsAndThrows r vector
      (Bus.write a .wmWord value s.cpu.getPSWRunmode .dSpace s) := by
  rw [Bus.write_eq]
  exact .noted (Refusal.traps
    (fun target => serveWrite target .wmWord (activePageField a) value)
    (fun _ => rfl) (fun _ => rfl) (fun _ => rfl)
    (fun b hb => ⟨9, writeIo_missing _ hb⟩) h)

omit [UnibusDevices δ] in
/-- A reference that no MMU fault and no missing register stops does not call
cpu::trap. -/
theorem untrapped_of_served
    {target : Target} {note : Word → Event} {missing : Word → Prop}
    (serve : Target → Exec δ α)
    (h : ∀ r vector, ¬ Refusal s note missing target r vector)
    (hio : ∀ a, ¬ missing a → Untrapped s (serve (.io a) s))
    (hram : ∀ p page, Untrapped s (serve (.ram p page) s)) :
    Untrapped s (serve target s) := by
  cases target with
  | accessFault page =>
      exact absurd (.access page) (h _ _)
  | lengthFault page =>
      exact absurd (.length page) (h _ _)
  | boundsFault page =>
      exact absurd (.bounds page) (h _ _)
  | io a =>
      exact hio a fun ha => h _ _ (.register a ha)
  | ram p page =>
      exact hram p page

/-- A word that is read is refused or served. -/
theorem Bus.readWord_untrapped
    {a : Word} {space : Space}
    (h : ∀ r vector, ¬ ReadRefused s a space r vector) :
    Untrapped s (Bus.readWord a space s) := by
  change Untrapped s (Bus.read a .wmWord s.cpu.getPSWRunmode space s)
  rw [Bus.read_eq]
  refine Untrapped.noted (untrapped_of_served
    (fun target => serveRead target .wmWord (activePageField a)) h
    (fun _ => readIo_untrapped _) fun p page => ?_)
  change Untrapped s ((if p &&& 1 ≠ 0 then oddAbort _ 2
    else view fun s => s.ram.readWord p : Exec δ Word) (s.accessed page))
  split
  · exact ⟨⟨2, rfl⟩, rfl⟩
  · exact trivial

theorem Bus.write_untrapped
    {a value : Word} (h : ∀ r vector, ¬ WriteRefused s a value r vector) :
    Untrapped s (Bus.write a .wmWord value s.cpu.getPSWRunmode .dSpace s) := by
  rw [Bus.write_eq]
  refine Untrapped.noted (untrapped_of_served
    (fun target => serveWrite target .wmWord (activePageField a) value) h
    (fun _ => writeIo_untrapped _) fun p page => ?_)
  change Untrapped s ((if p &&& 1 ≠ 0 then oddAbort _ 10
    else _ : Exec δ Bool) { s with mmu := s.mmu.setPageWrittenTo page })
  split
  · exact ⟨⟨10, rfl⟩, rfl⟩
  · exact trivial

end References

end KekPdp11
