import KekPdp11.Protection
import KekPdp11.Serving

/-!
# KEK PDP-11: words at odd addresses

A word reference whose translated address is odd is to be rejected: trap
through 4, then a throw, with nothing stored anywhere.

**What becomes of it.**  trap_if_odd, in spite of its name, only notes the
page in MMR0; no word reference to an odd address enters a trap.  In memory
both directions throw.  In the I/O page read_IO makes its test before it looks
at any register but the general ones, write_IO makes it after all of them, so
that the write of a word is carried out wherever something answers at the odd
address.
-/

namespace KekPdp11

open StateExcept

variable {δ : Type}

/-- Nothing changes but MMR0, CPUERR, the accessed and written bits of the
page descriptors, and the trace. -/
def Bookkept (s t : Machine δ) : Prop :=
  ∃ m mmr0 cpuerr trace, s.mmu.Touches m ∧
    t = { s with
      mmu := { m.setMMR0AsIs mmr0 with cpuerr := cpuerr }
      trace := trace }

theorem Bookkept.cpu_eq
    {s t : Machine δ} (h : Bookkept s t) :
    t.cpu = s.cpu := by
  obtain ⟨m, mmr0, cpuerr, trace, -, rfl⟩ := h
  rfl

/-- What an odd address notes is bookkeeping, whatever else is logged. -/
theorem Bookkept.of_odd
    {s : Machine δ} {m : Mmu} (h : s.mmu.Touches m) (apf : BitVec 3)
    (trace : List Event) :
    Bookkept s { s with mmu := m.trapIfOdd apf, trace := trace } := by
  refine ⟨m, (m.mmr0 &&& ~~~(7#16 <<< 1)) ||| (apf.setWidth 16 <<< 1),
    m.cpuerr ||| 0o100, trace, h, ?_⟩
  have hmmu : m.trapIfOdd apf =
      { m.setMMR0AsIs
          ((m.mmr0 &&& ~~~(7#16 <<< 1)) ||| (apf.setWidth 16 <<< 1)) with
        cpuerr := m.cpuerr ||| 0o100 } := by
    unfold Mmu.trapIfOdd Mmu.setMMR0AsIs
    congr 1
    exact m.ioBase_eq.trans (Mmu.ioBaseOf_pageField m.mmr0 m.mmr3 apf).symm
  rw [hmmu]

/-- The addresses of the general registers in the I/O page. -/
def inGeneralRegisters (a : Word) : Bool :=
  decide (addrKernelR ≤ a ∧ a ≤ addrUserSp)

/-- A target at an odd address of memory, or of the I/O page outside the
general registers. -/
def Target.IsOdd : Target → Prop
  | .ram p _ => p.toNat % 2 = 1
  | .io a => isOdd a = true ∧ inGeneralRegisters a = false
  | _ => False

instance (target : Target) : Decidable target.IsOdd :=
  match target with
  | .ram p _ => inferInstanceAs (Decidable (p.toNat % 2 = 1))
  | .io a =>
      inferInstanceAs
        (Decidable (isOdd a = true ∧ inGeneralRegisters a = false))
  | .accessFault _ | .lengthFault _ | .boundsFault _ =>
      inferInstanceAs (Decidable False)

/-- Outside their addresses, read_IO finds no general register. -/
theorem generalRegister_eq_none
    (c : Cpu) {a : Word} (h : inGeneralRegisters a = false) :
    generalRegister c a = none := by
  have hout : ¬ (addrKernelR ≤ a ∧ a ≤ addrUserSp) := of_decide_eq_false h
  unfold addrKernelR addrUserSp at hout
  unfold generalRegister
  rw [if_neg (by unfold addrKernelR; bv_omega),
    if_neg (by unfold addrUserR; bv_omega),
    if_neg (by unfold addrKernelSp; bv_omega),
    if_neg (by unfold addrPc; bv_omega),
    if_neg (by unfold addrSvSp; bv_omega),
    if_neg (by unfold addrUserSp; bv_omega)]

variable [UnibusDevices δ]

/-- The reference enters the trap through 4, throws, and does nothing else that
counts. -/
def RejectedAsOdd {α : Type} (s : Machine δ)
    (r : EStateM.Result Stop (Machine δ) α) : Prop :=
  ∃ number u v t,
    r = .error (.exception number) t ∧ Bookkept s u ∧
      trap 0o4 none u = .ok () v ∧ Bookkept v t

/-- A read and a write of a word are both rejected. -/
def RejectsOddWord (s : Machine δ) (a value : Word) (runMode : RunMode)
    (spaceIn : Space) : Prop :=
  RejectedAsOdd s (Bus.read a .wmWord runMode spaceIn s) ∧
    RejectedAsOdd s (Bus.write a .wmWord value runMode spaceIn s)

section Throws

variable {α : Type} {s : Machine δ}

theorem not_rejectedAsOdd_of_ok
    {t : Machine δ} {a : α} :
    ¬ RejectedAsOdd s (.ok a t) := by
  rintro ⟨_, _, _, _, h, -⟩
  cases h

/-- Where no trap is counted, nothing was rejected. -/
theorem not_rejectedAsOdd_of_counter
    {t : Machine δ} {e : Stop} (h : t.cpu.trapCounter = s.cpu.trapCounter) :
    ¬ RejectedAsOdd s (.error e t : EStateM.Result Stop (Machine δ) α) := by
  rintro ⟨number, u, v, t', heq, hbefore, htrap, hafter⟩
  cases heq
  have hcounted := trap_counted htrap
  rw [hbefore.cpu_eq, ← hafter.cpu_eq, h] at hcounted
  exact absurd hcounted (Nat.lt_irrefl _)

end Throws

section References

variable {s : Machine δ} {a : Word} {runMode : RunMode} {spaceIn : Space}

/-- A read of a word at an odd address throws, and only MMR0, an accessed bit
and the trace have changed. -/
theorem odd_read_throws
    (h : (s.target runMode a spaceIn).IsOdd) :
    ∃ number t, Bus.read a .wmWord runMode spaceIn s =
        .error (.exception number) t ∧
      Bookkept s t := by
  cases htarget : s.target runMode a spaceIn with
  | ram p page =>
      rw [htarget] at h
      have hodd : ¬ p.toNat % 2 = 0 := by
        change p.toNat % 2 = 1 at h
        omega
      rw [Bus.read_ram htarget, if_neg hodd]
      exact ⟨2, _, rfl, .of_odd (.accessed s.mmu page) _ _⟩
  | io r =>
      rw [htarget] at h
      obtain ⟨hodd, hwindow⟩ := h
      have hread : readIoVia trap r .wmWord (activePageField a) s =
          oddAbort (activePageField a) 0 (s.log (.readIo r .wmWord)) := by
        unfold readIoVia
        simp only [logEvent, update_bind_apply, cpuView_bind_apply,
          generalRegister_eq_none _ hwindow]
        rw [ite_apply_state, if_pos ⟨hodd, trivial⟩]
        rfl
      rw [oddAbort_apply] at hread
      rw [Bus.read_eq, htarget]
      exact ⟨0, _, noteAbort_of_error hread, .of_odd (.refl s.mmu) _ _⟩
  | accessFault page =>
      rw [htarget] at h
      exact h.elim
  | lengthFault page =>
      rw [htarget] at h
      exact h.elim
  | boundsFault page =>
      rw [htarget] at h
      exact h.elim

/-- A write of a word at an odd address of memory throws, and only MMR0, a
written bit and the trace have changed. -/
theorem odd_ram_write_throws
    {p : PhysAddr} {page : PageIndex} (value : Word)
    (htarget : s.target runMode a spaceIn = .ram p page)
    (h : p.toNat % 2 = 1) :
    ∃ number t, Bus.write a .wmWord value runMode spaceIn s =
        .error (.exception number) t ∧
      Bookkept s t := by
  have hodd : ¬ p.toNat % 2 = 0 := by
    omega
  rw [Bus.write_ram value htarget, if_neg hodd]
  exact ⟨10, _, rfl, .of_odd (.writtenTo s.mmu page) _ _⟩

/-- A write of a word at an odd address of the I/O page is carried out just if
something answers there. -/
theorem odd_io_write_returns_iff
    {r : Word} (value : Word)
    (htarget : s.target runMode a spaceIn = .io r) (h : isOdd r = true) :
    (∃ b t, Bus.write a .wmWord value runMode spaceIn s = .ok b t) ↔
      ¬ unanswered s r .wmWord value := by
  rw [Bus.write_eq, htarget]
  constructor
  · rintro ⟨b, t, hok⟩ hun
    have hio := writeIo_of_unanswered r .wmWord value hun (activePageField a)
    rw [if_pos ⟨rfl, h⟩, oddAbort_apply] at hio
    rw [show serveWrite (.io r) .wmWord (activePageField a) value =
      writeIoVia trap r .wmWord (activePageField a) value from rfl,
      noteAbort_of_error hio] at hok
    cases hok
  · intro hanswered
    obtain ⟨b, t, hio⟩ :=
      writeIo_of_answered r .wmWord value hanswered (activePageField a)
    exact ⟨b, t, noteAbort_of_ok hio⟩

/-- A write of a word at an odd address never enters a trap: it throws without
one, or it is carried out. -/
theorem odd_write_does_not_trap
    (value : Word) (h : (s.target runMode a spaceIn).IsOdd) :
    ¬ RejectedAsOdd s (Bus.write a .wmWord value runMode spaceIn s) := by
  cases htarget : s.target runMode a spaceIn with
  | ram p page =>
      rw [htarget] at h
      obtain ⟨number, t, ht, hkept⟩ := odd_ram_write_throws value htarget h
      rw [ht]
      exact not_rejectedAsOdd_of_counter
        (congrArg Cpu.trapCounter hkept.cpu_eq)
  | io r =>
      rw [htarget] at h
      rw [Bus.write_eq, htarget]
      by_cases hun : unanswered s r .wmWord value
      · have hio := writeIo_of_unanswered r .wmWord value hun
          (activePageField a)
        rw [if_pos ⟨rfl, h.1⟩, oddAbort_apply] at hio
        have hnote := noteAbort_of_error hio
        change ¬ RejectedAsOdd s (noteAbort
          (writeIoVia trap r .wmWord (activePageField a) value) s)
        rw [hnote]
        exact not_rejectedAsOdd_of_counter rfl
      · obtain ⟨b, t, hio⟩ :=
          writeIo_of_answered r .wmWord value hun (activePageField a)
        change ¬ RejectedAsOdd s (noteAbort
          (writeIoVia trap r .wmWord (activePageField a) value) s)
        rw [noteAbort_of_ok hio]
        exact not_rejectedAsOdd_of_ok
  | accessFault page =>
      rw [htarget] at h
      exact h.elim
  | lengthFault page =>
      rw [htarget] at h
      exact h.elim
  | boundsFault page =>
      rw [htarget] at h
      exact h.elim

/-- Neither a read nor a write of a word at an odd address is rejected with a
trap. -/
theorem odd_words_are_not_rejected
    (value : Word) (h : (s.target runMode a spaceIn).IsOdd) :
    ¬ RejectedAsOdd s (Bus.read a .wmWord runMode spaceIn s) ∧
      ¬ RejectedAsOdd s (Bus.write a .wmWord value runMode spaceIn s) := by
  constructor
  · obtain ⟨number, t, ht, hkept⟩ := odd_read_throws h
    rw [ht]
    exact not_rejectedAsOdd_of_counter
      (congrArg Cpu.trapCounter hkept.cpu_eq)
  · exact odd_write_does_not_trap value h

end References

section Examples

/-- A machine without relocation. -/
def quietMachine : Machine LineClock :=
  bareMachine 0o20000 []

theorem odd_words_are_not_rejected_quiet :
    (quietMachine.target 0 0o101 .iSpace).IsOdd ∧
      ¬ RejectedAsOdd quietMachine
        (Bus.read 0o101 .wmWord 0 .iSpace quietMachine) ∧
      ¬ RejectedAsOdd quietMachine
        (Bus.write 0o101 .wmWord 7 0 .iSpace quietMachine) := by
  have hodd : (quietMachine.target 0 0o101 .iSpace).IsOdd := by
    decide
  exact ⟨hodd, odd_words_are_not_rejected 7 hodd⟩

/-- A word written to the odd address of a page register is stored in it, a
read of the same address throws, and neither enters a trap. -/
theorem odd_page_register_is_written :
    (quietMachine.target 0 0o172341 .iSpace).IsOdd ∧
      ¬ RejectsOddWord quietMachine 0o172341 0o1234 0 .iSpace ∧
      quietMachine.mmu.readWord 0o172341 = 0 ∧
      (final (Bus.write 0o172341 .wmWord 0o1234 0 .iSpace
        quietMachine)).mmu.readWord 0o172341 = 0o1234 := by
  refine ⟨by decide, ?_, by decide, by decide +kernel⟩
  rintro ⟨-, hwrite⟩
  have hreturned :
      returned (Bus.write 0o172341 .wmWord 0o1234 0 .iSpace quietMachine) =
        true := by
    decide +kernel
  obtain ⟨b, hb⟩ := eq_ok_of_returned hreturned
  rw [hb] at hwrite
  exact not_rejectedAsOdd_of_ok hwrite

end Examples

end KekPdp11
