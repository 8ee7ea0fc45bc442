import KekPdp11.DeqnaThreads
import KekPdp11.DeqnaFrames

/-!
# KEK PDP-11: the event bits of the DEQNA

RI and XI, bits 15 and 7 of the control and status register, tell the guest of
events; it acknowledges them with a write of a 1.  Bits 5 and 4 tell that the
lists are invalid; the guest cannot write them.

A write of the register stores the written value, and then a value made from it
and from the one loaded before.  Each store keeps the bits only if the register
has nothing that the stored value lacks; a run keeps them if all stores do.
-/

namespace KekPdp11

/-- RI and XI. -/
def eventBits : List Nat := [15, 7]

/-- The list invalid bits. -/
def listBits : List Nat := [5, 4]

/-- What a step is for the control and status register. -/
inductive CsrLabel where
  /-- A store of a write of `v`. -/
  | csrWrite (v : Word)
  | reset
  | other

/-- The step can clear an event bit. -/
def CsrLabel.Acknowledges : CsrLabel → Nat → Prop
  | .csrWrite v, b => v.getLsbD b = true
  | .reset, _ => True
  | .other, _ => False

/-- A store that loses nothing of the register: an event bit that is set is
acknowledged or set again, and the list bits stay. -/
def SafeStore (csr v list : Word) (queued : Bool) : Prop :=
  (∀ b ∈ eventBits, csr.getLsbD b = true →
    v.getLsbD b = true ∨ b = 15 ∧ queued = true) ∧
  ∀ b ∈ listBits, list.getLsbD b = csr.getLsbD b

instance (csr v list : Word) (queued : Bool) :
    Decidable (SafeStore csr v list queued) :=
  inferInstanceAs (Decidable (_ ∧ _))

namespace CpuPoint

def label : CpuPoint → CsrLabel
  | .loaded nr v _ => if nr = 7 then .csrWrite v else .other
  | .tested v _ _ => .csrWrite v
  | _ => .other

/-- The next step of the CPU is no store to the register or a safe one. -/
def Safe (csr : Word) : CpuPoint → Prop
  | .loaded nr v _ => nr = 7 → SafeStore csr v v false
  | .tested v old queued => SafeStore csr v old queued
  | _ => True

instance (csr : Word) : DecidablePred (Safe csr)
  | .loaded .. => inferInstanceAs (Decidable (_ → _))
  | .tested .. => inferInstanceAs (Decidable (SafeStore ..))
  | .idle | .stored .. | .transmitter | .txLoop .. | .txEnd .. | .txRaise ..
  | .txInterrupt .. | .txDone => .isTrue trivial

end CpuPoint

namespace DeqnaThreads

def label (s : DeqnaThreads) : DeqnaAct → CsrLabel
  | .cpu => s.cpu.label
  | .reset true => .reset
  | _ => .other

def Safe (s : DeqnaThreads) : DeqnaAct → Prop
  | .cpu => s.cpu.Safe s.csr
  | _ => True

instance (s : DeqnaThreads) : DecidablePred s.Safe
  | .cpu => inferInstanceAs (Decidable (s.cpu.Safe s.csr))
  | .write .. | .receiver | .arrive .. | .reset .. => .isTrue trivial

/-- Every step of the run is safe where it is made. -/
def AllSafe (s : DeqnaThreads) : List DeqnaAct → Prop
  | [] => True
  | a :: acts => s.Safe a ∧ (s.step a).AllSafe acts

instance : ∀ (s : DeqnaThreads) (acts : List DeqnaAct),
    Decidable (s.AllSafe acts)
  | _, [] => .isTrue trivial
  | s, a :: acts =>
      have : Decidable ((s.step a).AllSafe acts) := instDecidableAllSafe _ acts
      inferInstanceAs (Decidable (_ ∧ _))

section Registers

variable (s : DeqnaThreads)

theorem queueRxPacket_registers
    (q : Deqna) (frame : List Byte) :
    (q.queueRxPacket frame).registers = q.registers := by
  unfold Deqna.queueRxPacket
  split <;> rfl

theorem push_registers
    (t : TxState) :
    t.push.deqna.registers = t.deqna.registers := by
  unfold TxState.push
  split_ifs
  · rfl
  · exact queueRxPacket_registers _ _
  · rfl

theorem beginWrite_csr
    (nr : Nat) (v : Word) :
    (s.beginWrite nr v).csr = s.csr := by
  unfold beginWrite
  split <;> rfl

theorem txPass_csr
    (p : PhysAddr) (buffer : List Byte) :
    (s.txPass p buffer).csr = s.csr := by
  unfold txPass
  dsimp only
  split_ifs <;> rfl

theorem txEnd_csr
    (p next : PhysAddr) (buffer : List Byte) :
    (s.txEnd p next buffer).csr = s.csr :=
  congrFun (push_registers _) 7

theorem rxPass_csr
    (p : PhysAddr) (frame : List Byte) :
    (s.rxPass p frame).csr = s.csr := by
  unfold rxPass
  split_ifs <;> rfl

theorem pop_csr :
    s.pop.csr = s.csr := by
  unfold pop
  split <;> rfl

theorem arrive_csr
    (frame : List Byte) :
    (s.arrive frame).csr = s.csr := by
  unfold arrive
  split
  · exact congrFun (queueRxPacket_registers _ _) 7
  · rfl

theorem setRegister_self
    (q : Deqna) (nr : Nat) (v : Word) :
    (q.setRegister nr v).registers nr = v :=
  Function.update_self ..

theorem setRegister_csr
    (q : Deqna) {nr : Nat} (h : nr ≠ 7) (v : Word) :
    (q.setRegister nr v).registers 7 = q.registers 7 :=
  Function.update_of_ne h.symm _ _

/-- A device changes the register by an or, or by an and that leaves the event
bits. -/
inductive DeviceChange (csr csr' : Word) : Prop where
  | same (h : csr' = csr)
  | raise (bits : Word) (h : csr' = csr ||| bits)
  | listValid (b : Nat) (hb : b ∈ listBits)
      (h : csr' = csr &&& ~~~BitVec.twoPow 16 b)

theorem afterStore_csr
    {nr : Nat} (v old : Word) :
    DeviceChange s.csr (s.afterStore nr v old).csr := by
  unfold afterStore
  split_ifs
  · exact .same rfl
  · exact .listValid 5 (by decide) (setRegister_self _ 7 _)
  · exact .listValid 4 (by decide) (setRegister_self _ 7 _)
  · exact .same (setRegister_csr _ (by decide) _)
  · exact .same rfl

/-- A step that is neither a store of a write nor a reset. -/
theorem csr_of_other
    {a : DeqnaAct} (h : s.label a = .other) :
    DeviceChange s.csr (s.step a).csr := by
  cases a with
  | write nr v =>
      exact .same (s.beginWrite_csr nr v)
  | cpu =>
      change s.cpu.label = .other at h
      change DeviceChange s.csr s.cpuStep.csr
      unfold cpuStep
      cases hcpu : s.cpu with
      | loaded nr v old =>
          rw [hcpu] at h
          have hnr : nr ≠ 7 := by
            rintro rfl
            cases h
          exact .same (setRegister_csr _ hnr _)
      | tested v old queued =>
          rw [hcpu] at h
          cases h
      | stored nr v old =>
          exact s.afterStore_csr v old
      | transmitter =>
          dsimp only
          split_ifs <;> exact .same rfl
      | txLoop p buffer =>
          exact .same (s.txPass_csr p buffer)
      | txEnd p next buffer =>
          exact .same (s.txEnd_csr p next buffer)
      | txRaise next =>
          exact .raise 128 (setRegister_self _ 7 _)
      | txDone =>
          exact .raise 16 (setRegister_self _ 7 _)
      | idle =>
          exact .same rfl
      | txInterrupt next =>
          exact .same rfl
  | receiver =>
      change DeviceChange s.csr s.receiverStep.csr
      unfold receiverStep
      cases s.receiver with
      | waiting =>
          dsimp only
          split_ifs <;> exact .same rfl
      | ready =>
          exact .same s.pop_csr
      | rxLoop p frame =>
          exact .same (s.rxPass_csr p frame)
      | rxRaise =>
          exact .raise 0x8000 (setRegister_self _ 7 _)
      | rxInterrupt =>
          exact .same rfl
      | rxDone =>
          exact .raise 32 (setRegister_self _ 7 _)
  | arrive frame =>
      exact .same (s.arrive_csr frame)
  | reset hard =>
      cases hard with
      | false =>
          exact .same rfl
      | true =>
          cases h

/-- A device does not clear an event bit. -/
theorem DeviceChange.event
    {csr csr' : Word} (h : DeviceChange csr csr') {b : Nat}
    (hb : b ∈ eventBits) (hset : csr.getLsbD b = true) :
    csr'.getLsbD b = true := by
  cases h with
  | same h =>
      rw [h]
      exact hset
  | raise bits h =>
      rw [h, BitVec.getLsbD_or, hset, Bool.true_or]
  | listValid i hi h =>
      have hne : i ≠ b := by
        rintro rfl
        simp only [eventBits, List.mem_cons, List.not_mem_nil, or_false] at hb
        simp only [listBits, List.mem_cons, List.not_mem_nil, or_false] at hi
        omega
      have hlt : b < 16 := BitVec.lt_of_getLsbD hset
      rw [h, BitVec.getLsbD_and, hset, BitVec.getLsbD_not,
        BitVec.getLsbD_twoPow]
      simp [hlt, hne]

end Registers

section Stores

theorem newCsr_ri
    (v old : Word) (queued : Bool) :
    (Deqna.newCsr v old queued).getLsbD 15 = queued := by
  have hclear : v &&& 32768 = 0 → v.getLsbD 15 = false := by
    intro h
    simpa using congrArg (·.getLsbD 15) h
  unfold Deqna.newCsr
  dsimp only
  split_ifs <;> simp_all

theorem newCsr_list
    (v old : Word) (queued : Bool) {b : Nat} (hb : b ∈ listBits) :
    (Deqna.newCsr v old queued).getLsbD b = old.getLsbD b := by
  unfold Deqna.newCsr
  dsimp only
  simp only [listBits, List.mem_cons, List.not_mem_nil, or_false] at hb
  rcases hb with rfl | rfl <;> split_ifs <;> simp

/-- A step that is a store of a write of `v`, of the first value or of the
second. -/
theorem csr_of_csrWrite
    {s : DeqnaThreads} {a : DeqnaAct} {v : Word}
    (h : s.label a = .csrWrite v) (hsafe : s.Safe a) :
    ((s.step a).csr = v ∧ SafeStore s.csr v v false) ∨
    ∃ old queued, (s.step a).csr = Deqna.newCsr v old queued ∧
      SafeStore s.csr v old queued := by
  cases a with
  | cpu =>
      change s.cpu.label = .csrWrite v at h
      change s.cpu.Safe s.csr at hsafe
      change (s.cpuStep.csr = v ∧ _) ∨ ∃ old queued, s.cpuStep.csr = _ ∧ _
      unfold cpuStep
      cases hcpu : s.cpu with
      | loaded nr w old =>
          rw [hcpu] at h hsafe
          rw [CpuPoint.label] at h
          split_ifs at h with hnr
          subst hnr
          injection h with hw
          subst hw
          exact .inl ⟨setRegister_self _ 7 _, hsafe rfl⟩
      | tested w old queued =>
          rw [hcpu] at h hsafe
          injection h with hw
          subst hw
          exact .inr ⟨old, queued, setRegister_self _ 7 _, hsafe⟩
      | idle | stored _ _ _ | transmitter | txLoop _ _ | txEnd _ _ _
      | txRaise _ | txInterrupt _ | txDone =>
          rw [hcpu] at h
          cases h
  | reset hard =>
      cases hard <;> cases h
  | write _ _ | receiver | arrive _ =>
      cases h

/-- A safe step clears an event bit only where the guest acknowledges it. -/
theorem step_event
    {s : DeqnaThreads} {a : DeqnaAct} (hsafe : s.Safe a) {b : Nat}
    (hb : b ∈ eventBits) (hset : s.csr.getLsbD b = true)
    (hack : ¬ (s.label a).Acknowledges b) :
    (s.step a).csr.getLsbD b = true := by
  cases hlabel : s.label a with
  | reset =>
      rw [hlabel] at hack
      exact absurd trivial hack
  | other =>
      exact (s.csr_of_other hlabel).event hb hset
  | csrWrite v =>
      rw [hlabel] at hack
      have hkept : ∀ list queued, SafeStore s.csr v list queued →
          b = 15 ∧ queued = true := fun _ _ hstore =>
        (hstore.1 b hb hset).resolve_left hack
      rcases csr_of_csrWrite hlabel hsafe with
        ⟨-, hstore⟩ | ⟨old, queued, hcsr, hstore⟩
      · cases (hkept _ _ hstore).2
      · obtain ⟨rfl, rfl⟩ := hkept _ _ hstore
        rw [hcsr]
        exact newCsr_ri v old true

/-- A safe store of a write leaves the list bits. -/
theorem step_list
    {s : DeqnaThreads} {a : DeqnaAct} {v : Word} (hsafe : s.Safe a)
    (hlabel : s.label a = .csrWrite v) {b : Nat} (hb : b ∈ listBits) :
    (s.step a).csr.getLsbD b = s.csr.getLsbD b := by
  rcases csr_of_csrWrite hlabel hsafe with
    ⟨hcsr, hstore⟩ | ⟨old, queued, hcsr, hstore⟩
  · rw [hcsr, hstore.2 b hb]
  · rw [hcsr, newCsr_list v old queued hb, hstore.2 b hb]

end Stores

section Runs

variable {s : DeqnaThreads} {acts : List DeqnaAct}

/-- In a run no event bit is lost, and no write changes a list bit. -/
structure EventsKept (s : DeqnaThreads) (acts : List DeqnaAct) : Prop where
  /-- RI and XI are cleared only by a write of a 1 or a reset. -/
  cleared : ∀ before a, before ++ [a] <+: acts → ∀ b ∈ eventBits,
    (s.run before).csr.getLsbD b = true →
    (s.run (before ++ [a])).csr.getLsbD b = false →
    ((s.run before).label a).Acknowledges b
  /-- Once set they are set until then. -/
  pending : ∀ before later, before ++ later <+: acts → ∀ b ∈ eventBits,
    (s.run before).csr.getLsbD b = true →
    (∀ between a, between ++ [a] <+: later →
      ¬ ((s.run (before ++ between)).label a).Acknowledges b) →
    (s.run (before ++ later)).csr.getLsbD b = true
  /-- The stores of a write leave bits 5 and 4. -/
  lists : ∀ before a v, before ++ [a] <+: acts →
    (s.run before).label a = .csrWrite v → ∀ b ∈ listBits,
    (s.run (before ++ [a])).csr.getLsbD b = (s.run before).csr.getLsbD b

theorem run_append
    (s : DeqnaThreads) (before later : List DeqnaAct) :
    s.run (before ++ later) = (s.run before).run later :=
  List.foldl_append

theorem run_snoc
    (s : DeqnaThreads) (before : List DeqnaAct) (a : DeqnaAct) :
    s.run (before ++ [a]) = (s.run before).step a :=
  run_append s before [a]

theorem AllSafe.safe
    {before : List DeqnaAct} {a : DeqnaAct} (h : s.AllSafe acts)
    (hpre : before ++ [a] <+: acts) :
    (s.run before).Safe a := by
  obtain ⟨later, rfl⟩ := hpre
  induction before generalizing s with
  | nil =>
      exact h.1
  | cons x before ih =>
      exact ih h.2

/-- In every interleaving whose stores are all safe, the event bits of the
DEQNA are not lost and its list bits are not written. -/
theorem event_bits_kept
    (s : DeqnaThreads) (acts : List DeqnaAct) (h : s.AllSafe acts) :
    s.EventsKept acts := by
  have hpending : ∀ before later, before ++ later <+: acts →
      ∀ b ∈ eventBits, (s.run before).csr.getLsbD b = true →
      (∀ between a, between ++ [a] <+: later →
        ¬ ((s.run (before ++ between)).label a).Acknowledges b) →
      (s.run (before ++ later)).csr.getLsbD b = true := by
    intro before later hpre b hb hset hack
    induction later using List.reverseRecOn with
    | nil =>
        rw [List.append_nil]
        exact hset
    | append_singleton later a ih =>
        rw [← List.append_assoc] at hpre ⊢
        rw [run_snoc]
        refine step_event (h.safe hpre) hb ?_
          (hack later a (List.prefix_refl _))
        exact ih ((List.prefix_append _ _).trans hpre) fun between x hx =>
          hack between x (hx.trans (List.prefix_append _ _))
  refine ⟨fun before a hpre b hb hset hclear => ?_, hpending,
    fun before a v hpre hlabel b hb => ?_⟩
  · by_contra hack
    have hkept := step_event (h.safe hpre) hb hset hack
    rw [run_snoc, hkept] at hclear
    cases hclear
  · rw [run_snoc]
    exact step_list (h.safe hpre) hlabel hb

/-- The guest gives the device a list and a frame is delivered. -/
def delivery : List DeqnaAct :=
  [.write 2 0, .cpu, .cpu, .write 3 0, .cpu, .cpu, .arrive headerFrame,
    .receiver, .receiver, .receiver, .receiver, .receiver, .receiver]

/-- The threads after a reset. -/
def afterReset : DeqnaThreads :=
  atRest (idleDeqna.reset true) (paddingRam 0)

/-- The guest acknowledges the frame and writes the list bits as they are. -/
theorem event_bits_kept_acknowledge :
    afterReset.EventsKept
      (delivery ++ [.write 7 0x8031, .cpu, .cpu, .cpu]) :=
  event_bits_kept _ _ (by decide)

/-- A write of the receiver enable bit alone loses the frame's event. -/
theorem unacknowledged_event_is_lost :
    ¬ afterReset.EventsKept (delivery ++ [.write 7 1, .cpu, .cpu, .cpu]) := by
  intro h
  have hack := h.cleared (delivery ++ [.write 7 1]) .cpu ⟨[.cpu, .cpu], rfl⟩
    15 (by decide) (by decide) (by decide)
  have hbit : (1 : Word).getLsbD 15 = true := hack
  exact absurd hbit (by decide)

end Runs

end DeqnaThreads

end KekPdp11
