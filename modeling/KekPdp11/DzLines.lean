import KekPdp11.Dz11
import KekPdp11.Lib.Queues

/-!
# KEK PDP-11: input of the DZ11

The receive buffers are queues that the poller fills and that reads of RBUF
empty, the line with the lowest number first.  No other access touches them.
What the guest reads of a line is what was received on it, in order; what it
has not read it gets later; and RBUF and CSR show whether there is any.
-/

namespace KekPdp11

/-- A round of the poller for a line, or an access of the guest. -/
inductive DzAct where
  | poll (line : Line) (isConnected : Bool) (data : List Byte)
  | read (addr : Word)
  | write (addr v : Word)

/-- What an act does to the buffers as queues. -/
def DzAct.op : DzAct → List (Queues.Op Line Byte)
  | .poll line _ data => [.put line data]
  | .read addr => if addr = Dz11.rbuf then [.take] else []
  | .write _ _ => []

namespace Dz11

def step (d : Dz11) : DzAct → Dz11
  | .poll line isConnected data => (d.poll line isConnected data).dz11
  | .read addr => (d.readWord addr).2
  | .write addr v => (d.writeWord addr v).dz11

def run (d : Dz11) (acts : List DzAct) : Dz11 :=
  acts.foldl step d

/-- A value of RBUF that carries a byte. -/
def dataValid (v : Word) : Bool :=
  v.getLsbD 15

/-- The line number in a value of RBUF. -/
def lineField (v : Word) : Nat :=
  (v >>> 8 &&& 7).toNat

/-- CSR shows that a byte is waiting. -/
def rdone (v : Word) : Bool :=
  v.getLsbD 7

/-- The values that are read from RBUF for one line, with the states in which
they are read. -/
def lineReads (line : Line) : Dz11 → List DzAct → List (Dz11 × Word)
  | _, [] => []
  | d, .read addr :: acts =>
      let v := (d.readWord addr).1
      (if addr = rbuf ∧ dataValid v = true ∧ lineField v = line.val then
        [(d, v)]
      else
        []) ++ lineReads line (d.step (.read addr)) acts
  | d, a :: acts => lineReads line (d.step a) acts

/-- The bytes that are received on a line. -/
def received (line : Line) (acts : List DzAct) : List Byte :=
  acts.flatMap fun
    | .poll line' _ data => if line' = line then data else []
    | _ => []

/-- The received bytes that have not been read. -/
def unread (line : Line) (d : Dz11) (acts : List DzAct) : List Byte :=
  (received line acts).drop (lineReads line d acts).length

/-- The bits of a value of RBUF that are data. -/
def dataMask : ParitySetting → Word
  | .noParity => 0xff
  | _ => 0x7f

/-- A value that was read carries a byte. -/
def Carries (line : Line) (read : Dz11 × Word) (c : Byte) : Prop :=
  read.2 &&& dataMask (read.1.paritySetting line) =
    c.setWidth 16 &&& dataMask (read.1.paritySetting line)

/-- The number of reads of RBUF. -/
def rbufReads (acts : List DzAct) : Nat :=
  acts.countP fun
    | .read addr => addr = rbuf
    | _ => false

/-- The number of bytes that are received. -/
def arrivals (acts : List DzAct) : Nat :=
  (acts.map fun
    | .poll _ _ data => data.length
    | _ => 0).sum

/-- Nothing received is lost, doubled or reordered. -/
structure InputKept (d : Dz11) (acts : List DzAct) : Prop where
  /-- What is read for a line carries the first bytes received on it. -/
  inOrder : ∀ line,
    (lineReads line d acts).length ≤ (received line acts).length ∧
    List.Forall₂ (Carries line) (lineReads line d acts)
      ((received line acts).take (lineReads line d acts).length)
  /-- As many reads of RBUF as there are bytes, those still to come included,
  get all that was received. -/
  delivered : ∀ later,
    ∑ line, (unread line d acts).length + arrivals later ≤ rbufReads later →
    ∀ line,
      (received line acts).length ≤ (lineReads line d (acts ++ later)).length
  rbufEmpty :
    dataValid ((d.run acts).readWord rbuf).1 = false ↔
      ∀ line, unread line d acts = []
  csrDone :
    rdone ((d.run acts).readWord csr).1 = true ↔
      ∃ line, unread line d acts ≠ []

section Words

theorem lineWord_eq
    (line : Line) :
    lineWord line = (BitVec.ofFin line : BitVec 3).setWidth 16 := by
  revert line
  decide

theorem dataValid_rbufWord
    (setting : ParitySetting) (line : Line) (c : Byte) :
    dataValid (rbufWord setting line c) = true := by
  unfold dataValid rbufWord
  simp

theorem lineField_rbufWord
    (setting : ParitySetting) (line : Line) (c : Byte) :
    lineField (rbufWord setting line c) = line.val := by
  have hbits : rbufWord setting line c >>> 8 &&& 7 = lineWord line := by
    unfold rbufWord
    rw [lineWord_eq]
    ext i hi
    cases parityBit setting c <;> interval_cases i <;> simp
  unfold lineField
  rw [hbits, lineWord, BitVec.toNat_ofNat]
  omega

theorem dataMask_rbufWord
    (setting : ParitySetting) (line : Line) (c : Byte) :
    rbufWord setting line c &&& dataMask setting =
      c.setWidth 16 &&& dataMask setting := by
  have hbits : ∀ (p : Bool) (mask : Word),
      (mask = 0x7f ∨ mask = 0xff ∧ p = false) →
      (0x8000 ||| lineWord line <<< 8 ||| c.setWidth 16 |||
        (if p then (1 : Word) else 0) <<< 7) &&& mask =
        c.setWidth 16 &&& mask := by
    intro p mask h
    rw [lineWord_eq]
    ext i hi
    rcases h with rfl | ⟨rfl, rfl⟩
    · cases p <;> interval_cases i <;> simp
    · interval_cases i <;> simp
  cases setting with
  | noParity =>
      exact hbits false 0xff (.inr ⟨rfl, rfl⟩)
  | oddParity =>
      exact hbits (parity c) 0x7f (.inl rfl)
  | evenParity =>
      exact hbits (!parity c) 0x7f (.inl rfl)

end Words

section Buffers

/-- A read of RBUF is a take. -/
theorem readRbuf_eq
    (d : Dz11) :
    d.readRbuf =
      match Queues.front lines d.recvBuffers with
      | none => (0, d)
      | some (line, c) =>
          (rbufWord (d.paritySetting line) line c,
            { d with
              recvBuffers := Queues.step lines d.recvBuffers .take }) := by
  unfold readRbuf Queues.front Queues.step Queues.ready
  cases lines.find? fun i => !(d.recvBuffers i).isEmpty with
  | none =>
      rfl
  | some i =>
      cases hbuffer : d.recvBuffers i with
      | nil =>
          simp [hbuffer]
      | cons c rest =>
          simp [hbuffer]

theorem reset_recvBuffers
    (d : Dz11) (hard : Bool) :
    (d.reset hard).recvBuffers = d.recvBuffers := by
  unfold reset
  split <;> rfl

theorem readCsr_recvBuffers
    (d : Dz11) :
    d.readCsr.2.recvBuffers = d.recvBuffers := by
  unfold readCsr
  dsimp only
  split
  · exact d.reset_recvBuffers true
  · rfl

theorem enableLine_recvBuffers
    (e : Dz11Effect) (i : Line) :
    (enableLine e i).dz11.recvBuffers = e.dz11.recvBuffers := by
  unfold enableLine
  dsimp only
  split_ifs <;> rfl

theorem writeTcr_recvBuffers
    (d : Dz11) (v : Word) :
    (d.writeTcr v).dz11.recvBuffers = d.recvBuffers := by
  have hlines : ∀ (enabled : List Line) (e : Dz11Effect),
      (enabled.foldl enableLine e).dz11.recvBuffers = e.dz11.recvBuffers := by
    intro enabled
    induction enabled with
    | nil =>
        exact fun _ => rfl
    | cons i enabled ih =>
        exact fun e => (ih _).trans (enableLine_recvBuffers e i)
  exact hlines _ _

theorem writeWord_recvBuffers
    (d : Dz11) (addr v : Word) :
    (d.writeWord addr v).dz11.recvBuffers = d.recvBuffers := by
  unfold writeWord
  split_ifs
  · unfold writeCsr
    dsimp only
    split_ifs
    · exact d.reset_recvBuffers true
    · rfl
  · rfl
  · rfl
  · exact d.writeTcr_recvBuffers v
  · rfl

theorem poll_recvBuffers
    (d : Dz11) (line : Line) (isConnected : Bool) (data : List Byte) :
    (d.poll line isConnected data).dz11.recvBuffers =
      Function.update d.recvBuffers line (d.recvBuffers line ++ data) := by
  unfold poll changeConnection
  dsimp only
  split_ifs <;> rfl

/-- Only RBUF takes from the buffers. -/
theorem readWord_recvBuffers
    (d : Dz11) {addr : Word} (h : addr ≠ rbuf) :
    (d.readWord addr).2.recvBuffers = d.recvBuffers := by
  unfold readWord
  rw [if_neg h]
  split_ifs
  · exact d.readCsr_recvBuffers
  · rfl
  · rfl
  · rfl

theorem readWord_rbuf
    (d : Dz11) :
    d.readWord rbuf = d.readRbuf := by
  unfold readWord
  rw [if_neg (by decide), if_pos rfl]

theorem readRbuf_recvBuffers
    (d : Dz11) :
    d.readRbuf.2.recvBuffers = Queues.step lines d.recvBuffers .take := by
  rw [readRbuf_eq]
  cases hfront : Queues.front lines d.recvBuffers with
  | none =>
      exact (Queues.step_take_of_none hfront).symm
  | some item =>
      rfl

/-- The buffers after a step are the queues after its operation. -/
theorem step_recvBuffers
    (d : Dz11) (a : DzAct) :
    (d.step a).recvBuffers = Queues.run lines d.recvBuffers a.op := by
  cases a with
  | poll line isConnected data =>
      exact d.poll_recvBuffers line isConnected data
  | read addr =>
      rw [DzAct.op]
      by_cases h : addr = rbuf
      · subst h
        rw [if_pos rfl]
        change (d.readWord rbuf).2.recvBuffers = _
        rw [readWord_rbuf]
        exact d.readRbuf_recvBuffers
      · rw [if_neg h]
        exact d.readWord_recvBuffers h
  | write addr v =>
      exact d.writeWord_recvBuffers addr v

theorem run_recvBuffers
    (d : Dz11) (acts : List DzAct) :
    (d.run acts).recvBuffers =
      Queues.run lines d.recvBuffers (acts.flatMap DzAct.op) := by
  induction acts generalizing d with
  | nil =>
      rfl
  | cons a acts ih =>
      have hrest := ih (d.step a)
      rw [step_recvBuffers] at hrest
      rw [List.flatMap_cons, Queues.run, List.foldl_append]
      exact hrest

end Buffers

section Reads

/-- One read of RBUF. -/
theorem firstRead_carries
    (line : Line) (d : Dz11) :
    List.Forall₂ (Carries line)
      (if rbuf = rbuf ∧ dataValid (d.readWord rbuf).1 = true ∧
          lineField (d.readWord rbuf).1 = line.val then
        [(d, (d.readWord rbuf).1)]
      else
        [])
      (Queues.fromQueue line (Queues.given lines d.recvBuffers .take)) := by
  rw [readWord_rbuf, readRbuf_eq, Queues.given]
  cases hfront : Queues.front lines d.recvBuffers with
  | none =>
      rw [if_neg]
      · exact .nil
      · rintro ⟨-, hvalid, -⟩
        exact absurd hvalid (by decide : dataValid 0 ≠ true)
  | some item =>
      obtain ⟨i, c⟩ := item
      dsimp only
      rw [dataValid_rbufWord, lineField_rbufWord]
      by_cases hline : i = line
      · subst hline
        rw [if_pos ⟨rfl, rfl, rfl⟩]
        rw [Option.toList_some, Queues.fromQueue, List.filterMap_cons_some]
        · exact .cons (dataMask_rbufWord _ i c) .nil
        · exact if_pos rfl
      · rw [if_neg fun h => hline (Fin.ext h.2.2)]
        rw [Option.toList_some, Queues.fromQueue, List.filterMap_cons_none]
        · exact .nil
        · exact if_neg hline

/-- What the values read for a line carry is what is taken from its queue. -/
theorem lineReads_carry
    (line : Line) (d : Dz11) (acts : List DzAct) :
    List.Forall₂ (Carries line) (lineReads line d acts)
      (Queues.fromQueue line
        (Queues.taken lines d.recvBuffers (acts.flatMap DzAct.op))) := by
  induction acts generalizing d with
  | nil =>
      exact .nil
  | cons a acts ih =>
      have hrest := ih (d.step a)
      rw [step_recvBuffers] at hrest
      cases a with
      | poll line' isConnected data =>
          exact hrest
      | write addr v =>
          exact hrest
      | read addr =>
          by_cases haddr : addr = rbuf
          · subst haddr
            have hfirst := firstRead_carries line d
            rw [lineReads, List.flatMap_cons, DzAct.op, if_pos rfl]
            rw [List.singleton_append, Queues.taken, Queues.fromQueue_append]
            exact List.rel_append hfirst hrest
          · rw [lineReads, if_neg fun h => haddr h.1, List.nil_append]
            rw [List.flatMap_cons, DzAct.op, if_neg haddr, List.nil_append]
            rw [DzAct.op, if_neg haddr] at hrest
            exact hrest

theorem lineReads_append
    (line : Line) (d : Dz11) (acts later : List DzAct) :
    lineReads line d (acts ++ later) =
      lineReads line d acts ++ lineReads line (d.run acts) later := by
  induction acts generalizing d with
  | nil =>
      rfl
  | cons a acts ih =>
      have hrest := ih (d.step a)
      cases a with
      | poll line' isConnected data =>
          exact hrest
      | write addr v =>
          exact hrest
      | read addr =>
          rw [List.cons_append, lineReads, hrest, lineReads, List.append_assoc]
          rfl

theorem received_eq
    (line : Line) (acts : List DzAct) :
    received line acts = Queues.arrived line (acts.flatMap DzAct.op) := by
  induction acts with
  | nil =>
      rfl
  | cons a acts ih =>
      rw [List.flatMap_cons, Queues.arrived, List.flatMap_append]
      rw [received, List.flatMap_cons]
      refine congrArg₂ _ ?_ ih
      cases a with
      | poll line' isConnected data =>
          exact (List.append_nil _).symm
      | write addr v =>
          rfl
      | read addr =>
          rw [DzAct.op]
          split_ifs <;> rfl

theorem arrivals_eq
    (acts : List DzAct) :
    arrivals acts = Queues.arrivals (acts.flatMap DzAct.op) := by
  induction acts with
  | nil =>
      rfl
  | cons a acts ih =>
      rw [List.flatMap_cons, Queues.arrivals, List.map_append, List.sum_append]
      rw [arrivals, List.map_cons, List.sum_cons]
      refine congrArg₂ _ ?_ ih
      cases a with
      | poll line isConnected data =>
          rfl
      | write addr v =>
          rfl
      | read addr =>
          rw [DzAct.op]
          split_ifs <;> rfl

theorem rbufReads_eq
    (acts : List DzAct) :
    rbufReads acts = Queues.takes (acts.flatMap DzAct.op) := by
  induction acts with
  | nil =>
      rfl
  | cons a acts ih =>
      rw [List.flatMap_cons, Queues.takes, List.countP_append]
      rw [rbufReads, List.countP_cons, Nat.add_comm]
      refine congrArg₂ _ ?_ ih
      cases a with
      | poll line isConnected data =>
          rfl
      | write addr v =>
          rfl
      | read addr =>
          rw [DzAct.op]
          by_cases h : addr = rbuf
          · rw [if_pos h, if_pos (decide_eq_true h)]
            rfl
          · rw [if_neg h, if_neg fun hd => h (of_decide_eq_true hd)]
            rfl

end Reads

section Registers

/-- RBUF gives a byte when a buffer has one. -/
theorem dataValid_readWord_rbuf
    (d : Dz11) :
    dataValid (d.readWord rbuf).1 = false ↔ ∀ line, d.recvBuffers line = [] := by
  rw [readWord_rbuf, readRbuf_eq]
  cases hfront : Queues.front lines d.recvBuffers with
  | none =>
      have hempty := Queues.front_eq_none_iff.mp hfront
      constructor
      · intro _ line
        exact hempty line (List.mem_finRange line)
      · intro _
        exact (by decide : dataValid 0 = false)
  | some item =>
      obtain ⟨i, c⟩ := item
      obtain ⟨rest, hbuffer, -⟩ := Queues.front_eq_some hfront
      dsimp only
      rw [dataValid_rbufWord]
      constructor
      · intro h
        cases h
      · intro h
        rw [h i] at hbuffer
        cases hbuffer

/-- RDONE tells whether a buffer has a byte. -/
theorem rdone_readWord_csr
    (d : Dz11) :
    rdone (d.readWord csr).1 = true ↔ ∃ line, d.recvBuffers line ≠ [] := by
  have hany : (lines.any fun i => !(d.recvBuffers i).isEmpty) = true ↔
      ∃ line, d.recvBuffers line ≠ [] := by
    simp [lines]
  have hbuffers :
      (if d.registers 0 &&& 0x10 ≠ 0 then d.reset true else d).recvBuffers =
        d.recvBuffers := by
    split
    · exact d.reset_recvBuffers true
    · rfl
  rw [← hany, readWord, if_pos rfl]
  unfold readCsr rdone
  dsimp only
  rw [hbuffers, lineWord_eq]
  generalize (lines.any fun i => !(d.recvBuffers i).isEmpty) = waiting
  cases waiting with
  | false =>
      rw [if_neg Bool.false_ne_true]
      split_ifs <;> simp
  | true =>
      rw [if_pos rfl]
      split_ifs <;> simp

end Registers

section Runs

variable (registers : Nat → Word)

/-- What was received on a line is what was read of it and what its buffer
holds. -/
theorem received_split
    (line : Line) (acts : List DzAct) :
    received line acts =
      Queues.fromQueue line
        (Queues.taken lines (constructed registers).recvBuffers
          (acts.flatMap DzAct.op)) ++
      ((constructed registers).run acts).recvBuffers line := by
  rw [received_eq, run_recvBuffers, ← Queues.arrived_eq]
  rfl

/-- The unread bytes are those in the buffer. -/
theorem unread_eq
    (line : Line) (acts : List DzAct) :
    unread line (constructed registers) acts =
      ((constructed registers).run acts).recvBuffers line := by
  have hlength := (lineReads_carry line (constructed registers) acts).length_eq
  rw [unread, received_split registers line acts, hlength]
  exact List.drop_left

/-- Enough reads give all that was received. -/
theorem received_length_le
    (acts later : List DzAct)
    (h : ∑ line, (unread line (constructed registers) acts).length +
      arrivals later ≤ rbufReads later)
    (line : Line) :
    (received line acts).length ≤
      (lineReads line (constructed registers) (acts ++ later)).length := by
  have hwaiting :
      Queues.waiting ((constructed registers).run acts).recvBuffers +
        Queues.arrivals (later.flatMap DzAct.op) ≤
      Queues.takes (later.flatMap DzAct.op) := by
    rw [← arrivals_eq, ← rbufReads_eq]
    simp only [unread_eq] at h
    exact h
  have hheld := (Queues.held_prefix_taken (List.mem_finRange (n := 8)) _ _
    hwaiting line).length_le
  have hbefore := (lineReads_carry line (constructed registers) acts).length_eq
  have hafter := (lineReads_carry line ((constructed registers).run acts)
    later).length_eq
  rw [received_split registers line acts, lineReads_append]
  rw [List.length_append, List.length_append, hbefore, hafter]
  exact Nat.add_le_add_left hheld _

/-- In every run the input is kept. -/
theorem run_inputKept
    (acts : List DzAct) :
    (constructed registers).InputKept acts where
  inOrder line := by
    have hcarry := lineReads_carry line (constructed registers) acts
    have hsplit := received_split registers line acts
    rw [hcarry.length_eq, hsplit]
    constructor
    · rw [List.length_append]
      exact Nat.le_add_right _ _
    · rw [List.take_left]
      exact hcarry
  delivered later h line :=
    received_length_le registers acts later h line
  rbufEmpty := by
    simp only [unread_eq]
    exact dataValid_readWord_rbuf _
  csrDone := by
    simp only [unread_eq]
    exact rdone_readWord_csr _

end Runs

end Dz11

end KekPdp11
