import KekPdp11.TransmitLine

/-!
# KEK PDP-11: lines of the DZ11 that are not enabled

The low byte of TCR has an enable bit for each line.  The receiving side does
not look at it: neither the poller when it asks for the interrupt, nor RDONE,
nor the scan of RBUF.

What a guest should see is what it would see if the lines that are not enabled
held no data (`withoutDisabled`).

* `treatsLines_iff`: when an act shows that.
* `disabled_lines_silent_iff`: the run.
-/

namespace KekPdp11

open Runs

namespace Dz11

/-- The enable bit of a line in TCR. -/
def enabled (d : Dz11) (i : Line) : Bool :=
  d.registers 2 &&& (1 : Word) <<< i.val ≠ 0

/-- The device without the data of the lines that are not enabled. -/
def withoutDisabled (d : Dz11) : Dz11 :=
  { d with recvBuffers := fun i => if d.enabled i then d.recvBuffers i else [] }

/-- An act shows of the lines what their enable bits say: RDONE and RBUF are as
if the other lines held no data, and data that arrives asks for an interrupt, if
that is allowed, on an enabled line only. -/
def TreatsLines (d : Dz11) : DzAct → Prop
  | .poll line isConnected data =>
      (d.poll line isConnected data).requests =
        if data ≠ [] ∧ d.isRxInterruptEnabled = true ∧ d.enabled line = true
        then [interrupt false]
        else []
  | .read addr =>
      (addr = csr →
        rdone (d.readWord csr).1 = rdone (d.withoutDisabled.readWord csr).1) ∧
        (addr = rbuf →
          (d.readWord rbuf).1 = (d.withoutDisabled.readWord rbuf).1)
  | .write _ _ => True

/-- Where the enable bits matter, they are set. -/
def FindsEnabled (d : Dz11) : DzAct → Prop
  | .poll line _ data =>
      data ≠ [] → d.isRxInterruptEnabled = true → d.enabled line = true
  | .read addr =>
      (addr = csr → (∃ i, d.recvBuffers i ≠ []) →
        ∃ i, d.enabled i = true ∧ d.recvBuffers i ≠ []) ∧
        (addr = rbuf → ∀ i, Queues.ready lines d.recvBuffers = some i →
          d.enabled i = true)
  | .write _ _ => True

section Reads

theorem withoutDisabled_recvBuffers
    (d : Dz11) (i : Line) :
    d.withoutDisabled.recvBuffers i ≠ [] ↔
      d.enabled i = true ∧ d.recvBuffers i ≠ [] := by
  unfold withoutDisabled
  dsimp only
  split
  · next h =>
      exact (and_iff_right h).symm
  · next h =>
      exact iff_of_false (fun hne => hne rfl) fun hall => h hall.1

/-- RDONE, as a guest should see it. -/
theorem rdone_eq_iff
    (d : Dz11) :
    rdone (d.readWord csr).1 = rdone (d.withoutDisabled.readWord csr).1 ↔
      ((∃ i, d.recvBuffers i ≠ []) →
        ∃ i, d.enabled i = true ∧ d.recvBuffers i ≠ []) := by
  rw [Bool.eq_iff_iff, rdone_readWord_csr, rdone_readWord_csr]
  simp only [withoutDisabled_recvBuffers]
  constructor
  · exact fun h => h.mp
  · exact fun h => ⟨h, fun ⟨i, _, hi⟩ => ⟨i, hi⟩⟩

/-- The first line with data is the first one of those enabled, if it is
enabled. -/
theorem ready_withoutDisabled
    {d : Dz11} {i : Line} (hready : Queues.ready lines d.recvBuffers = some i)
    (henabled : d.enabled i = true) :
    Queues.ready lines d.withoutDisabled.recvBuffers = some i := by
  have hfind : ∀ ls : List Line,
      (ls.find? fun i => !(d.recvBuffers i).isEmpty) = some i →
      (ls.find? fun i => !(d.withoutDisabled.recvBuffers i).isEmpty) =
        some i := by
    intro ls
    induction ls with
    | nil =>
        exact id
    | cons j ls ih =>
        intro hj
        have hsame : d.withoutDisabled.recvBuffers i = d.recvBuffers i :=
          if_pos henabled
        cases hempty : (d.recvBuffers j).isEmpty with
        | false =>
            rw [List.find?_cons_of_pos (by rw [hempty]; rfl)] at hj
            injection hj with hj
            subst hj
            rw [List.find?_cons_of_pos (by rw [hsame, hempty]; rfl)]
        | true =>
            have hnone : (d.withoutDisabled.recvBuffers j).isEmpty = true := by
              unfold withoutDisabled
              dsimp only
              split
              · exact hempty
              · rfl
            rw [List.find?_cons_of_neg (by rw [hempty]; decide)] at hj
            rw [List.find?_cons_of_neg (by rw [hnone]; decide)]
            exact ih hj
  exact hfind lines hready

/-- What RBUF gives, by the first line that has data. -/
theorem readWord_rbuf_of_ready
    {d : Dz11} {i : Line}
    (hready : Queues.ready lines d.recvBuffers = some i) :
    ∃ c, d.recvBuffers i = c :: (d.recvBuffers i).tail ∧
      (d.readWord rbuf).1 = rbufWord (d.paritySetting i) i c := by
  obtain ⟨c, rest, hbuffer⟩ := Queues.ready_eq_some hready
  refine ⟨c, by rw [hbuffer, List.tail_cons], ?_⟩
  rw [readWord_rbuf, readRbuf_eq]
  unfold Queues.front
  rw [hready, Option.bind_some, hbuffer]
  rfl

theorem readWord_rbuf_of_none
    {d : Dz11} (hready : Queues.ready lines d.recvBuffers = none) :
    (d.readWord rbuf).1 = 0 := by
  rw [readWord_rbuf, readRbuf_eq]
  unfold Queues.front
  rw [hready]
  rfl

/-- RBUF, as a guest should see it. -/
theorem rbuf_eq_iff
    (d : Dz11) :
    (d.readWord rbuf).1 = (d.withoutDisabled.readWord rbuf).1 ↔
      ∀ i, Queues.ready lines d.recvBuffers = some i → d.enabled i = true := by
  cases hready : Queues.ready lines d.recvBuffers with
  | none =>
      have hempty := Queues.ready_eq_none_iff.mp hready
      have hnone : Queues.ready lines d.withoutDisabled.recvBuffers = none := by
        refine Queues.ready_eq_none_iff.mpr fun i hi => ?_
        unfold withoutDisabled
        dsimp only
        rw [hempty i hi, ite_self]
      rw [readWord_rbuf_of_none hready, readWord_rbuf_of_none hnone]
      exact iff_of_true rfl nofun
  | some i =>
      obtain ⟨c, hbuffer, hread⟩ := readWord_rbuf_of_ready hready
      rw [hread]
      constructor
      · intro heq j hj
        injection hj with hj
        subst hj
        cases hready' : Queues.ready lines d.withoutDisabled.recvBuffers with
        | none =>
            rw [readWord_rbuf_of_none hready'] at heq
            have hvalid := congrArg dataValid heq
            rw [dataValid_rbufWord] at hvalid
            cases hvalid
        | some j =>
            obtain ⟨c', hbuffer', hread'⟩ := readWord_rbuf_of_ready hready'
            rw [hread'] at heq
            have hline := congrArg lineField heq
            rw [lineField_rbufWord, lineField_rbufWord] at hline
            obtain rfl := Fin.ext hline
            have hsome : d.withoutDisabled.recvBuffers i ≠ [] := by
              rw [hbuffer']
              exact List.cons_ne_nil _ _
            exact ((d.withoutDisabled_recvBuffers i).mp hsome).1
      · intro henabled
        have hready' := ready_withoutDisabled hready (henabled i rfl)
        obtain ⟨c', hbuffer', hread'⟩ := readWord_rbuf_of_ready hready'
        have hsame : d.withoutDisabled.recvBuffers i = d.recvBuffers i :=
          if_pos (henabled i rfl)
        rw [hsame, hbuffer] at hbuffer'
        obtain rfl := (List.cons.inj hbuffer').1
        exact hread'.symm

end Reads

section Runs

/-- The acts that treat the lines as their enable bits say. -/
theorem treatsLines_iff
    (d : Dz11) (a : DzAct) :
    d.TreatsLines a ↔ d.FindsEnabled a := by
  cases a with
  | poll line isConnected data =>
      have hrequests : (d.poll line isConnected data).requests =
          if data ≠ [] ∧ d.isRxInterruptEnabled = true then [interrupt false]
          else [] := by
        unfold poll isRxInterruptEnabled
        dsimp only
        rw [show (if isConnected ≠ decide (d.connected line ≠ .notConnected)
          then d.changeConnection line isConnected else d).registers 0 =
            d.registers 0 by
          unfold changeConnection
          split_ifs <;> rfl]
      change (d.poll line isConnected data).requests = _ ↔
        (data ≠ [] → d.isRxInterruptEnabled = true → d.enabled line = true)
      rw [hrequests]
      by_cases hdue : data ≠ [] ∧ d.isRxInterruptEnabled = true
      · rw [if_pos hdue]
        by_cases henabled : d.enabled line = true
        · rw [if_pos ⟨hdue.1, hdue.2, henabled⟩]
          exact iff_of_true rfl fun _ _ => henabled
        · rw [if_neg fun h => henabled h.2.2]
          exact iff_of_false (List.cons_ne_nil _ _) fun h =>
            henabled (h hdue.1 hdue.2)
      · rw [if_neg hdue, if_neg fun h => hdue ⟨h.1, h.2.1⟩]
        exact iff_of_true rfl fun hdata hallowed =>
          absurd ⟨hdata, hallowed⟩ hdue
  | read addr =>
      exact and_congr (imp_congr_right fun _ => d.rdone_eq_iff)
        (imp_congr_right fun _ => d.rbuf_eq_iff)
  | write addr v =>
      exact Iff.rfl

/-- In a run the lines that are not enabled are silent, and the data of the
others is delivered as usual, if and only if: whenever CSR is read and some line
has data, an enabled one has; whenever RBUF is read, the first line with data is
enabled; and whenever data arrives while receive interrupts are allowed, its
line is enabled. -/
theorem disabled_lines_silent_iff
    (registers : Nat → Word) (acts : List DzAct) :
    EachStep step TreatsLines (constructed registers) acts ↔
      EachStep step FindsEnabled (constructed registers) acts :=
  eachStep_congr (I := fun _ => True) (fun _ _ _ => trivial)
    (fun d a _ => d.treatsLines_iff a) trivial acts

/-- A byte that arrives on line 1 when only line 0 is enabled asks for an
interrupt if these are allowed, and if not it sets RDONE and is read from
RBUF. -/
theorem disabled_line_heard :
    ¬ EachStep step TreatsLines (constructed fun _ => 0)
        [.write csr 0x60, .write tcr 1, .poll 1 true [123]] ∧
      ¬ EachStep step TreatsLines (constructed fun _ => 0)
        [.write tcr 1, .poll 1 true [123], .read csr] ∧
      ¬ EachStep step TreatsLines (constructed fun _ => 0)
        [.write tcr 1, .poll 1 true [123], .read rbuf] := by
  refine ⟨?_, ?_, ?_⟩
  · rintro ⟨-, -, h, -⟩
    have hrequests : [interrupt false] = [] := h
    exact absurd hrequests (List.cons_ne_nil _ _)
  · rintro ⟨-, -, h, -⟩
    exact absurd (h.1 rfl) (by decide)
  · rintro ⟨-, -, h, -⟩
    exact absurd (h.2 rfl) (by decide)

end Runs

end Dz11

end KekPdp11
