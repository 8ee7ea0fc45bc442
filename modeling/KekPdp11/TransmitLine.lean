import KekPdp11.DzLines
import KekPdp11.Lib.Throughout

/-!
# KEK PDP-11: the line that the DZ11 transmits on

The line to which the next character goes is held twice: in bits 10-8 of
register 0, from which a write of TDR takes it, and in scanner_line_nr, which a
read of CSR shows.  The transmit scanner sets both; a reset clears the first
only, and a restored device has the first from the snapshot and starts with the
second at 0.

* `agrees_iff`: when the two agree, the pending CLR of a read included.
* `agrees_step_iff`: which operations keep them so.
* `lines_agree_iff`: the run.
-/

namespace KekPdp11

open Runs

namespace Dz11

/-- The line that a read of CSR shows is the one to which a write of TDR that
comes next sends its character. -/
def Agrees (d : Dz11) : Prop :=
  ∀ v, ((d.readWord csr).2.writeWord tdr v).sent.map (fun p => p.1.val) =
    [lineField (d.readWord csr).1]

section Lines

theorem lineField_readCsr
    (d : Dz11) :
    lineField (d.readWord csr).1 = d.scannerLineNr.val := by
  have hscanner : (d.readWord csr).1 >>> 8 &&& 7 =
      lineWord (if d.registers 0 &&& 0x10 ≠ 0 then d.reset true
        else d).scannerLineNr := by
    rw [readWord, if_pos rfl]
    unfold readCsr
    dsimp only
    rw [lineWord_eq]
    generalize d.registers 0 &&& ~~~(128 : Word) = w
    ext i hi
    split_ifs <;> interval_cases i <;> simp
  have hsame : (if d.registers 0 &&& 0x10 ≠ 0 then d.reset true
      else d).scannerLineNr = d.scannerLineNr := by
    split <;> rfl
  unfold lineField
  rw [hscanner, hsame, lineWord, BitVec.toNat_ofNat]
  omega

theorem csrLine_eq
    {d : Dz11} {line : Line}
    (h : d.registers 0 >>> 8 &&& 7 = lineWord line) :
    d.csrLine = line := by
  apply Fin.ext
  unfold csrLine
  dsimp only
  rw [h, lineWord, BitVec.toNat_ofNat]
  omega

theorem csrLine_congr
    {d d' : Dz11} (h : d'.registers 0 = d.registers 0) :
    d'.csrLine = d.csrLine := by
  unfold csrLine
  simp only [h]

theorem csrLine_of_zero
    {d : Dz11} (h : d.registers 0 = 0) :
    d.csrLine = 0 :=
  csrLine_eq (by rw [h]; decide)

theorem readCsr_registers
    (d : Dz11) :
    ((d.readWord csr).2.registers 0) =
      if d.clrPending then 0 else d.registers 0 := by
  rw [readWord, if_pos rfl]
  unfold readCsr clrPending
  dsimp only
  simp only [decide_eq_true_eq]
  split <;> rfl

theorem sent_writeTdr
    (d : Dz11) (v : Word) :
    (d.writeWord tdr v).sent.map (fun p => p.1.val) = [d.csrLine.val] := by
  rw [writeWord, if_neg (by decide), if_neg (by decide), if_pos rfl]
  rfl

/-- The two lines agree when the scanner's line is the one that register 0 has
behind the read. -/
theorem agrees_iff
    (d : Dz11) :
    d.Agrees ↔ d.scannerLineNr = if d.clrPending then 0 else d.csrLine := by
  have hline : (d.readWord csr).2.csrLine =
      if d.clrPending then 0 else d.csrLine := by
    have hregisters := d.readCsr_registers
    split at hregisters
    · next hclr =>
        rw [if_pos hclr]
        exact csrLine_of_zero hregisters
    · next hclr =>
        rw [if_neg hclr]
        exact csrLine_congr hregisters
  unfold Agrees
  simp only [sent_writeTdr, hline, lineField_readCsr, List.cons.injEq, and_true,
    forall_const]
  rw [eq_comm, Fin.ext_iff]

end Lines

section Steps

/-- Nothing else than register 0 and the scanner's line matters. -/
theorem agrees_congr
    {d d' : Dz11} (hregister : d'.registers 0 = d.registers 0)
    (hscanner : d'.scannerLineNr = d.scannerLineNr) :
    d'.Agrees ↔ d.Agrees := by
  have hclr : d'.clrPending = d.clrPending := by
    unfold clrPending
    simp only [hregister]
  rw [agrees_iff, agrees_iff, hscanner, hclr, csrLine_congr hregister]

theorem agrees_of_zero
    {d : Dz11} (h : d.registers 0 = 0) :
    d.Agrees ↔ d.scannerLineNr = 0 := by
  rw [agrees_iff, csrLine_of_zero h, ite_self]

theorem poll_line
    (d : Dz11) (line : Line) (isConnected : Bool) (data : List Byte) :
    (d.poll line isConnected data).dz11.registers 0 = d.registers 0 ∧
      (d.poll line isConnected data).dz11.scannerLineNr = d.scannerLineNr := by
  unfold poll changeConnection
  dsimp only
  split_ifs <;> exact ⟨rfl, rfl⟩

theorem readCsr_agrees
    {d : Dz11} (h : d.Agrees) :
    (d.readWord csr).2.Agrees := by
  have hscanner : (d.readWord csr).2.scannerLineNr = d.scannerLineNr := by
    rw [readWord, if_pos rfl]
    unfold readCsr
    dsimp only
    split <;> rfl
  have hregister := d.readCsr_registers
  split at hregister
  · next hclr =>
      rw [agrees_of_zero hregister, hscanner]
      rw [agrees_iff, if_pos hclr] at h
      exact h
  · exact (agrees_congr hregister hscanner).mpr h

theorem readRbuf_line
    (d : Dz11) :
    (d.readWord rbuf).2.registers 0 = d.registers 0 ∧
      (d.readWord rbuf).2.scannerLineNr = d.scannerLineNr := by
  rw [readWord_rbuf, readRbuf_eq]
  split <;> exact ⟨rfl, rfl⟩

/-- A write of CSR that clears the device. -/
theorem writeCsr_clears
    (d : Dz11) {v : Word} (hv : v &&& 16 ≠ 0) :
    (d.writeWord csr v).dz11.Agrees ↔ d.scannerLineNr = 0 := by
  have hwrite : (d.writeWord csr v).dz11 = ((d.reset true).setRegister 0
      ((d.reset true).registers 0 &&& ~~~16)).setRegister 0
        ((((d.reset true).setRegister 0 ((d.reset true).registers 0 &&&
          ~~~16)).registers 0 &&& ~~~0x5078) ||| v &&& 0x5078 ||| 16) := by
    rw [writeWord, if_pos rfl]
    unfold writeCsr
    simp only [if_pos hv]
  have hscanner : (d.writeWord csr v).dz11.scannerLineNr =
      d.scannerLineNr := by
    rw [hwrite]
    rfl
  have hregister : (d.writeWord csr v).dz11.registers 0 =
      0 &&& ~~~16 &&& ~~~0x5078 ||| v &&& 0x5078 ||| 16 := by
    rw [hwrite]
    rfl
  have hclr : (d.writeWord csr v).dz11.clrPending = true := by
    unfold clrPending
    rw [hregister, decide_eq_true_eq]
    intro hzero
    have hbit := congrArg (fun w : Word => w.getLsbD 4) hzero
    simp at hbit
  rw [agrees_iff, hclr, if_pos rfl, hscanner]

/-- A write of CSR that does not. -/
theorem writeCsr_keeps
    {d : Dz11} (h : d.Agrees) {v : Word} (hv : v &&& 16 = 0) :
    (d.writeWord csr v).dz11.Agrees ↔
      (d.clrPending = true → d.csrLine = 0) := by
  have hregister : (d.writeWord csr v).dz11.registers 0 =
      d.registers 0 &&& ~~~0x5078 ||| v &&& 0x5078 ||| 0 := by
    rw [writeWord, if_pos rfl]
    unfold writeCsr
    simp only [if_neg (not_not.mpr hv)]
    rfl
  have hscanner : (d.writeWord csr v).dz11.scannerLineNr =
      d.scannerLineNr := by
    rw [writeWord, if_pos rfl]
    unfold writeCsr
    simp only [if_neg (not_not.mpr hv)]
    rfl
  have hbit : v[4] = false := by
    have hand := congrArg (fun w : Word => w[4]) hv
    simpa using hand
  have hclr : (d.writeWord csr v).dz11.clrPending = false := by
    unfold clrPending
    rw [hregister, decide_eq_false_iff_not, not_not]
    ext i hi
    interval_cases i <;> simp [hbit]
  have hline : (d.writeWord csr v).dz11.csrLine = d.csrLine := by
    have hfield : (d.writeWord csr v).dz11.registers 0 >>> 8 &&& (7 : Word) =
        d.registers 0 >>> 8 &&& 7 := by
      rw [hregister]
      ext i hi
      interval_cases i <;> simp
    unfold csrLine
    simp only [hfield]
  rw [agrees_iff, hclr, hscanner, hline, if_neg Bool.false_ne_true]
  rw [agrees_iff] at h
  rw [h]
  cases d.clrPending with
  | false =>
      simp
  | true =>
      simp [eq_comm]

/-- The scanner sets both lines. -/
theorem txScannerDo_line
    (d : Dz11) (line : Line) (force : Bool) :
    (d.txScannerDo line force).dz11.scannerLineNr = line ∧
      (d.txScannerDo line force).dz11.csrLine = line ∧
      (d.txScannerDo line force).dz11.clrPending = d.clrPending := by
  have hregister : (d.txScannerDo line force).dz11.registers 0 =
      d.registers 0 &&& ~~~(0x700 : Word) ||| lineWord line <<< 8 |||
        0x8000 := rfl
  refine ⟨rfl, csrLine_eq ?_, ?_⟩
  · rw [hregister, lineWord_eq]
    ext i hi
    interval_cases i <;> simp
  · have hbit : (d.txScannerDo line force).dz11.registers 0 &&& (0x10 : Word) =
        d.registers 0 &&& 0x10 := by
      rw [hregister, lineWord_eq]
      ext i hi
      interval_cases i <;> simp
    unfold clrPending
    simp only [hbit]

theorem writeTdr_agrees
    (d : Dz11) (v : Word) :
    (d.writeWord tdr v).dz11.Agrees ↔
      (d.clrPending = true → d.csrLine = 0) := by
  have hwrite : (d.writeWord tdr v).dz11 =
      (d.txScannerDo d.csrLine false).dz11.setRegister 3 v := by
    rw [writeWord, if_neg (by decide), if_neg (by decide), if_pos rfl]
    rfl
  obtain ⟨hscanner, hline, hclr⟩ := d.txScannerDo_line d.csrLine false
  have hsame : ((d.txScannerDo d.csrLine false).dz11.setRegister 3 v).Agrees ↔
      (d.txScannerDo d.csrLine false).dz11.Agrees := agrees_congr rfl rfl
  rw [hwrite, hsame, agrees_iff, hscanner, hline, hclr]
  cases d.clrPending with
  | false =>
      simp
  | true =>
      simp

/-- A line that is not connected is passed over. -/
theorem enableLine_notConnected
    {e : Dz11Effect} {i : Line} (h : e.dz11.connected i = .notConnected) :
    (enableLine e i).dz11 = e.dz11 := by
  simp [enableLine, h]

/-- A new connection is taken up. -/
def admitted (d : Dz11) (i : Line) : Dz11 :=
  { d with connected := Function.update d.connected i .connected }

/-- The scanner goes to a line that is. -/
theorem enableLine_connected
    {e : Dz11Effect} {i : Line} (h : e.dz11.connected i ≠ .notConnected) :
    (enableLine e i).dz11.scannerLineNr = i ∧
      (enableLine e i).dz11.csrLine = i ∧
      (enableLine e i).dz11.clrPending = e.dz11.clrPending := by
  cases hstate : e.dz11.connected i with
  | notConnected =>
      exact absurd hstate h
  | pending =>
      have hscan : (enableLine e i).dz11 =
          ((e.dz11.admitted i).txScannerDo i true).dz11 := by
        simp [enableLine, admitted, hstate]
      rw [hscan]
      exact txScannerDo_line _ i true
  | connected =>
      have hscan : (enableLine e i).dz11 =
          (e.dz11.txScannerDo i true).dz11 := by
        simp [enableLine, hstate]
      rw [hscan]
      exact txScannerDo_line _ i true

theorem enableLine_states
    (e : Dz11Effect) (i j : Line) :
    (enableLine e i).dz11.connected j = .notConnected ↔
      e.dz11.connected j = .notConnected := by
  have hstates : (enableLine e i).dz11.connected =
      if e.dz11.connected i = .pending then
        Function.update e.dz11.connected i .connected
      else e.dz11.connected := by
    unfold enableLine
    dsimp only
    split_ifs <;> rfl
  rw [hstates]
  split
  · next hpending =>
      by_cases hij : j = i
      · subst hij
        rw [Function.update_self, hpending]
        decide
      · rw [Function.update_of_ne hij]
  · rfl

theorem enableLine_clr
    (e : Dz11Effect) (i : Line) :
    (enableLine e i).dz11.clrPending = e.dz11.clrPending := by
  by_cases h : e.dz11.connected i = .notConnected
  · rw [enableLine_notConnected h]
  · exact (enableLine_connected h).2.2

/-- Without a pending CLR the lines agree behind each line that is enabled. -/
theorem enableLines_agree
    (ls : List Line) {e : Dz11Effect} (hclr : e.dz11.clrPending = false)
    (h : e.dz11.scannerLineNr = e.dz11.csrLine) :
    (ls.foldl enableLine e).dz11.scannerLineNr =
        (ls.foldl enableLine e).dz11.csrLine ∧
      (ls.foldl enableLine e).dz11.clrPending = false := by
  induction ls generalizing e with
  | nil =>
      exact ⟨h, hclr⟩
  | cons i ls ih =>
      refine ih ((enableLine_clr e i).trans hclr) ?_
      by_cases hi : e.dz11.connected i = .notConnected
      · rw [enableLine_notConnected hi]
        exact h
      · obtain ⟨hscanner, hline, -⟩ := enableLine_connected hi
        rw [hscanner, hline]

/-- With a pending CLR the scanner stays at line 0 as long as no other line that
is connected is enabled. -/
theorem enableLines_zero
    {ls : List Line} (hsorted : ls.Pairwise (· < ·)) {e : Dz11Effect}
    (h : e.dz11.scannerLineNr = 0) :
    (ls.foldl enableLine e).dz11.scannerLineNr = 0 ↔
      ∀ i ∈ ls, i ≠ 0 → e.dz11.connected i = .notConnected := by
  -- Behind a line that is connected, only larger ones are to come.
  have haway : ∀ (ls : List Line) (e : Dz11Effect), (∀ i ∈ ls, i ≠ 0) →
      e.dz11.scannerLineNr ≠ 0 →
      (ls.foldl enableLine e).dz11.scannerLineNr ≠ 0 := by
    intro ls
    induction ls with
    | nil =>
        exact fun e _ he => he
    | cons i ls ih =>
        intro e hls he
        refine ih _ (fun j hj => hls j (List.mem_cons_of_mem _ hj)) ?_
        by_cases hi : e.dz11.connected i = .notConnected
        · rw [enableLine_notConnected hi]
          exact he
        · rw [(enableLine_connected hi).1]
          exact hls i List.mem_cons_self
  induction ls generalizing e with
  | nil =>
      exact iff_of_true h nofun
  | cons i ls ih =>
      obtain ⟨hfirst, hrest⟩ := List.pairwise_cons.mp hsorted
      rw [List.foldl_cons, List.forall_mem_cons]
      by_cases hi : i ≠ 0 ∧ e.dz11.connected i ≠ .notConnected
      · refine iff_of_false ?_ fun hall => hi.2 (hall.1 hi.1)
        refine haway ls _ (fun j hj => ?_) ?_
        · exact Fin.ne_of_gt (Fin.lt_of_le_of_lt (Fin.zero_le i) (hfirst j hj))
        · rw [(enableLine_connected hi.2).1]
          exact hi.1
      · have hzero : (enableLine e i).dz11.scannerLineNr = 0 := by
          by_cases hstate : e.dz11.connected i = .notConnected
          · rw [enableLine_notConnected hstate]
            exact h
          · rw [(enableLine_connected hstate).1]
            exact not_not.mp fun hne => hi ⟨hne, hstate⟩
        have hskip : i ≠ 0 → e.dz11.connected i = .notConnected :=
          fun hne => not_not.mp fun hstate => hi ⟨hne, hstate⟩
        refine (ih hrest hzero).trans ?_
        rw [and_iff_right hskip]
        simp only [enableLine_states]

theorem writeTcr_agrees
    {d : Dz11} (h : d.Agrees) (v : Word) :
    (d.writeWord tcr v).dz11.Agrees ↔ d.KeepsLine (.writeTcr v) := by
  have hwrite : (d.writeWord tcr v).dz11 =
      ((lines.filter fun i => v &&& (1 : Word) <<< i.val ≠ 0).foldl enableLine
        ⟨d, [], []⟩).dz11.setRegister 2 v := by
    rw [writeWord, if_neg (by decide), if_neg (by decide), if_neg (by decide),
      if_pos rfl]
    rfl
  rw [hwrite]
  have hsorted : (lines.filter fun i =>
      decide (v &&& (1 : Word) <<< i.val ≠ 0)).Pairwise (· < ·) :=
    (List.pairwise_lt_finRange 8).filter _
  have hmem : ∀ i, i ∈ (lines.filter fun i =>
      decide (v &&& (1 : Word) <<< i.val ≠ 0)) ↔
        v &&& (1 : Word) <<< i.val ≠ 0 := by
    intro i
    rw [List.mem_filter, decide_eq_true_eq]
    exact and_iff_right (List.mem_finRange i)
  generalize (lines.filter fun i =>
    decide (v &&& (1 : Word) <<< i.val ≠ 0)) = ls at hsorted hmem ⊢
  have hsame : ((ls.foldl enableLine ⟨d, [], []⟩).dz11.setRegister 2 v).Agrees ↔
      (ls.foldl enableLine ⟨d, [], []⟩).dz11.Agrees := agrees_congr rfl rfl
  have hclr : (ls.foldl enableLine ⟨d, [], []⟩).dz11.clrPending =
      d.clrPending := by
    have hkeep : ∀ (ls : List Line) (e : Dz11Effect),
        (ls.foldl enableLine e).dz11.clrPending = e.dz11.clrPending := by
      intro ls
      induction ls with
      | nil =>
          exact fun _ => rfl
      | cons i ls ih =>
          exact fun e => (ih _).trans (enableLine_clr e i)
    exact hkeep ls ⟨d, [], []⟩
  rw [hsame, agrees_iff, hclr]
  rw [agrees_iff] at h
  change _ ↔ (d.clrPending = true → ∀ i : Line, i ≠ 0 →
    v &&& (1 : Word) <<< i.val ≠ 0 → d.connected i = .notConnected)
  cases hpending : d.clrPending with
  | false =>
      rw [hpending, if_neg Bool.false_ne_true] at h
      obtain ⟨hlines, -⟩ :=
        enableLines_agree ls (e := ⟨d, [], []⟩) hpending h
      rw [if_neg Bool.false_ne_true]
      exact iff_of_true hlines nofun
  | true =>
      rw [hpending, if_pos rfl] at h
      rw [if_pos rfl, enableLines_zero hsorted (e := ⟨d, [], []⟩) h]
      constructor
      · intro hall _ i hi hv
        exact hall i ((hmem i).mpr hv) hi
      · intro hall i hi hne
        exact hall rfl i hne ((hmem i).mp hi)

/-- The operations that leave the lines in agreement. -/
theorem agrees_step_iff
    (d : Dz11) (e : DzEvent) (h : d.Agrees) :
    (d.after e).Agrees ↔ d.KeepsLine e := by
  cases e with
  | poll line isConnected data =>
      obtain ⟨hregister, hscanner⟩ := d.poll_line line isConnected data
      exact iff_of_true ((agrees_congr hregister hscanner).mpr h) trivial
  | readCsr =>
      exact iff_of_true (readCsr_agrees h) trivial
  | readRbuf =>
      obtain ⟨hregister, hscanner⟩ := d.readRbuf_line
      exact iff_of_true ((agrees_congr hregister hscanner).mpr h) trivial
  | readTcr =>
      exact iff_of_true h trivial
  | readMsr =>
      have hsame : (d.after .readMsr).Agrees ↔ d.Agrees := agrees_congr rfl rfl
      exact iff_of_true (hsame.mpr h) trivial
  | writeCsr v =>
      change _ ↔ if v &&& 16 ≠ 0 then d.scannerLineNr = 0
        else d.clrPending = true → d.csrLine = 0
      split
      · next hv =>
          exact d.writeCsr_clears hv
      · next hv =>
          exact writeCsr_keeps h (not_not.mp hv)
  | writeLpr v =>
      have hsame : (d.after (.writeLpr v)).Agrees ↔ d.Agrees :=
        agrees_congr rfl rfl
      exact iff_of_true (hsame.mpr h) trivial
  | writeTcr v =>
      exact writeTcr_agrees h v
  | writeTdr v =>
      exact d.writeTdr_agrees v
  | reset hard =>
      cases hard with
      | false =>
          exact iff_of_true h nofun
      | true =>
          have hzero : (d.reset true).Agrees ↔
              (d.reset true).scannerLineNr = 0 := agrees_of_zero rfl
          exact hzero.trans ⟨fun hscanner _ => hscanner, fun hall => hall rfl⟩
  | restore =>
      have hrestored : (constructed d.registers).Agrees ↔
          (0 : Line) = if d.clrPending then 0 else d.csrLine :=
        agrees_iff (constructed d.registers)
      refine hrestored.trans ?_
      change _ ↔ (d.clrPending = true ∨ d.csrLine = 0)
      cases d.clrPending with
      | false =>
          simp [eq_comm]
      | true =>
          simp

end Steps

section Runs

theorem constructed_agrees :
    (constructed fun _ => 0).Agrees := by
  rw [agrees_of_zero rfl]
  rfl

/-- In all states of a run CSR shows the line that TDR sends to if and only if
each operation leaves the two lines in agreement. -/
theorem lines_agree_iff
    (events : List DzEvent) :
    Throughout after Agrees (constructed fun _ => 0) events ↔
      EachStep after KeepsLine (constructed fun _ => 0) events :=
  throughout_iff agrees_step_iff constructed_agrees events

/-- A terminal on line 3 is enabled.  Behind a bus reset, and behind a restored
snapshot as well, CSR shows another line than TDR sends to. -/
theorem lines_disagree :
    ¬ Throughout after Agrees (constructed fun _ => 0)
        [.poll 3 true [], .writeTcr 8, .reset true] ∧
      ¬ Throughout after Agrees (constructed fun _ => 0)
        [.poll 3 true [], .writeTcr 8, .restore] := by
  constructor
  · rintro ⟨-, -, -, h⟩
    exact absurd (h 65) (by decide)
  · rintro ⟨-, -, -, h⟩
    exact absurd (h 65) (by decide)

end Runs

end Dz11

end KekPdp11
