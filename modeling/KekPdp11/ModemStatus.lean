import KekPdp11.TransmitLine

/-!
# KEK PDP-11: the modem status of the DZ11

MSR shows the lines that are connected and, in its low byte, those that have
become so since it was last read.  The low byte is kept in the register that
TDR is written to.

What MSR should show is kept beside the device, from what the poller has seen
and from the reads (`LinesSeen`).

* `showsLines_iff`: what MSR shows, bit by bit.
* `showsLines_step_iff`: which acts keep it right.
* `modem_status_iff`: the run.
-/

namespace KekPdp11

open Runs

/-- The registers of the device, by what they are when they are read. -/
inductive DzRegister where
  | csr
  | rbuf
  | tcr
  | msr
deriving DecidableEq

def DzRegister.addr : DzRegister → Word
  | .csr => Dz11.csr
  | .rbuf => Dz11.rbuf
  | .tcr => Dz11.tcr
  | .msr => Dz11.msr

/-- The address of one of its bytes. -/
def DzRegister.byteAddr (r : DzRegister) (high : Bool) : Word :=
  if high then r.addr + 1 else r.addr

/-- A round of the poller for one line. -/
structure PollerRound where
  line : Line
  isConnected : Bool
  data : List Byte

/-- A round of the poller or an access of the guest.  The rounds that come
between the two halves of a byte write are part of it. -/
inductive DzAccess where
  | poll (p : PollerRound)
  | readWord (r : DzRegister)
  | readByte (r : DzRegister) (high : Bool)
  | writeWord (r : DzRegister) (v : Word)
  | writeByte (r : DzRegister) (high : Bool) (v : Byte)
      (between : List PollerRound)

/-- What the poller has last seen of the lines, and which of them have become
connected since the last read of MSR and still are. -/
structure LinesSeen where
  connected : Line → Bool
  rung : Line → Bool
  connected_of_rung : ∀ i, rung i = true → connected i = true

namespace LinesSeen

/-- No line has been seen connected. -/
def none : LinesSeen where
  connected _ := false
  rung _ := false
  connected_of_rung := nofun

def poll (g : LinesSeen) (p : PollerRound) : LinesSeen where
  connected := Function.update g.connected p.line p.isConnected
  rung := Function.update g.rung p.line
    (p.isConnected && (g.rung p.line || !g.connected p.line))
  connected_of_rung i h := by
    by_cases hline : i = p.line
    · subst hline
      rw [Function.update_self] at h ⊢
      exact (Bool.and_eq_true_iff.mp h).1
    · rw [Function.update_of_ne hline] at h ⊢
      exact g.connected_of_rung i h

def read (g : LinesSeen) (r : DzRegister) : LinesSeen :=
  if r = .msr then
    { g with rung := fun _ => false, connected_of_rung := nofun }
  else
    g

def rounds (g : LinesSeen) (ps : List PollerRound) : LinesSeen :=
  ps.foldl poll g

/-- No line has become connected. -/
def Quiet (g : LinesSeen) : Prop :=
  ∀ i, g.rung i = false

def after (g : LinesSeen) : DzAccess → LinesSeen
  | .poll p => g.poll p
  | .readWord r => g.read r
  | .readByte r _ => g.read r
  | .writeWord _ _ => g
  | .writeByte _ _ _ between => g.rounds between

end LinesSeen

namespace Dz11

def round (d : Dz11) (p : PollerRound) : Dz11 :=
  (d.poll p.line p.isConnected p.data).dz11

def rounds (d : Dz11) (ps : List PollerRound) : Dz11 :=
  ps.foldl round d

/-- The state after an access. -/
def accessed (d : Dz11) : DzAccess → Dz11
  | .poll p => d.round p
  | .readWord r => (d.readWord r.addr).2
  | .readByte r high => (d.readByte (r.byteAddr high)).2
  | .writeWord r v => (d.writeWord r.addr v).dz11
  | .writeByte r high v between =>
      ((d.rounds between).storeByte
        (d.registers (regNr (r.byteAddr high))) (r.byteAddr high) v).dz11

/-- The device and what it should show. -/
abbrev Watched := Dz11 × LinesSeen

def watchedStep (s : Watched) (a : DzAccess) : Watched :=
  (s.1.accessed a, s.2.after a)

/-- A value of MSR shows the lines. -/
def ShowsLines (g : LinesSeen) (w : Word) : Prop :=
  ∀ i : Line, w.getLsbD i.val = g.rung i ∧
    w.getLsbD (8 + i.val) = g.connected i

/-- A read of MSR would show the lines. -/
def StatusShown (s : Watched) : Prop :=
  ShowsLines s.2 (s.1.readWord msr).1

/-- A word written to a register leaves what MSR shows. -/
def SparesStatus (g : LinesSeen) (v : Word) : DzRegister → Prop
  | .csr => v &&& 16 ≠ 0 → g.Quiet
  | .msr => ∀ i : Line, v.getLsbD i.val = g.rung i
  | _ => True

/-- An access leaves what MSR shows. -/
def KeepsStatus (s : Watched) : DzAccess → Prop
  | .poll _ => True
  | .readWord r => r = .csr → s.1.clrPending = true → s.2.Quiet
  | .readByte r _ => r = .csr → s.1.clrPending = true → s.2.Quiet
  | .writeWord r v => SparesStatus s.2 v r
  | .writeByte r high v between =>
      SparesStatus (s.2.rounds between)
        (composed (s.1.registers (regNr (r.byteAddr high)))
          (r.byteAddr high) v) r

section Showing

theorem getLsbD_mask
    (n : Nat) {j : Nat} (hj : j < 16) :
    ((1 : Word) <<< n).getLsbD j = decide (j = n) := by
  have hpow : (1 : Word) <<< n = BitVec.twoPow 16 n := rfl
  rw [hpow, BitVec.getLsbD_twoPow]
  by_cases h : n = j <;> simp [h, hj, eq_comm]

/-- The carrier bits, put together line by line. -/
theorem getLsbD_carriers
    (d : Dz11) (ls : List Line) (w : Word) {j : Nat} (hj : j < 16) :
    (ls.foldl (fun v i =>
      if d.connected i ≠ .notConnected then v ||| (1 : Word) <<< (8 + i.val)
      else v) w).getLsbD j =
      (w.getLsbD j || ls.any fun i =>
        decide (d.connected i ≠ .notConnected) && decide (j = 8 + i.val)) := by
  induction ls generalizing w with
  | nil =>
      simp
  | cons i ls ih =>
      rw [List.foldl_cons, ih, List.any_cons, ← Bool.or_assoc]
      congr 1
      split
      · next h =>
          rw [BitVec.getLsbD_or, getLsbD_mask _ hj, decide_eq_true h,
            Bool.true_and]
      · next h =>
          rw [decide_eq_false h, Bool.false_and, Bool.or_false]

theorem readWord_msr
    (d : Dz11) :
    d.readWord msr = d.readMsr := by
  rw [readWord, if_neg (by decide), if_neg (by decide), if_neg (by decide),
    if_pos rfl]

theorem getLsbD_ring
    (d : Dz11) (i : Line) :
    (d.readWord msr).1.getLsbD i.val = (d.registers 3).getLsbD i.val := by
  have hlow : ((0x00ff : Word)).getLsbD i.val = true := by
    revert i
    decide
  rw [readWord_msr]
  unfold readMsr
  dsimp only
  rw [getLsbD_carriers d lines _ (by omega), BitVec.getLsbD_and, hlow,
    Bool.and_true]
  have hnone : (lines.any fun k =>
      decide (d.connected k ≠ .notConnected) && decide (i.val = 8 + k.val)) =
        false := by
    rw [List.any_eq_false]
    intro k _ hk
    rw [Bool.and_eq_true, decide_eq_true_eq, decide_eq_true_eq] at hk
    omega
  rw [hnone, Bool.or_false]

theorem getLsbD_carrier
    (d : Dz11) (i : Line) :
    (d.readWord msr).1.getLsbD (8 + i.val) =
      decide (d.connected i ≠ .notConnected) := by
  have hhigh : ((0x00ff : Word)).getLsbD (8 + i.val) = false := by
    revert i
    decide
  rw [readWord_msr]
  unfold readMsr
  dsimp only
  rw [getLsbD_carriers d lines _ (by omega), BitVec.getLsbD_and, hhigh,
    Bool.and_false, Bool.false_or]
  cases hi : decide (d.connected i ≠ .notConnected) with
  | false =>
      rw [List.any_eq_false]
      intro k _ hk
      rw [Bool.and_eq_true, decide_eq_true_eq (p := 8 + i.val = _)] at hk
      have hki : k = i := Fin.ext (by omega)
      rw [hki, hi] at hk
      cases hk.1
  | true =>
      rw [List.any_eq_true]
      exact ⟨i, List.mem_finRange i, by rw [hi]; simp⟩

/-- What MSR shows is right when register 3 has the lines that have become
connected in its low byte, and the states of the lines are what was seen. -/
theorem statusShown_iff
    (s : Watched) :
    StatusShown s ↔ ∀ i : Line,
      (s.1.registers 3).getLsbD i.val = s.2.rung i ∧
        decide (s.1.connected i ≠ .notConnected) = s.2.connected i := by
  unfold StatusShown ShowsLines
  simp only [getLsbD_ring, getLsbD_carrier]

end Showing

section Steps

variable {d d' : Dz11} {g : LinesSeen}

theorem statusShown_congr
    (hregister : d'.registers 3 = d.registers 3)
    (hstates : ∀ i, d'.connected i = .notConnected ↔
      d.connected i = .notConnected) :
    StatusShown (d', g) ↔ StatusShown (d, g) := by
  rw [statusShown_iff, statusShown_iff]
  dsimp only
  simp only [hregister, ne_eq, hstates]

/-- A register 3 that is stored to shows what is stored. -/
theorem statusShown_stored
    {w : Word} (hregister : d'.registers 3 = w)
    (hstates : ∀ i, d'.connected i = .notConnected ↔
      d.connected i = .notConnected)
    (h : StatusShown (d, g)) :
    StatusShown (d', g) ↔ ∀ i : Line, w.getLsbD i.val = g.rung i := by
  rw [statusShown_iff] at h ⊢
  dsimp only at h ⊢
  simp only [hregister, ne_eq, hstates]
  constructor
  · intro hall i
    exact (hall i).1
  · intro hall i
    exact ⟨hall i, (h i).2⟩

theorem statusShown_cleared
    (hregister : d'.registers 3 = 0)
    (hstates : ∀ i, d'.connected i = .notConnected ↔
      d.connected i = .notConnected)
    (h : StatusShown (d, g)) :
    StatusShown (d', g) ↔ g.Quiet := by
  rw [statusShown_stored hregister hstates h]
  unfold LinesSeen.Quiet
  have hzero : ∀ i, (0 : Word).getLsbD i = false := fun _ =>
    BitVec.getLsbD_zero
  simp only [hzero, eq_comm]

/-- A round of the poller shows what it has seen. -/
theorem round_statusShown
    (h : StatusShown (d, g)) (p : PollerRound) :
    StatusShown (d.round p, g.poll p) := by
  rw [statusShown_iff] at h ⊢
  dsimp only at h ⊢
  obtain ⟨line, isConnected, data⟩ := p
  intro i
  obtain ⟨hring, hcarrier⟩ := h i
  obtain ⟨hring', hcarrier'⟩ := h line
  have hsame : (d.round ⟨line, isConnected, data⟩).registers 3 =
      (if isConnected ≠ decide (d.connected line ≠ .notConnected) then
        d.changeConnection line isConnected else d).registers 3 := rfl
  have hstates : (d.round ⟨line, isConnected, data⟩).connected =
      (if isConnected ≠ decide (d.connected line ≠ .notConnected) then
        d.changeConnection line isConnected else d).connected := rfl
  rw [hsame, hstates, hcarrier']
  have hi : i.val < 16 := by omega
  have hmask : (((1 : Word) <<< line.val) |||
      ((1 : Word) <<< (line.val + 8))).getLsbD i.val = decide (i = line) := by
    rw [BitVec.getLsbD_or, getLsbD_mask _ hi, getLsbD_mask _ hi,
      decide_eq_false (show ¬ i.val = line.val + 8 by omega), Bool.or_false]
    exact decide_eq_decide.mpr (Fin.ext_iff).symm
  unfold LinesSeen.poll
  dsimp only
  by_cases hchange : isConnected ≠ g.connected line
  · rw [if_pos hchange]
    cases isConnected with
    | true =>
        have hbefore : g.connected line = false := by
          cases hg : g.connected line with
          | false =>
              rfl
          | true =>
              exact absurd hg.symm hchange
        have hregister : (d.changeConnection line true).registers 3 =
            d.registers 3 ||| (((1 : Word) <<< line.val) |||
              ((1 : Word) <<< (line.val + 8))) := rfl
        have hconnected : (d.changeConnection line true).connected =
            Function.update d.connected line .pending := rfl
        rw [hregister, hconnected, BitVec.getLsbD_or, hmask, hring]
        by_cases hline : i = line
        · subst hline
          simp [hbefore]
        · simp [hline, hcarrier]
    | false =>
        have hregister : (d.changeConnection line false).registers 3 =
            d.registers 3 &&& ~~~(((1 : Word) <<< line.val) |||
              ((1 : Word) <<< (line.val + 8))) := rfl
        have hconnected : (d.changeConnection line false).connected =
            Function.update d.connected line .notConnected := rfl
        rw [hregister, hconnected, BitVec.getLsbD_and, BitVec.getLsbD_not,
          hmask, hring]
        by_cases hline : i = line
        · subst hline
          simp
        · simp [hline, hcarrier, hi]
  · rw [if_neg hchange]
    obtain rfl := not_not.mp hchange
    rw [hring, hcarrier]
    by_cases hline : i = line
    · subst hline
      have hkeep : (g.connected i && (g.rung i || !g.connected i)) =
          g.rung i := by
        cases hg : g.rung i with
        | false =>
            simp
        | true =>
            rw [g.connected_of_rung i hg]
            rfl
      rw [Function.update_self, Function.update_self, hkeep]
      exact ⟨rfl, rfl⟩
    · simp [hline]

theorem rounds_statusShown
    (h : StatusShown (d, g)) (ps : List PollerRound) :
    StatusShown (d.rounds ps, g.rounds ps) := by
  induction ps generalizing d g with
  | nil =>
      exact h
  | cons p ps ih =>
      exact ih (round_statusShown h p)

theorem readCsr_status
    (d : Dz11) :
    (d.readWord csr).2.registers 3 =
        (if d.clrPending then 0 else d.registers 3) ∧
      (d.readWord csr).2.connected = d.connected := by
  rw [readWord, if_pos rfl]
  unfold readCsr clrPending
  dsimp only
  simp only [decide_eq_true_eq]
  split
  · exact ⟨rfl, rfl⟩
  · exact ⟨rfl, rfl⟩

theorem readWord_statusShown
    (h : StatusShown (d, g)) (r : DzRegister) :
    StatusShown ((d.readWord r.addr).2, g.read r) ↔
      (r = .csr → d.clrPending = true → g.Quiet) := by
  cases r with
  | csr =>
      obtain ⟨hregister, hstates⟩ := d.readCsr_status
      change StatusShown ((d.readWord csr).2, g) ↔ _
      split at hregister
      · next hclr =>
          rw [statusShown_cleared hregister (fun i => by rw [hstates]) h]
          exact ⟨fun hquiet _ _ => hquiet, fun hall => hall rfl hclr⟩
      · next hclr =>
          rw [statusShown_congr hregister fun i => by rw [hstates]]
          exact iff_of_true h fun _ hpending => absurd hpending hclr
  | rbuf =>
      refine iff_of_true ?_ nofun
      change StatusShown ((d.readWord rbuf).2, g)
      rw [readWord_rbuf, readRbuf_eq]
      split
      · exact h
      · exact (statusShown_congr (d := d) rfl fun _ => Iff.rfl).mpr h
  | tcr =>
      exact iff_of_true h nofun
  | msr =>
      refine iff_of_true ?_ nofun
      change StatusShown ((d.readWord msr).2, g.read .msr)
      rw [statusShown_iff] at h ⊢
      intro i
      have hregister : (d.readWord msr).2.registers 3 =
          d.registers 3 &&& 0xff00 := by
        rw [readWord_msr]
        rfl
      have hlow : (0xff00 : Word).getLsbD i.val = false := by
        revert i
        decide
      refine ⟨?_, ?_⟩
      · dsimp only
        rw [hregister, BitVec.getLsbD_and, hlow, Bool.and_false]
        rfl
      · dsimp only
        rw [readWord_msr]
        exact (h i).2

theorem writeCsr_status
    (d : Dz11) (v : Word) :
    (d.writeWord csr v).dz11.registers 3 =
        (if v &&& 16 ≠ 0 then 0 else d.registers 3) ∧
      (d.writeWord csr v).dz11.connected = d.connected := by
  rw [writeWord, if_pos rfl]
  unfold writeCsr
  dsimp only
  split
  · exact ⟨rfl, rfl⟩
  · exact ⟨rfl, rfl⟩

theorem enableLine_status
    (ls : List Line) (e : Dz11Effect) :
    (ls.foldl enableLine e).dz11.registers 3 = e.dz11.registers 3 ∧
      ∀ j, (ls.foldl enableLine e).dz11.connected j = .notConnected ↔
        e.dz11.connected j = .notConnected := by
  induction ls generalizing e with
  | nil =>
      exact ⟨rfl, fun _ => Iff.rfl⟩
  | cons i ls ih =>
      obtain ⟨hregister, hstates⟩ := ih (enableLine e i)
      have hfirst : (enableLine e i).dz11.registers 3 =
          e.dz11.registers 3 := by
        unfold enableLine
        dsimp only
        split_ifs <;> rfl
      exact ⟨hregister.trans hfirst, fun j =>
        (hstates j).trans (enableLine_states e i j)⟩

theorem writeWord_statusShown
    (h : StatusShown (d, g)) (r : DzRegister) (v : Word) :
    StatusShown ((d.writeWord r.addr v).dz11, g) ↔ SparesStatus g v r := by
  cases r with
  | csr =>
      obtain ⟨hregister, hstates⟩ := d.writeCsr_status v
      change StatusShown ((d.writeWord csr v).dz11, g) ↔
        (v &&& 16 ≠ 0 → g.Quiet)
      split at hregister
      · next hclr =>
          rw [statusShown_cleared hregister (fun i => by rw [hstates]) h]
          exact ⟨fun hquiet _ => hquiet, fun hall => hall hclr⟩
      · next hclr =>
          rw [statusShown_congr hregister fun i => by rw [hstates]]
          exact iff_of_true h fun hset => absurd hset hclr
  | rbuf =>
      have hsame : StatusShown ((d.writeWord lpr v).dz11, g) ↔
          StatusShown (d, g) :=
        statusShown_congr rfl fun _ => Iff.rfl
      exact iff_of_true (hsame.mpr h) trivial
  | tcr =>
      obtain ⟨hregister, hstates⟩ := enableLine_status
        (lines.filter fun i => v &&& (1 : Word) <<< i.val ≠ 0) ⟨d, [], []⟩
      have hsame : StatusShown ((d.writeWord tcr v).dz11, g) ↔
          StatusShown (d, g) := statusShown_congr hregister hstates
      exact iff_of_true (hsame.mpr h) trivial
  | msr =>
      have hregister : (d.writeWord tdr v).dz11.registers 3 = v := rfl
      have hstates : ∀ i, (d.writeWord tdr v).dz11.connected i =
          .notConnected ↔ d.connected i = .notConnected := fun _ => Iff.rfl
      exact statusShown_stored hregister hstates h

theorem byteAddr_word
    (r : DzRegister) (high : Bool) :
    r.byteAddr high &&& ~~~1 = r.addr := by
  cases r <;> cases high <;> rfl

/-- The accesses that leave MSR right. -/
theorem statusShown_step_iff
    (s : Watched) (a : DzAccess) (h : StatusShown s) :
    StatusShown (watchedStep s a) ↔ KeepsStatus s a := by
  obtain ⟨d, g⟩ := s
  cases a with
  | poll p =>
      exact iff_of_true (round_statusShown h p) trivial
  | readWord r =>
      exact readWord_statusShown h r
  | readByte r high =>
      have hread : (d.readByte (r.byteAddr high)).2 =
          (d.readWord r.addr).2 := by
        unfold readByte
        rw [byteAddr_word]
      change StatusShown ((d.readByte (r.byteAddr high)).2, g.read r) ↔ _
      rw [hread]
      exact readWord_statusShown h r
  | writeWord r v =>
      exact writeWord_statusShown h r v
  | writeByte r high v between =>
      have hstore : ∀ w, ((d.rounds between).storeByte w
          (r.byteAddr high) v).dz11 =
            ((d.rounds between).writeWord r.addr
              (composed w (r.byteAddr high) v)).dz11 := by
        intro w
        unfold storeByte
        rw [byteAddr_word]
      change StatusShown (((d.rounds between).storeByte _
        (r.byteAddr high) v).dz11, g.rounds between) ↔ _
      rw [hstore]
      exact writeWord_statusShown (rounds_statusShown h between) r _

end Steps

section Runs

theorem constructed_statusShown :
    StatusShown (constructed fun _ => 0, LinesSeen.none) := by
  rw [statusShown_iff]
  intro i
  exact ⟨BitVec.getLsbD_zero, rfl⟩

/-- In all states of a run MSR shows the lines if and only if each access leaves
it right: CLR is written, and a pending one shown, when no line has become
connected; and the low byte that a write of TDR stores is the one of MSR. -/
theorem modem_status_iff
    (accesses : List DzAccess) :
    Throughout watchedStep StatusShown
        (constructed fun _ => 0, LinesSeen.none) accesses ↔
      EachStep watchedStep KeepsStatus
        (constructed fun _ => 0, LinesSeen.none) accesses :=
  throughout_iff statusShown_step_iff constructed_statusShown accesses

/-- A character that is sent appears as ringing lines, and a line that has become
connected is forgotten when CLR is written. -/
theorem modem_status_disturbed :
    ¬ Throughout watchedStep StatusShown
        (constructed fun _ => 0, LinesSeen.none) [.writeWord .msr 0x41] ∧
      ¬ Throughout watchedStep StatusShown
        (constructed fun _ => 0, LinesSeen.none)
        [.poll ⟨2, true, []⟩, .writeWord .csr 0x10] := by
  constructor
  · rintro ⟨-, h⟩
    exact absurd (h 0).1 (by decide)
  · rintro ⟨-, -, h⟩
    exact absurd (h 2).1 (by decide)

end Runs

end Dz11

end KekPdp11
