import KekPdp11.Lib.Prefixes
import KekPdp11.ReceiveInterrupts

/-!
# KEK PDP-11: input of the DC11

The poller puts received bytes into the buffer of a line, and reads of RBUF take
them out.  DONE in RCSR is to tell whether the buffer holds a byte, and a word
read of RBUF is to give the oldest byte as a value below 256.

**When they do.**  DONE is a bit of a register of its own, which the poller
sets and no read clears: it is wrong after the read of the last byte, and after
a write to RCSR that does not repeat it.  The bytes are of a signed type, so
that those from 128 on are read with the upper half set.
-/

namespace KekPdp11

namespace Dc11Unit

/-- DONE in a value of RCSR. -/
def done (v : Word) : Bool :=
  v.getLsbD 7

/-- The bytes that are received on a line. -/
def received (line : DcLine) (acts : List DcAct) : List Byte :=
  acts.flatMap fun
    | .poll line' _ data => if line' = line then data else []
    | _ => []

/-- An access that reads the data register of a line. -/
def ReadsData (line : DcLine) (a : DcAddress) : Prop :=
  a.lineNr = line ∧ a.subReg = .rbuf

instance (line : DcLine) (a : DcAddress) : Decidable (ReadsData line a) :=
  inferInstanceAs (Decidable (_ ∧ _))

/-- The values of the reads of RBUF of a line while input is available, with
the width of the access. -/
def dataReads (line : DcLine) : Dc11Unit → List DcAct → List (WordMode × Word)
  | _, [] => []
  | d, .read a wordMode isConnected :: acts =>
      (if ReadsData line a ∧ d.recvBuffers line ≠ [] then
        [(wordMode, (d.readWord a isConnected).1)]
      else
        []) ++ dataReads line (d.step (.read a wordMode isConnected)) acts
  | d, a :: acts => dataReads line (d.step a) acts

/-- A read gives a byte; a word read gives it as a value below 256. -/
def Gives (read : WordMode × Word) (c : Byte) : Prop :=
  read.1 = .wmWord → read.2 = c.setWidth 16

/-- The status and the data of a line are right in the state after a run. -/
structure Faithful (line : DcLine) (d : Dc11Unit) (acts : List DcAct) : Prop where
  /-- DONE is set if and only if unread input is buffered. -/
  status : ∀ a isConnected, a.lineNr = line → a.subReg = .rcsr →
    (done ((d.run acts).readWord a isConnected).1 = true ↔
      (d.run acts).recvBuffers line ≠ [])
  /-- The reads give the first received bytes, each one once. -/
  data : (dataReads line d acts).length ≤ (received line acts).length ∧
    List.Forall₂ Gives (dataReads line d acts)
      ((received line acts).take (dataReads line d acts).length)

/-- No read takes the last byte, no word read takes a byte from 128 on, and
DONE is written as it is. -/
def KeepsInput (line : DcLine) (d : Dc11Unit) : DcAct → Prop
  | .poll _ _ _ => True
  | .read a wordMode _ =>
      ReadsData line a → ∀ c rest, d.recvBuffers line = c :: rest →
        rest ≠ [] ∧ (wordMode = .wmWord → c.msb = false)
  | .write a v =>
      a.lineNr = line → a.subReg = .rcsr →
        (done v = true ↔ d.recvBuffers line ≠ [])

section Status

variable (d : Dc11Unit) (line : DcLine)

/-- A read of RCSR shows DONE as the register has it. -/
theorem done_readRcsr :
    done (d.readRcsr line).1 = done (d.registers line .rcsr) := by
  unfold readRcsr done
  dsimp only
  split <;> simp

theorem done_readWord
    {a : DcAddress} (isConnected : Bool)
    (hline : a.lineNr = line) (hsub : a.subReg = .rcsr) :
    done (d.readWord a isConnected).1 = done (d.registers line .rcsr) := by
  rw [readWord, hsub, ← hline]
  exact d.done_readRcsr a.lineNr

theorem done_setRcsr
    (line' : DcLine) (v : Word) :
    done ((d.setRegister line' .rcsr v).registers line .rcsr) =
      if line' = line then done v else done (d.registers line .rcsr) := by
  split
  · rename_i hline
    rw [hline, setRegister_self]
  · rename_i hline
    rw [d.setRegister_of_line _ _ _ (Ne.symm hline)]

/-- Flags that do not touch DONE. -/
theorem done_or_setRcsr
    (line' : DcLine) {flags : Word} (h : done flags = false) :
    done ((d.setRegister line' .rcsr
      (d.registers line' .rcsr ||| flags)).registers line .rcsr) =
      done (d.registers line .rcsr) := by
  rw [done_setRcsr]
  split
  · rename_i hline
    rw [← hline]
    unfold done at h ⊢
    rw [BitVec.getLsbD_or, h, Bool.or_false]
  · rfl

theorem done_set_setRcsr
    (line' : DcLine) :
    done ((d.setRegister line' .rcsr
      (d.registers line' .rcsr ||| 128)).registers line .rcsr) =
      (decide (line' = line) || done (d.registers line .rcsr)) := by
  rw [done_setRcsr]
  split
  · rename_i hline
    simp [done, hline]
  · rename_i hline
    simp [hline]

/-- A round of the poller sets DONE if something arrives. -/
theorem done_poll
    (line' : DcLine) (isConnected : Bool) (data : List Byte) :
    done ((d.poll line' isConnected data).dc11.registers line .rcsr) =
      (decide (line' = line ∧ data ≠ []) || done (d.registers line .rcsr)) := by
  unfold poll
  dsimp only
  generalize hvalue :
    (if isConnected = true then (0o160000 : Word) else 0o120000) = flags
  have hflags : done flags = false := by
    rw [← hvalue]
    split <;> rfl
  have hchange := d.done_or_setRcsr line line' hflags
  by_cases hchanged : decide (isConnected ≠ d.connected line') = true
  · rw [if_pos hchanged]
    by_cases hdata : data = []
    · rw [if_pos hdata]
      simpa [hdata] using hchange
    · rw [if_neg hdata]
      refine (done_set_setRcsr _ line line').trans ?_
      refine (congrArg (decide (line' = line) || ·) hchange).trans ?_
      simp [hdata]
  · rw [if_neg hchanged]
    by_cases hdata : data = []
    · rw [if_pos hdata]
      simp [hdata]
    · rw [if_neg hdata]
      refine (done_set_setRcsr _ line line').trans ?_
      simp [hdata]

/-- A read of RBUF sets DONE if it leaves a byte; it never clears it. -/
theorem done_readRbuf
    (line' : DcLine) :
    done ((d.readRbuf line').2.dc11.registers line .rcsr) =
      (decide (line' = line ∧ (d.recvBuffers line').tail ≠ []) ||
        done (d.registers line .rcsr)) := by
  unfold readRbuf
  split
  · rename_i hempty
    simp [hempty]
  · rename_i c rest hbuffer
    have hstatus : ∀ p : Bool,
        done ((d.setRegister line' .rcsr
          ((d.registers line' .rcsr &&& ~~~(1#16 <<< 5)) |||
            ((BitVec.ofBool p).setWidth 16 <<< 5))).registers line .rcsr) =
        done (d.registers line .rcsr) := by
      intro p
      rw [done_setRcsr]
      split
      · rename_i hline
        rw [← hline]
        cases p <;> simp [done]
      · rfl
    dsimp only
    rw [hbuffer, List.tail_cons]
    by_cases hrest : rest = []
    · rw [if_pos hrest]
      simpa [hrest] using hstatus _
    · rw [if_neg hrest]
      refine (done_set_setRcsr _ line line').trans ?_
      refine (congrArg (decide (line' = line) || ·) (hstatus _)).trans ?_
      simp [hrest]

theorem done_readRcsr_after
    (line' : DcLine) :
    done ((d.readRcsr line').2.registers line .rcsr) =
      done (d.registers line .rcsr) := by
  unfold readRcsr
  dsimp only
  rw [done_setRcsr]
  split
  · rename_i hline
    rw [← hline]
    split <;> simp [done]
  · rfl

/-- Only a read of the data changes DONE. -/
theorem done_readWord_after
    (a : DcAddress) (isConnected : Bool) :
    done ((d.readWord a isConnected).2.dc11.registers line .rcsr) =
      (decide (ReadsData line a ∧ (d.recvBuffers line).tail ≠ []) ||
        done (d.registers line .rcsr)) := by
  by_cases hsub : a.subReg = .rbuf
  · rw [readWord, hsub]
    refine (d.done_readRbuf line a.lineNr).trans ?_
    by_cases hline : a.lineNr = line
    · subst hline
      simp [ReadsData, hsub]
    · simp [ReadsData, hline]
  · have hother : ¬ ReadsData line a := fun h => hsub h.2
    simp only [hother, false_and, decide_false, Bool.false_or]
    cases hreg : a.subReg with
    | rbuf =>
        exact absurd hreg hsub
    | rcsr =>
        rw [readWord, hreg]
        exact d.done_readRcsr_after line a.lineNr
    | tscr =>
        have hne : DcRegister.rcsr ≠ .tscr := by
          decide
        rw [readWord, hreg]
        exact congrArg done (d.setRegister_of_sub _ line _ hne)
    | tbuf =>
        rw [readWord, hreg]

theorem done_writeWord
    (a : DcAddress) (v : Word) :
    done ((d.writeWord a v).dc11.registers line .rcsr) =
      if a.lineNr = line ∧ a.subReg = .rcsr then done v
      else done (d.registers line .rcsr) := by
  unfold writeWord
  dsimp only
  by_cases hsub : a.subReg = .rcsr
  · rw [hsub, done_setRcsr]
    simp
  · rw [setRegister_of_sub d _ _ _ (Ne.symm hsub), if_neg fun h => hsub h.2]

theorem readWord_recvBuffers_line
    (a : DcAddress) (isConnected : Bool) :
    (d.readWord a isConnected).2.dc11.recvBuffers line =
      if ReadsData line a then (d.recvBuffers line).tail
      else d.recvBuffers line := by
  rw [readWord_recvBuffers]
  by_cases hsub : a.subReg = .rbuf
  · rw [if_pos hsub]
    by_cases hline : a.lineNr = line
    · rw [if_pos ⟨hline, hsub⟩, hline, Function.update_self]
    · rw [if_neg fun h => hline h.1, Function.update_of_ne (Ne.symm hline)]
  · rw [if_neg hsub, if_neg fun h => hsub h.2]

/-- The register and the buffer agree. -/
def StatusRight : Prop :=
  done (d.registers line .rcsr) = true ↔ d.recvBuffers line ≠ []

/-- The part of `KeepsInput` that is about DONE. -/
def KeepsStatus : DcAct → Prop
  | .poll _ _ _ => True
  | .read a _ _ => ReadsData line a → (d.recvBuffers line).length ≠ 1
  | .write a v =>
      a.lineNr = line → a.subReg = .rcsr →
        (done v = true ↔ d.recvBuffers line ≠ [])

variable {d line}

/-- One step keeps the register right if and only if it keeps DONE. -/
theorem StatusRight.step_iff
    (h : StatusRight d line) (a : DcAct) :
    StatusRight (d.step a) line ↔ KeepsStatus d line a := by
  unfold StatusRight at h ⊢
  cases a with
  | poll line' isConnected data =>
      refine iff_of_true ?_ trivial
      change done ((d.poll line' isConnected data).dc11.registers line .rcsr) =
        true ↔ (d.poll line' isConnected data).dc11.recvBuffers line ≠ []
      rw [done_poll, poll_recvBuffers, Bool.or_eq_true, decide_eq_true_iff, h]
      by_cases hline : line' = line
      · subst hline
        rw [Function.update_self]
        by_cases hdata : data = [] <;> simp [hdata]
      · rw [Function.update_of_ne (Ne.symm hline)]
        simp [hline]
  | read a wordMode isConnected =>
      rw [step_read, done_readWord_after, readWord_recvBuffers_line,
        Bool.or_eq_true, decide_eq_true_iff, h, KeepsStatus]
      by_cases hreads : ReadsData line a
      · rw [if_pos hreads]
        cases d.recvBuffers line with
        | nil =>
            simp
        | cons c rest =>
            cases rest <;> simp [hreads]
      · rw [if_neg hreads]
        simp [hreads]
  | write a v =>
      change (done ((d.writeWord a v).dc11.registers line .rcsr) = true ↔
        d.recvBuffers line ≠ []) ↔ _
      rw [done_writeWord, KeepsStatus]
      by_cases hreg : a.lineNr = line ∧ a.subReg = .rcsr
      · rw [if_pos hreg]
        exact ⟨fun hdone _ _ => hdone, fun hdone => hdone hreg.1 hreg.2⟩
      · rw [if_neg hreg]
        exact iff_of_true h fun hline hsub => absurd ⟨hline, hsub⟩ hreg

end Status

section Data

variable (line : DcLine)

/-- The read of RBUF that a step makes while input is available, with the byte
that it takes. -/
def exchange (d : Dc11Unit) : DcAct → List ((WordMode × Word) × Byte)
  | .read a wordMode isConnected =>
      if ReadsData line a then
        ((d.recvBuffers line).take 1).map fun c =>
          ((wordMode, (d.readWord a isConnected).1), c)
      else
        []
  | _ => []

def exchanges : Dc11Unit → List DcAct → List ((WordMode × Word) × Byte)
  | _, [] => []
  | d, a :: acts => exchange line d a ++ exchanges (d.step a) acts

theorem exchanges_concat
    (d : Dc11Unit) (acts : List DcAct) (a : DcAct) :
    exchanges line d (acts ++ [a]) =
      exchanges line d acts ++ exchange line (d.run acts) a := by
  induction acts generalizing d with
  | nil =>
      exact List.append_nil _
  | cons b acts ih =>
      rw [List.cons_append, exchanges, exchanges, ih, List.append_assoc]
      rfl

theorem dataReads_eq
    (d : Dc11Unit) (acts : List DcAct) :
    dataReads line d acts = (exchanges line d acts).map Prod.fst := by
  induction acts generalizing d with
  | nil =>
      rfl
  | cons a acts ih =>
      rw [exchanges, List.map_append, ← ih]
      cases a with
      | poll line' isConnected data =>
          rfl
      | write a v =>
          rfl
      | read a wordMode isConnected =>
          rw [dataReads, exchange]
          congr 1
          by_cases hreads : ReadsData line a
          · rw [if_pos hreads]
            cases d.recvBuffers line <;> simp [hreads]
          · rw [if_neg hreads, if_neg fun h => hreads h.1]
            rfl

/-- What a step takes and what it leaves are what was there and what arrives. -/
theorem step_conserves
    (d : Dc11Unit) (a : DcAct) :
    d.recvBuffers line ++ received line [a] =
      (exchange line d a).map Prod.snd ++ (d.step a).recvBuffers line := by
  cases a with
  | poll line' isConnected data =>
      change _ = (d.poll line' isConnected data).dc11.recvBuffers line
      rw [poll_recvBuffers]
      by_cases hline : line' = line
      · subst hline
        simp [received]
      · rw [Function.update_of_ne (Ne.symm hline)]
        simp [received, hline]
  | read a wordMode isConnected =>
      rw [step_read, readWord_recvBuffers_line, exchange]
      split
      · cases d.recvBuffers line <;> simp [received]
      · simp [received]
  | write a v =>
      exact List.append_nil _

/-- What was received is what was taken and what is buffered. -/
theorem received_split
    (d : Dc11Unit) (acts : List DcAct) :
    d.recvBuffers line ++ received line acts =
      (exchanges line d acts).map Prod.snd ++ (d.run acts).recvBuffers line := by
  induction acts generalizing d with
  | nil =>
      exact List.append_nil _
  | cons a acts ih =>
      have hstep := step_conserves line d a
      have hrest := ih (d.step a)
      have hreceived : received line (a :: acts) =
          received line [a] ++ received line acts := by
        simp [received]
      rw [hreceived, ← List.append_assoc, hstep, List.append_assoc, hrest,
        exchanges, List.map_append, List.append_assoc]
      rfl

theorem readRbuf_value
    (d : Dc11Unit) {c : Byte} {rest : List Byte}
    (h : d.recvBuffers line = c :: rest) :
    (d.readRbuf line).1 = c.signExtend 16 := by
  unfold readRbuf
  rw [h]
  dsimp only
  split <;> rfl

/-- A byte is read as a value below 256 if its sign bit is clear. -/
theorem signExtend_eq_iff
    (c : Byte) :
    c.signExtend 16 = c.setWidth 16 ↔ c.msb = false := by
  revert c
  decide

/-- A step gives its byte if it is no word read of a byte from 128 on. -/
theorem exchange_gives_iff
    (d : Dc11Unit) (a : DcAct) :
    (∀ e ∈ exchange line d a, Gives e.1 e.2) ↔
      match a with
      | .read a wordMode _ =>
          ReadsData line a → ∀ c rest, d.recvBuffers line = c :: rest →
            wordMode = .wmWord → c.msb = false
      | _ => True := by
  cases a with
  | poll line' isConnected data =>
      simp [exchange]
  | write a v =>
      simp [exchange]
  | read a wordMode isConnected =>
      dsimp only
      rw [exchange]
      split
      · rename_i hreads
        cases hbuffer : d.recvBuffers line with
        | nil =>
            simp
        | cons c rest =>
            have hvalue : (d.readWord a isConnected).1 = c.signExtend 16 := by
              rw [readWord, hreads.2, hreads.1]
              exact d.readRbuf_value line hbuffer
            simp [Gives, hvalue, signExtend_eq_iff, hreads]
      · rename_i hreads
        simp [hreads]

end Data

section Runs

variable (registers : DcLine → DcRegister → Word) (line : DcLine)

/-- A register that selects the line's RCSR. -/
def rcsrOf (line : DcLine) : DcAddress :=
  ⟨0o174000 + BitVec.ofNat 16 line.val * 8, by revert line; decide⟩

theorem rcsrOf_selects :
    (rcsrOf line).lineNr = line ∧ (rcsrOf line).subReg = .rcsr := by
  revert line
  decide

/-- The status and the data in terms of the register and the exchanges. -/
theorem faithful_iff
    (acts : List DcAct) :
    Faithful line (constructed registers) acts ↔
      StatusRight ((constructed registers).run acts) line ∧
        ∀ e ∈ exchanges line (constructed registers) acts, Gives e.1 e.2 := by
  have hsplit := received_split line (constructed registers) acts
  rw [show (constructed registers).recvBuffers line = [] from rfl,
    List.nil_append] at hsplit
  have hreads := dataReads_eq line (constructed registers) acts
  have hlength : (dataReads line (constructed registers) acts).length =
      ((exchanges line (constructed registers) acts).map Prod.snd).length := by
    rw [hreads, List.length_map, List.length_map]
  have hdata : List.Forall₂ Gives (dataReads line (constructed registers) acts)
      ((received line acts).take
        (dataReads line (constructed registers) acts).length) ↔
      ∀ e ∈ exchanges line (constructed registers) acts, Gives e.1 e.2 := by
    rw [hlength, hsplit, List.take_left, hreads, List.forall₂_map_left_iff,
      List.forall₂_map_right_iff, List.forall₂_same]
  constructor
  · intro h
    have hstatus := h.status (rcsrOf line) true (rcsrOf_selects line).1
      (rcsrOf_selects line).2
    rw [done_readWord _ line true (rcsrOf_selects line).1
      (rcsrOf_selects line).2] at hstatus
    exact ⟨hstatus, hdata.mp h.data.2⟩
  · rintro ⟨hstatus, hgives⟩
    refine ⟨fun a isConnected hline hsub => ?_, ?_, hdata.mpr hgives⟩
    · rw [done_readWord _ line isConnected hline hsub]
      exact hstatus
    · rw [hlength, hsplit, List.length_append]
      exact Nat.le_add_right _ _

/-- The two parts of `KeepsInput`. -/
theorem keepsInput_iff
    (d : Dc11Unit) (a : DcAct) :
    KeepsInput line d a ↔
      KeepsStatus d line a ∧ ∀ e ∈ exchange line d a, Gives e.1 e.2 := by
  rw [exchange_gives_iff]
  cases a with
  | poll line' isConnected data =>
      exact (iff_of_true trivial ⟨trivial, trivial⟩)
  | write a v =>
      exact (and_iff_left trivial).symm
  | read a wordMode isConnected =>
      dsimp only [KeepsInput, KeepsStatus]
      cases d.recvBuffers line with
      | nil =>
          simp
      | cons c rest =>
          cases rest with
          | nil =>
              simp only [List.length_singleton]
              exact ⟨fun h => ⟨fun hreads => absurd rfl (h hreads c [] rfl).1,
                fun hreads => absurd rfl (h hreads c [] rfl).1⟩,
                fun h hreads => absurd rfl (h.1 hreads)⟩
          | cons c' rest =>
              simp

/-- What a step adds to a run in which all is right. -/
theorem faithful_concat_iff
    {acts : List DcAct} (h : Faithful line (constructed registers) acts)
    (a : DcAct) :
    Faithful line (constructed registers) (acts ++ [a]) ↔
      KeepsInput line ((constructed registers).run acts) a := by
  have hbefore := (faithful_iff registers line acts).mp h
  have hrun : (constructed registers).run (acts ++ [a]) =
      ((constructed registers).run acts).step a :=
    List.foldl_append
  rw [faithful_iff, hrun, hbefore.1.step_iff a, keepsInput_iff,
    exchanges_concat]
  refine and_congr_right fun _ => ?_
  constructor
  · exact fun hall e he => hall e (List.mem_append_right _ he)
  · intro hlast e he
    rcases List.mem_append.mp he with hold | hnew
    · exact hbefore.2 e hold
    · exact hlast e hnew

/-- In all states of a run the status and the data of a line are right if and
only if DONE is clear at the start and every step keeps the input. -/
theorem receiver_faithful_iff
    (acts : List DcAct) :
    (∀ before, before <+: acts →
        Faithful line (constructed registers) before) ↔
      done (registers line .rcsr) = false ∧
        ∀ before a, before ++ [a] <+: acts →
          KeepsInput line ((constructed registers).run before) a := by
  have hstart : Faithful line (constructed registers) [] ↔
      done (registers line .rcsr) = false := by
    rw [faithful_iff]
    simp [StatusRight, exchanges, run, constructed]
  rw [← hstart]
  exact Prefixes.forall_prefix_iff
    (fun acts a h => faithful_concat_iff registers line h a) acts

/-- After a read of the only byte DONE is still set; a byte from 128 on is read
with the upper half set. -/
theorem receiver_not_faithful :
    ¬ Faithful 0 (constructed fun _ _ => 0)
      [.poll 0 true [65], .read ⟨0o174002, by decide⟩ .wmWord true] ∧
    ¬ Faithful 0 (constructed fun _ _ => 0)
      [.poll 0 true [200, 65], .read ⟨0o174002, by decide⟩ .wmWord true] := by
  constructor
  · intro h
    have hstatus := ((faithful_iff _ 0 _).mp h).1
    exact absurd (hstatus.mp (by decide)) (by decide)
  · intro h
    have hgives := ((faithful_iff _ 0 _).mp h).2 ((.wmWord, 0xffc8), 200)
      (by decide) rfl
    exact absurd hgives (by decide)

end Runs

end Dc11Unit

end KekPdp11
