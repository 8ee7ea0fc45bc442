import KekPdp11.Lib.Notices
import KekPdp11.DzLines
import KekPdp11.Dc11
import KekPdp11.Tty

/-!
# KEK PDP-11: receive interrupts

The console terminal, the DC11 and the DZ11 queue an interrupt for input.
Whenever the interrupt is enabled and input is waiting, one is to have been
queued since the input became the oldest that waits and since the interrupt was
enabled.

**When it is.**  None of the three looks at its buffer when the guest enables
the interrupt, so that input from before goes unnoticed; the DZ11 is excused
if the same write sets CLR, which queues one.  The DC11 and the terminal queue
another interrupt when a read leaves input behind; the DZ11 does not.
-/

namespace KekPdp11

/-- Another item is the oldest.  A step adds items at the end or removes the
first one. -/
def NewOldest {β : Type} (buffer buffer' : List β) : Prop :=
  buffer' ≠ [] ∧ (buffer = [] ∨ buffer'.length < buffer.length)

theorem not_newOldest_self
    {β : Type} (buffer : List β) :
    ¬ NewOldest buffer buffer := by
  rintro ⟨hne, hempty | hlt⟩
  · exact hne hempty
  · exact absurd hlt (Nat.lt_irrefl _)

section Receivers

variable {σ α β : Type}

/-- A device with a buffer for input and an interrupt for it, in the states in
which no arrival is under way. -/
def receiver (step : σ → α → σ) (enabled : σ → Bool) (buffer : σ → List β)
    (arriving : σ → Bool) (queued : σ → α → List InterruptRequest)
    (interrupt : InterruptRequest) : Notices.System σ α where
  step := step
  wants s := arriving s = false ∧ enabled s = true ∧ buffer s ≠ []
  news s a :=
    (enabled s = false ∧ enabled (step s a) = true) ∨
      NewOldest (buffer s) (buffer (step s a))
  raises s a := interrupt ∈ queued s a

variable {step : σ → α → σ} {enabled : σ → Bool} {buffer : σ → List β}
variable {arriving : σ → Bool} {queued : σ → α → List InterruptRequest}
variable {interrupt : InterruptRequest}

/-- Where the end of an arrival signals, nothing starts to wait silently. -/
theorem receiver_settled
    (h : ∀ s a, arriving s = true → arriving (step s a) = false →
      enabled (step s a) = true → interrupt ∈ queued s a) :
    (receiver step enabled buffer arriving queued interrupt).Settled := by
  rintro s a ⟨harriving, henabled, hbuffer⟩
  by_cases hbefore : arriving s = true
  · exact .inr (.inl (h s a hbefore harriving henabled))
  by_cases hon : enabled s = true
  · by_cases hempty : buffer s = []
    · exact .inl (.inr ⟨hbuffer, .inl hempty⟩)
    · exact .inr (.inr ⟨Bool.eq_false_of_not_eq_true hbefore, hon, hempty⟩)
  · exact .inl (.inl ⟨Bool.eq_false_of_not_eq_true hon, henabled⟩)

theorem receiver_attentive_iff
    {s : σ} {a : α} :
    (receiver step enabled buffer arriving queued interrupt).Attentive s a ↔
      ((enabled s = false ∧ enabled (step s a) = true) ∨
          NewOldest (buffer s) (buffer (step s a)) →
        arriving (step s a) = false → enabled (step s a) = true →
        buffer (step s a) ≠ [] → interrupt ∈ queued s a) := by
  constructor
  · exact fun h hnews harriving henabled hbuffer =>
      h hnews ⟨harriving, henabled, hbuffer⟩
  · exact fun h hnews hwants => h hnews hwants.1 hwants.2.1 hwants.2.2

/-- A step that neither enables nor changes the buffer has nothing to
signal. -/
theorem receiver_attentive_of_same
    {s : σ} {a : α}
    (henabled : enabled (step s a) = enabled s)
    (hbuffer : buffer (step s a) = buffer s) :
    (receiver step enabled buffer arriving queued interrupt).Attentive s a := by
  rw [receiver_attentive_iff, henabled, hbuffer]
  rintro (⟨hoff, hon⟩ | hnew)
  · rw [hoff] at hon
    cases hon
  · exact absurd hnew (not_newOldest_self _)

end Receivers

section Terminal

/-- The receive interrupt of the terminal. -/
def Tty.receive : Notices.System Tty TtyAct :=
  receiver Tty.step Tty.isRxInterruptEnabled Tty.inputBuffer Tty.notifying
    (fun t a => (t.act a).requests) Tty.rxInterrupt

namespace Tty

variable (t : Tty)

theorem isRxInterruptEnabled_setRegister
    (reg : Fin 4) (v : Word) :
    (t.setRegister reg v).isRxInterruptEnabled =
      if reg = 0 then decide (v &&& 64 ≠ 0) else t.isRxInterruptEnabled := by
  unfold isRxInterruptEnabled setRegister
  by_cases h : reg = 0
  · subst h
    simp
  · simp [h, Function.update_of_ne (Ne.symm h)]

/-- DONE is not the enable bit. -/
theorem and_64_or_128
    (v : Word) :
    (v ||| 128) &&& 64 = v &&& 64 := by
  rw [BitVec.and_or_distrib_right]
  simp

theorem notifyRx_isRxInterruptEnabled :
    t.notifyRx.tty.isRxInterruptEnabled = t.isRxInterruptEnabled := by
  unfold notifyRx
  rw [isRxInterruptEnabled_setRegister, if_pos rfl, and_64_or_128]
  rfl

theorem reg_of_tks
    {a : TtyAddress} (h : a.addr = tks) :
    a.reg = 0 := by
  apply Fin.ext
  simp [TtyAddress.reg, h, tks]

theorem reg_of_tps
    {a : TtyAddress} (h : a.addr = tps) :
    a.reg = 2 := by
  apply Fin.ext
  simp [TtyAddress.reg, h, tps]

theorem readTkb_isRxInterruptEnabled :
    t.readTkb.2.tty.isRxInterruptEnabled = t.isRxInterruptEnabled := by
  have htkb : ∀ v, (t.setRegister 1 v).isRxInterruptEnabled =
      t.isRxInterruptEnabled :=
    fun v => t.isRxInterruptEnabled_setRegister 1 v
  unfold readTkb
  split
  · exact htkb 0
  · rename_i c rest _
    generalize c.signExtend 16 |||
      ((BitVec.ofBool (parity c)).setWidth 16 <<< 7) = v
    dsimp only
    split
    · exact htkb v
    · rw [notifyRx_isRxInterruptEnabled]
      exact htkb v

/-- A read does not enable the interrupt. -/
theorem readWord_isRxInterruptEnabled
    (a : TtyAddress) :
    (t.readWord a).2.tty.isRxInterruptEnabled = t.isRxInterruptEnabled := by
  unfold readWord
  dsimp only
  split_ifs with htks _ htkb htps
  · rw [isRxInterruptEnabled_setRegister, reg_of_tks htks, if_pos rfl]
    simp [isRxInterruptEnabled, BitVec.and_assoc]
  · rw [isRxInterruptEnabled_setRegister, reg_of_tks htks, if_pos rfl,
      and_64_or_128]
    simp [isRxInterruptEnabled, BitVec.and_assoc]
  · exact t.readTkb_isRxInterruptEnabled
  · rw [isRxInterruptEnabled_setRegister, reg_of_tps htps, if_neg (by decide)]
  · rfl

theorem writeWord_isRxInterruptEnabled
    (a : TtyAddress) (v : Word) :
    (t.writeWord a v).tty.isRxInterruptEnabled =
      if a.reg = 0 then decide (v &&& 64 ≠ 0)
      else t.isRxInterruptEnabled := by
  unfold writeWord
  split
  · rw [isRxInterruptEnabled_setRegister, isRxInterruptEnabled_setRegister,
      if_neg (by decide : ¬ (2 : Fin 4) = 0)]
  · rw [isRxInterruptEnabled_setRegister]

theorem readTkb_inputBuffer :
    t.readTkb.2.tty.inputBuffer = t.inputBuffer.tail := by
  unfold readTkb
  split
  · rename_i hempty
    rw [hempty]
    exact hempty
  · rename_i c rest hbuffer
    rw [hbuffer]
    dsimp only
    split <;> rfl

theorem readTkb_notifying :
    t.readTkb.2.tty.notifying = t.notifying := by
  unfold readTkb
  split
  · rfl
  · dsimp only
    split <;> rfl

theorem readWord_tkb
    {a : TtyAddress} (h : a.addr = tkb) :
    t.readWord a = t.readTkb := by
  unfold readWord
  rw [if_neg (h ▸ by decide : a.addr ≠ tks), if_pos h]

/-- Only a read of TKB takes a character. -/
theorem readWord_of_ne
    {a : TtyAddress} (h : a.addr ≠ tkb) :
    (t.readWord a).2.tty.inputBuffer = t.inputBuffer ∧
      (t.readWord a).2.tty.notifying = t.notifying := by
  unfold readWord
  dsimp only
  split_ifs <;> exact ⟨rfl, rfl⟩

theorem readWord_notifying
    (a : TtyAddress) :
    (t.readWord a).2.tty.notifying = t.notifying := by
  by_cases h : a.addr = tkb
  · rw [t.readWord_tkb h]
    exact t.readTkb_notifying
  · exact (t.readWord_of_ne h).2

/-- notify_rx announces what waits. -/
theorem rxInterrupt_mem_notifyRx
    (h : t.notifyRx.tty.isRxInterruptEnabled = true) :
    rxInterrupt ∈ t.notifyRx.requests := by
  change rxInterrupt ∈ if t.notifyRx.tty.isRxInterruptEnabled = true then
    [rxInterrupt] else []
  rw [if_pos h]
  exact List.mem_singleton_self rxInterrupt

/-- The character behind the one that is read is announced. -/
theorem rxInterrupt_mem_readTkb
    (hbuffer : t.inputBuffer.tail ≠ [])
    (henabled : t.isRxInterruptEnabled = true) :
    rxInterrupt ∈ t.readTkb.2.requests := by
  have hafter := t.readTkb_isRxInterruptEnabled
  revert hafter
  unfold readTkb
  split
  · rename_i hempty
    rw [hempty] at hbuffer
    exact absurd rfl hbuffer
  · rename_i c rest hrest
    rw [hrest, List.tail_cons] at hbuffer
    dsimp only
    rw [if_neg hbuffer, henabled]
    exact fun hafter => rxInterrupt_mem_notifyRx _ hafter

theorem writeWord_inputBuffer
    (a : TtyAddress) (v : Word) :
    (t.writeWord a v).tty.inputBuffer = t.inputBuffer := by
  unfold writeWord
  split <;> rfl

theorem writeWord_notifying
    (a : TtyAddress) (v : Word) :
    (t.writeWord a v).tty.notifying = t.notifying := by
  unfold writeWord
  split <;> rfl

theorem rxInterrupt_not_mem_writeWord
    (a : TtyAddress) (v : Word) :
    rxInterrupt ∉ (t.writeWord a v).requests := by
  unfold writeWord
  split
  · dsimp only
    split
    · simp [rxInterrupt, txInterrupt]
    · exact List.not_mem_nil
  · exact List.not_mem_nil

theorem receive_settled :
    Tty.receive.Settled := by
  apply receiver_settled
  intro t a harriving hdone henabled
  cases a with
  | push c =>
      simp [step, act, harriving] at hdone
  | notify =>
      simp only [step, act, harriving, if_true] at henabled ⊢
      exact rxInterrupt_mem_notifyRx _ henabled
  | read a =>
      rw [step, act, readWord_notifying, harriving] at hdone
      cases hdone
  | write a v =>
      rw [step, act, writeWord_notifying, harriving] at hdone
      cases hdone

/-- A step signals for its own news if and only if it is careful. -/
theorem attentive_iff
    (a : TtyAct) :
    Tty.receive.Attentive t a ↔ a.Careful t := by
  cases a with
  | push c =>
      refine iff_of_true (receiver_attentive_iff.mpr ?_) trivial
      intro _ harriving
      simp only [step, act] at harriving
      split at harriving
      · rename_i hbefore
        rw [hbefore] at harriving
        cases harriving
      · cases harriving
  | notify =>
      refine iff_of_true (receiver_attentive_of_same ?_ ?_) trivial
      · rw [step, act]
        split
        · exact notifyRx_isRxInterruptEnabled _
        · rfl
      · rw [step, act]
        split <;> rfl
  | read a =>
      refine iff_of_true ?_ trivial
      have henabled := t.readWord_isRxInterruptEnabled a
      by_cases htkb : a.addr = tkb
      · apply receiver_attentive_iff.mpr
        intro _ _ hon hbuffer
        change (t.readWord a).2.tty.isRxInterruptEnabled = true at hon
        change (t.readWord a).2.tty.inputBuffer ≠ [] at hbuffer
        change rxInterrupt ∈ (t.readWord a).2.requests
        rw [henabled] at hon
        rw [readWord_tkb t htkb] at hbuffer ⊢
        rw [readTkb_inputBuffer] at hbuffer
        exact t.rxInterrupt_mem_readTkb hbuffer hon
      · exact receiver_attentive_of_same henabled (t.readWord_of_ne htkb).1
  | write a v =>
      apply receiver_attentive_iff.trans
      rw [step, act, writeWord_isRxInterruptEnabled, writeWord_inputBuffer,
        writeWord_notifying]
      constructor
      · intro h hreg hv hoff hquiet
        by_contra hbuffer
        have hon : (if a.reg = 0 then decide (v &&& 64 ≠ 0)
            else t.isRxInterruptEnabled) = true := by
          rw [if_pos hreg]
          exact decide_eq_true hv
        exact t.rxInterrupt_not_mem_writeWord a v
          (h (.inl ⟨hoff, hon⟩) hquiet hon hbuffer)
      · rintro h (⟨hoff, hon⟩ | hnew) hquiet _ hbuffer
        · by_cases hreg : a.reg = 0
          · rw [if_pos hreg] at hon
            exact absurd (h hreg (of_decide_eq_true hon) hoff hquiet) hbuffer
          · rw [if_neg hreg, hoff] at hon
            cases hon
        · exact absurd hnew (not_newOldest_self _)

end Tty

end Terminal

section SerialLines

/-- The receive interrupt of a line of the DC11. -/
def Dc11Unit.receive (line : DcLine) : Notices.System Dc11Unit DcAct :=
  receiver Dc11Unit.step (fun d => d.isRxInterruptEnabled line)
    (fun d => d.recvBuffers line) (fun _ => false)
    (fun d a => (d.act a).requests) (Dc11Unit.interrupt line false)

/-- The interrupt of the line is not enabled behind input. -/
def DcAct.Careful (line : DcLine) (d : Dc11Unit) : DcAct → Prop
  | .write a v =>
      a.lineNr = line → a.subReg = .rcsr → v &&& 64 ≠ 0 →
        d.isRxInterruptEnabled line = false → d.recvBuffers line = []
  | _ => True

namespace Dc11Unit

variable (d : Dc11Unit) (line : DcLine)

theorem interrupt_eq_rx_iff
    (line line' : DcLine) (isTx : Bool) :
    interrupt line' isTx = interrupt line false ↔ line' = line ∧ isTx = false := by
  unfold interrupt
  rw [InterruptRequest.queue.injEq]
  revert line line' isTx
  decide

theorem isRxInterruptEnabled_setRegister
    (line' : DcLine) (sub : DcRegister) (v : Word) :
    (d.setRegister line' sub v).isRxInterruptEnabled line =
      if line' = line ∧ sub = .rcsr then decide (v &&& 64 ≠ 0)
      else d.isRxInterruptEnabled line := by
  unfold isRxInterruptEnabled
  split
  · rename_i h
    obtain ⟨rfl, rfl⟩ := h
    rw [setRegister_self]
  · rename_i h
    by_cases hline : line = line'
    · rw [setRegister_of_sub]
      exact fun hsub => h ⟨hline.symm, hsub.symm⟩
    · rw [d.setRegister_of_line _ _ _ hline]

/-- A value of RCSR with the same enable bit. -/
theorem isRxInterruptEnabled_setRcsr
    (line' : DcLine) {v : Word}
    (h : v &&& 64 = d.registers line' .rcsr &&& 64) :
    (d.setRegister line' .rcsr v).isRxInterruptEnabled line =
      d.isRxInterruptEnabled line := by
  rw [isRxInterruptEnabled_setRegister]
  split
  · rename_i hline
    obtain ⟨rfl, -⟩ := hline
    rw [h]
    rfl
  · rfl

theorem readRbuf_recvBuffers
    (line' : DcLine) :
    (d.readRbuf line').2.dc11.recvBuffers =
      Function.update d.recvBuffers line' (d.recvBuffers line').tail := by
  unfold readRbuf
  split
  · rename_i hempty
    rw [hempty, List.tail_nil, ← hempty, Function.update_eq_self]
  · rename_i c rest hbuffer
    rw [hbuffer, List.tail_cons]
    dsimp only
    split <;> rfl

theorem readRbuf_isRxInterruptEnabled
    (line' : DcLine) :
    (d.readRbuf line').2.dc11.isRxInterruptEnabled line =
      d.isRxInterruptEnabled line := by
  unfold readRbuf
  split
  · rfl
  · rename_i c rest _
    have hstatus : ∀ p : Bool,
        (d.setRegister line' .rcsr
          ((d.registers line' .rcsr &&& ~~~(1#16 <<< 5)) |||
            ((BitVec.ofBool p).setWidth 16 <<< 5))).isRxInterruptEnabled line =
        d.isRxInterruptEnabled line := by
      intro p
      apply isRxInterruptEnabled_setRcsr
      cases p <;> simp [BitVec.and_or_distrib_right, BitVec.and_assoc]
    dsimp only
    split
    · exact hstatus _
    · rw [isRxInterruptEnabled_setRcsr]
      · exact hstatus _
      · simp [BitVec.and_or_distrib_right]

/-- The byte behind the one that is read is announced. -/
theorem interrupt_mem_readRbuf
    (hbuffer : (d.recvBuffers line).tail ≠ [])
    (henabled : d.isRxInterruptEnabled line = true) :
    interrupt line false ∈ (d.readRbuf line).2.requests := by
  have hafter := d.readRbuf_isRxInterruptEnabled line line
  rw [henabled] at hafter
  revert hafter
  unfold readRbuf
  split
  · rename_i hempty
    rw [hempty] at hbuffer
    exact absurd rfl hbuffer
  · rename_i c rest hrest
    rw [hrest, List.tail_cons] at hbuffer
    dsimp only
    rw [if_neg hbuffer]
    intro hafter
    rw [if_pos hafter]
    exact List.mem_singleton_self _

theorem readRcsr_isRxInterruptEnabled
    (line' : DcLine) :
    (d.readRcsr line').2.isRxInterruptEnabled line =
      d.isRxInterruptEnabled line := by
  apply isRxInterruptEnabled_setRcsr
  split <;> simp [BitVec.and_or_distrib_right, BitVec.and_assoc]

theorem readTscr_isRxInterruptEnabled
    (line' : DcLine) (isConnected : Bool) :
    (d.readTscr line' isConnected).2.isRxInterruptEnabled line =
      d.isRxInterruptEnabled line := by
  unfold readTscr
  rw [isRxInterruptEnabled_setRegister, if_neg fun h => DcRegister.noConfusion h.2]

theorem readWord_isRxInterruptEnabled
    (a : DcAddress) (isConnected : Bool) :
    (d.readWord a isConnected).2.dc11.isRxInterruptEnabled line =
      d.isRxInterruptEnabled line := by
  cases hsub : a.subReg with
  | rcsr =>
      rw [readWord, hsub]
      exact d.readRcsr_isRxInterruptEnabled line a.lineNr
  | rbuf =>
      rw [readWord, hsub]
      exact d.readRbuf_isRxInterruptEnabled line a.lineNr
  | tscr =>
      rw [readWord, hsub]
      exact d.readTscr_isRxInterruptEnabled line a.lineNr isConnected
  | tbuf =>
      rw [readWord, hsub]

theorem readWord_recvBuffers
    (a : DcAddress) (isConnected : Bool) :
    (d.readWord a isConnected).2.dc11.recvBuffers =
      if a.subReg = .rbuf then
        Function.update d.recvBuffers a.lineNr (d.recvBuffers a.lineNr).tail
      else d.recvBuffers := by
  cases hsub : a.subReg with
  | rbuf =>
      rw [readWord, hsub, if_pos rfl]
      exact d.readRbuf_recvBuffers a.lineNr
  | rcsr | tscr =>
      rw [readWord, hsub, if_neg (by decide)]
      rfl
  | tbuf =>
      rw [readWord, hsub, if_neg (by decide)]

theorem isRxInterruptEnabled_or
    (line' : DcLine) {v : Word}
    (h : v &&& 64 = 0) :
    (d.setRegister line' .rcsr
      (d.registers line' .rcsr ||| v)).isRxInterruptEnabled line =
      d.isRxInterruptEnabled line := by
  apply isRxInterruptEnabled_setRcsr
  rw [BitVec.and_or_distrib_right, h]
  exact BitVec.or_zero

/-- The changes of RCSR in a round of the poller leave the enable bit. -/
theorem poll_isRxInterruptEnabled
    (line' : DcLine) (isConnected : Bool) (data : List Byte) :
    (d.poll line' isConnected data).dc11.isRxInterruptEnabled line =
      d.isRxInterruptEnabled line := by
  unfold poll
  dsimp only
  generalize hvalue :
    (if isConnected = true then (0o160000 : Word) else 0o120000) = flags
  have hflags : flags &&& 64 = 0 := by
    rw [← hvalue]
    split <;> rfl
  have hchange := d.isRxInterruptEnabled_or line line' hflags
  have hdone : ∀ e : Dc11Unit,
      (e.setRegister line' .rcsr
        (e.registers line' .rcsr ||| 128)).isRxInterruptEnabled line =
      e.isRxInterruptEnabled line :=
    fun e => e.isRxInterruptEnabled_or line line' (by decide)
  by_cases hchanged : decide (isConnected ≠ d.connected line') = true
  · rw [if_pos hchanged]
    by_cases hdata : data = []
    · rw [if_pos hdata]
      exact hchange
    · rw [if_neg hdata]
      exact (hdone _).trans hchange
  · rw [if_neg hchanged]
    by_cases hdata : data = []
    · rw [if_pos hdata]
      rfl
    · rw [if_neg hdata]
      exact hdone _

theorem poll_recvBuffers
    (line' : DcLine) (isConnected : Bool) (data : List Byte) :
    (d.poll line' isConnected data).dc11.recvBuffers =
      Function.update d.recvBuffers line' (d.recvBuffers line' ++ data) := by
  unfold poll
  dsimp only
  split_ifs <;> rfl

/-- What arrives is announced. -/
theorem interrupt_mem_poll
    (isConnected : Bool) {data : List Byte}
    (hdata : data ≠ [])
    (henabled : d.isRxInterruptEnabled line = true) :
    interrupt line false ∈ (d.poll line isConnected data).requests := by
  have hafter := d.poll_isRxInterruptEnabled line line isConnected data
  rw [henabled] at hafter
  revert hafter
  unfold poll
  dsimp only
  rw [if_neg hdata]
  intro hafter
  apply List.mem_append_right
  rw [if_pos hafter]
  exact List.mem_singleton_self _

theorem interrupt_not_mem_writeWord
    (a : DcAddress) (v : Word) :
    interrupt line false ∉ (d.writeWord a v).requests := by
  unfold writeWord
  dsimp only
  split
  · rw [List.mem_singleton]
    intro h
    exact absurd ((interrupt_eq_rx_iff line a.lineNr true).mp h.symm).2
      Bool.noConfusion
  · exact List.not_mem_nil

theorem writeWord_isRxInterruptEnabled
    (a : DcAddress) (v : Word) :
    (d.writeWord a v).dc11.isRxInterruptEnabled line =
      if a.lineNr = line ∧ a.subReg = .rcsr then decide (v &&& 64 ≠ 0)
      else d.isRxInterruptEnabled line :=
  d.isRxInterruptEnabled_setRegister line a.lineNr a.subReg v

theorem receive_settled :
    (receive line).Settled := by
  apply receiver_settled
  intro _ _ h
  cases h

theorem step_read
    (a : DcAddress) (wordMode : WordMode) (isConnected : Bool) :
    d.step (.read a wordMode isConnected) =
      (d.readWord a isConnected).2.dc11 := by
  rfl

/-- A step signals for its own news if and only if it is careful. -/
theorem attentive_iff
    (a : DcAct) :
    (receive line).Attentive d a ↔ a.Careful line d := by
  cases a with
  | poll line' isConnected data =>
      refine iff_of_true ?_ trivial
      have henabled := d.poll_isRxInterruptEnabled line line' isConnected data
      have hbuffers := congrFun (d.poll_recvBuffers line' isConnected data) line
      by_cases hsame : line' = line ∧ data ≠ []
      · obtain ⟨rfl, hdata⟩ := hsame
        refine receiver_attentive_iff.mpr fun _ _ hon _ => ?_
        exact d.interrupt_mem_poll line' isConnected hdata (henabled ▸ hon)
      · apply receiver_attentive_of_same henabled
        apply hbuffers.trans
        by_cases hline : line = line'
        · subst hline
          have hdata : data = [] := by
            by_contra hdata
            exact hsame ⟨rfl, hdata⟩
          rw [Function.update_self, hdata, List.append_nil]
        · rw [Function.update_of_ne hline]
  | read a wordMode isConnected =>
      refine iff_of_true ?_ trivial
      have henabled := d.readWord_isRxInterruptEnabled line a isConnected
      have hbuffers := congrFun (d.readWord_recvBuffers a isConnected) line
      rw [← d.step_read a wordMode isConnected] at henabled hbuffers
      by_cases hsame : a.lineNr = line ∧ a.subReg = .rbuf
      · obtain ⟨rfl, hsub⟩ := hsame
        rw [if_pos hsub, Function.update_self] at hbuffers
        refine receiver_attentive_iff.mpr fun _ _ hon hbuffer => ?_
        rw [hbuffers] at hbuffer
        change interrupt a.lineNr false ∈ (d.readWord a isConnected).2.requests
        rw [readWord, hsub]
        exact d.interrupt_mem_readRbuf a.lineNr hbuffer (henabled ▸ hon)
      · apply receiver_attentive_of_same henabled
        apply hbuffers.trans
        split
        · rename_i hsub
          rw [Function.update_of_ne fun hline => hsame ⟨hline.symm, hsub⟩]
        · rfl
  | write a v =>
      apply receiver_attentive_iff.trans
      change ((_ ∧ (d.writeWord a v).dc11.isRxInterruptEnabled line = true) ∨
        NewOldest _ (d.recvBuffers line) → _ →
        (d.writeWord a v).dc11.isRxInterruptEnabled line = true →
        d.recvBuffers line ≠ [] →
        interrupt line false ∈ (d.writeWord a v).requests) ↔ _
      rw [writeWord_isRxInterruptEnabled]
      constructor
      · intro h hline hsub hv hoff
        by_contra hbuffer
        have hon : (if a.lineNr = line ∧ a.subReg = .rcsr then
            decide (v &&& 64 ≠ 0) else d.isRxInterruptEnabled line) = true := by
          rw [if_pos ⟨hline, hsub⟩]
          exact decide_eq_true hv
        exact d.interrupt_not_mem_writeWord line a v
          (h (.inl ⟨hoff, hon⟩) rfl hon hbuffer)
      · rintro h (⟨hoff, hon⟩ | hnew) _ _ hbuffer
        · by_cases hreg : a.lineNr = line ∧ a.subReg = .rcsr
          · rw [if_pos hreg] at hon
            exact absurd (h hreg.1 hreg.2 (of_decide_eq_true hon) hoff) hbuffer
          · rw [if_neg hreg, hoff] at hon
            cases hon
        · exact absurd hnew (not_newOldest_self _)

end Dc11Unit

end SerialLines

section Multiplexer

/-- What a step queues. -/
def Dz11.requests (d : Dz11) : DzAct → List InterruptRequest
  | .poll line isConnected data => (d.poll line isConnected data).requests
  | .read _ => []
  | .write addr v => (d.writeWord addr v).requests

/-- The receive interrupt of the DZ11 for the input of a line. -/
def Dz11.receive (line : Line) : Notices.System Dz11 DzAct :=
  receiver Dz11.step Dz11.isRxInterruptEnabled (fun d => d.recvBuffers line)
    (fun _ => false) Dz11.requests (Dz11.interrupt false)

/-- The interrupt is not enabled behind input, unless with CLR, and no byte of
the line is read while it is enabled and another one waits. -/
def DzAct.Careful (line : Line) (d : Dz11) : DzAct → Prop
  | .poll _ _ _ => True
  | .read addr =>
      addr = Dz11.rbuf → d.isRxInterruptEnabled = true →
        Queues.ready Dz11.lines d.recvBuffers = some line →
        (d.recvBuffers line).length ≤ 1
  | .write addr v =>
      Dz11.regNr addr = 0 → v &&& 0x40 ≠ 0 → v &&& 32 ≠ 0 →
        d.isRxInterruptEnabled = false →
        (addr = Dz11.csr ∧ v &&& 16 ≠ 0) ∨ d.recvBuffers line = []

namespace Dz11

variable (d : Dz11) (line : Line)

theorem isRxInterruptEnabled_setRegister
    {nr : Nat} (v : Word) (h : nr ≠ 0) :
    (d.setRegister nr v).isRxInterruptEnabled = d.isRxInterruptEnabled := by
  simp [isRxInterruptEnabled, setRegister, Function.update_of_ne h.symm]

theorem isRxInterruptEnabled_setCsr
    (v : Word) :
    (d.setRegister 0 v).isRxInterruptEnabled =
      (decide (v &&& 0x40 ≠ 0) && decide (v &&& 32 ≠ 0)) := by
  simp [isRxInterruptEnabled, setRegister]

theorem not_isRxInterruptEnabled_reset :
    (d.reset true).isRxInterruptEnabled = false := by
  simp [isRxInterruptEnabled, reset]

theorem txScannerDo_isRxInterruptEnabled
    (line : Line) (force : Bool) :
    (d.txScannerDo line force).dz11.isRxInterruptEnabled =
      d.isRxInterruptEnabled := by
  have hbits : ∀ mask : Word, mask = 0x40 ∨ mask = 32 →
      (d.registers 0 &&& ~~~(0x700 : Word) ||| lineWord line <<< 8 |||
        0x8000) &&& mask = d.registers 0 &&& mask := by
    intro mask hmask
    rw [lineWord_eq]
    ext i hi
    rcases hmask with rfl | rfl
    · interval_cases i <;> simp
    · interval_cases i <;> simp
  have hstatus := d.isRxInterruptEnabled_setCsr (d.registers 0 &&&
    ~~~(0x700 : Word) ||| lineWord line <<< 8 ||| 0x8000)
  rw [hbits 0x40 (.inl rfl), hbits 32 (.inr rfl)] at hstatus
  exact hstatus

theorem enableLine_isRxInterruptEnabled
    (e : Dz11Effect) (i : Line) :
    (enableLine e i).dz11.isRxInterruptEnabled =
      e.dz11.isRxInterruptEnabled := by
  unfold enableLine
  dsimp only
  split_ifs
  · exact txScannerDo_isRxInterruptEnabled _ i true
  · rfl
  · exact txScannerDo_isRxInterruptEnabled _ i true
  · rfl

theorem readRbuf_isRxInterruptEnabled :
    d.readRbuf.2.isRxInterruptEnabled = d.isRxInterruptEnabled := by
  rw [readRbuf_eq]
  split <;> rfl

/-- A read can only disable. -/
theorem readWord_isRxInterruptEnabled
    (addr : Word) (h : (d.readWord addr).2.isRxInterruptEnabled = true) :
    d.isRxInterruptEnabled = true := by
  unfold readWord at h
  split_ifs at h with _ _ _ hmsr
  · unfold readCsr at h
    dsimp only at h
    split at h
    · rw [not_isRxInterruptEnabled_reset] at h
      cases h
    · exact h
  · rwa [readRbuf_isRxInterruptEnabled] at h
  · exact h
  · rw [← d.isRxInterruptEnabled_setRegister _ (by decide : 3 ≠ 0)]
    exact h
  · exact h

theorem poll_isRxInterruptEnabled
    (isConnected : Bool) (data : List Byte) :
    (d.poll line isConnected data).dz11.isRxInterruptEnabled =
      d.isRxInterruptEnabled := by
  have hchange : ∀ b, (d.changeConnection line b).isRxInterruptEnabled =
      d.isRxInterruptEnabled := by
    intro b
    unfold changeConnection
    dsimp only
    split
    · exact isRxInterruptEnabled_setRegister _ _ (by decide)
    · rw [isRxInterruptEnabled_setRegister _ _ (by decide)]
      exact isRxInterruptEnabled_setRegister _ _ (by decide)
  unfold poll
  dsimp only
  split
  · exact hchange isConnected
  · rfl

/-- A write that does not reach CSR. -/
theorem writeWord_isRxInterruptEnabled
    {addr : Word} (v : Word) (h : regNr addr ≠ 0) :
    (d.writeWord addr v).dz11.isRxInterruptEnabled =
      d.isRxInterruptEnabled := by
  have hlines : ∀ (enabled : List Line) (e : Dz11Effect),
      (enabled.foldl enableLine e).dz11.isRxInterruptEnabled =
        e.dz11.isRxInterruptEnabled := by
    intro enabled
    induction enabled with
    | nil =>
        exact fun _ => rfl
    | cons i enabled ih =>
        exact fun e => (ih _).trans (enableLine_isRxInterruptEnabled e i)
  unfold writeWord
  split_ifs with hcsr
  · rw [hcsr] at h
    exact absurd (by decide) h
  · exact isRxInterruptEnabled_setRegister _ _ (by decide)
  · exact (isRxInterruptEnabled_setRegister _ _ (by decide)).trans
      (d.txScannerDo_isRxInterruptEnabled _ false)
  · exact (isRxInterruptEnabled_setRegister _ _ (by decide)).trans (hlines _ _)
  · exact d.isRxInterruptEnabled_setRegister v h

theorem writeWord_of_regNr
    {addr : Word} (v : Word) (h : regNr addr = 0) :
    d.writeWord addr v =
      if addr = csr then d.writeCsr v else ⟨d.setRegister 0 v, [], []⟩ := by
  have hother : ∀ addr', regNr addr' ≠ 0 → addr ≠ addr' := by
    rintro _ hnr rfl
    exact hnr h
  unfold writeWord
  rw [if_neg (hother lpr (by decide)), if_neg (hother tdr (by decide)),
    if_neg (hother tcr (by decide)), h]

/-- What a write to the register of CSR leaves of the enable bits. -/
theorem writeWord_csr_isRxInterruptEnabled
    {addr : Word} (v : Word) (h : regNr addr = 0) :
    (d.writeWord addr v).dz11.isRxInterruptEnabled =
      (decide (v &&& 0x40 ≠ 0) && decide (v &&& 32 ≠ 0)) := by
  have hbits : ∀ w clr mask : Word, clr = 0 ∨ clr = 16 →
      mask = 0x40 ∨ mask = 32 →
      (w &&& ~~~(0x5078 : Word) ||| v &&& 0x5078 ||| clr) &&& mask =
        v &&& mask := by
    intro w clr mask hclr hmask
    ext i hi
    rcases hclr with rfl | rfl <;> rcases hmask with rfl | rfl
    all_goals interval_cases i <;> simp
  rw [d.writeWord_of_regNr v h]
  split
  · unfold writeCsr
    dsimp only
    rw [isRxInterruptEnabled_setCsr]
    split
    · rw [hbits _ 16 0x40 (.inr rfl) (.inl rfl),
        hbits _ 16 32 (.inr rfl) (.inr rfl)]
    · rw [hbits _ 0 0x40 (.inl rfl) (.inl rfl),
        hbits _ 0 32 (.inl rfl) (.inr rfl)]
  · exact d.isRxInterruptEnabled_setCsr v

/-- A write to the register of CSR announces input if it sets CLR. -/
theorem interrupt_mem_writeWord_iff
    {addr : Word} (v : Word) (h : regNr addr = 0) :
    interrupt false ∈ (d.writeWord addr v).requests ↔
      addr = csr ∧ v &&& 16 ≠ 0 := by
  rw [d.writeWord_of_regNr v h]
  split
  · rename_i hcsr
    unfold writeCsr
    dsimp only
    split
    · rename_i hclr
      exact iff_of_true (List.mem_singleton_self _)
        ⟨hcsr, hclr⟩
    · rename_i hclr
      exact iff_of_false List.not_mem_nil fun hset => hclr hset.2
  · rename_i hcsr
    exact iff_of_false List.not_mem_nil fun hset => hcsr hset.1

theorem receive_settled :
    (receive line).Settled := by
  apply receiver_settled
  intro _ _ h
  cases h

/-- A read of RBUF takes from a line if it is the first that has a byte. -/
theorem readRbuf_recvBuffers_line :
    d.readRbuf.2.recvBuffers line =
      if Queues.ready lines d.recvBuffers = some line then
        (d.recvBuffers line).tail
      else d.recvBuffers line := by
  rw [readRbuf_recvBuffers, Queues.step]
  cases hready : Queues.ready lines d.recvBuffers with
  | none =>
      rw [if_neg (by simp)]
  | some i =>
      dsimp only
      by_cases hline : i = line
      · subst hline
        rw [if_pos rfl, Function.update_self]
      · rw [if_neg (by simpa using hline), Function.update_of_ne (Ne.symm hline)]

/-- What arrives is announced. -/
theorem interrupt_mem_poll
    (isConnected : Bool) {data : List Byte}
    (hdata : data ≠ [])
    (henabled : d.isRxInterruptEnabled = true) :
    interrupt false ∈ (d.poll line isConnected data).requests := by
  have hafter := d.poll_isRxInterruptEnabled line isConnected data
  rw [henabled] at hafter
  revert hafter
  unfold poll
  dsimp only
  intro hafter
  rw [if_pos ⟨hdata, hafter⟩]
  exact List.mem_singleton_self _

/-- A step signals for its own news if and only if it is careful. -/
theorem attentive_iff
    (a : DzAct) :
    (receive line).Attentive d a ↔ a.Careful line d := by
  cases a with
  | poll line' isConnected data =>
      refine iff_of_true ?_ trivial
      have henabled := d.poll_isRxInterruptEnabled line' isConnected data
      have hbuffers := congrFun (d.poll_recvBuffers line' isConnected data) line
      by_cases hdata : data = []
      · apply receiver_attentive_of_same henabled
        apply hbuffers.trans
        rw [hdata, List.append_nil, Function.update_eq_self]
      · refine receiver_attentive_iff.mpr fun _ _ hon _ => ?_
        exact d.interrupt_mem_poll line' isConnected hdata (henabled ▸ hon)
  | read addr =>
      have hon := d.readWord_isRxInterruptEnabled addr
      by_cases hrbuf : addr = rbuf
      · subst hrbuf
        apply receiver_attentive_iff.trans
        change ((_ ∧ (d.readWord rbuf).2.isRxInterruptEnabled = true) ∨
          NewOldest _ ((d.readWord rbuf).2.recvBuffers line) → _ →
          (d.readWord rbuf).2.isRxInterruptEnabled = true →
          (d.readWord rbuf).2.recvBuffers line ≠ [] →
          interrupt false ∈ []) ↔ _
        rw [readWord_rbuf, readRbuf_isRxInterruptEnabled,
          readRbuf_recvBuffers_line]
        constructor
        · intro h _ henabled hready
          rw [if_pos hready] at h
          by_contra hlength
          have htail : (d.recvBuffers line).tail ≠ [] := by
            rw [← List.length_pos_iff, List.length_tail]
            omega
          have hshorter : (d.recvBuffers line).tail.length <
              (d.recvBuffers line).length := by
            rw [List.length_tail]
            omega
          exact List.not_mem_nil
            (h (.inr ⟨htail, .inr hshorter⟩) rfl henabled htail)
        · rintro h (⟨hoff, henabled⟩ | hnew) _ henabled hbuffer
          · rw [hoff] at henabled
            cases henabled
          · split at hnew
            · rename_i hready
              have hlength := h rfl henabled hready
              rw [if_pos hready, ← List.length_pos_iff, List.length_tail]
                at hbuffer
              omega
            · exact absurd hnew (not_newOldest_self _)
      · refine iff_of_true ?_ fun h => absurd h hrbuf
        have hbuffers := congrFun (d.readWord_recvBuffers hrbuf) line
        refine receiver_attentive_iff.mpr ?_
        rintro (⟨hoff, henabled⟩ | hnew)
        · rw [hon henabled] at hoff
          cases hoff
        · change NewOldest _ ((d.readWord addr).2.recvBuffers line) at hnew
          rw [hbuffers] at hnew
          exact absurd hnew (not_newOldest_self _)
  | write addr v =>
      have hbuffers := congrFun (d.writeWord_recvBuffers addr v) line
      by_cases hcsr : regNr addr = 0
      · apply receiver_attentive_iff.trans
        change ((_ ∧ (d.writeWord addr v).dz11.isRxInterruptEnabled = true) ∨
          NewOldest _ ((d.writeWord addr v).dz11.recvBuffers line) → _ →
          (d.writeWord addr v).dz11.isRxInterruptEnabled = true →
          (d.writeWord addr v).dz11.recvBuffers line ≠ [] →
          interrupt false ∈ (d.writeWord addr v).requests) ↔ _
        rw [hbuffers, d.writeWord_csr_isRxInterruptEnabled v hcsr,
          d.interrupt_mem_writeWord_iff v hcsr, Bool.and_eq_true,
          decide_eq_true_iff, decide_eq_true_iff]
        constructor
        · intro h _ hrie hscan hoff
          rw [or_iff_not_imp_right]
          exact h (.inl ⟨hoff, hrie, hscan⟩) rfl ⟨hrie, hscan⟩
        · rintro h (⟨hoff, hrie, hscan⟩ | hnew) _ _ hbuffer
          · exact (h hcsr hrie hscan hoff).resolve_right hbuffer
          · exact absurd hnew (not_newOldest_self _)
      · refine iff_of_true ?_ fun h => absurd h hcsr
        exact receiver_attentive_of_same
          (d.writeWord_isRxInterruptEnabled v hcsr) hbuffers

end Dz11

end Multiplexer

section Runs

/-- In all states of a run no receive interrupt is lost. -/
def KeptThroughout
    {σ α : Type} (S : Notices.System σ α) (s : σ) (acts : List α) : Prop :=
  ∀ before, before <+: acts → S.NoneLost s before

/-- All steps of a run are careful. -/
def CarefulThroughout
    {σ α : Type} (S : Notices.System σ α) (careful : σ → α → Prop) (s : σ)
    (acts : List α) : Prop :=
  ∀ before a, before ++ [a] <+: acts → careful (S.run s before) a

/-- No interrupt is lost in a run if and only if all its steps are careful. -/
theorem keptThroughout_iff
    {σ α : Type} {S : Notices.System σ α} {careful : σ → α → Prop}
    (hsettled : S.Settled)
    (hcareful : ∀ s a, S.Attentive s a ↔ careful s a)
    {s : σ} (hstart : ¬ S.wants s) (acts : List α) :
    KeptThroughout S s acts ↔ CarefulThroughout S careful s acts := by
  refine (Notices.System.noneLost_iff hsettled hstart acts).trans ?_
  unfold CarefulThroughout
  simp only [hcareful]

/-- In every run of the terminal, the DC11 or the DZ11 the receive interrupts
are kept if and only if no step enables the interrupt behind input, and on the
DZ11 none reads a byte in front of another one. -/
theorem receive_interrupts_kept_iff
    (ttyRegisters : Fin 4 → Word) (ttyActs : List TtyAct)
    (dcRegisters : DcLine → DcRegister → Word) (dcLine : DcLine)
    (dcActs : List DcAct)
    (dzRegisters : Nat → Word) (dzLine : Line) (dzActs : List DzAct) :
    (KeptThroughout Tty.receive (Tty.constructed ttyRegisters) ttyActs ↔
      CarefulThroughout Tty.receive (fun t a => a.Careful t)
        (Tty.constructed ttyRegisters) ttyActs) ∧
    (KeptThroughout (Dc11Unit.receive dcLine)
        (Dc11Unit.constructed dcRegisters) dcActs ↔
      CarefulThroughout (Dc11Unit.receive dcLine)
        (fun d a => a.Careful dcLine d) (Dc11Unit.constructed dcRegisters)
        dcActs) ∧
    (KeptThroughout (Dz11.receive dzLine) (Dz11.constructed dzRegisters)
        dzActs ↔
      CarefulThroughout (Dz11.receive dzLine) (fun d a => a.Careful dzLine d)
        (Dz11.constructed dzRegisters) dzActs) := by
  refine ⟨?_, ?_, ?_⟩
  · exact keptThroughout_iff Tty.receive_settled Tty.attentive_iff
      (fun hwants => hwants.2.2 rfl) ttyActs
  · exact keptThroughout_iff (Dc11Unit.receive_settled dcLine)
      (fun d a => d.attentive_iff dcLine a) (fun hwants => hwants.2.2 rfl)
      dcActs
  · exact keptThroughout_iff (Dz11.receive_settled dzLine)
      (fun d a => d.attentive_iff dzLine a) (fun hwants => hwants.2.2 rfl)
      dzActs

/-- A character arrives before the guest enables the interrupt of the terminal
or of the DC11; two bytes arrive at the DZ11, and the guest reads one. -/
theorem receive_interrupts_lost :
    ¬ Tty.receive.NoneLost (Tty.constructed fun _ => 0)
      [.push 65, .notify, .write ⟨Tty.tks, by decide⟩ 64] ∧
    ¬ (Dc11Unit.receive 0).NoneLost (Dc11Unit.constructed fun _ _ => 0)
      [.poll 0 true [65], .write ⟨0o174000, by decide⟩ 64] ∧
    ¬ (Dz11.receive 0).NoneLost (Dz11.constructed fun _ => 0)
      [.write Dz11.csr 0x60, .poll 0 true [65, 66], .read Dz11.rbuf] := by
  refine ⟨fun h => ?_, fun h => ?_, fun h => ?_⟩
  · have hattentive := Notices.System.attentive_of_noneLost
      (S := Tty.receive) [.push 65, .notify]
      (.write ⟨Tty.tks, by decide⟩ 64) h
    have hcareful := (Tty.attentive_iff _ _).mp hattentive
    exact absurd (hcareful (by decide) (by decide) (by decide) (by decide))
      (by decide)
  · have hattentive := Notices.System.attentive_of_noneLost
      (S := Dc11Unit.receive 0) [.poll 0 true [65]]
      (.write ⟨0o174000, by decide⟩ 64) h
    have hcareful := (Dc11Unit.attentive_iff _ _ _).mp hattentive
    exact absurd (hcareful (by decide) (by decide) (by decide) (by decide))
      (by decide)
  · have hattentive := Notices.System.attentive_of_noneLost
      (S := Dz11.receive 0) [.write Dz11.csr 0x60, .poll 0 true [65, 66]]
      (.read Dz11.rbuf) h
    have hcareful := (Dz11.attentive_iff _ _ _).mp hattentive
    exact absurd (hcareful rfl (by decide) (by decide)) (by decide)

end Runs

end KekPdp11
