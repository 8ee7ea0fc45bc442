import KekPdp11.Deqna

/-!
# KEK PDP-11: the threads of the DEQNA

The thread of the CPU writes registers and runs the transmitter; the thread of
receiver_high delivers frames.  Both access the registers one atomic load,
store, and or or at a time, and a step of a thread makes one change to the
control and status register at most.  Between two such changes memory is read
and written a descriptor at a time.

A thread that runs alone does what the functions of the device do.
-/

namespace KekPdp11

/-- The place of the CPU in write_word and in the transmitter. -/
inductive CpuPoint where
  | idle
  /-- The old value has been loaded. -/
  | loaded (nr : Nat) (v old : Word)
  /-- The value has been stored. -/
  | stored (nr : Nat) (v old : Word)
  /-- The queue of the receiver has been tested. -/
  | tested (v old : Word) (queued : Bool)
  | transmitter
  | txLoop (p : PhysAddr) (buffer : List Byte)
  /-- A packet is complete at `p`. -/
  | txEnd (p next : PhysAddr) (buffer : List Byte)
  | txRaise (next : PhysAddr)
  | txInterrupt (next : PhysAddr)
  /-- After the loop. -/
  | txDone

/-- The place of receiver_high. -/
inductive ReceiverPoint where
  | waiting
  /-- The list has been found valid. -/
  | ready
  | rxLoop (p : PhysAddr) (frame : List Byte)
  | rxRaise
  | rxInterrupt
  /-- After the loop. -/
  | rxDone

structure DeqnaThreads where
  deqna : Deqna
  ram : Ram
  /-- The frames that went to the network. -/
  sent : List (List Byte)
  requests : List InterruptRequest
  cpu : CpuPoint
  receiver : ReceiverPoint

namespace Deqna

/-- An and into the control and status register. -/
def andCsr (q : Deqna) (bits : Word) : Deqna :=
  q.setRegister 7 (q.registers 7 &&& bits)

/-- The value of the control and status register after a write. -/
def newCsr (v old : Word) (queued : Bool) : Word :=
  let csr := v
  let csr := if v &&& 32768 ≠ 0 then csr &&& ~~~32768 else csr
  let csr := if v &&& 128 ≠ 0 then csr &&& ~~~128 else csr
  let csr := if v &&& 2 ≠ 0 then csr &&& ~~~2 else csr
  let csr := csr &&& ~~~0x7834
  let csr := csr ||| old &&& 0x7834
  let csr := csr &&& ~~~0x0800
  if queued then csr ||| 0x8000 else csr

/-- The registers after a hard reset. -/
def resetRegisters : Nat → Word
  | 6 => 0o774
  | 7 => 1 ||| 16 ||| 32 ||| 0x1000
  | _ => 0

def reset (q : Deqna) (hard : Bool) : Deqna where
  registers := if hard then resetRegisters else q.registers
  received := []

end Deqna

namespace DeqnaThreads

variable (s : DeqnaThreads)

/-- The control and status register. -/
def csr : Word :=
  s.deqna.registers 7

section Cpu

/-- The CPU begins a word write to a register. -/
def beginWrite (nr : Nat) (v : Word) : DeqnaThreads :=
  match s.cpu with
  | .idle => { s with cpu := .loaded nr v (s.deqna.registers nr) }
  | _ => s

/-- What write_word does to a register after the store. -/
def afterStore (nr : Nat) (v old : Word) : DeqnaThreads :=
  if nr = 7 then
    { s with cpu := .tested v old (decide (s.deqna.received ≠ [])) }
  else if nr = 3 then
    { s with deqna := s.deqna.andCsr (~~~32), cpu := .idle }
  else if nr = 5 then
    { s with deqna := s.deqna.andCsr (~~~16), cpu := .transmitter }
  else if nr = 6 then
    { s with
      deqna := s.deqna.setRegister 6 (s.deqna.registers 6 &&& 0x7fd)
      cpu := .idle }
  else
    { s with cpu := .idle }

/-- A pass of the transmitter's loop, up to the end of a packet. -/
def txPass (p : PhysAddr) (buffer : List Byte) : DeqnaThreads :=
  if p + 12 ≤ s.ram.size then
    let d := s.ram.descriptor p
    let busy := s.ram.writeUnibusWord p 0xffff
    if !d.isValid then
      { s with cpu := .txDone }
    else if !d.isChain && !TxState.fits d s.ram.size then
      { s with ram := busy, cpu := .txDone }
    else
      let buffer :=
        if d.isChain then buffer else buffer ++ TxState.collect d buffer busy
      { s with
        ram := busy.writeUnibusWord p (d.flags &&& ~~~0x4000)
        cpu :=
          if d.isEnd then .txEnd p (d.after p) buffer
          else .txLoop (d.after p) buffer }
  else
    { s with cpu := .txDone }

/-- The packet goes out and its descriptor gets its status. -/
def txEnd (p next : PhysAddr) (buffer : List Byte) : DeqnaThreads :=
  let t := TxState.push ⟨s.deqna, s.ram, buffer, s.sent, s.requests⟩
  { s with
    deqna := t.deqna
    ram := (t.ram.writeUnibusWord (p + 8) 0x2000).writeUnibusWord (p + 10) 0
    sent := t.sent
    requests := t.requests
    cpu := .txRaise next }

/-- A step of the CPU. -/
def cpuStep : DeqnaThreads :=
  match s.cpu with
  | .idle => s
  | .loaded nr v old =>
      { s with deqna := s.deqna.setRegister nr v, cpu := .stored nr v old }
  | .stored nr v old => s.afterStore nr v old
  | .tested v old queued =>
      { s with
        deqna := s.deqna.setRegister 7 (Deqna.newCsr v old queued)
        cpu := .idle }
  | .transmitter =>
      if s.deqna.registers 7 &&& 16 ≠ 0 then
        { s with cpu := .idle }
      else
        { s with cpu := .txLoop (s.deqna.listAddress 4) [] }
  | .txLoop p buffer => s.txPass p buffer
  | .txEnd p next buffer => s.txEnd p next buffer
  | .txRaise next =>
      { s with deqna := s.deqna.orCsr 128, cpu := .txInterrupt next }
  | .txInterrupt next =>
      { s with
        requests := s.requests ++ s.deqna.interruptRequests
        cpu := .txLoop next [] }
  | .txDone => { s with deqna := s.deqna.orCsr 16, cpu := .idle }

end Cpu

section Receiver

/-- A pass of the receiver's loop over the descriptors. -/
def rxPass (p : PhysAddr) (frame : List Byte) : DeqnaThreads :=
  if p + 12 ≤ s.ram.size then
    if !(s.ram.descriptor p).isValid then
      { s with receiver := .rxDone }
    else if !(s.ram.descriptor p).isChain then
      { s with ram := s.ram.deliver p frame, receiver := .rxRaise }
    else
      { s with receiver := .rxLoop (s.ram.descriptor p).chain frame }
  else
    { s with receiver := .rxDone }

/-- A frame is taken off the queue. -/
def pop : DeqnaThreads :=
  match s.deqna.received with
  | [] => { s with receiver := .waiting }
  | frame :: rest =>
      { s with
        deqna := { s.deqna with received := rest }
        receiver := .rxLoop (s.deqna.listAddress 2) frame }

/-- A step of receiver_high. -/
def receiverStep : DeqnaThreads :=
  match s.receiver with
  | .waiting =>
      if s.deqna.registers 7 &&& 32 ≠ 0 then s
      else { s with receiver := .ready }
  | .ready => s.pop
  | .rxLoop p frame => s.rxPass p frame
  | .rxRaise =>
      { s with deqna := s.deqna.orCsr 0x8000, receiver := .rxInterrupt }
  | .rxInterrupt =>
      { s with
        requests := s.requests ++ s.deqna.interruptRequests
        receiver := .rxDone }
  | .rxDone => { s with deqna := s.deqna.orCsr 32, receiver := .waiting }

end Receiver

/-- receiver_low queues a frame from the network, if the receiver is on. -/
def arrive (frame : List Byte) : DeqnaThreads :=
  if s.deqna.registers 7 &&& 1 ≠ 0 then
    { s with deqna := s.deqna.queueRxPacket frame }
  else
    s

end DeqnaThreads

/-- The steps that can be interleaved. -/
inductive DeqnaAct where
  | write (nr : Nat) (v : Word)
  | cpu
  | receiver
  | arrive (frame : List Byte)
  | reset (hard : Bool)

namespace DeqnaThreads

def step (s : DeqnaThreads) : DeqnaAct → DeqnaThreads
  | .write nr v => s.beginWrite nr v
  | .cpu => s.cpuStep
  | .receiver => s.receiverStep
  | .arrive frame => s.arrive frame
  | .reset hard => { s with deqna := s.deqna.reset hard }

def run (s : DeqnaThreads) (acts : List DeqnaAct) : DeqnaThreads :=
  acts.foldl step s

section Alone

/-- The variables of the transmitter in the place of its loop. -/
def ofTx (s : DeqnaThreads) (t : TxState) (point : CpuPoint) : DeqnaThreads :=
  { s with
    deqna := t.deqna
    ram := t.ram
    sent := t.sent
    requests := t.requests
    cpu := point }

theorem push_buffer
    (t : TxState) :
    t.push.buffer = [] := by
  unfold TxState.push
  split_ifs with h
  · exact h
  · rfl
  · rfl

/-- What the transmitter takes of a descriptor before the end of a packet. -/
def takeBuffer (t : TxState) (p : PhysAddr) : TxState :=
  let d := t.ram.descriptor p
  let busy := t.ram.writeUnibusWord p 0xffff
  { t with
    ram := busy.writeUnibusWord p (d.flags &&& ~~~0x4000)
    buffer :=
      if d.isChain then t.buffer
      else t.buffer ++ TxState.collect d t.buffer busy }

theorem txPass_takes
    (s : DeqnaThreads) {t : TxState} {p : PhysAddr}
    (hroom : p + 12 ≤ t.ram.size) (hvalid : (t.ram.descriptor p).isValid = true)
    (hfits : (!(t.ram.descriptor p).isChain &&
      !TxState.fits (t.ram.descriptor p) t.ram.size) = false) :
    (s.ofTx t (.txLoop p t.buffer)).txPass p t.buffer =
      s.ofTx (takeBuffer t p)
        (if (t.ram.descriptor p).isEnd then
          .txEnd p ((t.ram.descriptor p).after p) (takeBuffer t p).buffer
        else
          .txLoop ((t.ram.descriptor p).after p) (takeBuffer t p).buffer) := by
  have hinvalid : ¬ (!(t.ram.descriptor p).isValid) = true := by
    rw [hvalid]
    decide
  exact (if_pos hroom).trans
    ((if_neg hinvalid).trans (if_neg (Bool.not_eq_true _ ▸ hfits)))

/-- The steps of the CPU for a descriptor that the transmitter takes. -/
theorem cpu_takes
    (s : DeqnaThreads) {t : TxState} {p : PhysAddr}
    (hroom : p + 12 ≤ t.ram.size) (hvalid : (t.ram.descriptor p).isValid = true)
    (hfits : (!(t.ram.descriptor p).isChain &&
      !TxState.fits (t.ram.descriptor p) t.ram.size) = false) :
    ∃ n, cpuStep^[n] (s.ofTx t (.txLoop p t.buffer)) =
      s.ofTx (t.take p)
        (.txLoop ((t.ram.descriptor p).after p) (t.take p).buffer) := by
  have hpass : cpuStep (s.ofTx t (.txLoop p t.buffer)) = _ :=
    s.txPass_takes hroom hvalid hfits
  cases hend : (t.ram.descriptor p).isEnd with
  | false =>
      have htake : t.take p = takeBuffer t p := by
        unfold TxState.take
        dsimp only
        rw [hend]
        rfl
      refine ⟨1, ?_⟩
      rw [Function.iterate_one, hpass, hend, htake]
      rfl
  | true =>
      have htake : t.take p = (takeBuffer t p).finish p := by
        unfold TxState.take
        dsimp only
        rw [hend]
        rfl
      have hbuffer : ((takeBuffer t p).finish p).buffer = [] :=
        push_buffer _
      refine ⟨3 + 1, ?_⟩
      rw [Function.iterate_succ_apply, hpass, hend, htake, hbuffer]
      rfl

/-- The CPU that runs alone does the loop of the transmitter. -/
theorem cpu_txLoop
    (s : DeqnaThreads) {passes : Nat} {p : PhysAddr} {t t' : TxState}
    (h : txLoop passes p t = some t') :
    ∃ n, cpuStep^[n] (s.ofTx t (.txLoop p t.buffer)) = s.ofTx t' .txDone := by
  induction passes generalizing p t with
  | zero =>
      cases h
  | succ passes ih =>
      rw [txLoop] at h
      split at h
      · next hroom =>
          dsimp only at h
          split at h
          · next hinvalid =>
              cases h
              exact ⟨1, (if_pos hroom).trans (if_pos hinvalid)⟩
          · next hvalid =>
              split at h
              · next hunfit =>
                  cases h
                  exact ⟨1, (if_pos hroom).trans
                    ((if_neg hvalid).trans (if_pos hunfit))⟩
              · next hfits =>
                  obtain ⟨n, hn⟩ := s.cpu_takes hroom
                    (by simpa using hvalid) (Bool.not_eq_true _ ▸ hfits)
                  obtain ⟨m, hm⟩ := ih h
                  exact ⟨m + n, by rw [Function.iterate_add_apply, hn, hm]⟩
      · next hroom =>
          cases h
          exact ⟨1, if_neg hroom⟩

/-- Threads with nothing under way. -/
def atRest (q : Deqna) (r : Ram) : DeqnaThreads where
  deqna := q
  ram := r
  sent := []
  requests := []
  cpu := .idle
  receiver := .waiting

/-- The CPU that runs alone does the transmitter. -/
theorem cpu_transmitter
    {passes : Nat} {q : Deqna} {r : Ram} {t : TxState}
    (h : transmitter passes q r = some t) :
    ∃ n, cpuStep^[n] { atRest q r with cpu := .transmitter } =
      (atRest q r).ofTx t .idle := by
  unfold transmitter at h
  dsimp only at h
  by_cases hinvalid : q.registers 7 &&& 16 ≠ 0
  · rw [if_pos hinvalid] at h
    cases h
    exact ⟨1, if_pos hinvalid⟩
  · rw [if_neg hinvalid] at h
    obtain ⟨t', ht', rfl⟩ := Option.map_eq_some_iff.mp h
    obtain ⟨n, hn⟩ := (atRest q r).cpu_txLoop ht'
    refine ⟨n + 1 + 1, ?_⟩
    have hfirst : cpuStep { atRest q r with cpu := .transmitter } =
        (atRest q r).ofTx ⟨q, r, [], [], []⟩ (.txLoop (q.listAddress 4) []) :=
      if_neg hinvalid
    rw [Function.iterate_succ_apply', Function.iterate_succ_apply, hfirst, hn]
    rfl

/-- receiver_high that runs alone does the loop over the descriptors. -/
theorem receiver_rxLoop
    (s : DeqnaThreads) {passes : Nat} {p : PhysAddr} {frame : List Byte}
    {outcome : Ram × Bool} (h : rxLoop frame passes p s.ram = some outcome) :
    ∃ n, receiverStep^[n] { s with receiver := .rxLoop p frame } =
      { s with
        ram := outcome.1
        receiver := if outcome.2 then .rxRaise else .rxDone } := by
  induction passes generalizing p with
  | zero =>
      cases h
  | succ passes ih =>
      rw [rxLoop] at h
      split at h
      · next hroom =>
          split at h
          · next hinvalid =>
              cases h
              exact ⟨1, (if_pos hroom).trans (if_pos hinvalid)⟩
          · next hvalid =>
              split at h
              · next hbuffer =>
                  have hpass : receiverStep
                      { s with receiver := .rxLoop p frame } =
                      { s with
                        ram := s.ram.deliver p frame
                        receiver := .rxRaise } :=
                    (if_pos hroom).trans
                      ((if_neg hvalid).trans (if_pos hbuffer))
                  generalize s.ram.deliver p frame = r at h hpass
                  cases h
                  exact ⟨1, hpass⟩
              · next hchain =>
                  obtain ⟨n, hn⟩ := ih h
                  refine ⟨n + 1, ?_⟩
                  have hpass : receiverStep
                      { s with receiver := .rxLoop p frame } =
                      { s with
                        receiver := .rxLoop (s.ram.descriptor p).chain frame } :=
                    (if_pos hroom).trans
                      ((if_neg hvalid).trans (if_neg hchain))
                  rw [Function.iterate_succ_apply, hpass, hn]
      · next hroom =>
          cases h
          exact ⟨1, if_neg hroom⟩

/-- receiver_high that runs alone with a frame on the queue delivers it. -/
theorem receiver_alone
    {s : DeqnaThreads} {passes : Nat} {frame : List Byte}
    {rest : List (List Byte)} {e : DeqnaEffect}
    (hpoint : s.receiver = .ready) (hqueue : s.deqna.received = frame :: rest)
    (h : receiverHigh passes { s.deqna with received := rest } s.ram frame =
      some e) :
    ∃ n, receiverStep^[n] s =
      { s with
        deqna := e.deqna
        ram := e.ram
        requests := s.requests ++ e.requests
        receiver := .waiting } := by
  obtain ⟨outcome, houtcome, rfl⟩ := Option.map_eq_some_iff.mp h
  have hpop : receiverStep s =
      { s with
        deqna := { s.deqna with received := rest }
        receiver := .rxLoop (s.deqna.listAddress 2) frame } := by
    simp [receiverStep, hpoint, pop, hqueue]
  obtain ⟨n, hn⟩ := receiver_rxLoop
    { s with deqna := { s.deqna with received := rest } } houtcome
  cases hdelivered : outcome.2 with
  | false =>
      rw [hdelivered] at hn
      refine ⟨n + 1 + 1, ?_⟩
      rw [Function.iterate_succ_apply', Function.iterate_succ_apply, hpop]
      refine (congrArg receiverStep hn).trans ?_
      simp [receiverStep]
  | true =>
      rw [hdelivered] at hn
      refine ⟨n + 1 + 1 + 1 + 1, ?_⟩
      rw [Function.iterate_succ_apply', Function.iterate_succ_apply',
        Function.iterate_succ_apply', Function.iterate_succ_apply, hpop]
      exact congrArg (receiverStep ∘ receiverStep ∘ receiverStep) hn

end Alone

end DeqnaThreads

end KekPdp11
