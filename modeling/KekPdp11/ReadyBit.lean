import KekPdp11.HeadPosition

/-!
# KEK PDP-11: the ready bit of the RL02

A program starts a command by writing RLCS with the controller-ready bit clear.
write_word works this out (do_exec) and does not look at it again: a write of
the whole word or of the low byte runs the command in every case, and a write
of the high byte runs it in none.

* `start_of_idle`: a command that finds nothing to do.
* `untouched_start_iff`: only such a command has no effect.
* `starts_when_ready_iff`: when a write obeys the ready bit.
-/

namespace KekPdp11

open StateExcept

namespace Rl02

variable {β : Type}

section Writes

/-- A write to RLCS: the word or one of its bytes. -/
inductive RlcsWrite where
  | word (v : Word)
  | low (v : Byte)
  | high (v : Byte)

namespace RlcsWrite

def access : RlcsWrite → GuestAccess
  | .word v => .writeWord RL02_CSR v
  | .low v => .writeByte RL02_CSR v
  | .high v => .writeByte (RL02_CSR + 1) v

/-- What RLCS is written with. -/
def written (w : RlcsWrite) (c : Rl02) : Word :=
  match w with
  | .word v => v
  | .low v => updateWord (c.get RL02_CSR) false v
  | .high v => updateWord (c.get RL02_CSR) true v

/-- The write is one of the high byte. -/
def isHigh : RlcsWrite → Bool
  | .high _ => true
  | _ => false

end RlcsWrite

/-- The calls of drives in a log. -/
def driveCalls (log : List DiskEvent) : List DiskEvent :=
  log.filter fun e =>
    match e with
    | .call _ _ _ _ => true
    | _ => false

/-- No command has been executed. -/
structure Untouched (s t : Bench Rl02 β) : Prop where
  calls : driveCalls t.trace = driveCalls s.trace
  ram : t.ram = s.ram
  track : t.controller.track = s.controller.track
  head : t.controller.head = s.controller.head
  sector : t.controller.sector = s.controller.sector
  mpr : t.controller.mpr = s.controller.mpr
  requests : t.requests = s.requests

/-- The state in which a command starts. -/
def loadCsr (v : Word) (s : Bench Rl02 β) : Bench Rl02 β :=
  { s with controller := s.controller.set RL02_CSR v }

variable [DiskBackend β]

/-- The function that a word selects, and its interrupt. -/
def start (v : Word) : Command Rl02 β Unit := do
  let doInt ← execute (selected v) ((v >>> 1) &&& 7).toNat
  let enabled ← controllerView fun c =>
    decide (c.get RL02_CSR &&& 64 ≠ 0)
  if doInt && enabled then
    queueInterrupt 5 0o160
  else
    pure ()

/-- With the ready bit set no command is executed, with the bit clear the
selected function runs once. -/
def StartsWhenReady (w : RlcsWrite) (s : Bench Rl02 β) : Prop :=
  let v := w.written s.controller
  if v &&& 128 ≠ 0 then
    Untouched s (final (w.access.perform s))
  else
    w.access.perform s = start v (loadCsr v s)

/-- A write of the word or its low byte runs the function in every case. -/
theorem perform_low
    {w : RlcsWrite} (h : w.isHigh = false) (s : Bench Rl02 β) :
    w.access.perform s =
      start (w.written s.controller)
        (loadCsr (w.written s.controller) s) := by
  cases w with
  | word v =>
      rfl
  | low v =>
      rfl
  | high v =>
      cases h

/-- A write of the high byte runs it in none. -/
theorem perform_high
    {w : RlcsWrite} (h : w.isHigh = true) (s : Bench Rl02 β) :
    w.access.perform s =
      .ok () (loadCsr (w.written s.controller) s) := by
  cases w with
  | word v =>
      cases h
  | low v =>
      cases h
  | high v =>
      rfl

end Writes

section Idle

/-- The status that get status reports. -/
def statusWord (c : Rl02) : Word :=
  5 ||| (1#16 <<< 3) ||| (1#16 <<< 4) ||| (BitVec.ofNat 16 c.head <<< 6) |||
    (1#16 <<< 7)

/-- The signed distance that a disk address register asks a seek for. -/
def seekDistance (dar : Word) : Int :=
  (dar >>> 7).toNat * (if dar &&& 4 ≠ 0 then 1 else -1)

/-- The heads are where a seek takes them: at no distance, or at the end of the
disk that the seek would go past. -/
def SeeksNowhere (c : Rl02) : Prop :=
  0 ≤ c.track ∧ c.track < rl02TrackCount ∧
    (seekDistance (c.get RL02_DAR) = 0 ∨
      (c.track = 0 ∧ seekDistance (c.get RL02_DAR) < 0) ∨
      (c.track = (rl02TrackCount : Int) - 1 ∧ 0 < seekDistance (c.get RL02_DAR)))

/-- The heads are where the disk address register says. -/
def AtAddress (c : Rl02) : Prop :=
  c.sector = (c.get RL02_DAR &&& 63).toNat ∧
    c.head = ((c.get RL02_DAR >>> 6) &&& 1).toNat ∧
    c.track = (c.get RL02_DAR >>> 7).toNat

/-- A transfer of no bytes, to where the heads are. -/
def MovesNothing (c : Rl02) : Prop :=
  AtAddress c ∧ c.get RL02_MPR = 0x8000

/-- The function that the word selects finds nothing to do. -/
def Idle (v : Word) (s : Bench Rl02 β) : Prop :=
  if s.fhs.length ≤ selected v then
    v &&& 64 = 0
  else
    match ((v >>> 1) &&& 7).toNat with
    | 2 => s.controller.mpr 0 = s.controller.statusWord ∧
        s.controller.mpr 1 = s.controller.statusWord
    | 3 => v &&& 64 = 0 ∧ s.controller.SeeksNowhere
    | 4 => v &&& 64 = 0 ∧ s.controller.mpr 0 = s.controller.headerWord ∧
        s.controller.mpr 1 = 0 ∧ s.controller.mpr 2 = 0
    | 5 => v &&& 64 = 0 ∧ s.controller.MovesNothing
    | 6 | 7 => v &&& 64 = 0 ∧ s.controller.AtAddress ∧
        (s.controller.get RL02_MPR = 0x8000 ∨
          (s.drive (selected v)).isSome = false)
    | _ => True

/-- What an idle function leaves: a drive that is not there is noted in RLCS. -/
def idled (v : Word) (s : Bench Rl02 β) : Bench Rl02 β :=
  if s.fhs.length ≤ selected v then
    loadCsr (v ||| ((1#16 <<< 10) ||| (1#16 <<< 15))) s
  else
    loadCsr v s

theorem seek_track_iff
    (c : Rl02) :
    c.seek.track = c.track ↔ c.SeeksNowhere := by
  have hseek : c.seek.track =
      if c.track + seekDistance (c.get RL02_DAR) < 0 then (0 : Int)
      else if (rl02TrackCount : Int) ≤
        c.track + seekDistance (c.get RL02_DAR) then (rl02TrackCount : Int) - 1
      else c.track + seekDistance (c.get RL02_DAR) := rfl
  rw [hseek]
  unfold SeeksNowhere rl02TrackCount
  split_ifs <;> omega

theorem setMpr_self
    {c : Rl02} {i : Nat} {v : Word} (h : c.mpr i = v) :
    c.setMpr i v = c := by
  subst h
  unfold setMpr
  rw [Function.update_eq_self]

theorem getStatus_of_shown
    {c : Rl02} (h : c.mpr 0 = c.statusWord) (h' : c.mpr 1 = c.statusWord) :
    c.getStatus = c := by
  change (c.setMpr 0 c.statusWord).setMpr 1 c.statusWord = c
  rw [setMpr_self h, setMpr_self h']

theorem readHeader_of_shown
    {c : Rl02} (h : c.mpr 0 = c.headerWord) (h' : c.mpr 1 = 0)
    (h'' : c.mpr 2 = 0) :
    c.readHeader = c := by
  unfold readHeader
  rw [setMpr_self h, setMpr_self h', setMpr_self h'']

theorem seek_of_nowhere
    {c : Rl02} (h : c.SeeksNowhere) :
    c.seek = c := by
  have htrack := (seek_track_iff c).mpr h
  calc c.seek = { c with track := c.seek.track } := rfl
    _ = c := by rw [htrack]

theorem position_eq_iff
    (c : Rl02) :
    c.position (c.get RL02_DAR) = c ↔ c.AtAddress := by
  obtain ⟨registers, xferBuffer, track, head, sector, mpr⟩ := c
  unfold position AtAddress
  dsimp only
  rw [Rl02.mk.injEq]
  constructor
  · rintro ⟨-, -, htrack, hhead, hsector, -⟩
    exact ⟨hsector.symm, hhead.symm, htrack.symm⟩
  · rintro ⟨hsector, hhead, htrack⟩
    exact ⟨rfl, rfl, htrack.symm, hhead.symm, hsector.symm, rfl⟩

theorem byteCount_eq_zero_iff
    (w : Word) :
    byteCount w = 0 ↔ w = 0x8000 := by
  have hw := w.isLt
  have heq : w = 0x8000 ↔ w.toNat = 32768 := by
    rw [← BitVec.toNat_inj]
    rfl
  rw [heq]
  unfold byteCount
  dsimp only
  split <;> omega

end Idle

section Counting

variable {device k : Nat}

/-- The number of calls of drives so far. -/
def callCount (s : Bench Rl02 β) : Nat :=
  (driveCalls s.trace).length

theorem callCount_log
    (e : DiskEvent) (log : List DiskEvent) :
    (driveCalls log).length ≤ (driveCalls (e :: log)).length :=
  (List.Sublist.filter _ (List.sublist_cons_self e log)).length_le

theorem count_modifyController
    (f : Rl02 → Rl02) :
    Keeps (fun s => k ≤ callCount s)
      (modifyController f : Command Rl02 β Unit) :=
  .update fun _ hs => hs

theorem count_storeBytes
    (memory : PhysAddr) (buffer : Buffer) (n i : Nat) :
    Keeps (fun s => k ≤ callCount s)
      (storeBytes memory buffer n i : Command Rl02 β Unit) := by
  induction n generalizing i with
  | zero =>
      exact .pure fun _ hs => hs
  | succ n ih =>
      refine .bind (Q := fun _ s => k ≤ callCount s) ?_ fun _ => ih _
      exact .update fun s hs => hs.trans (callCount_log _ _)

theorem count_loadBytes
    (memory : PhysAddr) (n i : Nat) (buffer : Buffer) :
    Keeps (fun s => k ≤ callCount s)
      (loadBytes memory n i buffer : Command Rl02 β Buffer) := by
  induction n generalizing i buffer with
  | zero =>
      exact .pure fun _ hs => hs
  | succ n ih =>
      refine .bind (Q := fun _ s => k ≤ callCount s) ?_ fun v => ih _ _
      refine .view_bind_any fun v => ?_
      refine .bind (Q := fun _ s => k ≤ callCount s) ?_ fun _ =>
        .pure fun _ hs => hs
      exact .update fun s hs => hs.trans (callCount_log _ _)

theorem count_driveLoaded :
    Keeps (fun s => k ≤ callCount s)
      (driveLoaded device : Command Rl02 β Bool) := by
  refine .view_bind_any fun drive => ?_
  cases drive with
  | none =>
      exact .raise fun _ hs => hs
  | some drive =>
      exact .pure fun _ hs => hs

/-- A call of a loaded drive is counted. -/
theorem count_callDrive_loaded
    {α : Type} {call : DiskCall β α} {log : Option α → List DiskEvent}
    (hlog : ∀ answer, (driveCalls (log answer)).length = 1) :
    Triple (fun s => (s.drive device).isSome = true ∧ k ≤ callCount s)
      (callDrive device call log : Command Rl02 β α)
      (fun _ s => k + 1 ≤ callCount s) (fun _ s => k + 1 ≤ callCount s) := by
  rintro s ⟨hloaded, hs⟩
  obtain ⟨answer, t, -, htrace, hrun⟩ := callDrive_of_loaded call log hloaded
  have hcount : k + 1 ≤ callCount t := by
    unfold callCount driveCalls at *
    rw [htrace, List.filter_append, List.length_append]
    have := hlog answer
    omega
  cases answer with
  | some a =>
      rw [hrun]
      exact hcount
  | none =>
      obtain ⟨e, hrun⟩ := hrun
      rw [hrun]
      exact hcount

/-- A call of any drive uncounts none. -/
theorem count_callDrive
    {α : Type} {call : DiskCall β α} {log : Option α → List DiskEvent}
    (hlog : ∀ answer, (driveCalls (log answer)).length = 1) :
    Keeps (fun s => k ≤ callCount s)
      (callDrive device call log : Command Rl02 β α) := by
  intro s hs
  cases hloaded : (s.drive device).isSome with
  | false =>
      unfold callDrive
      split
      · exact hs
      · exact hs
      · next b hdrive =>
          unfold Bench.drive at hloaded
          rw [hdrive] at hloaded
          cases hloaded
  | true =>
      exact (count_callDrive_loaded (k := k) hlog).weaken
        (fun _ ht => ht) (fun _ _ ht => Nat.le_of_succ_le ht)
        (fun _ _ ht => Nat.le_of_succ_le ht) s ⟨hloaded, hs⟩

theorem length_readLog
    (offset n sectorSize : Nat) (answer : Option (Bool × Buffer)) :
    (driveCalls (readLog offset n sectorSize answer)).length = 1 := by
  rcases answer with _ | ⟨_ | _, t⟩ <;> rfl

theorem length_writeLog
    (offset n : Nat) (source : Buffer) (sectorSize : Nat)
    (answer : Option Bool) :
    (driveCalls (writeLog offset n source sectorSize answer)).length = 1 := by
  rcases answer with _ | _ | _ <;> rfl

variable [DiskBackend β]

theorem count_readPiece
    (memory disk : BitVec 32) (cur left : Nat) :
    Keeps (fun s => k ≤ callCount s)
      (readPiece device memory disk cur left () :
        Command Rl02 β (Bool × Unit)) := by
  refine .view_bind_any fun buffer => ?_
  refine .bind (Q := fun _ s => k ≤ callCount s) ?_ fun result => ?_
  · refine .bind count_driveLoaded fun present => ?_
    exact .ite (fun _ => .pure fun _ hs => hs) fun _ =>
      count_callDrive (length_readLog _ _ _)
  · refine .bind (count_modifyController _) fun _ => ?_
    refine .ite (fun _ => .pure fun _ hs => hs) fun _ => ?_
    refine .bind (count_storeBytes _ _ _ _) fun _ => ?_
    exact .bind (count_modifyController _) fun _ => .pure fun _ hs => hs

theorem count_writePiece
    (memory disk : BitVec 32) (cur left : Nat) :
    Keeps (fun s => k ≤ callCount s)
      (writePiece device memory disk cur left () :
        Command Rl02 β (Bool × Unit)) := by
  refine .view_bind_any fun buffer => ?_
  refine .bind (count_loadBytes _ _ _ _) fun buffer => ?_
  refine .bind (count_modifyController _) fun _ => ?_
  refine .bind (Q := fun _ s => k ≤ callCount s) ?_ fun ok => ?_
  · refine .bind count_driveLoaded fun present => ?_
    exact .ite (fun _ => .pure fun _ hs => hs) fun _ =>
      count_callDrive (length_writeLog _ _ _ _)
  · refine .ite (fun _ => .pure fun _ hs => hs) fun _ => ?_
    exact .bind (count_modifyController _) fun _ => .pure fun _ hs => hs

omit [DiskBackend β] in
theorem count_ifLoaded
    {α : Type} {call : Command Rl02 β α} (a : α)
    (hcall : Triple
      (fun s => (s.drive device).isSome = true ∧ k ≤ callCount s) call
      (fun _ s => k + 1 ≤ callCount s) (fun _ s => k + 1 ≤ callCount s)) :
    Triple (fun s => (s.drive device).isSome = true ∧ k ≤ callCount s)
      (do
        let present ← driveLoaded device
        if !present then
          pure a
        else
          call)
      (fun _ s => k + 1 ≤ callCount s) (fun _ s => k + 1 ≤ callCount s) := by
  rintro s ⟨hloaded, hs⟩
  rw [bind_of_ok (driveLoaded_of_loaded hloaded)]
  exact hcall s ⟨hloaded, hs⟩

/-- A piece of a transfer from a loaded drive calls it. -/
theorem count_readPiece_loaded
    (memory disk : BitVec 32) (cur left : Nat) :
    Triple (fun s => (s.drive device).isSome = true ∧ k ≤ callCount s)
      (readPiece device memory disk cur left () :
        Command Rl02 β (Bool × Unit))
      (fun _ s => k + 1 ≤ callCount s) (fun _ s => k + 1 ≤ callCount s) := by
  refine .view_bind_any fun buffer => ?_
  refine .bind (count_ifLoaded _
    (count_callDrive_loaded (length_readLog _ _ _))) fun result => ?_
  refine .bind (count_modifyController _) fun _ => ?_
  refine .ite (fun _ => .pure fun _ hs => hs) fun _ => ?_
  refine .bind (count_storeBytes _ _ _ _) fun _ => ?_
  exact .bind (count_modifyController _) fun _ => .pure fun _ hs => hs

theorem count_writePiece_loaded
    (memory disk : BitVec 32) (cur left : Nat) :
    Triple (fun s => (s.drive device).isSome = true ∧ k ≤ callCount s)
      (writePiece device memory disk cur left () :
        Command Rl02 β (Bool × Unit))
      (fun _ s => k + 1 ≤ callCount s) (fun _ s => k + 1 ≤ callCount s) := by
  refine .view_bind_any fun buffer => ?_
  refine .bind (Q := fun _ s => (s.drive device).isSome = true ∧
    k ≤ callCount s) ?_ fun buffer => ?_
  · rintro s ⟨hloaded, hs⟩
    obtain ⟨buffer', t, ht, -, hmoved⟩ := loadBytes_moved memory cur 0 buffer s
    have hcount := (count_loadBytes memory cur 0 buffer).ok hs ht
    rw [ht]
    refine ⟨?_, hcount⟩
    unfold Bench.drive at hloaded ⊢
    rw [hmoved.fhs]
    exact hloaded
  · refine .bind (Q := fun _ s => (s.drive device).isSome = true ∧
      k ≤ callCount s) (.update fun s hs => hs) fun _ => ?_
    refine .bind (count_ifLoaded _
      (count_callDrive_loaded (length_writeLog _ _ _ _))) fun ok => ?_
    refine .ite (fun _ => .pure fun _ hs => hs) fun _ => ?_
    exact .bind (count_modifyController _) fun _ => .pure fun _ hs => hs

omit [DiskBackend β] in
/-- A transfer of some bytes calls the drive that it is for. -/
theorem callCount_lt_transfer
    {piece : (memory disk : BitVec 32) → (cur left : Nat) → Unit →
      Command Rl02 β (Bool × Unit)}
    (hkeeps : ∀ k memory disk cur left,
      Keeps (fun s => k ≤ callCount s) (piece memory disk cur left ()))
    (hcalls : ∀ k memory disk cur left,
      Triple (fun s => (s.drive device).isSome = true ∧ k ≤ callCount s)
        (piece memory disk cur left ())
        (fun _ s => k + 1 ≤ callCount s) (fun _ s => k + 1 ≤ callCount s))
    {s : Bench Rl02 β} (hloaded : (s.drive device).isSome = true)
    (hcount : byteCount (s.controller.get RL02_MPR) ≠ 0) :
    callCount s < callCount (final (transfer piece s)) := by
  obtain ⟨passes, hpasses⟩ := Nat.exists_eq_succ_of_ne_zero hcount
  have hloop : Triple
      (fun t => (t.drive device).isSome = true ∧ callCount s ≤ callCount t)
      (transferLoop rl02BytesPerSector piece
        (byteCount (s.controller.get RL02_MPR)) s.controller.getBusAddress
        (s.controller.position (s.controller.get RL02_DAR)).calcOffset
        (byteCount (s.controller.get RL02_MPR)) ())
      (fun _ t => callCount s + 1 ≤ callCount t)
      (fun _ t => callCount s + 1 ≤ callCount t) := by
    rw [hpasses]
    refine .ite (fun h => absurd h (Nat.succ_ne_zero _)) fun _ => ?_
    refine .bind (hcalls _ _ _ _ _) fun result => ?_
    exact .ite (fun _ => transferLoop_upholds (hkeeps _) _ _ _ _ _) fun _ =>
      .pure fun _ ht => ht
  have hrun := hloop
    { s with controller := s.controller.position (s.controller.get RL02_DAR) }
    ⟨hloaded, Nat.le_refl _⟩
  change callCount s < callCount (final (transferLoop _ _ _ _ _ _ _ _))
  revert hrun
  cases transferLoop rl02BytesPerSector piece
        (byteCount (s.controller.get RL02_MPR)) s.controller.getBusAddress
        (s.controller.position (s.controller.get RL02_DAR)).calcOffset
        (byteCount (s.controller.get RL02_MPR)) ()
      { s with
        controller := s.controller.position (s.controller.get RL02_DAR) } with
  | ok a t =>
      exact id
  | error e t =>
      exact id

end Counting

section Functions

variable {device n : Nat} {s : Bench Rl02 β} {v : Word}

/-- The address, the count and the control register with another word in
RLCS. -/
theorem get_loadCsr
    (v : Word) (s : Bench Rl02 β) :
    (loadCsr v s).controller.get RL02_CSR = v := by
  unfold loadCsr get set
  dsimp only
  rw [Function.update_self]

theorem driveLoaded_of_unloaded
    (hpresent : device < s.fhs.length)
    (h : (s.drive device).isSome = false) :
    driveLoaded device s = .ok false s := by
  unfold driveLoaded
  rw [view_bind_apply]
  unfold Bench.drive at h
  rw [List.getElem?_eq_getElem hpresent] at h ⊢
  exact congrArg (fun b => EStateM.Result.ok b s) h

/-- A transfer of no bytes. -/
theorem transfer_of_no_bytes
    (piece : (memory disk : BitVec 32) → (cur left : Nat) → Unit →
      Command Rl02 β (Bool × Unit))
    (h : byteCount (s.controller.get RL02_MPR) = 0) :
    transfer piece s = .ok ()
      { s with
        controller := s.controller.position (s.controller.get RL02_DAR) } := by
  change transferLoop _ piece (byteCount (s.controller.get RL02_MPR)) _ _
    (byteCount (s.controller.get RL02_MPR)) () _ = _
  rw [h]
  rfl

variable [DiskBackend β]

/-- A read from a drive that is not loaded. -/
theorem transfer_of_unloaded
    (hpresent : device < s.fhs.length)
    (h : (s.drive device).isSome = false) :
    transfer (readPiece device) s = .ok ()
      { s with
        controller := s.controller.position (s.controller.get RL02_DAR) } := by
  cases hcount : byteCount (s.controller.get RL02_MPR) with
  | zero =>
      exact transfer_of_no_bytes _ hcount
  | succ passes =>
      change transferLoop _ (readPiece device)
        (byteCount (s.controller.get RL02_MPR)) _ _
        (byteCount (s.controller.get RL02_MPR)) ()
        { s with
          controller := s.controller.position (s.controller.get RL02_DAR) } = _
      rw [hcount]
      generalize hs' :
        ({ s with
          controller := s.controller.position (s.controller.get RL02_DAR) } :
            Bench Rl02 β) = s'
      have hloaded : driveLoaded device s' = .ok false s' := by
        subst hs'
        exact driveLoaded_of_unloaded hpresent h
      have hread : ∀ (disk cur : Nat) (buffer : Buffer),
          readLoaded device disk cur buffer s' = .ok (false, buffer) s' := by
        intro disk cur buffer
        unfold readLoaded
        rw [bind_of_ok hloaded]
        rfl
      have hpiece : ∀ memory disk cur left,
          readPiece device memory disk cur left () s' =
            .ok (false, ()) s' := by
        intro memory disk cur left
        unfold readPiece controllerView
        rw [view_bind_apply, bind_of_ok (hread _ _ _)]
        rfl
      unfold transferLoop
      rw [ite_apply_state, if_neg (Nat.succ_ne_zero _)]
      dsimp only
      rw [bind_of_ok (hpiece _ _ _ _)]
      rfl

theorem writePiece_of_unloaded
    (hpresent : device < s.fhs.length)
    (h : (s.drive device).isSome = false)
    (memory disk : BitVec 32) (cur left : Nat) :
    ∃ t, writePiece device memory disk cur left () s = .ok (false, ()) t ∧
      t.controller.mpr 0 =
        s.controller.mpr 0 + BitVec.ofNat 16 (cur / 2) := by
  obtain ⟨buffer, t, ht, -, hmoved⟩ := loadBytes_moved memory cur 0
    s.controller.xferBuffer s
  let t' : Bench Rl02 β :=
    { t with
      controller :=
        { t.controller.setMpr 0
            (t.controller.mpr 0 + BitVec.ofNat 16 (cur / 2)) with
          xferBuffer := buffer } }
  have hloaded : driveLoaded device t' = .ok false t' := by
    refine driveLoaded_of_unloaded ?_ ?_
    · change device < t.fhs.length
      rw [hmoved.fhs]
      exact hpresent
    · change (t.fhs[device]?).join.isSome = false
      rw [hmoved.fhs]
      exact h
  refine ⟨t', ?_, ?_⟩
  · unfold writePiece controllerView
    rw [view_bind_apply, bind_of_ok ht]
    unfold modifyController
    rw [update_bind_apply]
    have hwrite : writeLoaded device disk.toNat cur buffer t' =
        .ok false t' := by
      unfold writeLoaded
      rw [bind_of_ok hloaded]
      rfl
    exact bind_of_ok hwrite
  · change Function.update t.controller.mpr 0
      (t.controller.mpr 0 + BitVec.ofNat 16 (cur / 2)) 0 = _
    rw [Function.update_self, hmoved.controller]

/-- A write to a drive that is not loaded counts the words that it takes from
memory. -/
theorem transfer_write_of_unloaded
    (hpresent : device < s.fhs.length)
    (h : (s.drive device).isSome = false)
    (hcount : byteCount (s.controller.get RL02_MPR) ≠ 0) :
    ∃ t, transfer (writePiece device) s = .ok () t ∧
      t.controller.mpr 0 ≠ s.controller.mpr 0 := by
  obtain ⟨passes, hpasses⟩ := Nat.exists_eq_succ_of_ne_zero hcount
  have heven : 2 ≤ byteCount (s.controller.get RL02_MPR) := by
    revert hcount
    unfold byteCount
    dsimp only
    split <;> omega
  let s' : Bench Rl02 β :=
    { s with controller := s.controller.position (s.controller.get RL02_DAR) }
  obtain ⟨t, ht, hmpr⟩ := writePiece_of_unloaded (s := s') hpresent h
    s.controller.getBusAddress
    (s.controller.position (s.controller.get RL02_DAR)).calcOffset
    (min rl02BytesPerSector (byteCount (s.controller.get RL02_MPR)))
    (byteCount (s.controller.get RL02_MPR))
  refine ⟨t, ?_, ?_⟩
  · change transferLoop _ (writePiece device)
      (byteCount (s.controller.get RL02_MPR)) _ _
      (byteCount (s.controller.get RL02_MPR)) () s' = _
    rw [hpasses] at ht ⊢
    unfold transferLoop
    rw [ite_apply_state, if_neg (Nat.succ_ne_zero _)]
    dsimp only
    rw [bind_of_ok ht]
    rfl
  · have hmpr' : t.controller.mpr 0 = s.controller.mpr 0 + _ := hmpr
    rw [hmpr']
    generalize hcur : min rl02BytesPerSector
      (byteCount (s.controller.get RL02_MPR)) = cur
    unfold rl02BytesPerSector at hcur
    intro heq
    have hzero := congrArg BitVec.toNat heq
    rw [BitVec.toNat_add, BitVec.toNat_ofNat] at hzero
    have := (s.controller.mpr 0).isLt
    omega

end Functions

section Starting

variable [DiskBackend β] {device n : Nat} {v : Word} {s t : Bench Rl02 β}

/-- The functions of a drive that is there. -/
def function (device n : Nat) : Command Rl02 β Bool :=
  match n with
  | 2 => do
      modifyController getStatus
      pure false
  | 3 => do
      modifyController seek
      pure true
  | 4 => do
      modifyController readHeader
      pure true
  | 5 => do
      transfer (writePiece device)
      pure true
  | 6 | 7 => do
      transfer (readPiece device)
      pure true
  | _ => pure false

theorem execute_of_present
    (h : device < s.fhs.length) :
    execute device n s = function device n s := by
  unfold execute driveExists
  rw [view_bind_apply, decide_eq_true h]
  rfl

theorem execute_of_missing
    (h : s.fhs.length ≤ device) :
    execute device n s = .ok true
      { s with
        controller := s.controller.modify RL02_CSR
          (· ||| ((1#16 <<< 10) ||| (1#16 <<< 15))) } := by
  unfold execute driveExists
  rw [view_bind_apply, decide_eq_false (Nat.not_lt.mpr h)]
  rfl

/-- The end of write_word behind a function that returns. -/
def concluded (doInt : Bool) (t : Bench Rl02 β) : Bench Rl02 β :=
  if doInt && decide (t.controller.get RL02_CSR &&& 64 ≠ 0) then
    { t with requests := .queue 5 0o160 :: t.requests }
  else
    t

theorem start_of_ok
    {doInt : Bool}
    (h : execute (selected v) ((v >>> 1) &&& 7).toNat (loadCsr v s) =
      .ok doInt t) :
    start v (loadCsr v s) = .ok () (concluded doInt t) := by
  unfold start controllerView
  rw [bind_of_ok h, view_bind_apply, ite_apply_state]
  unfold concluded
  split
  · rfl
  · rfl

omit [DiskBackend β] in
theorem controller_concluded
    (doInt : Bool) (t : Bench Rl02 β) :
    (concluded doInt t).controller = t.controller := by
  unfold concluded
  split <;> rfl

omit [DiskBackend β] in
/-- A function that has not asked for an interrupt, and has changed nothing
else. -/
theorem untouched_concluded
    {doInt : Bool} (hrequests : t.requests = s.requests)
    (h : Untouched s (concluded doInt t)) :
    Untouched s t ∧
      (doInt = true → t.controller.get RL02_CSR &&& 64 = 0) := by
  unfold concluded at h
  split at h
  · have hcons := h.requests
    rw [hrequests] at hcons
    exact absurd hcons (List.cons_ne_self _ _)
  · next hquiet =>
      refine ⟨h, fun hdo => ?_⟩
      rw [hdo] at hquiet
      simpa using hquiet

omit [DiskBackend β] in
theorem concluded_of_quiet
    {doInt : Bool}
    (h : doInt = true → t.controller.get RL02_CSR &&& 64 = 0) :
    concluded doInt t = t := by
  refine if_neg fun hc => ?_
  rw [Bool.and_eq_true, decide_eq_true_eq] at hc
  exact hc.2 (h hc.1)

/-- The bits of a missing drive are not the interrupt enable bit. -/
theorem errorBits_and_enable
    (v : Word) :
    (v ||| ((1#16 <<< 10) ||| (1#16 <<< 15))) &&& 64 = v &&& 64 := by
  ext i hi
  interval_cases i <;> simp

omit [DiskBackend β] in
theorem modify_loadCsr
    (v : Word) (f : Word → Word) (s : Bench Rl02 β) :
    { loadCsr v s with
      controller := (loadCsr v s).controller.modify RL02_CSR f } =
      loadCsr (f v) s := by
  unfold modify
  rw [get_loadCsr]
  unfold loadCsr set
  dsimp only
  rw [Function.update_idem]

omit [DiskBackend β] in
/-- A transfer that only moves the heads, to where they are. -/
theorem transfer_of_idle
    {m : Command Rl02 β Unit}
    (h : m (loadCsr v s) = .ok ()
      { loadCsr v s with
        controller := (loadCsr v s).controller.position
          ((loadCsr v s).controller.get RL02_DAR) })
    (hat : s.controller.AtAddress) :
    m (loadCsr v s) = .ok () (loadCsr v s) := by
  have hposition := (position_eq_iff (loadCsr v s).controller).mpr hat
  rw [hposition] at h
  exact h

theorem readsNothing
    (hlt : selected v < (loadCsr v s).fhs.length)
    (h : s.controller.get RL02_MPR = 0x8000 ∨
      (s.drive (selected v)).isSome = false) :
    transfer (readPiece (selected v)) (loadCsr v s) = .ok ()
      { loadCsr v s with
        controller := (loadCsr v s).controller.position
          ((loadCsr v s).controller.get RL02_DAR) } :=
  h.elim
    (fun hzero => transfer_of_no_bytes _ ((byteCount_eq_zero_iff _).mpr hzero))
    fun hunloaded => transfer_of_unloaded hlt hunloaded

/-- A function that finds nothing to do only notes a missing drive. -/
theorem start_of_idle
    (h : Idle v s) :
    start v (loadCsr v s) = .ok () (idled v s) := by
  unfold Idle at h
  unfold idled
  split at h
  · next hmissing =>
      have hexecute := execute_of_missing (n := ((v >>> 1) &&& 7).toNat)
        (s := loadCsr v s) hmissing
      rw [modify_loadCsr] at hexecute
      rw [start_of_ok hexecute, concluded_of_quiet, if_pos hmissing]
      intro _
      rw [get_loadCsr, errorBits_and_enable]
      exact h
  · next hpresent =>
      have hlt : selected v < (loadCsr v s).fhs.length :=
        Nat.not_le.mp hpresent
      have hend : ∀ {b : Bool},
          function (selected v) ((v >>> 1) &&& 7).toNat (loadCsr v s) =
            .ok b (loadCsr v s) → (b = true → v &&& 64 = 0) →
          start v (loadCsr v s) = .ok () (loadCsr v s) := by
        intro b hfunction hquiet
        rw [start_of_ok ((execute_of_present hlt).trans hfunction),
          concluded_of_quiet]
        rw [get_loadCsr]
        exact hquiet
      rw [if_neg hpresent]
      generalize ((v >>> 1) &&& 7).toNat = n at h hend
      split at h
      · refine hend (b := false) ?_ nofun
        exact congrArg (fun c => EStateM.Result.ok false
          { loadCsr v s with controller := c })
          (getStatus_of_shown (c := (loadCsr v s).controller) h.1 h.2)
      · refine hend (b := true) ?_ fun _ => h.1
        exact congrArg (fun c => EStateM.Result.ok true
          { loadCsr v s with controller := c })
          (seek_of_nowhere (c := (loadCsr v s).controller) h.2)
      · refine hend (b := true) ?_ fun _ => h.1
        exact congrArg (fun c => EStateM.Result.ok true
          { loadCsr v s with controller := c })
          (readHeader_of_shown (c := (loadCsr v s).controller) h.2.1 h.2.2.1
            h.2.2.2)
      · refine hend (b := true) ?_ fun _ => h.1
        exact bind_of_ok (transfer_of_idle
          (transfer_of_no_bytes _ ((byteCount_eq_zero_iff _).mpr h.2.2))
          h.2.1)
      · refine hend (b := true) ?_ fun _ => h.1
        exact bind_of_ok (transfer_of_idle (readsNothing hlt h.2.2) h.2.1)
      · refine hend (b := true) ?_ fun _ => h.1
        exact bind_of_ok (transfer_of_idle (readsNothing hlt h.2.2) h.2.1)
      · exact hend (b := false) (by
          unfold function
          split <;> first | rfl | simp_all) nofun

/-- What a function that has been run and is not to be noticed has left. -/
theorem untouched_of_function
    {doInt : Bool} (hlt : selected v < s.fhs.length)
    (hfunction : function (selected v) ((v >>> 1) &&& 7).toNat (loadCsr v s) =
      .ok doInt t)
    (hrequests : t.requests = s.requests)
    (hcsr : t.controller.get RL02_CSR = v)
    (h : Untouched s (final (start v (loadCsr v s)))) :
    Untouched s t ∧ (doInt = true → v &&& 64 = 0) := by
  have hlt' : selected v < (loadCsr v s).fhs.length := hlt
  rw [start_of_ok ((execute_of_present hlt').trans hfunction)] at h
  have hquiet := untouched_concluded hrequests h
  rw [hcsr] at hquiet
  exact hquiet

omit [DiskBackend β] in
theorem untouched_idled
    (v : Word) (s : Bench Rl02 β) :
    Untouched s (idled v s) := by
  unfold idled
  split
  · exact ⟨rfl, rfl, rfl, rfl, rfl, rfl, rfl⟩
  · exact ⟨rfl, rfl, rfl, rfl, rfl, rfl, rfl⟩

/-- A transfer that is not to be noticed has moved nothing. -/
theorem idle_of_moved
    {m : Command Rl02 β Unit} (hlt : selected v < s.fhs.length)
    (hfunction : function (selected v) ((v >>> 1) &&& 7).toNat =
      (do m; pure true : Command Rl02 β Bool))
    (hm : m (loadCsr v s) = .ok ()
      { loadCsr v s with
        controller := (loadCsr v s).controller.position
          ((loadCsr v s).controller.get RL02_DAR) })
    (h : Untouched s (final (start v (loadCsr v s)))) :
    v &&& 64 = 0 ∧ s.controller.AtAddress := by
  have hrun : function (selected v) ((v >>> 1) &&& 7).toNat (loadCsr v s) =
      .ok true
        { loadCsr v s with
          controller := (loadCsr v s).controller.position
            ((loadCsr v s).controller.get RL02_DAR) } := by
    rw [hfunction, bind_of_ok hm]
    rfl
  obtain ⟨hsame, hquiet⟩ :=
    untouched_of_function hlt hrun rfl (get_loadCsr v s) h
  exact ⟨hquiet rfl, hsame.sector.symm, hsame.head.symm, hsame.track.symm⟩

/-- A transfer that calls the drive is noticed. -/
theorem touched_of_calls
    {m : Command Rl02 β Unit} (hlt : selected v < s.fhs.length)
    (hfunction : function (selected v) ((v >>> 1) &&& 7).toNat =
      (do m; pure true : Command Rl02 β Bool))
    (hm : callCount (loadCsr v s) < callCount (final (m (loadCsr v s)))) :
    ¬ Untouched s (final (start v (loadCsr v s))) := by
  intro h
  have hlt' : selected v < (loadCsr v s).fhs.length := hlt
  have hcalls : callCount (loadCsr v s) <
      callCount (final (start v (loadCsr v s))) := by
    unfold start
    rw [bind_apply_congr (execute_of_present hlt'), hfunction]
    have hfunction : callCount (loadCsr v s) < callCount
        (final ((do m; pure true : Command Rl02 β Bool) (loadCsr v s))) :=
      final_bind (I := fun t => callCount (loadCsr v s) < callCount t) hm
        fun _ t ht => ht
    refine final_bind (I := fun t => callCount (loadCsr v s) < callCount t)
      hfunction fun doInt t ht => ?_
    unfold controllerView
    rw [view_bind_apply, ite_apply_state]
    split
    · exact ht
    · exact ht
  exact absurd (congrArg List.length h.calls) (Nat.ne_of_gt hcalls)

/-- Only a function that finds nothing to do is not noticed. -/
theorem idle_of_untouched
    (h : Untouched s (final (start v (loadCsr v s)))) :
    Idle v s := by
  unfold Idle
  split
  · next hmissing =>
      have hexecute := execute_of_missing (n := ((v >>> 1) &&& 7).toNat)
        (s := loadCsr v s) hmissing
      rw [modify_loadCsr] at hexecute
      rw [start_of_ok hexecute] at h
      have hquiet := (untouched_concluded (s := s)
        (t := loadCsr (v ||| ((1#16 <<< 10) ||| (1#16 <<< 15))) s) rfl h).2 rfl
      rw [get_loadCsr, errorBits_and_enable] at hquiet
      exact hquiet
  · next hpresent =>
      have hlt : selected v < s.fhs.length := Nat.not_le.mp hpresent
      -- What a function leaves that changes the controller only.
      have hchanged : ∀ {doInt : Bool} {f : Rl02 → Rl02},
          function (selected v) ((v >>> 1) &&& 7).toNat (loadCsr v s) =
            .ok doInt
              { loadCsr v s with controller := f (loadCsr v s).controller } →
          (f (loadCsr v s).controller).get RL02_CSR = v →
          (f (loadCsr v s).controller).mpr = s.controller.mpr ∧
            (f (loadCsr v s).controller).track = s.controller.track ∧
            (doInt = true → v &&& 64 = 0) := by
        intro doInt f hfunction hcsr
        obtain ⟨hsame, hquiet⟩ := untouched_of_function hlt hfunction rfl hcsr h
        exact ⟨hsame.mpr, hsame.track, hquiet⟩
      have hreads : function (selected v) ((v >>> 1) &&& 7).toNat =
          (do transfer (readPiece (selected v)); pure true :
            Command Rl02 β Bool) →
          v &&& 64 = 0 ∧ s.controller.AtAddress ∧
            (s.controller.get RL02_MPR = 0x8000 ∨
              (s.drive (selected v)).isSome = false) := by
        intro hfunction
        have hnothing : s.controller.get RL02_MPR = 0x8000 ∨
            (s.drive (selected v)).isSome = false := by
          by_contra hboth
          rw [not_or] at hboth
          refine touched_of_calls hlt hfunction ?_ h
          exact callCount_lt_transfer (fun _ => count_readPiece)
            (fun _ => count_readPiece_loaded) (Bool.eq_true_of_not_eq_false hboth.2)
            fun hzero => hboth.1 ((byteCount_eq_zero_iff _).mp hzero)
        obtain ⟨hquiet, hat⟩ :=
          idle_of_moved hlt hfunction (readsNothing hlt hnothing) h
        exact ⟨hquiet, hat, hnothing⟩
      have hwrites : function (selected v) ((v >>> 1) &&& 7).toNat =
          (do transfer (writePiece (selected v)); pure true :
            Command Rl02 β Bool) →
          v &&& 64 = 0 ∧ s.controller.MovesNothing := by
        intro hfunction
        have hzero : s.controller.get RL02_MPR = 0x8000 := by
          by_contra hsome
          have hcount : byteCount (s.controller.get RL02_MPR) ≠ 0 :=
            fun hzero => hsome ((byteCount_eq_zero_iff _).mp hzero)
          cases hloaded : (s.drive (selected v)).isSome with
          | true =>
              exact touched_of_calls hlt hfunction (callCount_lt_transfer
                (fun _ => count_writePiece) (fun _ => count_writePiece_loaded)
                hloaded hcount) h
          | false =>
              have hlt' : selected v < (loadCsr v s).fhs.length := hlt
              obtain ⟨t, ht, hmpr⟩ := transfer_write_of_unloaded
                (s := loadCsr v s) hlt' hloaded hcount
              have hrun : function (selected v) ((v >>> 1) &&& 7).toNat
                  (loadCsr v s) = .ok true t := by
                rw [hfunction, bind_of_ok ht]
                rfl
              rw [start_of_ok ((execute_of_present hlt').trans hrun)] at h
              have hsame := congrFun h.mpr 0
              change (concluded true t).controller.mpr 0 = _ at hsame
              rw [controller_concluded] at hsame
              exact hmpr hsame
        have hmoved := idle_of_moved hlt hfunction
          (transfer_of_no_bytes _ ((byteCount_eq_zero_iff _).mpr hzero)) h
        exact ⟨hmoved.1, hmoved.2, hzero⟩
      generalize hn : ((v >>> 1) &&& 7).toNat = n at hchanged hreads hwrites ⊢
      split
      · obtain ⟨hmpr, -, -⟩ := hchanged (f := getStatus) rfl (get_loadCsr v s)
        exact ⟨(congrFun hmpr 0).symm, (congrFun hmpr 1).symm⟩
      · obtain ⟨-, htrack, hquiet⟩ := hchanged (f := seek) rfl (get_loadCsr v s)
        exact ⟨hquiet rfl, (seek_track_iff (loadCsr v s).controller).mp htrack⟩
      · obtain ⟨hmpr, -, hquiet⟩ :=
          hchanged (f := readHeader) rfl (get_loadCsr v s)
        exact ⟨hquiet rfl, (congrFun hmpr 0).symm, (congrFun hmpr 1).symm,
          (congrFun hmpr 2).symm⟩
      · exact hwrites rfl
      · exact hreads rfl
      · exact hreads rfl
      · trivial

/-- A function is not noticed if and only if it finds nothing to do. -/
theorem untouched_start_iff
    (v : Word) (s : Bench Rl02 β) :
    Untouched s (final (start v (loadCsr v s))) ↔ Idle v s := by
  constructor
  · exact idle_of_untouched
  · intro h
    rw [start_of_idle h]
    exact untouched_idled v s

/-- The function that the word selects changes nothing at all: it finds nothing
to do, and a missing drive has been noted before. -/
def Effectless (v : Word) (s : Bench Rl02 β) : Prop :=
  Idle v s ∧ (s.fhs.length ≤ selected v →
    v ||| ((1#16 <<< 10) ||| (1#16 <<< 15)) = v)

theorem start_eq_iff
    (v : Word) (s : Bench Rl02 β) :
    start v (loadCsr v s) = .ok () (loadCsr v s) ↔ Effectless v s := by
  constructor
  · intro h
    have hidle : Idle v s := by
      rw [← untouched_start_iff, h]
      exact ⟨rfl, rfl, rfl, rfl, rfl, rfl, rfl⟩
    refine ⟨hidle, fun hmissing => ?_⟩
    rw [start_of_idle hidle] at h
    unfold idled at h
    rw [if_pos hmissing] at h
    injection h with _ hstate
    have hcsr := congrArg (fun t => t.controller.get RL02_CSR) hstate
    rw [get_loadCsr, get_loadCsr] at hcsr
    exact hcsr
  · rintro ⟨hidle, hnoted⟩
    rw [start_of_idle hidle]
    unfold idled
    split
    · next hmissing =>
        rw [hnoted hmissing]
    · rfl

/-- When a write to RLCS obeys the ready bit.  Set, it is obeyed by writes of the
high byte, and by those whose function finds nothing to do; clear, by writes of
the word or the low byte, and by those whose function has no effect. -/
theorem starts_when_ready_iff
    (w : RlcsWrite) (s : Bench Rl02 β) :
    StartsWhenReady w s ↔
      if w.written s.controller &&& 128 ≠ 0 then
        w.isHigh = true ∨ Idle (w.written s.controller) s
      else
        w.isHigh = false ∨ Effectless (w.written s.controller) s := by
  unfold StartsWhenReady
  dsimp only
  cases hhigh : w.isHigh with
  | false =>
      rw [perform_low hhigh, untouched_start_iff]
      simp
  | true =>
      rw [perform_high hhigh]
      have huntouched : Untouched s (final (EStateM.Result.ok ()
          (loadCsr (w.written s.controller) s) :
            EStateM.Result DiskStop (Bench Rl02 β) Unit)) :=
        ⟨rfl, rfl, rfl, rfl, rfl, rfl, rfl⟩
      by_cases hready : w.written s.controller &&& 128 ≠ 0
      · rw [if_pos hready, if_pos hready]
        exact iff_of_true huntouched (.inl rfl)
      · rw [if_neg hready, if_neg hready, eq_comm, start_eq_iff]
        exact ⟨.inr, fun h => h.resolve_left (nomatch ·)⟩

/-- Read header with interrupts enabled, written with the ready bit set, asks for
the interrupt.  The same function is not run by a write of the high byte that
leaves the ready bit clear. -/
theorem started_when_not_ready :
    ¬ StartsWhenReady (.word 0xc8) resetRl02 ∧
      ¬ StartsWhenReady (.high 0) (loadCsr 0x48 resetRl02) := by
  constructor
  · intro h
    have hnone : [InterruptRequest.queue 5 0o160] = [] :=
      (show Untouched _ _ from h).requests
    cases hnone
  · intro h
    have hstates := congrArg (fun r => (final r).requests)
      (show _ = start 0x48 (loadCsr 0x48 (loadCsr 0x48 resetRl02)) from h)
    have hnone : [] = [InterruptRequest.queue 5 0o160] := hstates
    cases hnone

end Starting

end Rl02

end KekPdp11
