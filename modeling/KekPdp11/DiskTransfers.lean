import KekPdp11.SectorCalls

/-!
# KEK PDP-11: what a transfer moves

A transfer moves bytes between consecutive positions of a disk and consecutive
addresses of memory.  The log says which: `Moves` holds of a log that has the
given number of bytes on either side, from the given place on, and no other.

The loops of the controllers are followed piece by piece: as long as the drive
answers, each piece adds its bytes to what the log says.
-/

namespace KekPdp11

open StateExcept Slices

/-- The bytes of the disk that the log names, with their positions. -/
def diskBytes : List DiskEvent → List (Nat × Byte)
  | [] => []
  | .diskRead offset data :: older =>
      diskBytes older ++ data.mapIdx fun i v => (offset + i, v)
  | .diskWritten offset data :: older =>
      diskBytes older ++ data.mapIdx fun i v => (offset + i, v)
  | _ :: older => diskBytes older

/-- The bytes of memory that the log names, with their addresses. -/
def memoryBytes : List DiskEvent → List (PhysAddr × Byte)
  | [] => []
  | .memoryRead a v :: older => memoryBytes older ++ [(a, v)]
  | .memoryWritten a v :: older => memoryBytes older ++ [(a, v)]
  | _ :: older => memoryBytes older

/-- An event of a transfer from the disk, or of one to the disk. -/
def DiskEvent.Along (reads : Bool) : DiskEvent → Prop
  | .call _ _ _ _ => True
  | .diskRead _ _ => reads = true
  | .diskWritten _ _ => reads = false
  | .memoryRead _ _ => reads = false
  | .memoryWritten _ _ => reads = true

/-- The log of a transfer of `n` bytes between the memory from the one and the
disk from the other place on. -/
def Moves (reads : Bool) (memory : PhysAddr) (disk n : Nat)
    (log : List DiskEvent) : Prop :=
  (∀ e ∈ log, e.Along reads) ∧
    ∃ data : Nat → Byte,
      diskBytes log = slice (fun i => (disk + i, data i)) 0 n ∧
      memoryBytes log =
        slice (fun i => (memory + BitVec.ofNat 32 i, data i)) 0 n

/-- An event that is not a call that failed. -/
def DiskEvent.Succeeds : DiskEvent → Prop
  | .call _ _ _ answer => answer = some true
  | _ => True

/-- Every call of a drive has returned true. -/
def AccessesSucceed (log : List DiskEvent) : Prop :=
  ∀ e ∈ log, e.Succeeds

section Logs

variable {reads : Bool} {memory : PhysAddr} {disk n : Nat}
variable {log : List DiskEvent}

theorem Moves.nil :
    Moves reads memory disk 0 [] :=
  ⟨nofun, fun _ => 0, rfl, rfl⟩

/-- The extent of a transfer can be read off its log. -/
theorem Moves.unique
    {memory' : PhysAddr} {disk' n' : Nat}
    (h : Moves reads memory disk n log)
    (h' : Moves reads memory' disk' n' log) :
    n = n' ∧ (0 < n → memory = memory' ∧ disk = disk') := by
  obtain ⟨-, data, hdisk, hmemory⟩ := h
  obtain ⟨-, data', hdisk', hmemory'⟩ := h'
  have hlength := congrArg List.length (hdisk.symm.trans hdisk')
  rw [length_slice, length_slice] at hlength
  subst hlength
  refine ⟨rfl, fun hpos => ?_⟩
  have hd := slice_eq_iff.mp (hdisk.symm.trans hdisk') 0 hpos
  have hm := slice_eq_iff.mp (hmemory.symm.trans hmemory') 0 hpos
  simp only [Nat.add_zero, Prod.mk.injEq] at hd hm
  simp only [BitVec.add_zero] at hm
  exact ⟨hm.1, hd.1⟩

/-- An empty log is that of a transfer of no bytes. -/
theorem Moves.eq_zero
    (h : Moves reads memory disk n []) :
    n = 0 := by
  have hnil : Moves reads memory disk 0 [] := Moves.nil
  exact (h.unique hnil).1

/-- A transfer of as many bytes between the same places, and only that, has
the log of the transfer. -/
theorem Moves.iff_eq
    {memory' : PhysAddr} {disk' n' : Nat}
    (h : Moves reads memory disk n log) (hpos : 0 < n') :
    Moves reads memory' disk' n' log ↔
      n = n' ∧ memory = memory' ∧ disk = disk' := by
  constructor
  · intro h'
    obtain ⟨hn, hplaces⟩ := h.unique h'
    exact ⟨hn, hplaces (hn ▸ hpos)⟩
  · rintro ⟨rfl, rfl, rfl⟩
    exact h

theorem mapIdx_slice
    {α β : Type} (f : Nat → α) (start n : Nat) (g : Nat → α → β) :
    (slice f start n).mapIdx g = slice (fun i => g i (f (start + i))) 0 n := by
  apply List.ext_getElem
  · simp
  · intro i h₁ h₂
    simp [slice]

/-- Bytes that follow on those of the log. -/
theorem Moves.extend
    {k cur : Nat} {log' : List DiskEvent} (buffer : Buffer)
    (h : Moves reads memory disk k log)
    (halong : ∀ e ∈ log', e.Along reads)
    (hdisk : diskBytes log' = diskBytes log ++
      slice (fun i => (disk + k + i, buffer i)) 0 cur)
    (hmemory : memoryBytes log' = memoryBytes log ++
      slice (fun i =>
        (memory + BitVec.ofNat 32 k + BitVec.ofNat 32 i, buffer i)) 0 cur) :
    Moves reads memory disk (k + cur) log' := by
  obtain ⟨-, data, hd, hm⟩ := h
  refine ⟨halong, fun i => if i < k then data i else buffer (i - k), ?_, ?_⟩
  · rw [hdisk, hd, slice_add]
    congr 1
    · rw [slice_eq_iff]
      intro i hi
      simp [hi]
    · rw [slice_eq_iff]
      intro i hi
      simp [Nat.add_assoc]
  · rw [hmemory, hm, slice_add]
    congr 1
    · rw [slice_eq_iff]
      intro i hi
      simp [hi]
    · rw [slice_eq_iff]
      intro i hi
      simp [BitVec.add_assoc, BitVec.ofNat_add]

end Logs

section Bytes

variable {ρ β : Type}

/-- What moving bytes between memory and a buffer leaves. -/
structure MemoryMoved (reads : Bool) (memory : PhysAddr) (buffer : Buffer)
    (i n : Nat) (s t : Bench ρ β) : Prop where
  fhs : t.fhs = s.fhs
  controller : t.controller = s.controller
  disk : diskBytes t.trace = diskBytes s.trace
  memory : memoryBytes t.trace = memoryBytes s.trace ++
    slice (fun j => (memory + BitVec.ofNat 32 j, buffer j)) i n
  events : ∀ e ∈ t.trace, e ∈ s.trace ∨ e.Along reads ∧ e.Succeeds

/-- Storing a buffer to memory. -/
theorem storeBytes_moved
    (memory : PhysAddr) (buffer : Buffer) (n i : Nat) (s : Bench ρ β) :
    ∃ t, storeBytes memory buffer n i s = .ok () t ∧
      MemoryMoved true memory buffer i n s t := by
  induction n generalizing i s with
  | zero =>
      exact ⟨s, rfl, rfl, rfl, rfl, by simp, fun e he => Or.inl he⟩
  | succ n ih =>
      let s' : Bench ρ β :=
        { s with
          ram :=
            if memory + BitVec.ofNat 32 i < s.ram.size then
              s.ram.writeByte (memory + BitVec.ofNat 32 i) (buffer i)
            else s.ram
          trace := .memoryWritten (memory + BitVec.ofNat 32 i) (buffer i) ::
            s.trace }
      obtain ⟨t, ht, hmoved⟩ := ih (i + 1) s'
      refine ⟨t, ht, hmoved.fhs, hmoved.controller, hmoved.disk, ?_, ?_⟩
      · rw [hmoved.memory, Nat.add_comm n 1, slice_add]
        simp [s', memoryBytes, slice]
      · intro e he
        rcases hmoved.events e he with he | he
        · rcases List.mem_cons.mp he with rfl | he
          · exact Or.inr ⟨rfl, trivial⟩
          · exact Or.inl he
        · exact Or.inr he

/-- Filling a buffer from memory, which leaves what is in front. -/
theorem loadBytes_moved
    (memory : PhysAddr) (n i : Nat) (buffer : Buffer) (s : Bench ρ β) :
    ∃ buffer' t, loadBytes memory n i buffer s = .ok buffer' t ∧
      (∀ j, j < i → buffer' j = buffer j) ∧
      MemoryMoved false memory buffer' i n s t := by
  induction n generalizing i buffer s with
  | zero =>
      exact ⟨buffer, s, rfl, fun j _ => rfl, rfl, rfl, rfl, by simp,
        fun e he => Or.inl he⟩
  | succ n ih =>
      let v :=
        if memory + BitVec.ofNat 32 i < s.ram.size then
          s.ram.readByte (memory + BitVec.ofNat 32 i)
        else 0
      let s' : Bench ρ β :=
        { s with
          trace := .memoryRead (memory + BitVec.ofNat 32 i) v :: s.trace }
      obtain ⟨buffer', t, ht, hbefore, hmoved⟩ :=
        ih (i + 1) (Function.update buffer i v) s'
      have hi : buffer' i = v := by
        rw [hbefore i (Nat.lt_succ_self i), Function.update_self]
      refine ⟨buffer', t, ht, ?_, hmoved.fhs, hmoved.controller,
        hmoved.disk, ?_, ?_⟩
      · intro j hj
        rw [hbefore j (by omega), Function.update_of_ne (by omega)]
      · rw [hmoved.memory, Nat.add_comm n 1, slice_add]
        simp [s', memoryBytes, slice, hi]
      · intro e he
        rcases hmoved.events e he with he | he
        · rcases List.mem_cons.mp he with rfl | he
          · exact Or.inr ⟨rfl, trivial⟩
          · exact Or.inl he
        · exact Or.inr he

end Bytes

section Pieces

variable {ρ β : Type}

/-- A call of a drive has failed. -/
def Failed (s : Bench ρ β) : Prop :=
  ¬ AccessesSucceed s.trace

/-- Between two pieces, `k` bytes have been moved. -/
def Midway (reads : Bool) (device : Nat) (memory : PhysAddr) (disk k : Nat)
    (s : Bench ρ β) : Prop :=
  (s.drive device).isSome = true ∧ Moves reads memory disk k s.trace

/-- Within a piece, the buffer has been read from the disk and is not yet
stored to memory. -/
structure HalfRead (device : Nat) (memory : PhysAddr) (disk k cur : Nat)
    (buffer : Buffer) (s : Bench ρ β) : Prop where
  loaded : (s.drive device).isSome = true
  along : ∀ e ∈ s.trace, e.Along true
  log : ∃ log, Moves true memory disk k log ∧
    diskBytes s.trace = diskBytes log ++
      slice (fun i => (disk + k + i, buffer i)) 0 cur ∧
    memoryBytes s.trace = memoryBytes log

/-- Within a piece, the buffer has been filled from memory and is not yet
written to the disk. -/
structure HalfWritten (device : Nat) (memory : PhysAddr) (disk k cur : Nat)
    (buffer : Buffer) (s : Bench ρ β) : Prop where
  loaded : (s.drive device).isSome = true
  along : ∀ e ∈ s.trace, e.Along false
  log : ∃ log, Moves false memory disk k log ∧
    diskBytes s.trace = diskBytes log ∧
    memoryBytes s.trace = memoryBytes log ++
      slice (fun i =>
        (memory + BitVec.ofNat 32 k + BitVec.ofNat 32 i, buffer i)) 0 cur

variable {device : Nat} {memory : PhysAddr} {disk k cur : Nat}

/-- A change of the controller moves nothing. -/
theorem modifyController_midway
    {reads : Bool} {E : DiskStop → Bench ρ β → Prop} (f : ρ → ρ) :
    Triple (Midway reads device memory disk k) (modifyController f)
      (fun _ => Midway reads device memory disk k) E :=
  .update fun _ hs => hs

theorem modifyController_halfRead
    {buffer : Buffer} {E : DiskStop → Bench ρ β → Prop} (f : ρ → ρ) :
    Triple (HalfRead device memory disk k cur buffer) (modifyController f)
      (fun _ => HalfRead device memory disk k cur buffer) E :=
  .update fun _ hs => ⟨hs.loaded, hs.along, hs.log⟩

theorem modifyController_halfWritten
    {buffer : Buffer} {E : DiskStop → Bench ρ β → Prop} (f : ρ → ρ) :
    Triple (HalfWritten device memory disk k cur buffer) (modifyController f)
      (fun _ => HalfWritten device memory disk k cur buffer) E :=
  .update fun _ hs => ⟨hs.loaded, hs.along, hs.log⟩

/-- What comes after a failure changes the controller only. -/
theorem modifyController_failed
    {α : Type} (f : ρ → ρ) (a : α) {P : α → Bench ρ β → Prop}
    {E : DiskStop → Bench ρ β → Prop} (hP : ∀ s, Failed s → P a s) :
    Triple Failed (do modifyController f; pure a : Command ρ β α) P E :=
  .bind (Q := fun _ => Failed) (.update fun _ hs => hs) fun _ => .pure hP

theorem storeBytes_half
    (buffer : Buffer) :
    Triple (HalfRead device memory disk k cur buffer)
      (storeBytes (memory + BitVec.ofNat 32 k) buffer cur 0 :
        Command ρ β Unit)
      (fun _ => Midway true device memory disk (k + cur))
      (fun _ => Failed) := by
  intro s hs
  obtain ⟨log, hlog, hdisk, hmemory⟩ := hs.log
  obtain ⟨t, ht, hmoved⟩ := storeBytes_moved (memory + BitVec.ofNat 32 k)
    buffer cur 0 s
  rw [ht]
  refine ⟨?_, hlog.extend buffer ?_ ?_ ?_⟩
  · unfold Bench.drive
    rw [hmoved.fhs]
    exact hs.loaded
  · intro e he
    exact (hmoved.events e he).elim (hs.along e) And.left
  · rw [hmoved.disk, hdisk]
  · rw [hmoved.memory, hmemory]

theorem loadBytes_half
    (buffer : Buffer) :
    Triple (Midway false device memory disk k)
      (loadBytes (memory + BitVec.ofNat 32 k) cur 0 buffer :
        Command ρ β Buffer)
      (fun buffer => HalfWritten device memory disk k cur buffer)
      (fun _ => Failed) := by
  intro s hs
  obtain ⟨buffer', t, ht, -, hmoved⟩ := loadBytes_moved
    (memory + BitVec.ofNat 32 k) cur 0 buffer s
  rw [ht]
  refine ⟨?_, ?_, s.trace, hs.2, hmoved.disk, hmoved.memory⟩
  · unfold Bench.drive
    rw [hmoved.fhs]
    exact hs.1
  · intro e he
    exact (hmoved.events e he).elim (hs.2.1 e) And.left

theorem Bench.getElem?_of_drive
    {s : Bench ρ β} (h : (s.drive device).isSome = true) :
    ∃ b, s.fhs[device]? = some (some b) := by
  obtain ⟨b, hb⟩ := Option.isSome_iff_exists.mp h
  unfold Bench.drive at hb
  cases hfh : s.fhs[device]? with
  | none =>
      rw [hfh] at hb
      cases hb
  | some drive =>
      rw [hfh] at hb
      exact ⟨b, congrArg some hb⟩

/-- A call of a loaded drive. -/
theorem callDrive_of_loaded
    {α : Type} (call : DiskCall β α) (log : Option α → List DiskEvent)
    {s : Bench ρ β} (h : (s.drive device).isSome = true) :
    ∃ answer t, (t.drive device).isSome = true ∧
      t.trace = log answer ++ s.trace ∧
      (match answer with
        | some a => callDrive device call log s = .ok a t
        | none => ∃ e, callDrive device call log s = .error e t) := by
  obtain ⟨b, hdrive⟩ := Bench.getElem?_of_drive h
  have hlt := (List.getElem?_eq_some_iff.mp hdrive).1
  have hset : ∀ (b' : β) trace,
      (({ s with fhs := s.fhs.set device (some b'), trace := trace } :
        Bench ρ β).drive device).isSome = true := by
    intro b' trace
    rw [Bench.drive, List.getElem?_set_self hlt]
    rfl
  unfold callDrive
  rw [hdrive]
  cases hcall : call b with
  | ok a b' =>
      exact ⟨some a, _, hset b' _, rfl, by simp only [hcall]⟩
  | error e b' =>
      exact ⟨none, _, hset b' _, rfl, e, by simp only [hcall]⟩

/-- A log with a call that did not return true. -/
theorem failed_of_call
    {s : Bench ρ β} {offset n sectorSize : Nat} {answer : Option Bool}
    {older : List DiskEvent} (hanswer : answer ≠ some true)
    (h : s.trace = [.call offset n sectorSize answer] ++ older) :
    Failed s := by
  intro hsucceed
  refine hanswer (hsucceed (.call offset n sectorSize answer) ?_)
  rw [h]
  exact List.mem_cons_self

/-- The drive that a command is for is loaded. -/
def Loaded (device : Nat) (s : Bench ρ β) : Prop :=
  (s.drive device).isSome = true

theorem storeBytes_loaded
    {E : DiskStop → Bench ρ β → Prop}
    (a : PhysAddr) (buffer : Buffer) (n i : Nat) :
    Upholds (Loaded device) E
      (storeBytes a buffer n i : Command ρ β Unit) := by
  intro s hs
  obtain ⟨t, ht, hmoved⟩ := storeBytes_moved a buffer n i s
  rw [ht]
  unfold Loaded Bench.drive at hs
  rw [← hmoved.fhs] at hs
  exact hs

theorem loadBytes_loaded
    {E : DiskStop → Bench ρ β → Prop}
    (a : PhysAddr) (n i : Nat) (buffer : Buffer) :
    Upholds (Loaded device) E
      (loadBytes a n i buffer : Command ρ β Buffer) := by
  intro s hs
  obtain ⟨buffer', t, ht, -, hmoved⟩ := loadBytes_moved a n i buffer s
  rw [ht]
  unfold Loaded Bench.drive at hs
  rw [← hmoved.fhs] at hs
  exact hs

variable [DiskBackend β]

theorem readDrive_loaded
    (offset n sectorSize : Nat) (target : Buffer) :
    Triple (Loaded device)
      (readDrive device offset n target sectorSize :
        Command ρ β (Bool × Buffer))
      (fun r s => if r.1 then Loaded device s else Failed s)
      (fun _ _ => True) := by
  intro s hs
  obtain ⟨answer, t, hloaded, htrace, hrun⟩ := callDrive_of_loaded
    (DiskBackend.read offset n target sectorSize)
    (readLog offset n sectorSize) hs
  unfold readDrive
  rcases answer with _ | ⟨_ | _, buffer⟩
  · obtain ⟨e, hrun⟩ := hrun
    rw [hrun]
    trivial
  · rw [hrun]
    exact failed_of_call (by simp) htrace
  · rw [hrun]
    exact hloaded

theorem writeDrive_loaded
    (offset n sectorSize : Nat) (source : Buffer) :
    Triple (Loaded device)
      (writeDrive device offset n source sectorSize : Command ρ β Bool)
      (fun ok s => if ok then Loaded device s else Failed s)
      (fun _ _ => True) := by
  intro s hs
  obtain ⟨answer, t, hloaded, htrace, hrun⟩ := callDrive_of_loaded
    (DiskBackend.write offset n source sectorSize)
    (writeLog offset n source sectorSize) hs
  unfold writeDrive
  rcases answer with _ | _ | _
  · obtain ⟨e, hrun⟩ := hrun
    rw [hrun]
    trivial
  · rw [hrun]
    exact failed_of_call (by simp) htrace
  · rw [hrun]
    exact hloaded

theorem readDrive_half
    {offset sectorSize : Nat} (target : Buffer) (hoffset : offset = disk + k) :
    Triple (Midway true device memory disk k)
      (readDrive device offset cur target sectorSize :
        Command ρ β (Bool × Buffer))
      (fun r s =>
        if r.1 then HalfRead device memory disk k cur r.2 s else Failed s)
      (fun _ => Failed) := by
  intro s hs
  subst hoffset
  obtain ⟨answer, t, hloaded, htrace, hrun⟩ := callDrive_of_loaded
    (DiskBackend.read (disk + k) cur target sectorSize)
    (readLog (disk + k) cur sectorSize) hs.1
  unfold readDrive
  rcases answer with _ | ⟨_ | _, buffer⟩
  · obtain ⟨e, hrun⟩ := hrun
    rw [hrun]
    exact failed_of_call (by simp) htrace
  · rw [hrun]
    exact failed_of_call (by simp) htrace
  · rw [hrun]
    refine ⟨hloaded, ?_, s.trace, hs.2, ?_, ?_⟩
    · intro e he
      rw [htrace] at he
      simp only [readLog, List.cons_append, List.nil_append,
        List.mem_cons] at he
      rcases he with rfl | rfl | he
      · rfl
      · trivial
      · exact hs.2.1 e he
    · rw [htrace]
      simp [readLog, diskBytes, mapIdx_slice]
    · rw [htrace]
      rfl

theorem writeDrive_half
    {offset sectorSize : Nat} (buffer : Buffer) (hoffset : offset = disk + k) :
    Triple (HalfWritten device memory disk k cur buffer)
      (writeDrive device offset cur buffer sectorSize : Command ρ β Bool)
      (fun ok s =>
        if ok then Midway false device memory disk (k + cur) s else Failed s)
      (fun _ => Failed) := by
  intro s hs
  subst hoffset
  obtain ⟨answer, t, hloaded, htrace, hrun⟩ := callDrive_of_loaded
    (DiskBackend.write (disk + k) cur buffer sectorSize)
    (writeLog (disk + k) cur buffer sectorSize) hs.loaded
  unfold writeDrive
  rcases answer with _ | _ | _
  · obtain ⟨e, hrun⟩ := hrun
    rw [hrun]
    exact failed_of_call (by simp) htrace
  · rw [hrun]
    exact failed_of_call (by simp) htrace
  · rw [hrun]
    obtain ⟨log, hlog, hdisk, hmemory⟩ := hs.log
    refine ⟨hloaded, hlog.extend buffer ?_ ?_ ?_⟩
    · intro e he
      rw [htrace] at he
      simp only [writeLog, List.cons_append, List.nil_append,
        List.mem_cons] at he
      rcases he with rfl | rfl | he
      · rfl
      · trivial
      · exact hs.along e he
    · rw [htrace, ← hdisk]
      simp [writeLog, diskBytes, mapIdx_slice]
    · rw [htrace, ← hmemory]
      rfl

end Pieces

section Loop

variable {ρ β γ : Type} {reads : Bool} {device : Nat} {memory : PhysAddr}
variable {disk : Nat}

/-- A pass of the loop moves its piece or fails. -/
def MovesPiece (reads : Bool) (device : Nat) (memory : PhysAddr) (disk : Nat)
    (piece : (memory disk : BitVec 32) → (cur left : Nat) → γ →
      Command ρ β (Bool × γ)) : Prop :=
  ∀ k (offset : BitVec 32) cur left place, offset.toNat = disk + k →
    Triple (Midway reads device memory disk k)
      (piece (memory + BitVec.ofNat 32 k) offset cur left place)
      (fun r s =>
        if r.1 then Midway reads device memory disk (k + cur) s else Failed s)
      (fun _ => Failed)

theorem transferLoop_moves
    {size : Nat} (hsize : 0 < size)
    {piece : (memory disk : BitVec 32) → (cur left : Nat) → γ →
      Command ρ β (Bool × γ)}
    (hpiece : MovesPiece reads device memory disk piece)
    (passes k : Nat) (offset : BitVec 32) (left : Nat) (place : γ)
    (hpasses : left ≤ passes) (hoffset : offset.toNat = disk + k)
    (hend : disk + k + left < 2 ^ 32) :
    Triple (Midway reads device memory disk k)
      (transferLoop size piece passes (memory + BitVec.ofNat 32 k) offset left
        place)
      (fun _ s => Midway reads device memory disk (k + left) s ∨ Failed s)
      (fun _ => Failed) := by
  induction passes generalizing k offset left place with
  | zero =>
      obtain rfl : left = 0 := by omega
      exact .pure fun _ hs => Or.inl hs
  | succ passes ih =>
      refine .ite (fun hzero => ?_) fun hleft => ?_
      · subst hzero
        exact .pure fun _ hs => Or.inl hs
      · refine .bind (hpiece k offset (min size left) left place hoffset)
          fun result => ?_
        obtain ⟨goOn, place⟩ := result
        refine .ite (fun hgo => ?_) fun hstop => ?_
        · rw [hgo]
          have hcur : min size left ≤ left := Nat.min_le_right _ _
          have hpos : 0 < min size left := by
            rw [Nat.lt_min]
            exact ⟨hsize, Nat.pos_of_ne_zero hleft⟩
          have hnext := ih (k + min size left)
            (offset + BitVec.ofNat 32 (min size left)) (left - min size left)
            place (by omega)
            (by
              rw [BitVec.toNat_add, BitVec.toNat_ofNat, hoffset,
                Nat.mod_eq_of_lt (by omega), Nat.mod_eq_of_lt (by omega)]
              omega)
            (by omega)
          rw [BitVec.ofNat_add, ← BitVec.add_assoc,
            show k + min size left + (left - min size left) = k + left by
              omega] at hnext
          exact hnext.strengthen_pre fun s hs => hs
        · exact .pure fun s hs => Or.inr (by
            rw [if_neg hstop] at hs
            exact hs)

/-- The log of a transfer, or of one that has failed. -/
def Ended (reads : Bool) (memory : PhysAddr) (disk n : Nat)
    (s : Bench ρ β) : Prop :=
  Moves reads memory disk n s.trace ∨ Failed s

/-- A whole transfer, from an empty log. -/
theorem transferLoop_ended
    {size : Nat} (hsize : 0 < size)
    {piece : (memory disk : BitVec 32) → (cur left : Nat) → γ →
      Command ρ β (Bool × γ)}
    {offset : BitVec 32}
    (hpiece : MovesPiece reads device memory offset.toNat piece)
    (left : Nat) (place : γ) (hend : offset.toNat + left < 2 ^ 32) :
    Triple (Midway reads device memory offset.toNat 0)
      (transferLoop size piece left memory offset left place)
      (fun _ => Ended reads memory offset.toNat left)
      (fun _ => Failed) := by
  have h := transferLoop_moves hsize hpiece left 0 offset left place
    (Nat.le_refl _) rfl hend
  rw [BitVec.add_zero, Nat.zero_add] at h
  exact h.weaken_post fun _ s hs => hs.imp And.right id

end Loop

section Exact

variable {ρ β : Type}

theorem Bench.lt_of_drive
    {s : Bench ρ β} {device : Nat} (h : (s.drive device).isSome = true) :
    device < s.fhs.length := by
  by_contra hlt
  rw [Bench.drive, List.getElem?_eq_none (Nat.le_of_not_lt hlt)] at h
  cases h

/-- A change of the controller leaves what the log says. -/
theorem modifyController_ended
    {reads : Bool} {memory : PhysAddr} {disk n : Nat}
    {E : DiskStop → Bench ρ β → Prop} (f : ρ → ρ) :
    Triple (Ended reads memory disk n) (modifyController f)
      (fun _ => Ended reads memory disk n) E :=
  .update fun _ hs => hs

theorem queueInterrupt_ended
    {reads : Bool} {memory : PhysAddr} {disk n : Nat}
    {E : DiskStop → Bench ρ β → Prop} (level : Level) (vector : Word) :
    Triple (Ended reads memory disk n)
      (queueInterrupt level vector : Command ρ β Unit)
      (fun _ => Ended reads memory disk n) E :=
  .update fun _ hs => hs

/-- When the calls of a run succeed, it moves what is asked for if and only if
that is what it moves. -/
theorem moves_iff
    {reads : Bool} {memory memory' : PhysAddr} {disk disk' n n' : Nat}
    {r : EStateM.Result DiskStop (Bench ρ β) Unit}
    (h : After (fun _ => Ended reads memory disk n) (fun _ => Failed) r)
    (hsucceed : AccessesSucceed (final r).trace) (hpos : 0 < n') :
    (∃ t, r = .ok () t ∧ Moves reads memory' disk' n' t.trace) ↔
      n = n' ∧ memory = memory' ∧ disk = disk' := by
  cases r with
  | ok a t =>
      have hmoves := h.resolve_right fun hfailed => hfailed hsucceed
      rw [← hmoves.iff_eq hpos]
      constructor
      · rintro ⟨t', ht', hmoves'⟩
        injection ht' with _ ht'
        rw [ht']
        exact hmoves'
      · intro hmoves'
        exact ⟨t, rfl, hmoves'⟩
  | error e t =>
      exact absurd hsucceed h

end Exact

end KekPdp11
