import KekPdp11.CopyCommands

/-!
# KEK PDP-11: what the disk controllers do to memory and drives

The RK05, RL02 and RP06 controllers are machines that copy between two kinds
of arrays: for every sequence of register accesses whose transfers are of whole
sectors, memory and drives are afterwards what the copies say that the
accesses start.  What was written to a drive is read back.
-/

namespace KekPdp11

open StateExcept Slices ArrayCopies

namespace Rk05

variable {β : Type}

/-- What a write of a register starts. -/
def startedCopy (a v : Word) (c : Rk05) : Option Copy :=
  if a = RK05_CS ∧ v &&& 1 ≠ 0 then
    match ((v >>> 1) &&& 7).toNat with
    | 1 =>
        some ⟨false, c.programmedBus v, c.selected, c.programmedDisk,
          recordLength (c.get RK05_WC)⟩
    | 2 =>
        some ⟨true, c.programmedBus v, c.selected, c.programmedDisk,
          recordLength (c.get RK05_WC)⟩
    | _ => none
  else
    none

instance : CopyingController Rk05 where
  sectorSize := 512
  written g c :=
    match g with
    | .readByte _ => none
    | .readWord _ => none
    | .writeByte a v => some (a, updateWord (c.get a) (isOdd a) v)
    | .writeWord a v => some (a, v)
  started := startedCopy

variable [DiskBackend β] {holds : Nat → (Nat → Byte) → β → Prop}
variable {size : Nat → Nat}
variable {p : Stores Byte} {ramSize : PhysAddr}

theorem writePiece_copies
    (hserves : ServesSectors 512 size holds) (v : Word) (device : Nat) :
    CopiesSector holds 512 size false device ramSize
      (writePiece v device : (memory disk : BitVec 32) → (cur left : Nat) →
        Place → Command Rk05 β (Bool × Place)) := by
  unfold writePiece
  generalize 512 = n at hserves ⊢
  constructor
  intro p memory disk left place hmemory haligned hdisk
  refine .view_bind_any fun buffer => ?_
  refine loadBytes_then buffer hmemory fun buffer hslice => ?_
  refine modifyController_then ?_
  refine writeDrive_then hserves haligned hdisk hslice ?_
  exact modifyController_then (.pure fun s hs => ⟨rfl, hs⟩)

theorem readPiece_copies
    (hserves : ServesSectors 512 size holds) (v : Word) (device : Nat) :
    CopiesSector holds 512 size true device ramSize
      (readPiece v device : (memory disk : BitVec 32) → (cur left : Nat) →
        Place → Command Rk05 β (Bool × Place)) := by
  unfold readPiece
  generalize 512 = n at hserves ⊢
  constructor
  intro p memory disk left place hmemory haligned hdisk
  refine .view_bind_any fun buffer => ?_
  refine readDrive_then hserves buffer haligned hdisk fun buffer hslice => ?_
  refine modifyController_then ?_
  refine storeBytes_then hmemory hslice ?_
  exact modifyController_then (.pure fun s hs => ⟨rfl, hs⟩)

omit [DiskBackend β] in
theorem transfer_copies
    {toMemory : Bool} {device : Nat}
    {piece : Nat → (memory disk : BitVec 32) → (cur left : Nat) → Place →
      Command Rk05 β (Bool × Place)}
    (hpiece : CopiesSector holds 512 size toMemory device ramSize
      (piece device))
    {da : Word} {reclen : Nat} {memoff : BitVec 32} (hlength : 512 ∣ reclen)
    (hmemory : memoff.toNat + reclen ≤ ramSize.toNat)
    (hdisk : (diskOffset da).toNat + reclen ≤ size device)
    (hfits : (diskOffset da).toNat + reclen < 2 ^ 32) :
    EndsWell (Ready holds device ramSize p)
      (transfer piece device da reclen memoff)
      fun _ => Shows holds ((Copy.mk toMemory memoff.toNat device
        (diskOffset da).toNat reclen).apply p) ramSize := by
  obtain ⟨sectors, rfl⟩ := hlength
  rw [Nat.mul_comm] at hmemory hdisk hfits ⊢
  have haligned : 512 ∣ (diskOffset da).toNat := diskOffset_dvd da
  refine driveExists_ready ?_
  refine .bind (transferLoop_copies hpiece _ (by omega) hmemory haligned hdisk
    hfits) fun place => ?_
  exact (modifyController_ready _).weaken_post fun _ _ hs => hs.shows

omit [DiskBackend β] in
theorem finish_shows
    (v : Word) (device : Nat) :
    EndsWell (Shows holds p ramSize) (finish v device : Command Rk05 β Unit)
      fun _ => Shows holds p ramSize := by
  refine .bind (modifyController_shows _) fun _ => ?_
  refine .ite (fun _ => ?_) fun _ => .pure fun _ hs => hs
  exact .bind (modifyController_shows _) fun _ => queueInterrupt_shows _ _

/-- The function of a command word has the effect of the copy that it
starts. -/
theorem execute_copies
    (hserves : ServesSectors 512 size holds) (v : Word) {s : Bench Rk05 β}
    (hshows : Shows holds p ramSize s) (hgo : v &&& 1 ≠ 0) (c : Rk05)
    (hfits : ∀ copy, startedCopy RK05_CS v c = some copy →
      CopyFits 512 size copy s) :
    After
      (fun _ => Shows holds (applyAll (startedCopy RK05_CS v c).toList p)
        ramSize)
      (fun _ _ => False)
      (execute v c.selected (c.get RK05_DA) (recordLength (c.get RK05_WC))
        (c.set RK05_CS v).getBusAddress s) := by
  have htransfer : ∀ (toMemory : Bool)
      (piece : Nat → (memory disk : BitVec 32) → (cur left : Nat) → Place →
        Command Rk05 β (Bool × Place)),
      CopiesSector holds 512 size toMemory c.selected ramSize
        (piece c.selected) →
      CopyFits 512 size (Copy.mk toMemory (c.programmedBus v) c.selected
        c.programmedDisk (recordLength (c.get RK05_WC))) s →
      After (fun _ => Shows holds
          ((Copy.mk toMemory (c.programmedBus v) c.selected c.programmedDisk
            (recordLength (c.get RK05_WC))).apply p) ramSize)
        (fun _ _ => False)
        (transfer piece c.selected (c.get RK05_DA)
          (recordLength (c.get RK05_WC)) (c.set RK05_CS v).getBusAddress
          s) := by
    intro toMemory piece hpiece hcopy
    have hwithin := hcopy.within
    unfold Copy.Within at hwithin
    rw [hshows.ramSize] at hwithin
    have hbus := toNat_getBusAddress v c
    have hdisk := toNat_diskOffset c
    rw [← hbus, ← hdisk] at hwithin ⊢
    have hfits := hcopy.representable
    rw [← hdisk] at hfits
    exact transfer_copies hpiece hcopy.sectors hwithin.1 hwithin.2 hfits s
      ⟨hshows, hcopy.loaded⟩
  unfold startedCopy at hfits ⊢
  rw [if_pos ⟨rfl, hgo⟩] at hfits ⊢
  unfold execute
  generalize ((v >>> 1) &&& 7).toNat = function at hfits ⊢
  rcases function with _ | _ | _ | _ | _ | function
  · exact modifyController_shows _ s hshows
  · exact htransfer false (writePiece v) (writePiece_copies hserves v _)
      (hfits _ rfl)
  · exact htransfer true (readPiece v) (readPiece_copies hserves v _)
      (hfits _ rfl)
  · exact hshows
  · exact modifyController_shows _ s hshows
  · exact hshows

theorem writeWord_copies
    (hserves : ServesSectors 512 size holds) (a v : Word) {s : Bench Rk05 β}
    (hshows : Shows holds p ramSize s)
    (hfits : ∀ copy, startedCopy a v s.controller = some copy →
      CopyFits 512 size copy s) :
    After
      (fun _ => Shows holds (applyAll (startedCopy a v s.controller).toList p)
        ramSize)
      (fun _ _ => False)
      (writeWord a v s : EStateM.Result _ (Bench Rk05 β) Unit) := by
  by_cases hcommand : a = RK05_CS ∧ v &&& 1 ≠ 0
  · obtain ⟨rfl, hgo⟩ := hcommand
    let t : Bench Rk05 β :=
      { s with
        controller := (s.controller.set RK05_CS v).modify RK05_CS
          (· &&& ~~~(1#16 <<< 13)) }
    have hrun : writeWord RK05_CS v s =
        (execute v s.controller.selected (s.controller.get RK05_DA)
            (recordLength (s.controller.get RK05_WC))
            (s.controller.set RK05_CS v).getBusAddress >>= fun _ =>
          finish v s.controller.selected) t := by
      unfold writeWord modifyController
      rw [update_bind_apply, if_pos ⟨rfl, hgo⟩]
      rfl
    have hexecute := execute_copies hserves v (s := t)
      (hshows.of_frame rfl rfl) hgo s.controller fun copy hcopy =>
        { hfits copy hcopy with }
    rw [hrun]
    exact after_bind hexecute fun _ u hu => finish_shows _ _ u hu
  · have hnone : startedCopy a v s.controller = none := if_neg hcommand
    rw [hnone]
    unfold writeWord modifyController
    rw [update_bind_apply, if_neg hcommand]
    exact hshows.of_frame rfl rfl

instance : LawfulCopyingController Rk05 where
  perform hserves g s hshows hfits := by
    cases g with
    | readByte a =>
        exact hshows.of_frame rfl rfl
    | readWord a =>
        exact hshows.of_frame rfl rfl
    | writeByte a v =>
        exact writeWord_copies hserves a _ hshows hfits
    | writeWord a v =>
        exact writeWord_copies hserves a v hshows hfits

end Rk05

namespace Rl02

variable {β : Type}

/-- What a write of a register starts. -/
def startedCopy (a v : Word) (c : Rl02) : Option Copy :=
  if a = RL02_CSR then
    match ((v >>> 1) &&& 7).toNat with
    | 5 =>
        some ⟨false, c.programmedBus v / 2 * 2, selected v, c.programmedDisk,
          byteCount (c.get RL02_MPR)⟩
    | 6 | 7 =>
        some ⟨true, c.programmedBus v / 2 * 2, selected v, c.programmedDisk,
          byteCount (c.get RL02_MPR)⟩
    | _ => none
  else
    none

instance : CopyingController Rl02 where
  sectorSize := rl02BytesPerSector
  written g c :=
    match g with
    | .readByte _ => none
    | .readWord _ => none
    | .writeByte a v => some (a, updateWord (c.get a) (isOdd a) v)
    | .writeWord a v => some (a, v)
  started := startedCopy

variable [DiskBackend β] {holds : Nat → (Nat → Byte) → β → Prop}
variable {size : Nat → Nat}
variable {p : Stores Byte} {ramSize : PhysAddr}

/-- A drive that is loaded is read and written. -/
theorem writeLoaded_then
    {α : Type} {Q : α → Bench Rl02 β → Prop} {device offset n m : Nat}
    (hm : rl02BytesPerSector = m)
    {source : Buffer} {k : Bool → Command Rl02 β α}
    (h : EndsWell (Ready holds device ramSize p)
      (writeDrive device offset n source m >>= k) Q) :
    EndsWell (Ready holds device ramSize p)
      (writeLoaded device offset n source >>= k) Q := by
  intro s hs
  have hrun : writeLoaded device offset n source s =
      writeDrive device offset n source m s := by
    rw [← hm]
    exact bind_of_ok (driveLoaded_of_loaded hs.loaded)
  rw [bind_apply, hrun, ← bind_apply]
  exact h s hs

theorem readLoaded_then
    {α : Type} {Q : α → Bench Rl02 β → Prop} {device offset n m : Nat}
    (hm : rl02BytesPerSector = m)
    {target : Buffer} {k : Bool × Buffer → Command Rl02 β α}
    (h : EndsWell (Ready holds device ramSize p)
      (readDrive device offset n target m >>= k) Q) :
    EndsWell (Ready holds device ramSize p)
      (readLoaded device offset n target >>= k) Q := by
  intro s hs
  have hrun : readLoaded device offset n target s =
      readDrive device offset n target m s := by
    rw [← hm]
    exact bind_of_ok (driveLoaded_of_loaded hs.loaded)
  rw [bind_apply, hrun, ← bind_apply]
  exact h s hs

theorem writePiece_copies
    (hserves : ServesSectors rl02BytesPerSector size holds) (device : Nat) :
    CopiesSector holds rl02BytesPerSector size false device ramSize
      (writePiece device : (memory disk : BitVec 32) → (cur left : Nat) →
        Unit → Command Rl02 β (Bool × Unit)) := by
  unfold writePiece
  generalize hm : rl02BytesPerSector = m at hserves ⊢
  constructor
  intro p memory disk left place hmemory haligned hdisk
  refine .view_bind_any fun buffer => ?_
  refine loadBytes_then buffer hmemory fun buffer hslice => ?_
  refine modifyController_then (writeLoaded_then hm ?_)
  refine writeDrive_then hserves haligned hdisk hslice ?_
  exact modifyController_then (.pure fun s hs => ⟨rfl, hs⟩)

theorem readPiece_copies
    (hserves : ServesSectors rl02BytesPerSector size holds) (device : Nat) :
    CopiesSector holds rl02BytesPerSector size true device ramSize
      (readPiece device : (memory disk : BitVec 32) → (cur left : Nat) →
        Unit → Command Rl02 β (Bool × Unit)) := by
  unfold readPiece
  generalize hm : rl02BytesPerSector = m at hserves ⊢
  constructor
  intro p memory disk left place hmemory haligned hdisk
  refine .view_bind_any fun buffer => readLoaded_then hm ?_
  refine readDrive_then hserves buffer haligned hdisk fun buffer hslice => ?_
  refine modifyController_then ?_
  refine storeBytes_then hmemory hslice ?_
  exact modifyController_then (.pure fun s hs => ⟨rfl, hs⟩)

omit [DiskBackend β] in
theorem transfer_copies
    {toMemory : Bool} {device : Nat}
    {piece : (memory disk : BitVec 32) → (cur left : Nat) → Unit →
      Command Rl02 β (Bool × Unit)}
    (hpiece : CopiesSector holds rl02BytesPerSector size toMemory device
      ramSize piece)
    {s : Bench Rl02 β} (hs : Ready holds device ramSize p s)
    (hlength : rl02BytesPerSector ∣ byteCount (s.controller.get RL02_MPR))
    (hmemory : s.controller.getBusAddress.toNat +
      byteCount (s.controller.get RL02_MPR) ≤ ramSize.toNat)
    (hdisk : s.controller.programmedDisk +
      byteCount (s.controller.get RL02_MPR) ≤ size device)
    (hfits : s.controller.programmedDisk +
      byteCount (s.controller.get RL02_MPR) < 2 ^ 32) :
    After
      (fun _ => Shows holds ((Copy.mk toMemory
        s.controller.getBusAddress.toNat device s.controller.programmedDisk
        (byteCount (s.controller.get RL02_MPR))).apply p) ramSize)
      (fun _ _ => False) (transfer piece s) := by
  have haligned := calcOffset_dvd
    (s.controller.position (s.controller.get RL02_DAR))
  rw [← toNat_calcOffset] at hdisk hfits ⊢
  change After _ _ (transferLoop rl02BytesPerSector piece
    (byteCount (s.controller.get RL02_MPR)) _ _
    (byteCount (s.controller.get RL02_MPR)) ()
    { s with
      controller := s.controller.position (s.controller.get RL02_DAR) })
  obtain ⟨sectors, hsectors⟩ := hlength
  rw [Nat.mul_comm] at hsectors
  rw [hsectors] at hmemory hdisk hfits ⊢
  have hpasses : sectors ≤ sectors * rl02BytesPerSector :=
    Nat.le_mul_of_pos_right _ (by decide)
  refine Triple.weaken_post (transferLoop_copies hpiece () hpasses hmemory
    haligned hdisk hfits) (fun _ _ hs => hs.shows) _ ?_
  exact hs.of_frame rfl rfl

/-- The command of a word has the effect of the copy that it starts, once the
word is in the register. -/
theorem execute_copies
    (hserves : ServesSectors rl02BytesPerSector size holds) (v : Word)
    {s : Bench Rl02 β} (hshows : Shows holds p ramSize s) {c : Rl02}
    (hcontroller : s.controller = c.set RL02_CSR v)
    (hfits : ∀ copy, startedCopy RL02_CSR v c = some copy →
      CopyFits rl02BytesPerSector size copy s) :
    After
      (fun _ => Shows holds (applyAll (startedCopy RL02_CSR v c).toList p)
        ramSize)
      (fun _ _ => False)
      (execute (selected v) ((v >>> 1) &&& 7).toNat s) := by
  have htransfer : ∀ (toMemory : Bool)
      (piece : (memory disk : BitVec 32) → (cur left : Nat) → Unit →
        Command Rl02 β (Bool × Unit)),
      CopiesSector holds rl02BytesPerSector size toMemory (selected v) ramSize
        piece →
      CopyFits rl02BytesPerSector size (Copy.mk toMemory
        (c.programmedBus v / 2 * 2) (selected v) c.programmedDisk
        (byteCount (c.get RL02_MPR))) s →
      After (fun _ => Shows holds
          ((Copy.mk toMemory (c.programmedBus v / 2 * 2) (selected v)
            c.programmedDisk (byteCount (c.get RL02_MPR))).apply p) ramSize)
        (fun _ _ => False)
        ((driveExists (selected v) >>= fun present =>
          if !present then do
            modifyController fun c =>
              c.modify RL02_CSR (· ||| ((1#16 <<< 10) ||| (1#16 <<< 15)))
            pure true
          else do
            transfer piece
            pure true : Command Rl02 β Bool) s) := by
    intro toMemory piece hpiece hcopy
    have hwithin := hcopy.within
    unfold Copy.Within at hwithin
    rw [hshows.ramSize] at hwithin
    have hbus := toNat_getBusAddress v c
    have hdisk : (c.set RL02_CSR v).programmedDisk = c.programmedDisk := rfl
    have hmpr : (c.set RL02_CSR v).get RL02_MPR = c.get RL02_MPR := rfl
    have h := transfer_copies hpiece (s := s) ⟨hshows, hcopy.loaded⟩
    rw [hcontroller, hbus, hdisk, hmpr] at h
    have hexists : decide (selected v < s.fhs.length) = true :=
      decide_eq_true (Bench.lt_of_drive hcopy.loaded)
    unfold driveExists
    rw [view_bind_apply, hexists]
    exact after_bind (h hcopy.sectors hwithin.1 hwithin.2
      hcopy.representable) fun _ _ ht => ht
  have hother : ∀ (m : Command Rl02 β Bool),
      EndsWell (Shows holds p ramSize) m (fun _ => Shows holds p ramSize) →
      After (fun _ => Shows holds p ramSize) (fun _ _ => False)
        ((driveExists (selected v) >>= fun present =>
          if !present then do
            modifyController fun c =>
              c.modify RL02_CSR (· ||| ((1#16 <<< 10) ||| (1#16 <<< 15)))
            pure true
          else
            m : Command Rl02 β Bool) s) := by
    intro m hm
    refine Triple.view_bind_any (fun present => .ite (fun _ => ?_)
      fun _ => hm) s hshows
    exact .bind (modifyController_shows _) fun _ => .pure fun _ hs => hs
  unfold startedCopy at hfits ⊢
  rw [if_pos rfl] at hfits ⊢
  unfold execute
  generalize ((v >>> 1) &&& 7).toNat = command at hfits ⊢
  rcases command with _ | _ | _ | _ | _ | _ | _ | _ | command
  · exact hother _ (.pure fun _ hs => hs)
  · exact hother _ (.pure fun _ hs => hs)
  · exact hother _ (.bind (modifyController_shows _) fun _ =>
      .pure fun _ hs => hs)
  · exact hother _ (.bind (modifyController_shows _) fun _ =>
      .pure fun _ hs => hs)
  · exact hother _ (.bind (modifyController_shows _) fun _ =>
      .pure fun _ hs => hs)
  · exact htransfer false _ (writePiece_copies hserves _) (hfits _ rfl)
  · exact htransfer true _ (readPiece_copies hserves _) (hfits _ rfl)
  · exact htransfer true _ (readPiece_copies hserves _) (hfits _ rfl)
  · exact hother _ (.pure fun _ hs => hs)

theorem writeWord_copies
    (hserves : ServesSectors rl02BytesPerSector size holds) (a v : Word)
    {s : Bench Rl02 β} (hshows : Shows holds p ramSize s)
    (hfits : ∀ copy, startedCopy a v s.controller = some copy →
      CopyFits rl02BytesPerSector size copy s) :
    After
      (fun _ => Shows holds (applyAll (startedCopy a v s.controller).toList p)
        ramSize)
      (fun _ _ => False)
      (writeWord a v s : EStateM.Result _ (Bench Rl02 β) Unit) := by
  unfold writeWord modifyController
  rw [update_bind_apply]
  by_cases ha : a = RL02_CSR
  · subst ha
    have hexecute := execute_copies hserves v (c := s.controller)
      (s := { s with controller := s.controller.set RL02_CSR v })
      (hshows.of_frame rfl rfl) rfl fun copy hcopy =>
        { hfits copy hcopy with }
    rw [if_pos rfl]
    refine after_bind hexecute fun doInt t ht => ?_
    refine Triple.view_bind_any (fun enabled => .ite (fun _ => ?_)
      fun _ => .pure fun _ hs => hs) t ht
    exact queueInterrupt_shows _ _
  · have hnone : startedCopy a v s.controller = none := if_neg ha
    rw [hnone, if_neg ha]
    exact hshows.of_frame rfl rfl

instance : LawfulCopyingController Rl02 where
  perform hserves g s hshows hfits := by
    cases g with
    | readByte a =>
        exact hshows.of_frame rfl rfl
    | readWord a =>
        exact hshows.of_frame rfl rfl
    | writeByte a v =>
        exact writeWord_copies hserves a _ hshows hfits
    | writeWord a v =>
        exact writeWord_copies hserves a v hshows hfits

end Rl02

namespace Rp06

variable {β : Type}

/-- What a write of a register starts. -/
def startedCopy (a v : Word) (c : Rp06) : Option Copy :=
  if a = RP06_CS1 ∧ v &&& 1 ≠ 0 then
    match (v &&& 62).toNat with
    | 0o60 =>
        some ⟨false, c.programmedBus v, 0, c.computeOffset.toNat,
          wordCountBytes (c.get RP06_WC)⟩
    | 0o70 =>
        some ⟨true, c.programmedBus v, 0, c.computeOffset.toNat,
          wordCountBytes (c.get RP06_WC)⟩
    | _ => none
  else
    none

instance : CopyingController Rp06 where
  sectorSize := sectorSize
  written g c :=
    match g with
    | .readByte _ => none
    | .readWord _ => none
    | .writeByte a v => some (a &&& ~~~1, updateWord (c.get a) (isOdd a) v)
    | .writeWord a v => some (a, v)
  started := startedCopy

variable [DiskBackend β] {holds : Nat → (Nat → Byte) → β → Prop}
variable {size : Nat → Nat}
variable {p : Stores Byte} {ramSize : PhysAddr} {reads : Bool}

theorem piece_copies
    (hserves : ServesSectors sectorSize size holds)
    {memory curOffset : BitVec 32} (buffer : Buffer)
    (hmemory : memory.toNat + sectorSize ≤ ramSize.toNat)
    (haligned : sectorSize ∣ curOffset.toNat)
    (hdisk : curOffset.toNat + sectorSize ≤ size 0) :
    EndsWell (Ready holds 0 ramSize p)
      (piece reads memory curOffset sectorSize buffer : Command Rp06 β _)
      fun r s => r.1 = true ∧ Ready holds 0 ramSize
        ((Copy.mk reads memory.toNat 0 curOffset.toNat sectorSize).apply p)
        s := by
  unfold piece
  generalize sectorSize = n at hserves hmemory haligned hdisk ⊢
  cases reads with
  | true =>
      refine readDrive_then hserves buffer haligned hdisk
        fun buffer hslice => ?_
      exact storeBytes_then hmemory hslice (.pure fun s hs => ⟨rfl, hs⟩)
  | false =>
      refine loadBytes_then buffer hmemory fun buffer hslice => ?_
      exact writeDrive_then hserves haligned hdisk hslice
        (.pure fun s hs => ⟨rfl, hs⟩)

/-- The loop of a transfer copies its sectors. -/
theorem transferLoop_copies
    (hserves : ServesSectors sectorSize size holds)
    {memory curOffset endOffset : BitVec 32} {sectors passes : Nat}
    (buffer : Buffer) (hpasses : sectors < passes)
    (hend : endOffset.toNat = curOffset.toNat + sectors * sectorSize)
    (hmemory : memory.toNat + sectors * sectorSize ≤ ramSize.toNat)
    (haligned : sectorSize ∣ curOffset.toNat)
    (hdisk : curOffset.toNat + sectors * sectorSize ≤ size 0) :
    EndsWell (Ready holds 0 ramSize p)
      (transferLoop reads endOffset passes memory curOffset buffer :
        Command Rp06 β Unit)
      fun _ => Ready holds 0 ramSize
        ((Copy.mk reads memory.toNat 0 curOffset.toNat
          (sectors * sectorSize)).apply p) := by
  induction passes generalizing p memory curOffset sectors buffer with
  | zero =>
      exact absurd hpasses (Nat.not_lt_zero _)
  | succ passes ih =>
      have hbound := ramSize.isLt
      have hbound' := endOffset.isLt
      cases sectors with
      | zero =>
          rw [Nat.zero_mul, Nat.add_zero] at hend
          refine .ite (fun hlt => ?_) fun _ => .pure fun s hs => ?_
          · rw [BitVec.lt_def, hend] at hlt
            exact absurd hlt (Nat.lt_irrefl _)
          · rw [Copy.apply_of_length_zero (Nat.zero_mul _)]
            exact hs
      | succ rest =>
          rw [Nat.succ_mul] at hend hmemory hdisk ⊢
          have hpos : 0 < sectorSize := by
            decide
          have hlt : curOffset < endOffset := by
            rw [BitVec.lt_def]
            omega
          have hcur : min (endOffset - curOffset).toNat sectorSize =
              sectorSize := by
            rw [BitVec.toNat_sub_of_le (BitVec.le_of_lt hlt)]
            omega
          have hnextMemory := toNat_add_ofNat
            (show memory.toNat + sectorSize < 2 ^ 32 by omega)
          have hnextDisk := toNat_add_ofNat
            (show curOffset.toNat + sectorSize < 2 ^ 32 by omega)
          refine .ite (fun _ => ?_) fun hdone => absurd hlt hdone
          rw [hcur]
          refine .bind (piece_copies hserves buffer (by omega) haligned
            (by omega)) ?_
          rintro ⟨goOn, buffer⟩ s ⟨hgo, hready⟩
          dsimp only at hgo ⊢
          subst hgo
          rw [if_pos rfl]
          have hrest := ih (p := (Copy.mk reads memory.toNat 0
              curOffset.toNat sectorSize).apply p)
            buffer (show rest < passes by omega)
            (show endOffset.toNat =
              (curOffset + BitVec.ofNat 32 sectorSize).toNat +
                rest * sectorSize by omega)
            (show (memory + BitVec.ofNat 32 sectorSize).toNat +
              rest * sectorSize ≤ ramSize.toNat by omega)
            (show sectorSize ∣
                (curOffset + BitVec.ofNat 32 sectorSize).toNat by
              rw [hnextDisk]
              exact Nat.dvd_add haligned (Nat.dvd_refl _))
            (by omega)
          rw [hnextMemory, hnextDisk, Copy.apply_add,
            Nat.add_comm sectorSize] at hrest
          exact hrest s hready

/-- The function of a command has the effect of the copy that it starts. -/
theorem execute_copies
    (hserves : ServesSectors sectorSize size holds) {v : Word}
    (hgo : v &&& 1 ≠ 0) {c : Rp06} {s : Bench Rp06 β}
    (hshows : Shows holds p ramSize s)
    (hcontroller : s.controller = commanded v c)
    (hfits : ∀ copy, startedCopy RP06_CS1 v c = some copy →
      CopyFits sectorSize size copy s) :
    After
      (fun _ => Shows holds (applyAll (startedCopy RP06_CS1 v c).toList p)
        ramSize)
      (fun _ _ => False)
      (execute (v &&& 62).toNat s) := by
  have htransfer : ∀ reads : Bool,
      CopyFits sectorSize size (Copy.mk reads (c.programmedBus v) 0
        c.computeOffset.toNat (wordCountBytes (c.get RP06_WC))) s →
      After (fun _ => Shows holds ((Copy.mk reads (c.programmedBus v) 0
          c.computeOffset.toNat (wordCountBytes (c.get RP06_WC))).apply p)
          ramSize)
        (fun _ _ => False) (transfer reads s) := by
    intro reads hcopy
    have hwithin := hcopy.within
    have hrepresentable := hcopy.representable
    unfold Copy.Within at hwithin
    rw [hshows.ramSize] at hwithin
    dsimp only at hwithin hrepresentable
    have hbus : (BitVec.ofNat 32 (c.programmedBus v)).toNat =
        c.programmedBus v := by
      have := ramSize.isLt
      rw [BitVec.toNat_ofNat]
      omega
    have hend : (c.computeOffset +
        BitVec.ofNat 32 (wordCountBytes (c.get RP06_WC))).toNat =
          c.computeOffset.toNat + wordCountBytes (c.get RP06_WC) :=
      toNat_add_ofNat hrepresentable
    obtain ⟨sectors, hsectors⟩ := hcopy.sectors
    dsimp only at hsectors
    rw [Nat.mul_comm] at hsectors
    have hpasses : sectors < allPasses := by
      have hlt : c.computeOffset.toNat + sectors * sectorSize < 2 ^ 32 :=
        hsectors ▸ hrepresentable
      unfold allPasses
      unfold sectorSize at hlt
      omega
    have hloop : EndsWell (Ready holds 0 ramSize p)
        (transferLoop reads (c.computeOffset +
            BitVec.ofNat 32 (wordCountBytes (c.get RP06_WC))) allPasses
          (BitVec.ofNat 32 (c.programmedBus v)) c.computeOffset
          (fun _ => 0) : Command Rp06 β Unit) _ :=
      transferLoop_copies hserves (fun _ => 0) hpasses
        (by rw [hend, hsectors]) (by rw [hbus, ← hsectors]; exact hwithin.1)
        (computeOffset_dvd c) (by rw [← hsectors]; exact hwithin.2)
    rw [hbus, ← hsectors] at hloop
    unfold transfer controllerView
    rw [view_bind_apply, view_bind_apply, view_bind_apply, hcontroller]
    dsimp only
    rw [commanded_computeOffset, getphysaddr_commanded,
      commanded_get v c (by decide) (by decide)]
    refine after_bind (hloop s ⟨hshows, hcopy.loaded⟩) fun _ t ht => ?_
    exact ht.shows.of_frame rfl rfl
  have hdone : ∀ f : Rp06 → Rp06,
      After (fun _ => Shows holds p ramSize) (fun _ _ => False)
        ((do
          modifyController f
          pure true : Command Rp06 β Bool) s) := by
    intro f
    exact hshows.of_frame rfl rfl
  unfold startedCopy at hfits ⊢
  rw [if_pos ⟨rfl, hgo⟩] at hfits ⊢
  unfold execute
  generalize (v &&& 62).toNat = function at hfits ⊢
  by_cases hwrites : function = 0o60
  · subst hwrites
    exact after_bind (htransfer false (hfits _ rfl)) fun _ _ ht => ht
  by_cases hreads : function = 0o70
  · subst hreads
    exact after_bind (htransfer true (hfits _ rfl)) fun _ _ ht => ht
  have hnone : (match function with
      | 0o60 => some (Copy.mk false (c.programmedBus v) 0
          c.computeOffset.toNat (wordCountBytes (c.get RP06_WC)))
      | 0o70 => some (Copy.mk true (c.programmedBus v) 0
          c.computeOffset.toNat (wordCountBytes (c.get RP06_WC)))
      | _ => none) = none := by
    split
    · exact absurd rfl hwrites
    · exact absurd rfl hreads
    · rfl
  rw [hnone]
  split
  · exact hdone _
  · exact hdone _
  · exact hdone _
  · exact hdone _
  · exact hdone _
  · exact hdone _
  · exact absurd rfl hwrites
  · exact absurd rfl hreads
  · exact hshows

theorem writeWord_copies
    (hserves : ServesSectors sectorSize size holds) (a v : Word)
    {s : Bench Rp06 β} (hshows : Shows holds p ramSize s)
    (hfits : ∀ copy, startedCopy a v s.controller = some copy →
      CopyFits sectorSize size copy s) :
    After
      (fun _ => Shows holds (applyAll (startedCopy a v s.controller).toList p)
        ramSize)
      (fun _ _ => False)
      (writeWord a v s : EStateM.Result _ (Bench Rp06 β) Unit) := by
  unfold writeWord modifyController
  rw [update_bind_apply]
  by_cases ha : a = RP06_CS1
  · subst ha
    rw [if_pos rfl, update_bind_apply]
    by_cases hgo : v &&& 1 ≠ 0
    · have hexecute := execute_copies hserves hgo (c := s.controller)
        (s := { s with controller := commanded v s.controller })
        (hshows.of_frame rfl rfl) rfl fun copy hcopy =>
          { hfits copy hcopy with }
      rw [if_pos hgo]
      unfold go modifyController
      rw [update_bind_apply]
      refine after_bind hexecute fun doInt t ht => ?_
      refine Triple.view_bind_any (fun enabled => .ite (fun _ => ?_)
        fun _ => .pure fun _ hs => hs) t ht
      exact queueInterrupt_shows _ _
    · have hnone : startedCopy RP06_CS1 v s.controller = none :=
        if_neg fun h => hgo h.2
      rw [hnone, if_neg hgo]
      exact hshows.of_frame rfl rfl
  · have hnone : startedCopy a v s.controller = none :=
      if_neg fun h => ha h.1
    rw [hnone, if_neg ha]
    exact hshows.of_frame rfl rfl

instance : LawfulCopyingController Rp06 where
  perform hserves g s hshows hfits := by
    cases g with
    | readByte a =>
        exact hshows.of_frame rfl rfl
    | readWord a =>
        exact hshows.of_frame rfl rfl
    | writeByte a v =>
        exact writeWord_copies hserves _ _ hshows hfits
    | writeWord a v =>
        exact writeWord_copies hserves a v hshows hfits

end Rp06

section Runs

variable {β : Type} [DiskBackend β] {holds : Nat → (Nat → Byte) → β → Prop}
variable {size : Nat → Nat} {ramSize : PhysAddr} {p : Stores Byte}

/-- For every sequence of register accesses whose transfers are of whole
sectors of loaded drives, between places that there are, the controllers
return, and memory and the drives hold what the copies make of them that the
accesses start. -/
theorem disk_controllers_copy
    (gs : List GuestAccess) :
    (∀ s : Bench Rk05 β, ServesSectors 512 size holds →
      Shows holds p ramSize s → AllFit (AccessFits size) gs s →
      ∃ t, performAll gs s = .ok () t ∧
        Shows holds (applyAll (copiesOf gs s) p) ramSize t) ∧
    (∀ s : Bench Rl02 β, ServesSectors 256 size holds →
      Shows holds p ramSize s → AllFit (AccessFits size) gs s →
      ∃ t, performAll gs s = .ok () t ∧
        Shows holds (applyAll (copiesOf gs s) p) ramSize t) ∧
    (∀ s : Bench Rp06 β, ServesSectors 512 size holds →
      Shows holds p ramSize s → AllFit (AccessFits size) gs s →
      ∃ t, performAll gs s = .ok () t ∧
        Shows holds (applyAll (copiesOf gs s) p) ramSize t) := by
  refine ⟨fun s hserves hshows hfits => ?_, fun s hserves hshows hfits => ?_,
    fun s hserves hshows hfits => ?_⟩
  · exact performAll_copies hserves hshows hfits
  · exact performAll_copies hserves hshows hfits
  · exact performAll_copies hserves hshows hfits

/-- What a transfer has written to a drive, a later transfer reads back, if no
transfer in between has overwritten it. -/
theorem written_sectors_are_read_back
    (w r : GuestAccess) (gs : List GuestAccess)
    (memory memory' drive disk length : Nat) :
    (∀ s u : Bench Rk05 β, ServesSectors 512 size holds →
      Shows holds p ramSize s →
      ReadsBack size w r gs memory memory' drive disk length s u →
      ∃ t, performAll (w :: gs ++ [r]) s = .ok () t ∧
        slice t.ram.m memory' length = slice s.ram.m memory length) ∧
    (∀ s u : Bench Rl02 β, ServesSectors 256 size holds →
      Shows holds p ramSize s →
      ReadsBack size w r gs memory memory' drive disk length s u →
      ∃ t, performAll (w :: gs ++ [r]) s = .ok () t ∧
        slice t.ram.m memory' length = slice s.ram.m memory length) ∧
    (∀ s u : Bench Rp06 β, ServesSectors 512 size holds →
      Shows holds p ramSize s →
      ReadsBack size w r gs memory memory' drive disk length s u →
      ∃ t, performAll (w :: gs ++ [r]) s = .ok () t ∧
        slice t.ram.m memory' length = slice s.ram.m memory length) := by
  refine ⟨fun s u hserves hshows h => ?_, fun s u hserves hshows h => ?_,
    fun s u hserves hshows h => ?_⟩
  · exact performAll_reads_back hserves hshows h
  · exact performAll_reads_back hserves hshows h
  · exact performAll_reads_back hserves hshows h

end Runs

section Examples

/-- An RL02 with an image of three sectors, numbered memory and a word count
of one sector. -/
def numberedRl02 : Bench Rl02 Backend :=
  { oneDriveRl02 (-128) (threeSectors false) with
    ram := { size := 0o20000, m := fun i => BitVec.ofNat 8 i } }

/-- The arrays of that machine. -/
def numberedArrays : Stores Byte where
  memory i := BitVec.ofNat 8 i
  disk _ := (threeSectors false).image.bytes

theorem numberedRl02_shows :
    Shows (fun _ => FileHolds 256 768) numberedArrays 0o20000 numberedRl02 where
  memory := rfl
  ramSize := rfl
  drives := by
    intro device b hdrive
    have hstart : HoldsWrites 256 (threeSectors false) (threeSectors false)
        [] := .start 256 rfl
    cases device with
    | zero =>
        cases hdrive
        exact ⟨⟨_, rfl, rfl⟩, Nat.le_refl _, hstart.wellSized,
          hstart.byteAt⟩
    | succ device =>
        cases hdrive

/-- WRITE DATA, another bus address, READ DATA. -/
def writeAndRead : List GuestAccess :=
  [.writeWord Rl02.RL02_CSR 0o12, .writeWord Rl02.RL02_BAR 0o1000,
    .writeWord Rl02.RL02_CSR 0o14]

/-- An access that starts the copy of a sector fits. -/
theorem accessFits_of_copy
    {s : Bench Rl02 Backend} {g : GuestAccess} {c : Copy}
    (hcopy : g.copy s.controller = some c) (hsectors : 256 ∣ c.length)
    (hwithin : c.Within s.ram.size.toNat 768)
    (hloaded : (s.drive c.drive).isSome = true) :
    AccessFits (fun _ => 768) g s := by
  intro c' hc'
  rw [hcopy] at hc'
  injection hc' with hc'
  subst hc'
  have hdisk := hwithin.2
  exact ⟨hsectors, hwithin, by omega, hloaded⟩

theorem accessFits_of_none
    {s : Bench Rl02 Backend} {g : GuestAccess}
    (hcopy : g.copy s.controller = none) :
    AccessFits (fun _ => 768) g s := by
  intro c hc
  rw [hcopy] at hc
  cases hc

/-- The accesses after one fit in the state that it leaves. -/
theorem allFit_of_final
    {s : Bench Rl02 Backend} {g : GuestAccess} {gs : List GuestAccess}
    (hfits : AccessFits (fun _ => 768) g s)
    (hrest : AllFit (AccessFits (fun _ => 768)) gs (final (g.perform s))) :
    AllFit (AccessFits (fun _ => 768)) (g :: gs) s := by
  refine ⟨hfits, fun t ht => ?_⟩
  rw [ht] at hrest
  exact hrest

theorem writeAndRead_fits :
    AllFit (AccessFits (fun _ => 768)) writeAndRead numberedRl02 := by
  unfold writeAndRead
  have hwrite : AccessFits (fun _ => 768) (.writeWord Rl02.RL02_CSR 0o12)
      numberedRl02 :=
    accessFits_of_copy (c := ⟨false, 0, 0, 0, 256⟩) (by decide) (by decide)
      (by decide) (by decide)
  refine allFit_of_final hwrite ?_
  generalize hs : final (GuestAccess.perform (.writeWord Rl02.RL02_CSR 0o12)
    numberedRl02) = s
  refine allFit_of_final (accessFits_of_none (by subst hs; decide +kernel)) ?_
  generalize ht : final (GuestAccess.perform (.writeWord Rl02.RL02_BAR 0o1000)
    s) = t
  have hread : AccessFits (fun _ => 768) (.writeWord Rl02.RL02_CSR 0o14) t := by
    refine accessFits_of_copy (c := ⟨true, 0o1000, 0, 0, 256⟩) ?_ (by decide)
      ?_ ?_
    · subst ht hs
      decide +kernel
    · subst ht hs
      decide +kernel
    · subst ht hs
      decide +kernel
  exact allFit_of_final hread trivial

/-- The sector is written from the start of memory and read to 01000. -/
theorem disk_controllers_copy_one_sector :
    ∃ t, performAll writeAndRead numberedRl02 = .ok () t ∧
      Shows (fun _ => FileHolds 256 768)
        (applyAll [⟨false, 0, 0, 0, 256⟩, ⟨true, 0o1000, 0, 0, 256⟩]
          numberedArrays) 0o20000 t := by
  have h := (disk_controllers_copy writeAndRead).2.1 numberedRl02
    (fileHolds_serves (by decide) fun _ => 768) numberedRl02_shows
    writeAndRead_fits
  have hcopies : copiesOf writeAndRead numberedRl02 =
      [⟨false, 0, 0, 0, 256⟩, ⟨true, 0o1000, 0, 0, 256⟩] := by
    decide +kernel
  rwa [hcopies] at h

theorem written_sectors_are_read_back_one_sector :
    ∃ t, performAll writeAndRead numberedRl02 = .ok () t ∧
      slice t.ram.m 0o1000 256 = slice numberedRl02.ram.m 0 256 := by
  have hreturns : returned (performAll
      [.writeWord Rl02.RL02_CSR 0o12, .writeWord Rl02.RL02_BAR 0o1000]
      numberedRl02) = true := by
    decide +kernel
  obtain ⟨_, hbetween⟩ := eq_ok_of_returned hreturns
  exact (written_sectors_are_read_back (.writeWord Rl02.RL02_CSR 0o12)
    (.writeWord Rl02.RL02_CSR 0o14) [.writeWord Rl02.RL02_BAR 0o1000] 0
    0o1000 0 0 256).2.1 numberedRl02 _
    (fileHolds_serves (by decide) fun _ => 768) numberedRl02_shows
    ⟨writeAndRead_fits, by decide, hbetween, by decide +kernel,
      by decide +kernel⟩

end Examples

end KekPdp11
