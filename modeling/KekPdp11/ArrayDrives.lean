import KekPdp11.Lib.ArrayCopies
import KekPdp11.DiskTransfers

/-!
# KEK PDP-11: memory and drives as arrays

`ServesSectors` says of a kind of drives that their calls for one sector read
and write an array: `holds device disk b` that `b`, as the drive of that number,
holds the array.  An open image file is such a drive, with its overlay in use
or not.

A bench then shows two kinds of arrays, the memory and those of its drives, and
what a controller calls has its effect on them.  A program ends properly in all
triples of this module.
-/

namespace KekPdp11

open StateExcept Slices ArrayCopies

/-- Drives of which the one with the number `device` is read and written, in
sectors, as an array of `size device` bytes. -/
structure ServesSectors {β : Type} [DiskBackend β] (sectorSize : Nat)
    (size : Nat → Nat) (holds : Nat → (Nat → Byte) → β → Prop) : Prop where
  read {device : Nat} {disk : Nat → Byte} {b : β} {offset : Nat}
    (target : Buffer) (hholds : holds device disk b)
    (haligned : sectorSize ∣ offset)
    (hsize : offset + sectorSize ≤ size device) :
    ∃ t b', DiskBackend.read offset sectorSize target sectorSize b =
        .ok (true, t) b' ∧
      slice t 0 sectorSize = slice disk offset sectorSize ∧
      holds device disk b'
  write {device : Nat} {disk : Nat → Byte} {b : β} {offset : Nat}
    (source : Buffer) (hholds : holds device disk b)
    (haligned : sectorSize ∣ offset)
    (hsize : offset + sectorSize ≤ size device) :
    ∃ b', DiskBackend.write offset sectorSize source sectorSize b =
        .ok true b' ∧
      holds device (overwrite disk offset (slice source 0 sectorSize)) b'

section Files

variable {sectorSize size : Nat}

/-- An open image file of at least the given size that holds the array. -/
structure FileHolds (sectorSize size : Nat) (disk : Nat → Byte) (b : Backend) :
    Prop where
  opened : ∃ f, b = .file f ∧ f.opened = true
  large : size ≤ b.image.size
  wellSized : b.overlaid.WellSized sectorSize
  bytes : b.byteAt sectorSize = disk

/-- A call for one sector of an open file returns true. -/
theorem FileHolds.answers
    {disk : Nat → Byte} {b : Backend} (h : FileHolds sectorSize size disk b)
    {offset : Nat} (target : Buffer) (hpos : 0 < sectorSize)
    (haligned : sectorSize ∣ offset) (hsize : offset + sectorSize ≤ size) :
    ∃ t, DiskBackend.read offset sectorSize target sectorSize b =
      .ok (true, t) b := by
  obtain ⟨f, rfl, hopened⟩ := h.opened
  have hlength : (f.preadFd sectorSize offset).length = sectorSize := by
    have hlarge : size ≤ f.image.size := h.large
    unfold FileBackend.preadFd Image.pread
    rw [if_pos hopened, length_slice]
    omega
  have hread : ∃ t, FileBackend.read offset sectorSize target sectorSize f =
      .ok (true, t) f := by
    unfold FileBackend.read
    simp only [diskAssert_bind_apply, Nat.mod_eq_zero_of_dvd haligned,
      Nat.mod_self, decide_true, if_true, Nat.div_self hpos]
    rw [FileBackend.readSectors_succ, Nat.add_zero,
      if_pos (Nat.mod_eq_zero_of_dvd haligned)]
    cases f.getFromOverlay offset sectorSize with
    | some data =>
        exact ⟨_, rfl⟩
    | none =>
        dsimp only
        rw [if_neg (not_not.mpr hlength)]
        exact ⟨_, rfl⟩
  obtain ⟨t, ht⟩ := hread
  exact ⟨t, congrArg (Backend.received .file) ht⟩

theorem FileHolds.reads
    {disk : Nat → Byte} {b : Backend} (h : FileHolds sectorSize size disk b)
    {offset : Nat} (target : Buffer) (hpos : 0 < sectorSize)
    (haligned : sectorSize ∣ offset) (hsize : offset + sectorSize ≤ size) :
    ∃ t b', DiskBackend.read offset sectorSize target sectorSize b =
        .ok (true, t) b' ∧
      slice t 0 sectorSize = slice disk offset sectorSize ∧
      FileHolds sectorSize size disk b' := by
  obtain ⟨t, ht⟩ := h.answers target hpos haligned hsize
  have hfits : b.ReadFits offset sectorSize sectorSize := by
    intro j hj hlt
    exact absurd hlt (Nat.not_lt.mpr (Nat.le_mul_of_pos_left _ hj))
  refine ⟨t, b, ht, ?_, h⟩
  rw [slice_eq_iff]
  intro i hi
  rw [Nat.zero_add, Backend.read_right hpos h.wellSized haligned
    (Nat.dvd_refl _) hfits ht hi, h.bytes]

theorem FileHolds.writes
    {disk : Nat → Byte} {b : Backend} (h : FileHolds sectorSize size disk b)
    {offset : Nat} (source : Buffer) (hpos : 0 < sectorSize)
    (haligned : sectorSize ∣ offset) :
    ∃ b', DiskBackend.write offset sectorSize source sectorSize b =
        .ok true b' ∧
      FileHolds sectorSize size
        (overwrite disk offset (slice source 0 sectorSize)) b' := by
  have hlarge := h.large
  obtain ⟨f, rfl, hopened⟩ := h.opened
  have hwrite : ∃ f', FileBackend.write offset sectorSize source sectorSize f =
      .ok true f' ∧ f'.opened = true ∧ f.image.size ≤ f'.image.size := by
    unfold FileBackend.write
    simp only [diskAssert_bind_apply, Nat.mod_eq_zero_of_dvd haligned,
      Nat.mod_self, decide_true, if_true, view_bind_apply, id, hopened,
      ite_apply_state, update_bind_apply, pure_apply]
    split
    · exact ⟨_, rfl, rfl, Nat.le_refl _⟩
    · refine ⟨_, rfl, rfl, ?_⟩
      dsimp only [Image.pwrite]
      split
      · exact Nat.le_refl _
      · exact Nat.le_max_left _ _
  obtain ⟨f', hrun, hopened', hgrown⟩ := hwrite
  have hrun' : DiskBackend.write offset sectorSize source sectorSize
      (Backend.file f) = .ok true (.file f') :=
    congrArg (Backend.received .file) hrun
  have hstores := (Backend.write_stores hpos h.wellSized haligned
    (Nat.dvd_refl _) hrun').1 rfl trivial
  refine ⟨.file f', hrun', ⟨f', rfl, hopened'⟩, Nat.le_trans hlarge hgrown,
    hstores.wellSized, ?_⟩
  rw [hstores.byteAt, h.bytes]

/-- Open image files are such drives. -/
theorem fileHolds_serves
    (hpos : 0 < sectorSize) (size : Nat → Nat) :
    ServesSectors sectorSize size
      (fun device => FileHolds sectorSize (size device)) where
  read target h haligned hsize := h.reads target hpos haligned hsize
  write source h haligned _ := h.writes source hpos haligned

end Files

section Benches

variable {ρ β : Type} {holds : Nat → (Nat → Byte) → β → Prop}

/-- The arrays that a bench shows. -/
structure Shows (holds : Nat → (Nat → Byte) → β → Prop) (p : Stores Byte)
    (ramSize : PhysAddr) (s : Bench ρ β) : Prop where
  memory : s.ram.m = p.memory
  ramSize : s.ram.size = ramSize
  drives : ∀ {device : Nat} {b : β}, s.fhs[device]? = some (some b) →
    holds device (p.disk device) b

/-- A program that ends properly. -/
abbrev EndsWell {α : Type} (I : Bench ρ β → Prop) (m : Command ρ β α)
    (Q : α → Bench ρ β → Prop) : Prop :=
  Triple I m Q fun _ _ => False

/-- The arrays and the drive that a command is for. -/
structure Ready (holds : Nat → (Nat → Byte) → β → Prop) (device : Nat)
    (ramSize : PhysAddr) (p : Stores Byte) (s : Bench ρ β) : Prop where
  shows : Shows holds p ramSize s
  loaded : Loaded device s

variable {device : Nat} {ramSize : PhysAddr} {p : Stores Byte}

theorem Shows.of_frame
    {s t : Bench ρ β} (h : Shows holds p ramSize s) (hram : t.ram = s.ram)
    (hfhs : t.fhs = s.fhs) :
    Shows holds p ramSize t := by
  refine ⟨?_, ?_, fun hdrive => h.drives ?_⟩
  · rw [hram]
    exact h.memory
  · rw [hram]
    exact h.ramSize
  · rw [← hfhs]
    exact hdrive

theorem Ready.of_frame
    {s t : Bench ρ β} (h : Ready holds device ramSize p s)
    (hram : t.ram = s.ram) (hfhs : t.fhs = s.fhs) :
    Ready holds device ramSize p t := by
  refine ⟨h.shows.of_frame hram hfhs, ?_⟩
  unfold Loaded Bench.drive
  rw [hfhs]
  exact h.loaded

theorem modifyController_ready
    (f : ρ → ρ) :
    EndsWell (Ready holds device ramSize p) (modifyController f)
      fun _ => Ready holds device ramSize p :=
  .update fun _ hs => hs.of_frame rfl rfl

/-- Bytes of a buffer stored to memory. -/
theorem storeBytes_ready
    {a : PhysAddr} {n i : Nat} (buffer : Buffer)
    (hfits : a.toNat + i + n ≤ ramSize.toNat) :
    EndsWell (Ready holds device ramSize p) (storeBytes a buffer n i)
      fun _ => Ready (ρ := ρ) holds device ramSize
        { p with
          memory := overwrite p.memory (a.toNat + i) (slice buffer i n) } := by
  induction n generalizing i p with
  | zero =>
      refine .pure fun s hs => ?_
      rw [slice_zero, overwrite_nil]
      exact hs
  | succ n ih =>
      have hbound := ramSize.isLt
      have haddress : (a + BitVec.ofNat 32 i).toNat = a.toNat + i := by
        rw [BitVec.toNat_add, BitVec.toNat_ofNat]
        omega
      have hfirst : EndsWell (Ready (ρ := ρ) holds device ramSize p)
          (writeUnibusByte (a + BitVec.ofNat 32 i) (buffer i))
          fun _ => Ready holds device ramSize
            { p with
              memory := overwrite p.memory (a.toNat + i)
                (slice buffer i 1) } := by
        refine .update fun s hs => ⟨⟨?_, ?_, hs.shows.drives⟩, hs.loaded⟩
        · have hlt : a + BitVec.ofNat 32 i < s.ram.size := by
            rw [hs.shows.ramSize, BitVec.lt_def, haddress]
            omega
          dsimp only
          rw [if_pos hlt]
          unfold Ram.writeByte
          dsimp only
          rw [haddress, hs.shows.memory]
          exact (overwrite_singleton _ _ _).symm
        · dsimp only
          split
          · exact hs.shows.ramSize
          · exact hs.shows.ramSize
      refine .bind hfirst fun _ => ?_
      have hjoined := overwrite_slices p.memory buffer (a.toNat + i) i 1 n
      refine (ih (i := i + 1) (by omega)).weaken_post fun _ s hs => ?_
      rw [Nat.add_comm n 1, ← hjoined]
      exact hs

/-- A buffer filled from memory. -/
theorem loadBytes_ready
    {a : PhysAddr} {n i : Nat} (buffer : Buffer)
    (hfits : a.toNat + i + n ≤ ramSize.toNat) :
    EndsWell (Ready holds device ramSize p) (loadBytes a n i buffer)
      fun filled s => Ready (ρ := ρ) holds device ramSize p s ∧
        filled = overwrite buffer i (slice p.memory (a.toNat + i) n) := by
  induction n generalizing i buffer with
  | zero =>
      refine .pure fun s hs => ⟨hs, ?_⟩
      rw [slice_zero, overwrite_nil]
  | succ n ih =>
      have hbound := ramSize.isLt
      have haddress : (a + BitVec.ofNat 32 i).toNat = a.toNat + i := by
        rw [BitVec.toNat_add, BitVec.toNat_ofNat]
        omega
      have hfirst : EndsWell (Ready (ρ := ρ) holds device ramSize p)
          (readUnibusByte (a + BitVec.ofNat 32 i))
          fun v s => Ready holds device ramSize p s ∧
            v = p.memory (a.toNat + i) := by
        refine .view_bind fun v => ?_
        refine .bind (Q := fun _ s => Ready holds device ramSize p s ∧
          v = p.memory (a.toNat + i)) ?_ fun _ => .pure fun _ hs => hs
        refine .update fun s ⟨hs, hv⟩ => ⟨hs.of_frame rfl rfl, ?_⟩
        have hlt : a + BitVec.ofNat 32 i < s.ram.size := by
          rw [hs.shows.ramSize, BitVec.lt_def, haddress]
          omega
        rw [if_pos hlt] at hv
        rw [← hv]
        unfold Ram.readByte
        rw [hs.shows.memory, haddress]
      refine .bind hfirst fun v => ?_
      intro s hs
      obtain ⟨hready, rfl⟩ := hs
      refine (ih (i := i + 1) _ (by omega)).weaken_post
        (fun filled t ht => ⟨ht.1, ?_⟩) s hready
      have hjoined := overwrite_slices buffer p.memory i (a.toNat + i) 1 n
      rw [ht.2, Nat.add_comm n 1, ← hjoined]
      congr 1
      exact (overwrite_singleton _ _ _).symm

/-- The drives after a call of one of them. -/
theorem Ready.set
    {s : Bench ρ β} (h : Ready holds device ramSize p s) {disk : Nat → Byte}
    {b' : β} (hb : holds device disk b') (trace : List DiskEvent) :
    Ready holds device ramSize
      { p with disk := Function.update p.disk device disk }
      { s with fhs := s.fhs.set device (some b'), trace := trace } := by
  have hlt := Bench.lt_of_drive h.loaded
  refine ⟨⟨h.shows.memory, h.shows.ramSize, ?_⟩, ?_⟩
  · intro other b hother
    dsimp only at hother ⊢
    by_cases hsame : other = device
    · subst hsame
      rw [List.getElem?_set_self hlt] at hother
      injection hother with hother
      injection hother with hother
      subst hother
      rw [Function.update_self]
      exact hb
    · rw [List.getElem?_set_ne (Ne.symm hsame)] at hother
      rw [Function.update_of_ne hsame]
      exact h.shows.drives hother
  · unfold Loaded Bench.drive
    dsimp only
    rw [List.getElem?_set_self hlt]
    rfl

variable [DiskBackend β] {sectorSize : Nat} {size : Nat → Nat}

/-- A sector read from the drive. -/
theorem readDrive_ready
    (hserves : ServesSectors sectorSize size holds) {offset : Nat}
    (target : Buffer) (haligned : sectorSize ∣ offset)
    (hsize : offset + sectorSize ≤ size device) :
    EndsWell (Ready holds device ramSize p)
      (readDrive device offset sectorSize target sectorSize)
      fun r s => r.1 = true ∧
        slice r.2 0 sectorSize = slice (p.disk device) offset sectorSize ∧
        Ready (ρ := ρ) holds device ramSize p s := by
  intro s hs
  obtain ⟨b, hdrive⟩ := Bench.getElem?_of_drive hs.loaded
  obtain ⟨t, b', hread, hslice, hholds⟩ :=
    hserves.read target (hs.shows.drives hdrive) haligned hsize
  unfold readDrive callDrive
  rw [hdrive]
  dsimp only
  rw [hread]
  refine ⟨rfl, hslice, ?_⟩
  have hset := hs.set hholds (readLog offset sectorSize sectorSize
    (some (true, t)) ++ s.trace)
  rw [Function.update_eq_self] at hset
  exact hset

/-- A sector written to the drive. -/
theorem writeDrive_ready
    (hserves : ServesSectors sectorSize size holds) {offset : Nat}
    (source : Buffer) (haligned : sectorSize ∣ offset)
    (hsize : offset + sectorSize ≤ size device) :
    EndsWell (Ready holds device ramSize p)
      (writeDrive device offset sectorSize source sectorSize)
      fun ok s => ok = true ∧ Ready (ρ := ρ) holds device ramSize
        { p with
          disk := Function.update p.disk device
            (overwrite (p.disk device) offset
              (slice source 0 sectorSize)) } s := by
  intro s hs
  obtain ⟨b, hdrive⟩ := Bench.getElem?_of_drive hs.loaded
  obtain ⟨b', hwrite, hholds⟩ :=
    hserves.write source (hs.shows.drives hdrive) haligned hsize
  unfold writeDrive callDrive
  rw [hdrive]
  dsimp only
  rw [hwrite]
  exact ⟨rfl, hs.set hholds _⟩

variable {α : Type} {a : PhysAddr} {Q : α → Bench ρ β → Prop}

/-- The rest of a program that reads a sector. -/
theorem readDrive_then
    (hserves : ServesSectors sectorSize size holds) {offset : Nat}
    (target : Buffer) (haligned : sectorSize ∣ offset)
    (hsize : offset + sectorSize ≤ size device)
    {k : Bool × Buffer → Command ρ β α}
    (h : ∀ t, slice t 0 sectorSize =
        slice (p.disk device) offset sectorSize →
      EndsWell (Ready holds device ramSize p) (k (true, t)) Q) :
    EndsWell (Ready holds device ramSize p)
      (readDrive device offset sectorSize target sectorSize >>= k) Q := by
  refine .bind (readDrive_ready hserves target haligned hsize) ?_
  rintro ⟨ok, t⟩ s ⟨hok, hslice, hs⟩
  dsimp only at hok hslice
  subst hok
  exact h t hslice s hs

omit [DiskBackend β] in
/-- The rest of a program that stores the sector to memory. -/
theorem storeBytes_then
    {offset n : Nat} {buffer : Buffer} (hfits : a.toNat + n ≤ ramSize.toNat)
    (hslice : slice buffer 0 n = slice (p.disk device) offset n)
    {k : Unit → Command ρ β α}
    (h : EndsWell (Ready holds device ramSize
      ((Copy.mk true a.toNat device offset n).apply p)) (k ()) Q) :
    EndsWell (Ready holds device ramSize p) (storeBytes a buffer n 0 >>= k)
      Q := by
  rw [apply_toMemory, ← hslice] at h
  exact .bind (storeBytes_ready buffer hfits) fun _ => h

omit [DiskBackend β] in
/-- The rest of a program that loads a sector from memory. -/
theorem loadBytes_then
    {n : Nat} (buffer : Buffer) (hfits : a.toNat + n ≤ ramSize.toNat)
    {k : Buffer → Command ρ β α}
    (h : ∀ t, slice t 0 n = slice p.memory a.toNat n →
      EndsWell (Ready holds device ramSize p) (k t) Q) :
    EndsWell (Ready holds device ramSize p) (loadBytes a n 0 buffer >>= k)
      Q := by
  refine .bind (loadBytes_ready buffer hfits) ?_
  rintro t s ⟨hs, rfl⟩
  refine h _ ?_ s hs
  have hslice := slice_overwrite buffer 0 (slice p.memory (a.toNat + 0) n)
  rwa [length_slice] at hslice

/-- The rest of a program that writes the sector. -/
theorem writeDrive_then
    (hserves : ServesSectors sectorSize size holds) {memory offset : Nat}
    {source : Buffer} (haligned : sectorSize ∣ offset)
    (hsize : offset + sectorSize ≤ size device)
    (hslice : slice source 0 sectorSize = slice p.memory memory sectorSize)
    {k : Bool → Command ρ β α}
    (h : EndsWell (Ready holds device ramSize
      ((Copy.mk false memory device offset sectorSize).apply p)) (k true) Q) :
    EndsWell (Ready holds device ramSize p)
      (writeDrive device offset sectorSize source sectorSize >>= k) Q := by
  rw [apply_toDisk, ← hslice] at h
  refine .bind (writeDrive_ready hserves source haligned hsize) ?_
  rintro ok s ⟨rfl, hs⟩
  exact h s hs

omit [DiskBackend β] in
/-- The rest of a program that changes the controller. -/
theorem modifyController_then
    {f : ρ → ρ} {k : Unit → Command ρ β α}
    (h : EndsWell (Ready holds device ramSize p) (k ()) Q) :
    EndsWell (Ready holds device ramSize p) (modifyController f >>= k) Q :=
  .bind (modifyController_ready f) fun _ => h

end Benches

end KekPdp11
