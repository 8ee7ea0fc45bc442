import KekPdp11.DiskSnapshot

/-!
# KEK PDP-11: the checksum in a disk's snapshot

The checksum that serialize stores is meant to tell, when the snapshot is
restored, whether the disk was changed outside the emulator.

**What becomes of it.**  The loop of crc_over_data asks for one byte of a
sector of 4096, which disk_backend_file::read refuses by an assertion, so that
no image file with data is saved at all.  An NBD backend never learns its
size, so that its checksum is that of no data.  A backend that is restored has
no size either when its checksum is taken: every checksum that was stored
passes, and then deserialize calls itself without end.
-/

namespace KekPdp11

open StateExcept Slices JsonDocument

variable {D : Type} [JsonDocument D]

/-- The checksum of a whole image. -/
def Image.crc (image : Image) : BitVec 32 :=
  (slice image.bytes 0 image.size).foldl crc32 (~~~(0 : BitVec 32))

/-- The image that the name of a backend stands for. -/
def Outside.finds (outside : Outside) : Backend → Option Image
  | .file f => outside.file f.filename
  | .nbd d => some (outside.server d.host d.port)

/-- What begin leaves: an image file is opened and its size is known, the size
that a server tells is not kept. -/
inductive Begun : Backend → Prop
  | file
      {f : FileBackend}
      (opened : f.opened = true)
      (size : f.size = f.image.size) :
      Begun (.file f)
  | nbd
      {d : NbdBackend}
      (size : d.size = 0) :
      Begun (.nbd d)

theorem FileBackend.begun_begin
    (outside : Outside) (snapshots : Bool) (f : FileBackend) {image : Image}
    (h : outside.file f.filename = some image) :
    Begun (.file (f.begin outside snapshots)) := by
  unfold FileBackend.begin
  rw [h]
  exact .file rfl rfl

theorem NbdBackend.begun_begin
    (outside : Outside) (snapshots : Bool) (host : String) (port : Nat) :
    Begun (.nbd ((newNbdBackend outside host port).begin snapshots)) :=
  .nbd rfl

/-- The checksum in the document is that of the backend's whole image. -/
def StoresChecksum (D : Type) [JsonDocument D] (stack : Buffer) (b : Backend) :
    Prop :=
  ∃ (j : D) (b' : Backend), b.serialize stack = .ok j b' ∧
    toInt (member "crc32" j) = b.image.crc.toNat

/-- The snapshot is written with the checksum of the whole image; it is
accepted while the image is the same and rejected when the checksum of what is
found differs. -/
structure DetectsChanges (D : Type) [JsonDocument D] (stack : Buffer)
    (b : Backend) : Prop where
  stores : StoresChecksum D stack b
  accepts :
    ∀ (j : D) (b' : Backend), b.serialize stack = .ok j b' →
      ∀ outside stack', outside.finds b = some b.image →
        ∃ depth restored,
          Backend.deserialize outside stack' depth j = .ok restored
  rejects :
    ∀ (j : D) (b' : Backend), b.serialize stack = .ok j b' →
      ∀ outside stack' image, outside.finds b = some image →
        image.crc ≠ b.image.crc →
          ∃ depth, Backend.deserialize outside stack' depth j = .error .assertion

section Saving

/-- The checksum of a disk without a size is that of no data. -/
theorem crcOverData_zero
    {β : Type} [DiskBackend β] (stack : Buffer) (b : β) :
    crcOverData 0 stack b = .ok (some (~~~(0 : BitVec 32))) b := by
  rfl

theorem FileBackend.serialize_of_size
    {f : FileBackend} (hsize : f.size = 0) (stack : Buffer) :
    Backend.serialize stack (.file f) =
      .ok (f.document (some (~~~(0 : BitVec 32))) : D) (.file f) := by
  have hserialize : FileBackend.serialize stack f =
      .ok (f.document (some (~~~(0 : BitVec 32))) : D) f := by
    unfold FileBackend.serialize
    rw [view_bind_apply, hsize, bind_of_ok (crcOverData_zero stack f),
      pure_apply]
  exact congrArg (Backend.received Backend.file) hserialize

theorem NbdBackend.serialize_of_size
    {d : NbdBackend} (hsize : d.size = 0) (stack : Buffer) :
    Backend.serialize stack (.nbd d) =
      .ok (d.document (some (~~~(0 : BitVec 32))) : D) (.nbd d) := by
  have hserialize : NbdBackend.serialize stack d =
      .ok (d.document (some (~~~(0 : BitVec 32))) : D) d := by
    unfold NbdBackend.serialize
    rw [view_bind_apply, hsize, bind_of_ok (crcOverData_zero stack d),
      pure_apply]
  exact congrArg (Backend.received Backend.nbd) hserialize

/-- A document that a begun backend is saved to has the checksum of no data,
and an image file that is saved is empty. -/
theorem Begun.document
    {b : Backend} (hbegun : Begun b) {stack : Buffer} {j : D}
    {b' : Backend} (h : b.serialize stack = .ok j b') :
    (∃ f : FileBackend, b = .file f ∧ f.image.size = 0 ∧
        j = f.document (some (~~~(0 : BitVec 32)))) ∨
      ∃ d : NbdBackend, b = .nbd d ∧
        j = d.document (some (~~~(0 : BitVec 32))) := by
  cases hbegun with
  | @file f opened size =>
      rcases Nat.eq_zero_or_pos f.size with hzero | hpos
      · rw [FileBackend.serialize_of_size hzero stack] at h
        injection h with hj
        exact .inl ⟨f, rfl, size.symm.trans hzero, hj.symm⟩
      · rw [file_snapshot_asserts stack f hpos] at h
        cases h
  | @nbd d size =>
      rw [NbdBackend.serialize_of_size size stack] at h
      injection h with hj
      exact .inr ⟨d, rfl, hj.symm⟩

theorem FileBackend.document_crc
    (f : FileBackend) (crc : BitVec 32) :
    toInt (member "crc32" (f.document (some crc) : D)) = crc.toNat := by
  unfold document setCrc
  dsimp only
  rw [member_put_self _ _ (by simp), toInt_ofBits (by decide)]

theorem NbdBackend.document_crc
    (d : NbdBackend) (crc : BitVec 32) :
    toInt (member "crc32" (d.document (some crc) : D)) = crc.toNat := by
  unfold document setCrc
  dsimp only
  rw [member_put_self _ _ (by simp), toInt_ofBits (by decide)]

theorem FileBackend.document_type
    (f : FileBackend) (crc : BitVec 32) :
    toText (member "disk-backend-type" (f.document (some crc) : D)) =
      "file" := by
  simp [FileBackend.document, setCrc, member_put_of_ne]

theorem FileBackend.checkCrc_document
    {β : Type} [DiskBackend β] {size : β → Nat} (stack : Buffer)
    (f : FileBackend) {out : β} (hsize : size out = 0) :
    checkCrc size stack (f.document (some (~~~(0 : BitVec 32))) : D) out =
      .ok (some out) := by
  unfold document
  refine checkCrc_set stack ?_ hsize
  simp

theorem crc_of_size
    {image : Image} (h : image.size = 0) :
    image.crc = ~~~(0 : BitVec 32) := by
  unfold Image.crc
  rw [h, slice_zero]
  rfl

/-- An image file is saved with its checksum just if it is empty. -/
theorem file_storesChecksum_iff
    {f : FileBackend} (hsize : f.size = f.image.size) (stack : Buffer) :
    StoresChecksum D stack (.file f) ↔ f.image.size = 0 := by
  constructor
  · rintro ⟨j, b', hj, -⟩
    rcases Nat.eq_zero_or_pos f.size with hzero | hpos
    · exact hsize.symm.trans hzero
    · rw [file_snapshot_asserts stack f hpos] at hj
      cases hj
  · intro hzero
    refine ⟨_, _, FileBackend.serialize_of_size (hsize.trans hzero) stack, ?_⟩
    rw [FileBackend.document_crc]
    exact congrArg (fun crc : BitVec 32 => (crc.toNat : Int))
      (crc_of_size hzero).symm

/-- The checksum that is saved for a server is right just if it happens to be
that of no data. -/
theorem nbd_storesChecksum_iff
    {d : NbdBackend} (hsize : d.size = 0) (stack : Buffer) :
    StoresChecksum D stack (.nbd d) ↔ d.server.crc = ~~~(0 : BitVec 32) := by
  have hserialize := NbdBackend.serialize_of_size (D := D) hsize stack
  constructor
  · rintro ⟨j, b', hj, hcrc⟩
    rw [hserialize] at hj
    injection hj with hj
    rw [← hj, NbdBackend.document_crc] at hcrc
    exact (BitVec.eq_of_toNat_eq (Int.ofNat_inj.mp hcrc)).symm
  · intro hcrc
    refine ⟨_, _, hserialize, ?_⟩
    rw [NbdBackend.document_crc]
    exact congrArg (fun crc : BitVec 32 => (crc.toNat : Int)) hcrc.symm

end Saving

section Restoring

/-- A snapshot that was written is neither accepted nor rejected, whatever has
become of the image: restoring it comes to no end. -/
theorem begun_snapshot_blocks
    {b : Backend} (hbegun : Begun b) {stack : Buffer} {j : D}
    {b' : Backend} (h : b.serialize stack = .ok j b')
    (outside : Outside) (stack' : Buffer) (depth : Nat) :
    Backend.deserialize outside stack' depth j = .error .blocked := by
  unfold Backend.deserialize Backend.deserializeTyped
  dsimp only
  rcases hbegun.document h with ⟨f, -, -, rfl⟩ | ⟨d, -, rfl⟩
  · rw [FileBackend.document_type, if_neg (by decide), if_pos rfl,
      FileBackend.deserialize,
      deserializeDerived_of_checked (FileBackend.checkCrc_document _ _ rfl)]
    rfl
  · rw [NbdBackend.document_type, if_pos rfl, NbdBackend.deserialize,
      deserializeDerived_of_checked (NbdBackend.checkCrc_document _ _ rfl)]
    rfl

/-- What a name stands for may be what the backend has. -/
def Outside.same (b : Backend) : Outside where
  file _ := some b.image
  server _ _ := b.image
  network := []

theorem Outside.same_finds
    (b : Backend) :
    (Outside.same b).finds b = some b.image := by
  cases b <;> rfl

/-- No backend has a snapshot whose checksum detects changes of the image. -/
theorem checksum_detects_no_changes
    (D : Type) [JsonDocument D] (stack : Buffer) (b : Backend) :
    ¬ DetectsChanges D stack b := by
  intro h
  obtain ⟨j, b', hj, -⟩ := h.stores
  obtain ⟨depth, restored, hrestored⟩ :=
    h.accepts j b' hj (Outside.same b) stack (Outside.same_finds b)
  exact Backend.deserialize_ne_ok (Outside.same b) stack depth j restored
    hrestored

/-- An image file of one sector of zeros, opened. -/
def fileOneSector : FileBackend where
  size := 512
  useOverlay := true
  overlay := ∅
  filename := "disk"
  opened := true
  image :=
    { size := 512
      bytes := fun _ => 0
      zero_beyond := fun _ _ => rfl }

/-- It is not saved. -/
theorem one_sector_not_detected :
    Begun (.file fileOneSector) ∧
      ¬ DetectsChanges Document (fun _ => 0) (.file fileOneSector) := by
  refine ⟨.file rfl rfl, fun h => ?_⟩
  have hzero := (file_storesChecksum_iff rfl _).mp h.stores
  exact absurd hzero (by decide)

end Restoring

end KekPdp11
