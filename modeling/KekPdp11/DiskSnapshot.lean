import Mathlib.Data.List.Sort
import KekPdp11.DiskBackend
import KekPdp11.Lib.Documents

/-!
# KEK PDP-11: snapshots of disks

The functions serialize of the backends write what a backend is, its overlay
and a checksum over the disk to a document; the functions deserialize make a
backend of such a document.

The documents are those of any JSON library.

In a derived class, the name deserialize stands for the static function of
that class, so that the call that is meant for the base class is a recursive
one.  A recursion is given by its depth; a call that is not done when the
depth is used up does not come to an end.
-/

namespace KekPdp11

open StateExcept Slices JsonDocument

variable {D : Type} [JsonDocument D]

/-- crc32 of disk_backend.cpp: one byte. -/
def crc32 (crc : BitVec 32) (data : Byte) : BitVec 32 :=
  (fun crc : BitVec 32 =>
    if crc &&& 1 ≠ 0 then (crc >>> 1) ^^^ 0xEDB88320 else crc >>> 1)^[8]
      (crc ^^^ data.setWidth 32)

/-- The passes of the loop of crc_over_data. -/
def crcPasses {β : Type} [DiskBackend β] :
    (passes offset : Nat) → Buffer → BitVec 32 →
      DiskCall β (Option (BitVec 32))
  | 0, _, _, crc => pure (some crc)
  | passes + 1, offset, buffer, crc => do
      let (ok, buffer) ← DiskBackend.read offset 1 buffer 4096
      if !ok then
        pure none
      else
        crcPasses passes (offset + 4096) buffer
          ((slice buffer 0 4096).foldl crc32 crc)

/-- crc_over_data of a disk of the given size; `stack` is what its buffer has
before the first read. -/
def crcOverData {β : Type} [DiskBackend β] (size : Nat) (stack : Buffer) :
    DiskCall β (Option (BitVec 32)) :=
  crcPasses ((size + 4095) / 4096) 0 stack (~~~(0 : BitVec 32))

/-- std::atoi: white space, a sign and digits. -/
def atoi (s : String) : Int :=
  let digits (cs : List Char) : Int :=
    (cs.takeWhile Char.isDigit).foldl
      (fun n c => 10 * n + (c.toNat - '0'.toNat : Nat)) 0
  match s.toList.dropWhile Char.isWhitespace with
  | '-' :: cs => -digits cs
  | '+' :: cs => digits cs
  | cs => digits cs

namespace Overlaid

/-- The entries of the map, by their keys. -/
def serializeOverlay (b : Overlaid) : D :=
  (b.overlay.entries.mergeSort fun x y => decide (x.1 ≤ y.1)).foldl
    (fun out id => put (toString id.1) (array (id.2.map ofBits)) out) null

/-- The keys are those of the document itself. -/
def deserializeOverlay (j : D) (b : Overlaid) : Overlaid :=
  if !containsKey "overlay" j then
    b
  else
    (members j).foldl
      (fun b kv =>
        b.storeObjectInOverlay (BitVec.ofInt 32 (atoi kv.1)).toNat
          ((elements kv.2).map (toBits 8)))
      b

end Overlaid

/-- The value of crc32, if there is one. -/
def setCrc (crc : Option (BitVec 32)) (j : D) : D :=
  match crc with
  | some crc => put "crc32" (ofBits crc) j
  | none => j

/-- The document of an image file, with the checksum. -/
def FileBackend.document (f : FileBackend) (crc : Option (BitVec 32)) : D :=
  null |> put "disk-backend-type" (text "file")
    |> put "overlay" f.serializeOverlay
    |> put "filename" (text f.filename)
    |> setCrc crc

def FileBackend.serialize (stack : Buffer) : DiskCall FileBackend D := do
  let f ← view fun f => f
  let crc ← crcOverData f.size stack
  pure (f.document crc)

/-- The document of an NBD server, with the checksum. -/
def NbdBackend.document (d : NbdBackend) (crc : Option (BitVec 32)) : D :=
  null |> put "disk-backend-type" (text "nbd")
    |> put "overlay" d.serializeOverlay
    |> put "host" (text d.host)
    |> put "port" (number d.port)
    |> setCrc crc

def NbdBackend.serialize (stack : Buffer) : DiskCall NbdBackend D := do
  let d ← view fun d => d
  let crc ← crcOverData d.size stack
  pure (d.document crc)

def Backend.serialize (stack : Buffer) : DiskCall Backend D
  | .file f => received .file (FileBackend.serialize stack f)
  | .nbd d => received .nbd (NbdBackend.serialize stack d)

/-- What a restored backend finds outside the program. -/
structure Outside where
  file : String → Option Image
  server : String → Nat → Image
  network : List Attempt

def emptyImage : Image where
  size := 0
  bytes _ := 0
  zero_beyond _ _ := rfl

/-- A new backend has no size, no overlay, and is not opened. -/
def newOverlaid : Overlaid where
  size := 0
  useOverlay := false
  overlay := ∅

def newFileBackend (outside : Outside) (filename : String) : FileBackend where
  toOverlaid := newOverlaid
  filename := filename
  opened := false
  image := (outside.file filename).getD emptyImage

def newNbdBackend (outside : Outside) (host : String) (port : Nat) :
    NbdBackend where
  toOverlaid := newOverlaid
  host := host
  port := port
  server := outside.server host port
  network := outside.network

/-- begin. -/
def FileBackend.begin (outside : Outside) (snapshots : Bool) (f : FileBackend) :
    FileBackend :=
  match outside.file f.filename with
  | none => { f with useOverlay := snapshots, opened := false }
  | some image =>
      { f with
        useOverlay := snapshots
        opened := true
        image := image
        size := image.size }

/-- begin; the size that the server tells is not kept. -/
def NbdBackend.begin (snapshots : Bool) (d : NbdBackend) : NbdBackend :=
  { d with useOverlay := snapshots }

section Derived

variable {β : Type} [DiskBackend β]

/-- The check of the checksum, on a new backend that is not opened: a null
pointer if the sums differ. -/
def checkCrc (size : β → Nat) (stack : Buffer) (j : D) (out : β) :
    Except DiskStop (Option β) :=
  if containsKey "crc32" j then
    match crcOverData (size out) stack out with
    | .error e _ => .error e
    | .ok none _ => .ok none
    | .ok (some crc) out =>
        if toInt (member "crc32" j) = crc.toNat then .ok (some out) else .ok none
  else
    .ok (some out)

/-- The static function deserialize of a derived class: after the check it
calls itself. -/
def deserializeDerived (size : β → Nat) (new : D → β)
    (stack : Buffer) : (depth : Nat) → D → Except DiskStop (Option β)
  | 0, _ => .error .blocked
  | depth + 1, j =>
      match checkCrc size stack j (new j) with
      | .error e => .error e
      | .ok none => .ok none
      | .ok (some out) =>
          match deserializeDerived size new stack depth j with
          | .error e => .error e
          | .ok _ => .ok (some out)

end Derived

def FileBackend.deserialize (outside : Outside) :
    (stack : Buffer) → (depth : Nat) → D →
      Except DiskStop (Option FileBackend) :=
  deserializeDerived (fun f => f.size) fun j =>
    newFileBackend outside (toText (member "filename" j))

def NbdBackend.deserialize (outside : Outside) :
    (stack : Buffer) → (depth : Nat) → D →
      Except DiskStop (Option NbdBackend) :=
  deserializeDerived (fun d => d.size) fun j =>
    newNbdBackend outside (toText (member "host" j))
      (toBits 32 (member "port" j)).toNat

/-- The call of the derived class that the type names. -/
def Backend.deserializeTyped (outside : Outside) (stack : Buffer) (depth : Nat)
    (j : D) : Except DiskStop (Option Backend) :=
  let type := toText (member "disk-backend-type" j)
  if type = "nbd" then
    (NbdBackend.deserialize outside stack depth j).map (Option.map Backend.nbd)
  else if type = "file" then
    (FileBackend.deserialize outside stack depth j).map
      (Option.map Backend.file)
  else
    .ok none

/-- What is done with the backend that a derived class has made. -/
def Backend.restore (outside : Outside) (j : D) : Backend → Backend
  | .file f =>
      .file (FileBackend.begin outside true
        { f with toOverlaid := f.deserializeOverlay j })
  | .nbd d =>
      .nbd (NbdBackend.begin true
        { d with toOverlaid := d.deserializeOverlay j })

/-- The function deserialize of class disk_backend. -/
def Backend.deserialize (outside : Outside) (stack : Buffer) (depth : Nat)
    (j : D) : Except DiskStop Backend :=
  match Backend.deserializeTyped outside stack depth j with
  | .error e => .error e
  | .ok none => .error .assertion
  | .ok (some d) => .ok (d.restore outside j)

section Recursion

variable {β : Type} [DiskBackend β]

/-- A document whose checksum passes is not restored, at any depth. -/
theorem deserializeDerived_of_checked
    {size : β → Nat} {new : D → β} {stack : Buffer} {j : D}
    {out : β} (h : checkCrc size stack j (new j) = .ok (some out))
    (depth : Nat) :
    deserializeDerived size new stack depth j = .error .blocked := by
  induction depth with
  | zero =>
      rfl
  | succ depth ih =>
      simp only [deserializeDerived, h, ih]

/-- A derived class gives no backend for any document. -/
theorem deserializeDerived_ne_some
    (size : β → Nat) (new : D → β) (stack : Buffer) (depth : Nat)
    (j : D) (out : β) :
    deserializeDerived size new stack depth j ≠ .ok (some out) := by
  cases depth with
  | zero =>
      exact nofun
  | succ depth =>
      cases hcheck : checkCrc size stack j (new j) with
      | error e =>
          simp only [deserializeDerived, hcheck]
          exact nofun
      | ok checked =>
          cases checked with
          | none =>
              simp only [deserializeDerived, hcheck]
              exact nofun
          | some checked =>
              rw [deserializeDerived_of_checked hcheck]
              exact nofun

end Recursion

section Restoring

variable (outside : Outside) (stack : Buffer) (depth : Nat) (j : D)

/-- What is made of the answer of a derived class is no backend either. -/
theorem map_ne_some
    {β : Type} {wrap : β → Backend} {r : Except DiskStop (Option β)}
    (h : ∀ out, r ≠ .ok (some out)) (b : Backend) :
    r.map (Option.map wrap) ≠ .ok (some b) := by
  rcases r with e | _ | out
  · exact nofun
  · exact nofun
  · exact absurd rfl (h out)

theorem Backend.deserializeTyped_ne_some
    (b : Backend) :
    Backend.deserializeTyped outside stack depth j ≠ .ok (some b) := by
  unfold Backend.deserializeTyped
  dsimp only
  split
  · exact map_ne_some (deserializeDerived_ne_some _ _ stack depth j) b
  · split
    · exact map_ne_some (deserializeDerived_ne_some _ _ stack depth j) b
    · exact nofun

/-- No document is restored to a backend. -/
theorem Backend.deserialize_ne_ok
    (b : Backend) :
    Backend.deserialize outside stack depth j ≠ .ok b := by
  unfold Backend.deserialize
  cases htyped : Backend.deserializeTyped outside stack depth j with
  | error e =>
      exact nofun
  | ok d =>
      cases d with
      | none =>
          exact nofun
      | some d =>
          exact absurd htyped
            (Backend.deserializeTyped_ne_some outside stack depth j d)

end Restoring

/-- The two backends are of one kind and have the same name. -/
def SameIdentity : Backend → Backend → Prop
  | .file f, .file f' => f.filename = f'.filename
  | .nbd d, .nbd d' => d.host = d'.host ∧ d.port = d'.port
  | _, _ => False

/-- The snapshot of a backend is written, and restored to a backend of the
same identity and with the same overlay. -/
def SurvivesSnapshot (D : Type) [JsonDocument D] (outside : Outside)
    (stack : Buffer) (b : Backend) : Prop :=
  ∃ (j : D) (b' : Backend) (depth : Nat) (restored : Backend),
    b.serialize stack = .ok j b' ∧
    Backend.deserialize outside stack depth j = .ok restored ∧
    SameIdentity b restored ∧
    ∀ id, restored.overlaid.overlay.lookup id = b.overlaid.overlay.lookup id

/-- No snapshot of a backend is restored. -/
theorem no_snapshot_survives
    (D : Type) [JsonDocument D] (outside : Outside) (stack : Buffer)
    (b : Backend) :
    ¬ SurvivesSnapshot D outside stack b := by
  rintro ⟨j, b', depth, restored, -, hrestored, -, -⟩
  exact Backend.deserialize_ne_ok outside stack depth j restored hrestored

/-- The checksum of a new backend is that of no data. -/
theorem checkCrc_set
    {β : Type} [DiskBackend β] {size : β → Nat} (stack : Buffer) {j : D}
    (hj : TakesMembers j) {out : β} (hsize : size out = 0) :
    checkCrc size stack (setCrc (some (~~~(0 : BitVec 32))) j) out =
      .ok (some out) := by
  unfold checkCrc setCrc
  dsimp only
  rw [containsKey_put _ _ _ hj, member_put_self _ _ hj,
    toInt_ofBits (by decide), hsize]
  rfl

theorem NbdBackend.checkCrc_document
    {β : Type} [DiskBackend β] {size : β → Nat} (stack : Buffer)
    (d : NbdBackend) {out : β} (hsize : size out = 0) :
    checkCrc size stack (d.document (some (~~~(0 : BitVec 32))) : D) out =
      .ok (some out) := by
  unfold document
  refine checkCrc_set stack ?_ hsize
  simp

theorem NbdBackend.document_type
    (d : NbdBackend) (crc : BitVec 32) :
    toText (member "disk-backend-type" (d.document (some crc) : D)) =
      "nbd" := by
  simp [NbdBackend.document, setCrc, member_put_of_ne]

/-- The snapshot of a backend for a server is written, and restoring it comes
to no end. -/
theorem nbd_snapshot_is_not_restored
    (D : Type) [JsonDocument D] (d : NbdBackend) (hsize : d.size = 0) :
    ∃ j : D, (∀ stack, Backend.serialize stack (.nbd d) = .ok j (.nbd d)) ∧
      ∀ outside stack depth,
        Backend.deserialize outside stack depth j = .error .blocked := by
  refine ⟨d.document (some (~~~(0 : BitVec 32))), fun stack => ?_,
    fun outside stack depth => ?_⟩
  · have hcrc : crcOverData d.size stack d =
        .ok (some (~~~(0 : BitVec 32))) d := by
      rw [hsize]
      rfl
    have hserialize : NbdBackend.serialize stack d =
        .ok (d.document (some (~~~(0 : BitVec 32))) : D) d := by
      unfold NbdBackend.serialize
      rw [view_bind_apply, bind_of_ok hcrc, pure_apply]
    exact congrArg (Backend.received Backend.nbd) hserialize
  · unfold Backend.deserialize Backend.deserializeTyped
    dsimp only
    rw [NbdBackend.document_type, if_pos rfl, NbdBackend.deserialize,
      deserializeDerived_of_checked (NbdBackend.checkCrc_document _ _ rfl)]
    rfl

/-- A backend for a server, with one sector of the overlay written. -/
def nbdOneSector : NbdBackend where
  size := 0
  useOverlay := true
  overlay := AList.insert 1 (List.replicate 512 7) ∅
  host := "localhost"
  port := 10809
  server := emptyImage
  network := []

theorem nbd_snapshot_is_not_restored_one_sector :
    ∃ j : Document, (∀ stack, Backend.serialize stack (.nbd nbdOneSector) =
        .ok j (.nbd nbdOneSector)) ∧
      ∀ outside stack depth,
        Backend.deserialize outside stack depth j = .error .blocked :=
  nbd_snapshot_is_not_restored Document nbdOneSector rfl

/-- The snapshot of an opened image file with data is not even written: the
checksum reads one byte as a sector of 4096. -/
theorem file_snapshot_asserts
    (stack : Buffer) (f : FileBackend) (hsize : 0 < f.size) :
    (Backend.serialize stack (.file f) : EStateM.Result DiskStop Backend D) =
      .error .assertion (.file f) := by
  have hpasses : ∃ k, (f.size + 4095) / 4096 = k + 1 :=
    ⟨(f.size + 4095) / 4096 - 1, by omega⟩
  obtain ⟨k, hk⟩ := hpasses
  have hcrc : crcOverData f.size stack f = .error .assertion f := by
    unfold crcOverData
    rw [hk]
    rfl
  have hserialize : (FileBackend.serialize stack f :
      EStateM.Result DiskStop FileBackend D) = .error .assertion f := by
    unfold FileBackend.serialize
    rw [view_bind_apply, bind_of_error hcrc]
  exact congrArg (Backend.received Backend.file) hserialize

end KekPdp11
