import Mathlib.Algebra.Group.Nat.Defs
import Mathlib.Data.List.AList
import KekPdp11.Lib.StateExcept
import KekPdp11.Lib.Slices
import KekPdp11.Word

/-!
# KEK PDP-11: disk backends

Class disk_backend and its two implementations: an image file that is read
and written with pread and pwrite, and an NBD server.  Both keep an overlay,
a map from sector numbers to sectors, that takes the writes when snapshots
are asked for.

**Outside the program.**  An image file is an array of bytes with a size; pread
returns what lies before the end and pwrite moves the end.  An NBD server is
such an array that refuses what reaches past its end.  What the network does
to the requests is a list of attempts, one for each pass of the loops of
disk_backend_nbd and of connect with its argument retry set; a program that
needs more attempts than the list has is blocked, and so is one whose process
does not survive an attempt.

**Left out.**  The file descriptor is opened or not.  Delays and log lines are
dropped.
-/

namespace KekPdp11

open StateExcept Slices

/-- How a call of a disk ends when it does not return. -/
inductive DiskStop where
  /-- An assertion fails. -/
  | assertion
  /-- A member function is called on a null pointer. -/
  | nullAccess
  /-- std::vector::at throws std::out_of_range. -/
  | outOfRange
  /-- The call does not come to an end, or the process ends in it. -/
  | blocked
deriving DecidableEq, Repr

/-- A buffer of bytes that a pointer refers to. -/
abbrev Buffer := Nat → Byte

/-- Calls on a disk. -/
abbrev DiskCall (β α : Type) := EStateM DiskStop β α

/-- An assert of the source. -/
def diskAssert {β : Type} (c : Bool) : DiskCall β Unit :=
  if c then pure () else raise .assertion

/-- The public interface of class disk_backend that devices use. -/
class DiskBackend (β : Type) where
  read (offset n : Nat) (target : Buffer) (sectorSize : Nat) :
    DiskCall β (Bool × Buffer)
  write (offset n : Nat) (source : Buffer) (sectorSize : Nat) :
    DiskCall β Bool

/-- An array of bytes with an end. -/
@[ext] structure Image where
  size : Nat
  bytes : Nat → Byte
  zero_beyond : ∀ i, size ≤ i → bytes i = 0

namespace Image

/-- The bytes at the offset, as far as there are. -/
def pread (image : Image) (n offset : Nat) : List Byte :=
  slice image.bytes offset (min n (image.size - offset))

/-- The array with the bytes stored at the offset. -/
def pwrite (image : Image) (data : List Byte) (offset : Nat) : Image where
  size := if data = [] then image.size else max image.size (offset + data.length)
  bytes := overwrite image.bytes offset data
  zero_beyond i hi := by
    by_cases hdata : data = []
    · simp only [hdata, overwrite_nil]
      exact image.zero_beyond i (by simpa [hdata] using hi)
    · rw [if_neg hdata] at hi
      rw [overwrite_after (by omega)]
      exact image.zero_beyond i (by omega)

end Image

/-- The members of class disk_backend. -/
structure Overlaid where
  size : Nat
  useOverlay : Bool
  overlay : AList fun _ : Nat => List Byte

namespace Overlaid

def storeObjectInOverlay (b : Overlaid) (id : Nat) (data : List Byte) :
    Overlaid :=
  { b with overlay := b.overlay.insert id data }

def getObjectFromOverlay (b : Overlaid) (id : Nat) : Option (List Byte) :=
  b.overlay.lookup id

/-- get_from_overlay after its assertion. -/
def getFromOverlay (b : Overlaid) (offset sectorSize : Nat) :
    Option (List Byte) :=
  if b.useOverlay then
    b.getObjectFromOverlay (offset / sectorSize)
  else
    none

/-- The loop of store_mem_range_in_overlay over the first `sectors` sectors. -/
def storeSectors (b : Overlaid) (offset : Nat) (source : Buffer)
    (sectorSize : Nat) : (sectors : Nat) → Overlaid
  | 0 => b
  | k + 1 =>
      (b.storeSectors offset source sectorSize k).storeObjectInOverlay
        ((offset + k * sectorSize) / sectorSize)
        (slice source (k * sectorSize) sectorSize)

/-- store_mem_range_in_overlay after its assertions. -/
def storeMemRangeInOverlay (b : Overlaid) (offset n : Nat) (source : Buffer)
    (sectorSize : Nat) : Overlaid :=
  if b.useOverlay then
    b.storeSectors offset source sectorSize (n / sectorSize)
  else
    b

end Overlaid

/-- disk_backend_file; the image is the content of the named file. -/
structure FileBackend extends Overlaid where
  filename : String
  opened : Bool
  image : Image

namespace FileBackend

/-- pread on the backend's file descriptor. -/
def preadFd (f : FileBackend) (n offset : Nat) : List Byte :=
  if f.opened then f.image.pread n offset else []

/-- The passes of the loop of read, `sectors` of them from the buffer
position `o`. -/
def readSectors (offsetIn n sectorSize : Nat) :
    (sectors o : Nat) → Buffer → DiskCall FileBackend (Bool × Buffer)
  | 0, _, target => pure (true, target)
  | k + 1, o, target => do
      let offset := offsetIn + o
      diskAssert (offset % sectorSize = 0)
      let f ← view id
      match f.getFromOverlay offset sectorSize with
      | some data =>
          readSectors offsetIn n sectorSize k (o + sectorSize)
            (overwrite target o (data.take sectorSize))
      | none =>
          -- the whole request is read to the start of the buffer
          let data := f.preadFd n offset
          if data.length ≠ n then
            pure (false, overwrite target 0 data)
          else
            readSectors offsetIn n sectorSize k (o + sectorSize)
              (overwrite target 0 data)

def read (offsetIn n : Nat) (target : Buffer) (sectorSize : Nat) :
    DiskCall FileBackend (Bool × Buffer) := do
  diskAssert (offsetIn % sectorSize = 0)
  diskAssert (n % sectorSize = 0)
  readSectors offsetIn n sectorSize (n / sectorSize) 0 target

def write (offset n : Nat) (source : Buffer) (sectorSize : Nat) :
    DiskCall FileBackend Bool := do
  diskAssert (offset % sectorSize = 0)
  diskAssert (n % sectorSize = 0)
  let f ← view id
  if f.useOverlay then do
    update fun f =>
      { f with
        toOverlaid := f.storeMemRangeInOverlay offset n source sectorSize }
    pure true
  else if f.opened then do
    update fun f => { f with image := f.image.pwrite (slice source 0 n) offset }
    pure true
  else
    pure false

instance : DiskBackend FileBackend where
  read := read
  write := write

end FileBackend

/-- What becomes of one pass through the loop of disk_backend_nbd::read,
disk_backend_nbd::write or disk_backend_nbd::connect. -/
inductive Attempt where
  /-- connect tries again: no address is found, or the server's greeting is
  short or a wrong one. -/
  | notGreeted
  /-- The server refuses a new connection: connect goes on with a list of
  addresses that it has freed, and frees it again. -/
  | refused
  /-- A WRITE to a connection that the server has closed: nothing handles
  SIGPIPE. -/
  | brokenPipe
  /-- The connection is lost before the server has the request. -/
  | requestLost
  /-- The server serves the request; its answer is lost or garbled. -/
  | replyLost
  /-- The connection is lost after some bytes of the answer's data. -/
  | payloadLost (received : Nat)
  | served
deriving DecidableEq, Repr

/-- The process does not survive the attempt. -/
def Attempt.fatal : Attempt → Bool
  | .refused | .brokenPipe => true
  | _ => false

/-- disk_backend_nbd, the server it is for and what the network will do. -/
structure NbdBackend extends Overlaid where
  host : String
  port : Nat
  server : Image
  network : List Attempt

namespace NbdBackend

/-- The length field of a request is 32 bits wide. -/
def requestLength (n : Nat) : Nat :=
  n % 2 ^ 32

/-- The server's answer to READ, none for an error. -/
def serverRead (server : Image) (offset n : Nat) : Option (List Byte) :=
  if offset + requestLength n ≤ server.size then
    some (slice server.bytes offset (requestLength n))
  else
    none

/-- The server after WRITE, none for an error. -/
def serverWrite (server : Image) (offset n : Nat) (source : Buffer) :
    Option Image :=
  if offset + requestLength n ≤ server.size then
    some (server.pwrite (slice source 0 (requestLength n)) offset)
  else
    none

/-- The passes that read one sector, until the server has answered: the
answer, the buffer and the attempts that are left; none if it does not come to
that. -/
def fetchSector (server : Image) (offset sectorSize : Nat) :
    List Attempt → Buffer → Option ((Bool × Buffer) × List Attempt)
  | [], _ => none
  | attempt :: rest, target =>
      match attempt with
      | .refused | .brokenPipe => none
      | .notGreeted | .requestLost | .replyLost =>
          fetchSector server offset sectorSize rest target
      | .payloadLost received =>
          match serverRead server offset sectorSize with
          | none => some ((false, target), rest)
          | some data =>
              fetchSector server offset sectorSize rest
                (overwrite target 0 (data.take received))
      | .served =>
          match serverRead server offset sectorSize with
          | none => some ((false, target), rest)
          | some data =>
              -- every sector is read to the start of the buffer
              if data.length = sectorSize then
                some ((true, overwrite target 0 data), rest)
              else
                fetchSector server offset sectorSize rest
                  (overwrite target 0 data)

/-- The passes of the loop of read, `sectors` of them from the buffer
position `o`. -/
def readSectors (offsetIn sectorSize : Nat) :
    (sectors o : Nat) → Buffer → DiskCall NbdBackend (Bool × Buffer)
  | 0, _, target => pure (true, target)
  | k + 1, o, target => do
      let offset := offsetIn + o
      diskAssert (offset % sectorSize = 0)
      let d ← view id
      match d.getFromOverlay offset sectorSize with
      | some data =>
          readSectors offsetIn sectorSize k (o + sectorSize)
            (overwrite target o (data.take sectorSize))
      | none =>
          match fetchSector d.server offset sectorSize d.network target with
          | none => raise .blocked
          | some ((ok, target), rest) => do
              update fun d => { d with network := rest }
              if ok then
                readSectors offsetIn sectorSize k (o + sectorSize) target
              else
                pure (false, target)

/-- read goes on while the sector starts before the end of the request. -/
def read (offsetIn n : Nat) (target : Buffer) (sectorSize : Nat) :
    DiskCall NbdBackend (Bool × Buffer) :=
  readSectors offsetIn sectorSize ((n + sectorSize - 1) / sectorSize) 0 target

/-- The passes that write, until the server has answered: the answer, the
server and the attempts that are left; none if it does not come to that. -/
def transmit (offset n : Nat) (source : Buffer) :
    List Attempt → Image → Option ((Bool × Image) × List Attempt)
  | [], _ => none
  | attempt :: rest, server =>
      match attempt with
      | .refused | .brokenPipe => none
      | .notGreeted | .requestLost => transmit offset n source rest server
      | .replyLost | .payloadLost _ =>
          transmit offset n source rest
            ((serverWrite server offset n source).getD server)
      | .served =>
          match serverWrite server offset n source with
          | none => some ((false, server), rest)
          | some server => some ((true, server), rest)

def write (offset n : Nat) (source : Buffer) (sectorSize : Nat) :
    DiskCall NbdBackend Bool := do
  if n = 0 then
    pure true
  else do
    diskAssert (offset % sectorSize = 0)
    diskAssert (n % sectorSize = 0)
    let d ← view id
    if d.useOverlay then do
      update fun d =>
        { d with
          toOverlaid := d.storeMemRangeInOverlay offset n source sectorSize }
      pure true
    else
      match transmit offset n source d.network d.server with
      | none => raise .blocked
      | some ((ok, server), rest) => do
          update fun d => { d with server := server, network := rest }
          pure ok

instance : DiskBackend NbdBackend where
  read := read
  write := write

end NbdBackend

/-- A pointer to a disk_backend: one of the derived classes. -/
inductive Backend where
  | file (f : FileBackend)
  | nbd (d : NbdBackend)

namespace Backend

/-- The result of a call that the derived class has received. -/
def received {β α : Type} (wrap : β → Backend) :
    EStateM.Result DiskStop β α → EStateM.Result DiskStop Backend α
  | .ok a b => .ok a (wrap b)
  | .error e b => .error e (wrap b)

def read (offset n : Nat) (target : Buffer) (sectorSize : Nat) :
    DiskCall Backend (Bool × Buffer)
  | .file f => received .file (FileBackend.read offset n target sectorSize f)
  | .nbd d => received .nbd (NbdBackend.read offset n target sectorSize d)

def write (offset n : Nat) (source : Buffer) (sectorSize : Nat) :
    DiskCall Backend Bool
  | .file f => received .file (FileBackend.write offset n source sectorSize f)
  | .nbd d => received .nbd (NbdBackend.write offset n source sectorSize d)

instance : DiskBackend Backend where
  read := read
  write := write

def overlaid : Backend → Overlaid
  | .file f => f.toOverlaid
  | .nbd d => d.toOverlaid

/-- What is outside the program: the image file or the server's export. -/
def image : Backend → Image
  | .file f => f.image
  | .nbd d => d.server

end Backend

end KekPdp11
