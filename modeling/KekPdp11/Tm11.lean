import KekPdp11.Machine

/-!
# KEK PDP-11: the TM-11 tape drive

Class tm_11: its registers, the tape file and the searches for a record.

**The tape file.**  A stream that is opened for reading has a content and a
position.  fread takes what there is and moves the position behind it; fseek
fails only for a position before the start of the file; fwrite writes nothing
to such a stream.  A long has 64 bits, so that an unsigned argument of fseek is
never negative.

**Passes.**  The searches are loops without a bound.  A search is given a
number of passes; it is not done when they are used up.

Calls of class memory are listed in their order; log lines are dropped.
-/

namespace KekPdp11

/-- A call of class memory. -/
inductive MemoryCall where
  | readByte (a : PhysAddr)
  | writeByte (a : PhysAddr) (v : Byte)
  | readWord (a : PhysAddr)
  | writeWord (a : PhysAddr) (v : Word)
deriving DecidableEq, Repr

/-- The tape file as a stream. -/
@[ext] structure TapeFile where
  content : List Byte
  position : Nat

namespace TapeFile

def fread (n : Nat) (f : TapeFile) : List Byte × TapeFile :=
  let data := (f.content.drop f.position).take n
  (data, { f with position := f.position + data.length })

/-- fseek with SEEK_CUR, none if it fails. -/
def fseekCur (offset : Int) (f : TapeFile) : Option TapeFile :=
  if 0 ≤ f.position + offset then
    some { f with position := (f.position + offset).toNat }
  else
    none

/-- The word in a header or a trailer. -/
def header (buffer : List Byte) : Nat :=
  (buffer.getD 0 0).toNat + 2 ^ 8 * (buffer.getD 1 0).toNat +
    2 ^ 16 * (buffer.getD 2 0).toNat + 2 ^ 24 * (buffer.getD 3 0).toNat

/-- The record length in a header. -/
def length (header : Nat) : Nat :=
  header &&& 0x0fff

/-- The kind of what follows a header. -/
def metaByte (header : Nat) : Nat :=
  header >>> 24

/-- The negative of an unsigned number, which is unsigned as well. -/
def minusUnsigned (n : Nat) : Nat :=
  (2 ^ 32 - n) % 2 ^ 32

def findDataRecordForward :
    (passes : Nat) → TapeFile → Option (Option Nat × TapeFile)
  | 0, _ => none
  | passes + 1, f =>
      let (buffer, f) := f.fread 4
      if buffer.length ≠ 4 then
        some (none, f)
      else if 0 < length (header buffer) then
        if metaByte (header buffer) = 0 then
          some (some (length (header buffer)), f)
        else
          -- the length and the trailer are skipped
          match f.fseekCur (length (header buffer) + 4 : Nat) with
          | none => some (none, f)
          | some f => findDataRecordForward passes f
      else
        findDataRecordForward passes f

def findDataRecordBackward :
    (passes : Nat) → TapeFile → Option (Option Nat × TapeFile)
  | 0, _ => none
  | passes + 1, f =>
      match f.fseekCur (-4) with
      | none => some (none, f)
      | some f =>
          let (buffer, f) := f.fread 4
          if buffer.length ≠ 4 then
            some (none, f)
          else if 0 < length (header buffer) then
            match f.fseekCur (minusUnsigned (length (header buffer) + 4)) with
            | none => some (none, f)
            | some f =>
                if metaByte (header buffer) = 0 then
                  some (some (length (header buffer)), f)
                else
                  match f.fseekCur (-4) with
                  | none => some (none, f)
                  | some f => findDataRecordBackward passes f
          else
            -- the position is the one the pass began with
            findDataRecordBackward passes f

/-- skip_trailer_forward; whether it succeeds is not looked at. -/
def skipTrailerForward (f : TapeFile) : TapeFile :=
  (f.fseekCur 4).getD f

end TapeFile

structure Tm11 where
  registers : Nat → Word
  file : TapeFile

/-- What a register write does: the new state, the calls of class memory and
whether an interrupt is queued. -/
structure Tm11Effect where
  tm11 : Tm11
  calls : List MemoryCall
  interrupt : Bool

/-- What a command leaves: whether it went well, the file and the calls of
class memory. -/
structure TapeOutcome where
  ok : Bool
  file : TapeFile
  calls : List MemoryCall

namespace Tm11

open TapeFile

def mts : Word := 0o172520
def mtc : Word := 0o172522
def mtbrc : Word := 0o172524
def mtcma : Word := 0o172526

/-- The number of the register at an address. -/
def regNr (addr : Word) : Nat :=
  (addr.toNat - mts.toNat) / 2

/-- The size of xfer_buffer. -/
def xferSize : Nat := 10240

/-- The calls that store a list of bytes. -/
def stores (a : PhysAddr) (data : List Byte) : List MemoryCall :=
  data.zipIdx.map fun b => .writeByte (a + BitVec.ofNat 32 b.2) b.1

def read (passes : Nat) (reclen : Nat) (memOffset : PhysAddr) (f : TapeFile) :
    Option TapeOutcome :=
  match f.findDataRecordForward passes with
  | none => none
  | some (none, f) => some ⟨false, f, []⟩
  | some (some length, f) =>
      if xferSize < reclen then
        some ⟨false, f, []⟩
      else
        let willReadN := min reclen length
        let (data, f) := f.fread willReadN
        if data.length ≠ willReadN then
          some ⟨false, f.skipTrailerForward, []⟩
        else if reclen < length then
          match f.fseekCur (length - willReadN : Nat) with
          | none => some ⟨false, f.skipTrailerForward, []⟩
          | some f => some ⟨true, f.skipTrailerForward, stores memOffset data⟩
        else
          some ⟨true, f.skipTrailerForward, stores memOffset data⟩

/-- The file is opened for reading: nothing is written. -/
def write (passes : Nat) (reclen : Nat) (memOffset : PhysAddr) (f : TapeFile) :
    Option TapeOutcome :=
  match f.findDataRecordBackward passes with
  | none => none
  | some (none, f) => some ⟨false, f, []⟩
  | some (some length, f) =>
      if xferSize < reclen then
        some ⟨false, f, []⟩
      else
        some
          ⟨decide (min reclen length = 0), f.skipTrailerForward,
            (List.range reclen).map fun i =>
              .readByte (memOffset + BitVec.ofNat 32 i)⟩

def spaceForward (passes : Nat) (f : TapeFile) : Option TapeOutcome :=
  match f.findDataRecordForward passes with
  | none => none
  | some (none, f) => some ⟨false, f, []⟩
  | some (some length, f) =>
      match f.fseekCur (length + 4 : Nat) with
      | none => some ⟨false, f, []⟩
      | some f => some ⟨true, f, []⟩

def spaceBackward (passes : Nat) (f : TapeFile) : Option TapeOutcome :=
  match f.findDataRecordBackward passes with
  | none => none
  | some (none, f) => some ⟨false, f, []⟩
  | some (some length, f) =>
      match f.fseekCur (minusUnsigned (length + 4)) with
      | none => some ⟨false, f, []⟩
      | some f => some ⟨true, f, []⟩

/-- The function field of MTC. -/
def func (v : Word) : Nat :=
  ((v >>> 1) &&& 7).toNat

/-- The number of bytes that MTBRC asks for. -/
def reclen (count : Word) : Nat :=
  (-count * 2 : Word).toNat

/-- The command of a write to MTC with GO. -/
def command (passes : Nat) (v : Word) (t : Tm11) : Option TapeOutcome :=
  let n := reclen (t.registers (regNr mtbrc))
  let memOffset := (t.registers (regNr mtcma)).setWidth 32
  if func v = 1 then read passes n memOffset t.file
  else if func v = 2 then write passes n memOffset t.file
  else if func v = 4 then spaceForward passes t.file
  else if func v = 5 then spaceBackward passes t.file
  else if func v = 7 then some ⟨true, { t.file with position := 0 }, []⟩
  else some ⟨true, t.file, []⟩

/-- The state with a register set. -/
def setRegister (t : Tm11) (addr v : Word) : Tm11 :=
  { t with registers := Function.update t.registers (regNr addr) v }

def writeWord (passes : Nat) (t : Tm11) (addr v : Word) : Option Tm11Effect :=
  if addr = mtc then
    if v &&& 1 ≠ 0 then
      (t.command passes v).map fun outcome =>
        { tm11 :=
            { t with file := outcome.file }.setRegister addr
              (if outcome.ok then 128 else 32768)
          calls := outcome.calls
          interrupt := decide (v &&& 64 ≠ 0) }
    else
      some
        { tm11 := t.setRegister addr v
          calls := []
          interrupt := decide (v &&& 0o101 = 0o100) }
  else if addr = mtcma then
    some ⟨t.setRegister addr (v &&& ~~~1), [], false⟩
  else
    some ⟨t.setRegister addr v, [], false⟩

end Tm11

end KekPdp11
