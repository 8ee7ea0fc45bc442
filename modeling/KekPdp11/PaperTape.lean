import Mathlib.Data.BitVec
import KekPdp11.Lib.Slices
import KekPdp11.LineClock
import KekPdp11.References

/-!
# KEK PDP-11: paper tape images

raw_to_simh_bin writes a file of bytes as a tape image: one block with the data
and one block that says where to start.  load_tape reads such images into the
memory of the machine.  Both are translated from the source, the loader as a
program on the machine that stores through bus::write_byte.

* `loadBlockBytes_apply`: what the loop over the bytes of a block does, by
  induction on the bytes.
* `checksum_closes`: the byte that the writer puts behind the data brings the
  sum that the reader forms to 255.
* `loadTape_rawToSimhBin`: the loader undoes the writer.
-/

namespace KekPdp11

open StateExcept Slices

section Writer

/-- The output of raw_to_simh_bin so far. -/
structure TapeWriter where
  csum : BitVec 32
  fh : List Byte

def putByte (w : TapeWriter) (byte : Byte) : TapeWriter where
  csum := w.csum - byte.setWidth 32
  fh := w.fh ++ [byte]

/-- The header of a block: the mark, the length and an address. -/
def putHeader (w : TapeWriter) (length address : BitVec 32) : TapeWriter :=
  let w := putByte w 0x01
  let w := putByte w 0x00
  let w := putByte w ((length &&& 255).setWidth 8)
  let w := putByte w ((length >>> 8).setWidth 8)
  let w := putByte w ((address &&& 255).setWidth 8)
  putByte w ((address >>> 8).setWidth 8)

/-- main of raw_to_simh_bin: the contents of file_out. -/
def rawToSimhBin (fileIn : List Byte) (offset start : BitVec 32) : List Byte :=
  let fileSize := BitVec.ofNat 32 fileIn.length
  let w := putHeader { csum := 0, fh := [] } (fileSize + 6) offset
  let w := (fileIn.take fileSize.toNat).foldl putByte w
  let w := { w with fh := w.fh ++ [(w.csum &&& 0xff).setWidth 8] }
  (putHeader w 6 start).fh

end Writer

section Reader

/-- What load_tape logs. -/
inductive TapeMessage where
  | settingStart (p : Nat)
  | reading (n : Int) (p : Nat)
  | readFailure
  | checksumError (csum : Byte)
  | read (nRead : Word)
deriving DecidableEq, Repr

/-- The local data of load_tape: what is left of the file, the start address,
the count of the bytes and the log, newest entry first. -/
structure TapeReader where
  fh : List Byte
  start : Option Word
  nRead : Word
  log : List TapeMessage

namespace TapeReader

def message (t : TapeReader) (m : TapeMessage) : TapeReader :=
  { t with log := m :: t.log }

/-- A block of six bytes is the start block. -/
def openBlock (t : TapeReader) (count p : Nat) : TapeReader :=
  let t :=
    if count = 6 then
      { t.message (.settingStart p) with start := some (BitVec.ofNat 16 p) }
    else
      t
  t.message (.reading ((count : Int) - 6) p)

/-- A fgetc whose result is added to the checksum; at the end of the file it
is -1. -/
def closeBlock (t : TapeReader) (csum : Byte) : TapeReader :=
  let csum := csum + t.fh.head?.getD (-1)
  let t := { t with fh := t.fh.tail, nRead := t.nRead + 1 }
  if csum ≠ 255 then t.message (.checksumError csum) else t

end TapeReader

variable {δ : Type} [UnibusDevices δ]

/-- bus::write_byte. -/
def Bus.writeByte (a : Word) (value : Byte) : Exec δ Unit := do
  let runMode ← getPSWRunmode
  discard (Bus.write a .wmByte (value.setWidth 16) runMode .iSpace)

/-- The loop over the bytes of a block: the checksum and the data after it. -/
def loadBlockBytes : Nat → Nat → Byte → TapeReader →
    Exec δ (Byte × TapeReader)
  | 0, _, csum, t => pure (csum, t)
  | n + 1, p, csum, t =>
      match t.fh with
      | [] => pure (csum, t.message .readFailure)
      | c :: fh => do
          Bus.writeByte (BitVec.ofNat 16 p) c
          loadBlockBytes n (p + 1) (csum + c)
            { t with fh := fh, nRead := t.nRead + 1 }

/-- The block behind a header. -/
def loadBlock (count p : Nat) (csum : Byte) (t : TapeReader) :
    Exec δ TapeReader := do
  let (csum, t) ← loadBlockBytes (count - 6) p csum (t.openBlock count p)
  pure (t.closeBlock csum)

/-- The loop over the blocks, for at most so many passes. -/
def loadBlocks : Nat → TapeReader → Exec δ TapeReader
  | 0, _ => raise .outOfFuel
  | passes + 1, t =>
      match t.fh with
      | _ :: _ :: b2 :: b3 :: b4 :: b5 :: fh =>
          let t := { t with fh := fh, nRead := t.nRead + 6 }
          let count := b3.toNat <<< 8 ||| b2.toNat
          let p := b5.toNat <<< 8 ||| b4.toNat
          let csum := 0 + b2 + b3 + b4 + b5
          if count = 0 ∨ p = 1 then
            pure t
          else do
            let t ← loadBlock count p csum t
            loadBlocks passes t
      | _ => pure t

/-- load_tape on the contents of a file that can be opened: the start address
and the log.  A pass takes six bytes or is the last one. -/
def loadTape (file : List Byte) :
    Exec δ (Option Word × List TapeMessage) := do
  let t ← loadBlocks (file.length + 1)
    { fh := file, start := none, nRead := 0, log := [] }
  pure (t.start, (t.message (.read t.nRead)).log.reverse)

end Reader

section Image

/-- The bytes of a header. -/
def headerBytes (length address : BitVec 32) : List Byte :=
  [0x01, 0x00, (length &&& 255).setWidth 8, (length >>> 8).setWidth 8,
    (address &&& 255).setWidth 8, (address >>> 8).setWidth 8]

theorem putHeader_eq
    (w : TapeWriter) (length address : BitVec 32) :
    putHeader w length address = (headerBytes length address).foldl putByte w :=
  rfl

theorem setWidth_sub_byte
    (csum : BitVec 32) (byte : Byte) :
    (csum - byte.setWidth 32).setWidth 8 = csum.setWidth 8 - byte := by
  bv_omega

theorem fh_foldl_putByte
    (bytes : List Byte) (w : TapeWriter) :
    (bytes.foldl putByte w).fh = w.fh ++ bytes := by
  induction bytes generalizing w with
  | nil =>
      exact (List.append_nil _).symm
  | cons byte bytes ih =>
      rw [List.foldl_cons, ih]
      exact List.append_cons .. |>.symm

theorem csum_foldl_putByte
    (bytes : List Byte) (w : TapeWriter) :
    (bytes.foldl putByte w).csum.setWidth 8 =
      w.csum.setWidth 8 - bytes.sum := by
  induction bytes generalizing w with
  | nil =>
      exact (BitVec.sub_zero _).symm
  | cons byte bytes ih =>
      have hput : (putByte w byte).csum.setWidth 8 =
          w.csum.setWidth 8 - byte :=
        setWidth_sub_byte _ _
      rw [List.foldl_cons, ih, hput, List.sum_cons]
      bv_omega

theorem setWidth_and_byte
    (csum : BitVec 32) :
    (csum &&& 0xff).setWidth 8 = csum.setWidth 8 := by
  rw [BitVec.setWidth_and]
  exact BitVec.and_allOnes

/-- The image: the data between its header and the byte that closes it, and
the header of the start block. -/
theorem rawToSimhBin_eq
    {file : List Byte} (offset start : BitVec 32)
    (hlength : file.length < 2 ^ 32) :
    rawToSimhBin file offset start =
      headerBytes (BitVec.ofNat 32 file.length + 6) offset ++ (file ++
        -((headerBytes (BitVec.ofNat 32 file.length + 6) offset).sum +
            file.sum) ::
          headerBytes 6 start) := by
  have htake : file.take (BitVec.ofNat 32 file.length).toNat = file := by
    rw [BitVec.toNat_ofNat, Nat.mod_eq_of_lt hlength, List.take_length]
  unfold rawToSimhBin
  dsimp only
  have hsum : ∀ a b : Byte,
      (0 : BitVec 32).setWidth 8 - a - b = -(a + b) := by
    intro a b
    rw [BitVec.neg_add]
    exact congrArg (· - b) (BitVec.zero_sub a)
  simp only [putHeader_eq, htake, fh_foldl_putByte, setWidth_and_byte,
    csum_foldl_putByte, hsum, List.nil_append, List.append_assoc,
    List.cons_append]

/-- A number of two bytes is read back from them. -/
theorem number_of_bytes
    {v : BitVec 32} (h : v.toNat < 65536) :
    ((v >>> 8).setWidth 8).toNat <<< 8 ||| ((v &&& 255).setWidth 8).toNat =
      v.toNat := by
  have hlow : ((v &&& 255).setWidth 8).toNat = v.toNat % 256 := by
    rw [setWidth_and_byte, BitVec.toNat_setWidth]
  have hhigh : ((v >>> 8).setWidth 8).toNat = v.toNat / 256 := by
    rw [BitVec.toNat_setWidth, BitVec.toNat_ushiftRight,
      Nat.shiftRight_eq_div_pow]
    omega
  rw [hlow, hhigh, ← Nat.shiftLeft_add_eq_or_of_lt (by omega),
    Nat.shiftLeft_eq]
  omega

/-- The sum of a header as the reader forms it. -/
def headerSum (length address : BitVec 32) : Byte :=
  (0 : Byte) + (length &&& 255).setWidth 8 + (length >>> 8).setWidth 8 +
    (address &&& 255).setWidth 8 + (address >>> 8).setWidth 8

/-- The writer counts the two bytes of the mark, the reader does not; the byte
that closes the block makes up for it. -/
theorem checksum_closes
    (length address : BitVec 32) (sum : Byte) :
    headerSum length address + sum +
      -((headerBytes length address).sum + sum) = 255 := by
  have hclose : ∀ x : Byte, x + -(1 + x) = 255 := by
    intro x
    bv_omega
  have hsum : (headerBytes length address).sum + sum =
      (1 : Byte) + (headerSum length address + sum) := by
    unfold headerSum
    calc (headerBytes length address).sum + sum
        = (1 : Byte) + ((0 : Byte) + ((length &&& 255).setWidth 8 +
            ((length >>> 8).setWidth 8 + ((address &&& 255).setWidth 8 +
              ((address >>> 8).setWidth 8 + 0#8))))) + sum := rfl
      _ = _ := by
          rw [BitVec.add_zero]
          simp only [BitVec.add_assoc]
  rw [hsum]
  exact hclose _

end Image

section Loading

variable {δ : Type}

/-- Without address translation what is below the I/O page is memory. -/
theorem target_ram_of_disabled
    {s : Machine δ} (hoff : s.mmu.isEnabled = false) {a : Word}
    (ha : a.toNat < 0o160000) (hsize : a.toNat < s.ram.size.toNat)
    (runMode : RunMode) (space : Space) :
    s.target runMode a space =
      .ram (a.setWidth 32) ((activePageField a).setWidth 6) := by
  have hbase : s.mmu.ioBase = 0o160000 := by
    have hbit : ¬ s.mmu.mmr0 &&& 1 ≠ 0 := of_decide_eq_false hoff
    rw [s.mmu.ioBase_eq]
    exact if_neg hbit
  have hwide : (a.setWidth 32).toNat = a.toNat :=
    BitVec.toNat_setWidth_of_le (by decide)
  have hio : ¬ (0o160000 : PhysAddr) ≤ a.setWidth 32 := by
    rw [BitVec.le_def, hwide]
    exact Nat.not_le.mpr ha
  have hbounds : ¬ s.ram.size ≤ a.setWidth 32 := by
    rw [BitVec.le_def, hwide]
    exact Nat.not_le.mpr hsize
  unfold Machine.target Mmu.target Mmu.dispatch Mmu.physical Mmu.physicalPage
  rw [hoff, hbase]
  simp only [Bool.false_eq_true, false_and, if_false]
  rw [if_neg hio, if_neg hbounds]

variable [UnibusDevices δ]

theorem writeByte_apply
    {s : Machine δ} (hoff : s.mmu.isEnabled = false) {a : Word}
    (ha : a.toNat < 0o160000) (hsize : a.toNat < s.ram.size.toNat) (c : Byte) :
    Bus.writeByte a c s = .ok ()
      { s with
        mmu := s.mmu.setPageWrittenTo ((activePageField a).setWidth 6)
        ram := s.ram.writeByte (a.setWidth 32) c } := by
  have hbyte : (c.setWidth 16).setWidth 8 = c := by
    rw [BitVec.setWidth_setWidth_of_le _ (by decide), BitVec.setWidth_eq]
  unfold Bus.writeByte getPSWRunmode cpuView
  rw [view_bind_apply]
  refine bind_of_ok (a := false) ?_
  rw [Bus.write_eq, target_ram_of_disabled hoff ha hsize]
  refine noteAbort_of_ok ?_
  unfold serveWrite writeRam modifyMmu
  dsimp only
  rw [update_bind_apply, update_bind_apply, hbyte]
  rfl

/-- The loop over bytes that are there stores them one after the other. -/
theorem loadBlockBytes_apply
    (data rest : List Byte) {p : Nat} (csum : Byte) {t : TapeReader}
    {s : Machine δ} (ht : t.fh = data ++ rest)
    (hoff : s.mmu.isEnabled = false)
    (hrange : p + data.length ≤ 0o160000)
    (hram : p + data.length ≤ s.ram.size.toNat) :
    ∃ pages, loadBlockBytes data.length p csum t s =
      .ok
        (csum + data.sum,
          { t with
            fh := rest
            nRead := t.nRead + BitVec.ofNat 16 data.length })
        { s with
          mmu := { s.mmu with pages := pages }
          ram := { s.ram with m := overwrite s.ram.m p data } } := by
  induction data generalizing p csum t s with
  | nil =>
      refine ⟨s.mmu.pages, ?_⟩
      have hrest : t.fh = rest := ht
      have hsum : csum + ([] : List Byte).sum = csum :=
        BitVec.add_zero csum
      have hcount : t.nRead + BitVec.ofNat 16 0 = t.nRead :=
        BitVec.add_zero t.nRead
      rw [overwrite_nil, ← hrest, hsum, List.length_nil, hcount]
      unfold loadBlockBytes
      rfl
  | cons c data ih =>
      rw [List.length_cons] at hrange hram
      have hp : (BitVec.ofNat 16 p).toNat = p := by
        rw [BitVec.toNat_ofNat]
        omega
      have hwrite := writeByte_apply (a := BitVec.ofNat 16 p) hoff
        (by omega) (by omega) c
      obtain ⟨pages, hloop⟩ := ih (p := p + 1) (csum + c)
        (t := { t with fh := data ++ rest, nRead := t.nRead + 1 })
        (s := { s with
          mmu := s.mmu.setPageWrittenTo
            ((activePageField (BitVec.ofNat 16 p)).setWidth 6)
          ram := s.ram.writeByte ((BitVec.ofNat 16 p).setWidth 32) c })
        rfl hoff (by omega) (by
          change p + 1 + data.length ≤ s.ram.size.toNat
          omega)
      have hstored :
          overwrite (s.ram.writeByte ((BitVec.ofNat 16 p).setWidth 32) c).m
            (p + 1) data = overwrite s.ram.m p (c :: data) := by
        have hwide : ((BitVec.ofNat 16 p).setWidth 32).toNat = p := by
          rw [BitVec.toNat_setWidth_of_le (by decide), hp]
        unfold Ram.writeByte
        dsimp only
        rw [hwide, ← overwrite_singleton]
        exact overwrite_append s.ram.m p [c] data
      have hsum : csum + c + data.sum = csum + (c :: data).sum := by
        rw [List.sum_cons, BitVec.add_assoc]
      have hcount : t.nRead + 1 + BitVec.ofNat 16 data.length =
          t.nRead + BitVec.ofNat 16 (data.length + 1) := by
        rw [BitVec.add_assoc, BitVec.add_comm 1, BitVec.ofNat_add]
        rfl
      refine ⟨pages, ?_⟩
      rw [List.length_cons, loadBlockBytes, ht, List.cons_append]
      dsimp only
      rw [bind_of_ok hwrite, hloop, hsum]
      dsimp only
      rw [hstored, hcount]
      rfl

/-- A pass over a header that neither ends the image nor is empty. -/
theorem loadBlocks_header
    {length address : BitVec 32} {fh : List Byte} (passes : Nat)
    {t : TapeReader} (s : Machine δ)
    (ht : t.fh = headerBytes length address ++ fh)
    (hlength : length.toNat < 65536) (hzero : length.toNat ≠ 0)
    (haddress : address.toNat < 65536) (hend : address.toNat ≠ 1) :
    loadBlocks (passes + 1) t s =
      (loadBlock length.toNat address.toNat (headerSum length address)
          { t with fh := fh, nRead := t.nRead + 6 } >>=
        loadBlocks passes) s := by
  rw [loadBlocks, ht]
  unfold headerBytes
  simp only [List.cons_append, List.nil_append, number_of_bytes hlength,
    number_of_bytes haddress]
  rw [if_neg (by omega)]
  rfl

/-- The reader behind a header of a block with so many bytes. -/
theorem openBlock_eq
    (t : TapeReader) (data : List Byte) (p : Nat) :
    t.openBlock (data.length + 6) p =
      { fh := t.fh
        start := if data = [] then some (BitVec.ofNat 16 p) else t.start
        nRead := t.nRead
        log := .reading data.length p ::
          ((if data = [] then [.settingStart p] else []) ++ t.log) } := by
  have hcount : ((data.length + 6 : Nat) : Int) - 6 = data.length := by
    omega
  unfold TapeReader.openBlock
  rw [hcount]
  cases data with
  | nil =>
      rfl
  | cons c data =>
      have hne : (c :: data).length + 6 ≠ 6 := by
        rw [List.length_cons]
        omega
      dsimp only
      rw [if_neg hne]
      rfl

theorem closeBlock_of_closes
    {t : TapeReader} {csum fcs : Byte} {rest : List Byte}
    (ht : t.fh = fcs :: rest) (h : csum + fcs = 255) :
    t.closeBlock csum = { t with fh := rest, nRead := t.nRead + 1 } := by
  unfold TapeReader.closeBlock
  rw [ht]
  exact if_neg (not_not_intro h)

theorem closeBlock_of_end
    {t : TapeReader} (csum : Byte) (ht : t.fh = []) :
    ∃ tail, t.closeBlock csum =
      { t with fh := [], nRead := t.nRead + 1, log := tail ++ t.log } := by
  unfold TapeReader.closeBlock
  rw [ht]
  dsimp only
  split
  · next hcsum =>
      exact ⟨[_], rfl⟩
  · exact ⟨[], rfl⟩

/-- What a block leaves of the file and of the memory. -/
theorem loadBlock_apply
    (data rest : List Byte) {p : Nat} (csum : Byte) {t : TapeReader}
    {s : Machine δ} (ht : t.fh = data ++ rest)
    (hoff : s.mmu.isEnabled = false)
    (hrange : p + data.length ≤ 0o160000)
    (hram : p + data.length ≤ s.ram.size.toNat) :
    ∃ pages, loadBlock (data.length + 6) p csum t s =
      .ok
        (TapeReader.closeBlock
          { fh := rest
            start := if data = [] then some (BitVec.ofNat 16 p) else t.start
            nRead := t.nRead + BitVec.ofNat 16 data.length
            log := .reading data.length p ::
              ((if data = [] then [.settingStart p] else []) ++ t.log) }
          (csum + data.sum))
        { s with
          mmu := { s.mmu with pages := pages }
          ram := { s.ram with m := overwrite s.ram.m p data } } := by
  obtain ⟨pages, hloop⟩ := loadBlockBytes_apply data rest csum
    (t := t.openBlock (data.length + 6) p)
    (by rw [openBlock_eq]; exact ht) hoff hrange hram
  refine ⟨pages, ?_⟩
  unfold loadBlock
  rw [Nat.add_sub_cancel, bind_of_ok hloop, openBlock_eq]
  rfl

theorem toNat_address
    (v : Word) :
    (v.setWidth 32).toNat = v.toNat :=
  BitVec.toNat_setWidth_of_le (by decide)

/-- The start block ends the image, where there is no byte to close it. -/
theorem loadBlocks_start
    {start : Word} (hstart : start ≠ 1) (passes : Nat) {t : TapeReader}
    (s : Machine δ) (ht : t.fh = headerBytes 6 (start.setWidth 32)) :
    ∃ tail nRead, loadBlocks (passes + 2) t s =
      .ok
        { fh := []
          start := some start
          nRead := nRead
          log := tail ++ .reading 0 start.toNat ::
            .settingStart start.toNat :: t.log }
        s := by
  have hone : start.toNat ≠ 1 := fun h => hstart (BitVec.eq_of_toNat_eq h)
  have hp : BitVec.ofNat 16 start.toNat = start :=
    BitVec.eq_of_toNat_eq (by
      rw [BitVec.toNat_ofNat, Nat.mod_eq_of_lt start.isLt])
  have hblock : ∀ csum (t : TapeReader), loadBlock 6 start.toNat csum t s =
      .ok ((t.openBlock 6 start.toNat).closeBlock csum) s := fun _ _ => rfl
  have hopen := openBlock_eq { t with fh := [], nRead := t.nRead + 6 } []
    start.toNat
  obtain ⟨tail, hclose⟩ := closeBlock_of_end
    (t := TapeReader.openBlock { t with fh := [], nRead := t.nRead + 6 } 6
      start.toNat)
    (headerSum 6 (start.setWidth 32)) (by
      rw [show 6 = ([] : List Byte).length + 6 from rfl, hopen])
  have hpass := loadBlocks_header (passes + 1) s
    (ht.trans (List.append_nil _).symm) (by decide) (by decide)
    (by rw [toNat_address]; exact start.isLt)
    (by rw [toNat_address]; exact hone)
  rw [toNat_address, show (6 : BitVec 32).toNat = 6 from rfl] at hpass
  refine ⟨tail, t.nRead + 6 + 1, ?_⟩
  rw [hpass, bind_of_ok (hblock _ _), hclose]
  rw [show (6 : Nat) = ([] : List Byte).length + 6 from rfl, hopen]
  dsimp only
  rw [if_pos rfl, hp]
  rfl

/-- The image of a file, read back. -/
theorem loadBlocks_rawToSimhBin
    {file : List Byte} {offset start : Word} (passes : Nat) {s : Machine δ}
    (hlength : file.length + 6 < 65536)
    (hoffset : offset ≠ 1) (hstart : start ≠ 1)
    (hoff : s.mmu.isEnabled = false)
    (hrange : offset.toNat + file.length ≤ 0o160000)
    (hram : offset.toNat + file.length ≤ s.ram.size.toNat) :
    ∃ pages tail nRead, loadBlocks (passes + 3)
        { fh := rawToSimhBin file (offset.setWidth 32) (start.setWidth 32)
          start := none
          nRead := 0
          log := [] } s =
      .ok
        { fh := []
          start := some start
          nRead := nRead
          log := tail ++ .reading 0 start.toNat ::
            .settingStart start.toNat :: .reading file.length offset.toNat ::
              if file = [] then [.settingStart offset.toNat] else [] }
        { s with
          mmu := { s.mmu with pages := pages }
          ram := { s.ram with m := overwrite s.ram.m offset.toNat file } } := by
  have hcount : (BitVec.ofNat 32 file.length + 6).toNat = file.length + 6 := by
    rw [BitVec.toNat_add, BitVec.toNat_ofNat]
    exact (by omega : (file.length % 2 ^ 32 + 6) % 2 ^ 32 = file.length + 6)
  have hone : offset.toNat ≠ 1 := fun h => hoffset (BitVec.eq_of_toNat_eq h)
  generalize hlen : BitVec.ofNat 32 file.length + 6 = length at hcount
  have himage := rawToSimhBin_eq (offset.setWidth 32) (start.setWidth 32)
    (by omega : file.length < 2 ^ 32)
  rw [hlen] at himage
  -- the block with the data
  obtain ⟨pages, hdata⟩ := loadBlock_apply file
    (-((headerBytes length (offset.setWidth 32)).sum + file.sum) ::
      headerBytes 6 (start.setWidth 32))
    (headerSum length (offset.setWidth 32))
    (t :=
      { fh := file ++
          -((headerBytes length (offset.setWidth 32)).sum + file.sum) ::
            headerBytes 6 (start.setWidth 32)
        start := none
        nRead := 0 + 6
        log := [] })
    rfl hoff hrange hram
  rw [closeBlock_of_closes rfl (checksum_closes _ _ _)] at hdata
  have hfirst := loadBlocks_header (passes + 2)
    (t :=
      { fh := rawToSimhBin file (offset.setWidth 32) (start.setWidth 32)
        start := none
        nRead := 0
        log := [] })
    s himage (by omega) (by omega)
    (by rw [toNat_address]; exact offset.isLt)
    (by rw [toNat_address]; exact hone)
  rw [toNat_address, hcount, bind_of_ok hdata] at hfirst
  -- the start block
  obtain ⟨tail, nRead, hsecond⟩ := loadBlocks_start hstart passes
    { s with
      mmu := { s.mmu with pages := pages }
      ram := { s.ram with m := overwrite s.ram.m offset.toNat file } }
    (t :=
      { fh := headerBytes 6 (start.setWidth 32)
        start :=
          if file = [] then some (BitVec.ofNat 16 offset.toNat) else none
        nRead := 0 + 6 + BitVec.ofNat 16 file.length + 1
        log := .reading file.length offset.toNat ::
          if file = [] then [.settingStart offset.toNat] else [] })
    rfl
  refine ⟨pages, tail, nRead, ?_⟩
  rw [hfirst]
  dsimp only
  rw [List.append_nil]
  exact hsecond

/-- The reader undoes the writer: the bytes of the file are in memory from the
load offset on, nothing else has changed but marks in the page registers, the
start address is returned, and nothing is logged between the data and the start
block. -/
theorem loadTape_rawToSimhBin
    {file : List Byte} {offset start : Word} {s : Machine δ}
    (hlength : file.length + 6 < 65536)
    (hoffset : offset ≠ 1) (hstart : start ≠ 1)
    (hoff : s.mmu.isEnabled = false)
    (hrange : offset.toNat + file.length ≤ 0o160000)
    (hram : offset.toNat + file.length ≤ s.ram.size.toNat) :
    ∃ t tail,
      loadTape
          (rawToSimhBin file (offset.setWidth 32) (start.setWidth 32)) s =
        .ok
          (some start,
            (if file = [] then [.settingStart offset.toNat] else []) ++
              .reading file.length offset.toNat ::
                .settingStart start.toNat :: .reading 0 start.toNat :: tail)
          t ∧
      (∀ i (hi : i < file.length), t.ram.m (offset.toNat + i) = file[i]) ∧
      (∀ a, a < offset.toNat ∨ offset.toNat + file.length ≤ a →
        t.ram.m a = s.ram.m a) ∧
      ∃ pages, t =
        { s with
          mmu := { s.mmu with pages := pages }
          ram := { s.ram with m := t.ram.m } } := by
  have hlong : 2 ≤ (rawToSimhBin file (offset.setWidth 32)
      (start.setWidth 32)).length := by
    rw [rawToSimhBin_eq _ _ (by omega)]
    unfold headerBytes
    simp only [List.length_append, List.length_cons]
    omega
  obtain ⟨passes, hpasses⟩ := Nat.exists_eq_add_of_le hlong
  obtain ⟨pages, tail, nRead, hload⟩ := loadBlocks_rawToSimhBin passes hlength
    hoffset hstart hoff hrange hram
  refine
    ⟨{ s with
        mmu := { s.mmu with pages := pages }
        ram := { s.ram with m := overwrite s.ram.m offset.toNat file } },
      tail.reverse ++ [.read nRead], ?_, ?_, ?_, pages, rfl⟩
  · unfold loadTape
    rw [hpasses, show 2 + passes + 1 = passes + 3 by omega, bind_of_ok hload,
      pure_apply]
    have hlog : ∀ first : List TapeMessage, first.reverse = first →
        (TapeMessage.read nRead :: (tail ++ .reading 0 start.toNat ::
          .settingStart start.toNat :: .reading file.length offset.toNat ::
            first)).reverse =
          first ++ .reading file.length offset.toNat ::
            .settingStart start.toNat :: .reading 0 start.toNat ::
              (tail.reverse ++ [.read nRead]) := by
      intro first hfirst
      simp [hfirst]
    split
    · next hempty =>
        exact congrArg (fun log => EStateM.Result.ok (some start, log) _)
          (hlog [.settingStart offset.toNat] rfl)
    · next hempty =>
        exact congrArg (fun log => EStateM.Result.ok (some start, log) _)
          (hlog [] rfl)
  · intro i hi
    exact overwrite_inside hi
  · intro a ha
    exact overwrite_outside ha

/-- A file of two bytes, the first one of which is 255. -/
theorem loadTape_of_two_bytes :
    ∃ t log,
      loadTape (rawToSimhBin [255, 18] 0o1000 0o1000)
          (bareMachine 0o20000 []) = .ok (some 0o1000, log) t ∧
        t.ram.m 0o1000 = 255 ∧ t.ram.m 0o1001 = 18 := by
  obtain ⟨t, tail, hload, hbytes, _, _⟩ := @loadTape_rawToSimhBin
    _ _ [255, 18] 0o1000 0o1000 (bareMachine 0o20000 [])
    (by decide) (by decide) (by decide) rfl (by decide) (by decide)
  exact ⟨t, _, hload, hbytes 0 (by decide), hbytes 1 (by decide)⟩

end Loading

end KekPdp11
