import KekPdp11.TapeSearch

/-!
# KEK PDP-11: tapes as sequences of records

A tape image is a sequence of data records and tape marks.  A data record is
its length, its data and its length again; a tape mark is a length of zero.
`Head` is the place between two items at which a drive should stand, and
`Head.perform` what a command should do there.

The TM-11 keeps to the records of less than 4096 bytes when it reads up to the
size of its buffer and spaces forward.  It masks longer lengths, leaves the
head inside the record when more is asked for than its buffer takes, and, as
it negates an unsigned length, goes far ahead on a space reverse from
anywhere but the start of the tape.
-/

namespace KekPdp11

/-- The data of a record, of a length that a header with a zero top byte can
express and that is not a tape mark's. -/
structure DataRecord where
  data : List Byte
  nonempty : data ≠ []
  short : data.length < 2 ^ 24

inductive TapeItem where
  | mark
  | record (r : DataRecord)

/-- Four bytes, the low one first. -/
def littleEndian (n : Nat) : List Byte :=
  [BitVec.ofNat 8 n, BitVec.ofNat 8 (n / 2 ^ 8), BitVec.ofNat 8 (n / 2 ^ 16),
    BitVec.ofNat 8 (n / 2 ^ 24)]

def TapeItem.bytes : TapeItem → List Byte
  | .mark => littleEndian 0
  | .record r =>
      littleEndian r.data.length ++ r.data ++ littleEndian r.data.length

/-- The tape image of a sequence of items. -/
def tapeImage (items : List TapeItem) : List Byte :=
  items.flatMap TapeItem.bytes

/-- A place on a tape: the items passed and the items ahead. -/
structure Head where
  passed : List TapeItem
  ahead : List TapeItem

inductive TapeCommand where
  | read
  | spaceForward
  | spaceReverse
  | rewind
deriving DecidableEq, Repr

/-- The code of a command in the function field of MTC. -/
def TapeCommand.func : TapeCommand → Nat
  | .read => 1
  | .spaceForward => 4
  | .spaceReverse => 5
  | .rewind => 7

namespace Head

/-- The place behind the tape marks. -/
def skipMarks : (passed ahead : List TapeItem) → Head
  | passed, [] => ⟨passed, []⟩
  | passed, .mark :: ahead => skipMarks (passed ++ [.mark]) ahead
  | passed, .record r :: ahead => ⟨passed, .record r :: ahead⟩

/-- The next data record. -/
def next (h : Head) : Option DataRecord :=
  match (skipMarks h.passed h.ahead).ahead with
  | .record r :: _ => some r
  | _ => none

/-- The place behind the next data record, or at the end. -/
def pass (h : Head) : Head :=
  match skipMarks h.passed h.ahead with
  | ⟨passed, .record r :: ahead⟩ => ⟨passed ++ [.record r], ahead⟩
  | place => place

/-- The place before the last record of a reversed sequence. -/
def backOver : (reversed ahead : List TapeItem) → Head
  | [], ahead => ⟨[], ahead⟩
  | .mark :: reversed, ahead => backOver reversed (.mark :: ahead)
  | .record r :: reversed, ahead => ⟨reversed.reverse, .record r :: ahead⟩

/-- The place before the preceding data record. -/
def back (h : Head) : Head :=
  backOver h.passed.reverse h.ahead

/-- What a command should do: the place it leads to and the data it
delivers. -/
def perform (h : Head) (count : Nat) : TapeCommand → Head × List Byte
  | .read => (h.pass, (h.next.map fun r => r.data.take count).getD [])
  | .spaceForward => (h.pass, [])
  | .spaceReverse => (h.back, [])
  | .rewind => (⟨[], h.passed ++ h.ahead⟩, [])

/-- The file is the tape, and its position is the place. -/
structure OnTape (h : Head) (f : TapeFile) : Prop where
  content : f.content = tapeImage h.passed ++ tapeImage h.ahead
  position : f.position = (tapeImage h.passed).length

end Head

/-- A command as the guest gives it. -/
structure TapeRequest where
  command : TapeCommand
  /-- What is written to MTC. -/
  control : Word
  /-- What is written to MTBRC. -/
  count : Word
  /-- What is written to MTCMA. -/
  address : Word
  go : control &&& 1 ≠ 0
  func_eq : Tm11.func control = command.func

namespace TapeRequest

def reclen (q : TapeRequest) : Nat :=
  Tm11.reclen q.count

/-- The address of the first byte delivered. -/
def target (q : TapeRequest) : PhysAddr :=
  (q.address &&& ~~~1).setWidth 32

end TapeRequest

/-- The writes to MTBRC, MTCMA and MTC. -/
def Tm11.perform (passes : Nat) (t : Tm11) (q : TapeRequest) :
    Option Tm11Effect := do
  let counted ← t.writeWord passes mtbrc q.count
  let addressed ← counted.tm11.writeWord passes mtcma q.address
  addressed.tm11.writeWord passes mtc q.control

/-- The drive does what the commands should do, one after the other. -/
def Follows (passes : Nat) : Head → Tm11 → List TapeRequest → Prop
  | _, _, [] => True
  | h, t, q :: qs =>
      ∃ e, t.perform passes q = some e ∧
        (h.perform q.reclen q.command).1.OnTape e.tm11.file ∧
        e.calls = Tm11.stores q.target (h.perform q.reclen q.command).2 ∧
        Follows passes (h.perform q.reclen q.command).1 e.tm11 qs

/-- A command that the drive can do: what is read or spaced over is shorter
than 4096 bytes, what is read fits the buffer, and a space reverse starts at
the beginning of the tape. -/
def Head.Suits (h : Head) (q : TapeRequest) : Prop :=
  match q.command with
  | .read =>
      ∀ r, h.next = some r → r.data.length < 4096 ∧ q.reclen ≤ Tm11.xferSize
  | .spaceForward => ∀ r, h.next = some r → r.data.length < 4096
  | .spaceReverse => h.passed = []
  | .rewind => True

/-- Each command is one that the drive can do at the place it is given. -/
def Head.AllSuit : Head → List TapeRequest → Prop
  | _, [] => True
  | h, q :: qs =>
      h.Suits q ∧ AllSuit (h.perform q.reclen q.command).1 qs

section Headers

theorem length_littleEndian
    (n : Nat) :
    (littleEndian n).length = 4 := by
  rfl

theorem header_littleEndian
    {n : Nat} (h : n < 2 ^ 32) :
    TapeFile.header (littleEndian n) = n := by
  simp only [TapeFile.header, littleEndian, List.getD_cons_zero,
    List.getD_cons_succ, BitVec.toNat_ofNat]
  omega

theorem length_of_short
    {n : Nat} (h : n < 4096) :
    TapeFile.length n = n := by
  unfold TapeFile.length
  rw [show 0x0fff = 2 ^ 12 - 1 from rfl, Nat.and_two_pow_sub_one_eq_mod]
  exact Nat.mod_eq_of_lt h

theorem metaByte_of_short
    {n : Nat} (h : n < 2 ^ 24) :
    TapeFile.metaByte n = 0 := by
  unfold TapeFile.metaByte
  rw [Nat.shiftRight_eq_div_pow]
  exact Nat.div_eq_of_lt h

theorem tapeImage_cons
    (item : TapeItem) (items : List TapeItem) :
    tapeImage (item :: items) = item.bytes ++ tapeImage items := by
  simp [tapeImage]

theorem tapeImage_append
    (items items' : List TapeItem) :
    tapeImage (items ++ items') = tapeImage items ++ tapeImage items' := by
  simp [tapeImage]

theorem tapeImage_singleton
    (item : TapeItem) :
    tapeImage [item] = item.bytes := by
  simp [tapeImage]

end Headers

namespace TapeFile

/-- The file is at the place between two parts of its content. -/
structure At (f : TapeFile) (before after : List Byte) : Prop where
  content : f.content = before ++ after
  position : f.position = before.length

/-- A read of the first bytes of what is ahead. -/
theorem At.fread
    {f : TapeFile} {before data after : List Byte}
    (h : f.At before (data ++ after)) :
    (f.fread data.length).1 = data ∧
      (f.fread data.length).2.At (before ++ data) after := by
  have hdata : (f.fread data.length).1 = data := by
    unfold TapeFile.fread
    rw [h.content, h.position]
    simp
  refine ⟨hdata, ?_, ?_⟩
  · rw [fread_content, h.content, List.append_assoc]
  · rw [fread_position (congrArg List.length hdata), h.position,
      List.length_append]

/-- A seek over the first bytes of what is ahead. -/
theorem At.fseekCur
    {f : TapeFile} {before data after : List Byte}
    (h : f.At before (data ++ after)) :
    ∃ f', f.fseekCur (data.length : Nat) = some f' ∧
      f'.At (before ++ data) after := by
  refine ⟨_, fseekCur_nat data.length f, ?_, ?_⟩
  · exact h.content.trans (List.append_assoc before data after).symm
  · rw [List.length_append, ← h.position]

theorem At.content_eq
    {f : TapeFile} {before after before' after' : List Byte}
    (h : f.At before after) (heq : before ++ after = before' ++ after')
    (hlength : before.length = before'.length) :
    f.At before' after' :=
  ⟨h.content.trans heq, h.position.trans hlength⟩

/-- At the end of the tape, the search finds nothing and stays. -/
theorem forward_at_end
    (passes : Nat) {f : TapeFile} {before : List Byte} (h : f.At before []) :
    f.findDataRecordForward (passes + 1) = some (none, f) := by
  have hread : (f.fread 4).1 = [] := by
    unfold TapeFile.fread
    rw [h.content, h.position]
    simp
  have hstay : (f.fread 4).2 = f := by
    refine TapeFile.ext rfl ?_
    change f.position + (f.fread 4).1.length = f.position
    rw [hread]
    rfl
  unfold findDataRecordForward
  dsimp only
  rw [hread, hstay]
  rfl

/-- A tape mark takes one pass. -/
theorem forward_at_mark
    (passes : Nat) {f : TapeFile} {before after : List Byte}
    (h : f.At before (littleEndian 0 ++ after)) :
    ∃ f' : TapeFile, f.findDataRecordForward (passes + 1) =
        f'.findDataRecordForward passes ∧
      f'.At (before ++ littleEndian 0) after := by
  obtain ⟨hread, hat⟩ := h.fread
  rw [length_littleEndian] at hread hat
  refine ⟨_, ?_, hat⟩
  rw [findDataRecordForward]
  dsimp only
  rw [hread]
  rfl

/-- The search ends behind the header of a data record. -/
theorem forward_at_record
    (passes : Nat) {f : TapeFile} {before after : List Byte} {n : Nat}
    (hpos : 0 < n) (hshort : n < 4096)
    (h : f.At before (littleEndian n ++ after)) :
    ∃ f', f.findDataRecordForward (passes + 1) = some (some n, f') ∧
      f'.At (before ++ littleEndian n) after := by
  obtain ⟨hread, hat⟩ := h.fread
  rw [length_littleEndian] at hread hat
  have hheader : header (f.fread 4).1 = n := by
    rw [hread, header_littleEndian (by omega)]
  have hfull : (f.fread 4).1.length = 4 := by
    rw [hread, length_littleEndian]
  refine ⟨_, ?_, hat⟩
  unfold findDataRecordForward
  dsimp only
  rw [if_neg (not_not_intro hfull), hheader, length_of_short hshort,
    metaByte_of_short (by omega), if_pos hpos, if_pos rfl]

end TapeFile

namespace Head

theorem OnTape.at
    {h : Head} {f : TapeFile} (hf : h.OnTape f) :
    f.At (tapeImage h.passed) (tapeImage h.ahead) :=
  ⟨hf.content, hf.position⟩

theorem OnTape.of_at
    {passed ahead : List TapeItem} {f : TapeFile}
    (h : f.At (tapeImage passed) (tapeImage ahead)) :
    OnTape ⟨passed, ahead⟩ f :=
  ⟨h.content, h.position⟩

/-- What a search forward finds: nothing, at the end of the tape, or the next
data record, behind whose header it stops. -/
theorem search_forward
    (passes : Nat) (passed ahead : List TapeItem) {f : TapeFile}
    (hf : OnTape ⟨passed, ahead⟩ f) (hpasses : ahead.length < passes) :
    ((skipMarks passed ahead).ahead = [] ∧
      ∃ f', f.findDataRecordForward passes = some (none, f') ∧
        (skipMarks passed ahead).OnTape f') ∨
    ∃ r rest, (skipMarks passed ahead).ahead = .record r :: rest ∧
      (r.data.length < 4096 →
        ∃ f', f.findDataRecordForward passes =
            some (some r.data.length, f') ∧
          f'.At
            (tapeImage (skipMarks passed ahead).passed ++
              littleEndian r.data.length)
            (r.data ++ (littleEndian r.data.length ++ tapeImage rest))) := by
  induction ahead generalizing passed f passes with
  | nil =>
      obtain ⟨passes, rfl⟩ : ∃ k, passes = k + 1 := ⟨passes - 1, by
        rw [List.length_nil] at hpasses
        omega⟩
      exact .inl ⟨rfl, f, TapeFile.forward_at_end passes hf.at, hf⟩
  | cons item ahead ih =>
      obtain ⟨passes, rfl⟩ : ∃ k, passes = k + 1 := ⟨passes - 1, by
        rw [List.length_cons] at hpasses
        omega⟩
      have hat := hf.at
      dsimp only at hat
      rw [tapeImage_cons] at hat
      cases item with
      | mark =>
          obtain ⟨f', hstep, hat'⟩ := TapeFile.forward_at_mark passes hat
          have hf' : OnTape ⟨passed ++ [.mark], ahead⟩ f' := by
            refine .of_at ?_
            rw [tapeImage_append, tapeImage_singleton]
            exact hat'
          rw [hstep]
          exact ih passes _ hf' (by
            rw [List.length_cons] at hpasses
            omega)
      | record r =>
          refine .inr ⟨r, ahead, rfl, fun hshort => ?_⟩
          have hrecord : f.At (tapeImage passed)
              (littleEndian r.data.length ++
                (r.data ++ (littleEndian r.data.length ++ tapeImage ahead))) :=
            hat.content_eq (by simp [TapeItem.bytes]) rfl
          exact TapeFile.forward_at_record passes
            (List.length_pos_iff.mpr r.nonempty) hshort hrecord

theorem next_of_skipMarks
    {h : Head} {r : DataRecord} {rest : List TapeItem}
    (hskip : (skipMarks h.passed h.ahead).ahead = .record r :: rest) :
    h.next = some r ∧
      h.pass =
        ⟨(skipMarks h.passed h.ahead).passed ++ [.record r], rest⟩ := by
  unfold next pass
  cases hs : skipMarks h.passed h.ahead with
  | mk passed ahead =>
      rw [hs] at hskip
      subst hskip
      exact ⟨rfl, rfl⟩

theorem pass_of_end
    {h : Head} (hskip : (skipMarks h.passed h.ahead).ahead = []) :
    h.next = none ∧ h.pass = skipMarks h.passed h.ahead := by
  unfold next pass
  cases hs : skipMarks h.passed h.ahead with
  | mk passed ahead =>
      rw [hs] at hskip
      subst hskip
      exact ⟨rfl, rfl⟩

/-- Behind the trailer of a record, the record is passed. -/
theorem onTape_of_trailer
    {f : TapeFile} {passed rest : List TapeItem} {r : DataRecord}
    (h : f.At
      (tapeImage passed ++ littleEndian r.data.length ++ r.data ++
        littleEndian r.data.length)
      (tapeImage rest)) :
    OnTape ⟨passed ++ [.record r], rest⟩ f := by
  refine .of_at (h.content_eq ?_ ?_)
  · rw [tapeImage_append, tapeImage_singleton, TapeItem.bytes]
    simp
  · rw [tapeImage_append, tapeImage_singleton, TapeItem.bytes]
    simp

end Head

namespace Tm11

open Head

variable {passes n : Nat} {h : Head} {f : TapeFile}

/-- Over the trailer. -/
theorem skipTrailerForward_at
    {before after : List Byte}
    (hf : f.At before (littleEndian n ++ after)) :
    f.skipTrailerForward.At (before ++ littleEndian n) after := by
  obtain ⟨f', hseek, hat⟩ := hf.fseekCur
  rw [length_littleEndian] at hseek
  unfold TapeFile.skipTrailerForward
  rw [show (4 : Int) = ((4 : Nat) : Int) from rfl, hseek]
  exact hat

/-- The data of a record is read, delivered as far as it is asked for, and
passed. -/
theorem read_record
    {passed rest : List TapeItem} {r : DataRecord} {f' : TapeFile}
    (memOffset : PhysAddr) (hn : n ≤ xferSize)
    (hfind : f.findDataRecordForward passes = some (some r.data.length, f'))
    (hf' : f'.At (tapeImage passed ++ littleEndian r.data.length)
      (r.data ++ (littleEndian r.data.length ++ tapeImage rest))) :
    ∃ file, read passes n memOffset f =
        some ⟨true, file, stores memOffset (r.data.take n)⟩ ∧
      OnTape ⟨passed ++ [.record r], rest⟩ file := by
  have hshort := r.short
  have hmin : (r.data.take n).length = min n r.data.length :=
    List.length_take
  have hparts : f'.At (tapeImage passed ++ littleEndian r.data.length)
      (r.data.take n ++ (r.data.drop n ++
        (littleEndian r.data.length ++ tapeImage rest))) := by
    rw [← List.append_assoc (r.data.take n), List.take_append_drop]
    exact hf'
  obtain ⟨hdata, hat⟩ := hparts.fread
  rw [hmin] at hdata hat
  unfold read
  rw [hfind]
  dsimp only
  rw [if_neg (by omega), hdata, if_neg (not_not_intro hmin)]
  by_cases hless : n < r.data.length
  · rw [if_pos hless]
    obtain ⟨file, hseek, hfile⟩ := hat.fseekCur
    rw [List.length_drop] at hseek
    rw [show r.data.length - min n r.data.length = r.data.length - n by omega,
      hseek]
    refine ⟨_, rfl, onTape_of_trailer ?_⟩
    refine (skipTrailerForward_at hfile).content_eq ?_ ?_
    · rw [List.append_assoc _ (r.data.take n), List.take_append_drop]
    · rw [List.append_assoc _ (r.data.take n), List.take_append_drop]
  · rw [if_neg hless]
    have hall : r.data.take n = r.data :=
      List.take_of_length_le (by omega)
    have hnone : r.data.drop n = [] :=
      List.drop_of_length_le (by omega)
    rw [hall, hnone, List.nil_append] at hat
    rw [hall]
    exact ⟨_, rfl, onTape_of_trailer (skipTrailerForward_at hat)⟩

theorem read_onTape
    (memOffset : PhysAddr) (hf : h.OnTape f)
    (hpasses : h.ahead.length < passes)
    (hsuits : ∀ r, h.next = some r →
      r.data.length < 4096 ∧ n ≤ xferSize) :
    ∃ o, read passes n memOffset f = some o ∧ h.pass.OnTape o.file ∧
      o.calls = stores memOffset
        ((h.next.map fun r => r.data.take n).getD []) := by
  rcases search_forward passes h.passed h.ahead hf hpasses with
    ⟨hskip, f', hfind, hf'⟩ | ⟨r, rest, hskip, hfound⟩
  · obtain ⟨hnext, hpass⟩ := pass_of_end hskip
    refine ⟨⟨false, f', []⟩, ?_, ?_, ?_⟩
    · unfold read
      rw [hfind]
    · rw [hpass]
      exact hf'
    · rw [hnext]
      rfl
  · obtain ⟨hnext, hpass⟩ := next_of_skipMarks hskip
    obtain ⟨hshort, hn⟩ := hsuits r hnext
    obtain ⟨f', hfind, hf'⟩ := hfound hshort
    obtain ⟨file, hread, hfile⟩ := read_record memOffset hn hfind hf'
    refine ⟨_, hread, ?_, ?_⟩
    · rw [hpass]
      exact hfile
    · rw [hnext]
      rfl

theorem spaceForward_onTape
    (hf : h.OnTape f) (hpasses : h.ahead.length < passes)
    (hsuits : ∀ r, h.next = some r → r.data.length < 4096) :
    ∃ o, spaceForward passes f = some o ∧ h.pass.OnTape o.file ∧
      o.calls = [] := by
  rcases search_forward passes h.passed h.ahead hf hpasses with
    ⟨hskip, f', hfind, hf'⟩ | ⟨r, rest, hskip, hfound⟩
  · obtain ⟨hnext, hpass⟩ := pass_of_end hskip
    refine ⟨⟨false, f', []⟩, ?_, ?_, rfl⟩
    · unfold spaceForward
      rw [hfind]
    · rw [hpass]
      exact hf'
  · obtain ⟨hnext, hpass⟩ := next_of_skipMarks hskip
    obtain ⟨f', hfind, hf'⟩ := hfound (hsuits r hnext)
    have hskipped : f'.At
        (tapeImage (skipMarks h.passed h.ahead).passed ++
          littleEndian r.data.length)
        ((r.data ++ littleEndian r.data.length) ++ tapeImage rest) := by
      rw [List.append_assoc]
      exact hf'
    obtain ⟨file, hseek, hfile⟩ := hskipped.fseekCur
    rw [List.length_append, length_littleEndian] at hseek
    refine ⟨⟨true, file, []⟩, ?_, ?_, rfl⟩
    · unfold spaceForward
      rw [hfind]
      dsimp only
      rw [hseek]
    · rw [hpass]
      exact onTape_of_trailer
        (hfile.content_eq (by simp) (by simp))

/-- At the beginning of the tape, a space reverse stays. -/
theorem spaceBackward_at_start
    (passes : Nat) (hposition : f.position = 0) :
    spaceBackward (passes + 1) f = some ⟨false, f, []⟩ := by
  unfold spaceBackward
  rw [TapeFile.findDataRecordBackward_succ, if_pos (.inl (by omega)),
    if_pos (by omega)]

end Tm11

namespace Head

/-- Moving over a tape leaves its items. -/
theorem skipMarks_items
    (passed ahead : List TapeItem) :
    (skipMarks passed ahead).passed ++ (skipMarks passed ahead).ahead =
      passed ++ ahead := by
  induction ahead generalizing passed with
  | nil =>
      rfl
  | cons item ahead ih =>
      cases item with
      | mark =>
          rw [skipMarks, ih]
          simp
      | record r =>
          rfl

theorem backOver_items
    (reversed ahead : List TapeItem) :
    (backOver reversed ahead).passed ++ (backOver reversed ahead).ahead =
      reversed.reverse ++ ahead := by
  induction reversed generalizing ahead with
  | nil =>
      rfl
  | cons item reversed ih =>
      cases item with
      | mark =>
          rw [backOver, ih]
          simp
      | record r =>
          simp [backOver]

theorem pass_items
    (h : Head) :
    h.pass.passed ++ h.pass.ahead = h.passed ++ h.ahead := by
  have hitems := skipMarks_items h.passed h.ahead
  unfold pass
  rcases hs : skipMarks h.passed h.ahead with ⟨passed, _ | ⟨_ | r, ahead⟩⟩
  · rwa [hs] at hitems
  · rwa [hs] at hitems
  · rw [hs] at hitems
    simpa using hitems

theorem perform_items
    (h : Head) (count : Nat) (c : TapeCommand) :
    (h.perform count c).1.passed ++ (h.perform count c).1.ahead =
      h.passed ++ h.ahead := by
  cases c with
  | read =>
      exact h.pass_items
  | spaceForward =>
      exact h.pass_items
  | spaceReverse =>
      change (backOver h.passed.reverse h.ahead).passed ++
        (backOver h.passed.reverse h.ahead).ahead = _
      rw [backOver_items, List.reverse_reverse]
  | rewind =>
      rfl

end Head

namespace Tm11

@[simp] theorem setRegister_self
    (t : Tm11) (addr v : Word) :
    (t.setRegister addr v).registers (regNr addr) = v := by
  simp [setRegister]

theorem setRegister_of_ne
    {t : Tm11} {addr v : Word} {n : Nat} (h : n ≠ regNr addr) :
    (t.setRegister addr v).registers n = t.registers n := by
  simp [setRegister, h]

/-- The state in which the command of a request is given. -/
def prepared (t : Tm11) (q : TapeRequest) : Tm11 :=
  (t.setRegister mtbrc q.count).setRegister mtcma (q.address &&& ~~~1)

theorem perform_eq
    (passes : Nat) (t : Tm11) (q : TapeRequest) :
    t.perform passes q =
      ((t.prepared q).command passes q.control).map fun outcome =>
        { tm11 :=
            { t.prepared q with file := outcome.file }.setRegister mtc
              (if outcome.ok then 128 else 32768)
          calls := outcome.calls
          interrupt := decide (q.control &&& 64 ≠ 0) } := by
  have hcount : t.writeWord passes mtbrc q.count =
      some ⟨t.setRegister mtbrc q.count, [], false⟩ := by
    unfold writeWord
    rw [if_neg (by decide), if_neg (by decide)]
  have haddress : (t.setRegister mtbrc q.count).writeWord passes mtcma
      q.address = some ⟨t.prepared q, [], false⟩ := by
    unfold writeWord
    rw [if_neg (by decide), if_pos rfl]
    rfl
  unfold perform
  simp only [hcount, Option.bind_eq_bind, Option.bind_some, haddress]
  exact writeWord_mtc_go q.go _

theorem prepared_mtbrc
    (t : Tm11) (q : TapeRequest) :
    (t.prepared q).registers (regNr mtbrc) = q.count := by
  unfold prepared
  rw [setRegister_of_ne (by decide), setRegister_self]

theorem prepared_mtcma
    (t : Tm11) (q : TapeRequest) :
    (t.prepared q).registers (regNr mtcma) = q.address &&& ~~~1 := by
  exact setRegister_self _ _ _

/-- The command of a request, at a place that suits it. -/
theorem command_onTape
    {passes : Nat} {h : Head} {t : Tm11} {q : TapeRequest}
    (hf : h.OnTape t.file) (hpasses : (h.passed ++ h.ahead).length < passes)
    (hsuits : h.Suits q) :
    ∃ o, (t.prepared q).command passes q.control = some o ∧
      (h.perform q.reclen q.command).1.OnTape o.file ∧
      o.calls = stores q.target (h.perform q.reclen q.command).2 := by
  have hahead : h.ahead.length < passes := by
    rw [List.length_append] at hpasses
    omega
  unfold command
  rw [prepared_mtbrc, prepared_mtcma, q.func_eq]
  unfold Head.Suits at hsuits
  cases hcommand : q.command with
  | read =>
      rw [hcommand] at hsuits
      exact read_onTape q.target hf hahead hsuits
  | spaceForward =>
      rw [hcommand] at hsuits
      exact spaceForward_onTape hf hahead hsuits
  | spaceReverse =>
      rw [hcommand] at hsuits
      dsimp only at hsuits
      obtain ⟨passes, rfl⟩ : ∃ k, passes = k + 1 := ⟨passes - 1, by
        omega⟩
      have hposition : t.file.position = 0 := by
        rw [hf.position, hsuits]
        rfl
      refine ⟨_, spaceBackward_at_start passes hposition, ?_, rfl⟩
      have hback : h.back = h := by
        unfold Head.back
        rw [hsuits]
        obtain ⟨passed, ahead⟩ := h
        subst hsuits
        rfl
      change h.back.OnTape t.file
      rw [hback]
      exact hf
  | rewind =>
      refine ⟨_, rfl, ?_, rfl⟩
      refine ⟨?_, rfl⟩
      exact hf.content.trans (tapeImage_append h.passed h.ahead).symm

/-- One request at a place that suits it. -/
theorem perform_onTape
    {passes : Nat} {h : Head} {t : Tm11} {q : TapeRequest}
    (hf : h.OnTape t.file) (hpasses : (h.passed ++ h.ahead).length < passes)
    (hsuits : h.Suits q) :
    ∃ e, t.perform passes q = some e ∧
      (h.perform q.reclen q.command).1.OnTape e.tm11.file ∧
      e.calls = stores q.target (h.perform q.reclen q.command).2 := by
  obtain ⟨o, hcommand, hfile, hcalls⟩ := command_onTape hf hpasses hsuits
  rw [perform_eq, hcommand]
  exact ⟨_, rfl, hfile, hcalls⟩

/-- All requests, each at a place that suits it. -/
theorem follows_of_allSuit
    {passes : Nat} (qs : List TapeRequest) {h : Head} {t : Tm11}
    (hf : h.OnTape t.file) (hpasses : (h.passed ++ h.ahead).length < passes)
    (hsuit : h.AllSuit qs) :
    Follows passes h t qs := by
  induction qs generalizing h t with
  | nil =>
      trivial
  | cons q qs ih =>
      obtain ⟨hsuits, hrest⟩ := hsuit
      obtain ⟨e, he, hfile, hcalls⟩ := perform_onTape hf hpasses hsuits
      refine ⟨e, he, hfile, hcalls, ih hfile ?_ hrest⟩
      rw [Head.perform_items]
      exact hpasses

/-- From the beginning of a tape, the drive does what the commands should do,
as long as each command is one that it can do. -/
theorem tape_runs_on_records
    (items : List TapeItem) (qs : List TapeRequest) (registers : Nat → Word)
    (hsuit : Head.AllSuit ⟨[], items⟩ qs) :
    ∃ passes, Follows passes ⟨[], items⟩ ⟨registers, ⟨tapeImage items, 0⟩⟩
      qs := by
  refine ⟨items.length + 1, follows_of_allSuit qs ⟨rfl, rfl⟩ ?_ hsuit⟩
  exact Nat.lt_succ_self _

/-- A record of two bytes. -/
def twoBytes : DataRecord where
  data := [1, 2]
  nonempty := by decide
  short := by decide

/-- The request of a command with GO, for two bytes. -/
def requestTwo (command : TapeCommand) : TapeRequest where
  command := command
  control := BitVec.ofNat 16 (2 * command.func + 1)
  count := 0xffff
  address := 0o1000
  go := by cases command <;> decide
  func_eq := by cases command <;> decide

/-- Reading the record and rewinding. -/
theorem tape_runs_on_records_read :
    Head.AllSuit ⟨[], [.record twoBytes]⟩
        [requestTwo .read, requestTwo .rewind] ∧
      ∃ passes, Follows passes ⟨[], [.record twoBytes]⟩
        ⟨fun _ => 0, ⟨tapeImage [.record twoBytes], 0⟩⟩
        [requestTwo .read, requestTwo .rewind] := by
  have hsuit : Head.AllSuit ⟨[], [.record twoBytes]⟩
      [requestTwo .read, requestTwo .rewind] := by
    refine ⟨fun r hr => ?_, trivial, trivial⟩
    cases hr
    decide
  exact ⟨hsuit, tape_runs_on_records _ _ _ hsuit⟩

/-- Spacing over the record and back does not lead to its start. -/
theorem space_reverse_goes_ahead :
    ¬ ∃ passes, Follows passes ⟨[], [.record twoBytes]⟩
      ⟨fun _ => 0, ⟨tapeImage [.record twoBytes], 0⟩⟩
      [requestTwo .spaceForward, requestTwo .spaceReverse] := by
  rintro ⟨passes, e, he, -, -, e', he', hfile, -, -⟩
  cases passes with
  | zero =>
      cases he
  | succ passes =>
      cases he
      cases he'
      exact absurd hfile.position (by decide)

end Tm11

end KekPdp11
