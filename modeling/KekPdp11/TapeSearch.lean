import KekPdp11.Tm11

/-!
# KEK PDP-11: the ends of the tape searches

The search forward ends on every content, as each of its passes moves the
position ahead.  The search backward takes four bytes back and reads them, so
that a word whose length field is zero leaves the position where it was: the
search ends unless it comes to such a word.
-/

namespace KekPdp11

namespace TapeFile

section Forward

theorem fread_content
    (n : Nat) (f : TapeFile) :
    (f.fread n).2.content = f.content := by
  rfl

/-- A read of all that was asked for moves the position by as much. -/
theorem fread_position
    {n : Nat} {f : TapeFile} (h : (f.fread n).1.length = n) :
    (f.fread n).2.position = f.position + n := by
  exact congrArg (f.position + ·) h

theorem fread_length
    (n : Nat) (f : TapeFile) :
    (f.fread n).1.length = min n (f.content.length - f.position) := by
  simp [fread]

theorem fseekCur_nat
    (n : Nat) (f : TapeFile) :
    f.fseekCur (n : Int) = some { f with position := f.position + n } := by
  unfold fseekCur
  rw [if_pos (by omega)]
  rfl

/-- A whole header that was read lies before the end of the file. -/
theorem fread_header
    {f : TapeFile} (h : (f.fread 4).1.length = 4) :
    f.position + 4 ≤ f.content.length := by
  rw [fread_length] at h
  omega

/-- More passes than there are bytes ahead are enough. -/
theorem findDataRecordForward_ends
    (passes : Nat) (f : TapeFile)
    (h : f.content.length - f.position < passes) :
    ∃ r, f.findDataRecordForward passes = some r := by
  induction passes generalizing f with
  | zero =>
      omega
  | succ passes ih =>
      unfold findDataRecordForward
      dsimp only
      by_cases hread : (f.fread 4).1.length = 4
      · have hahead := fread_header hread
        have hposition := fread_position hread
        rw [if_neg (not_not_intro hread)]
        split
        · split
          · exact ⟨_, rfl⟩
          · rw [fseekCur_nat]
            refine ih _ ?_
            change f.content.length - ((f.fread 4).2.position + _) < passes
            omega
        · refine ih _ ?_
          change f.content.length - (f.fread 4).2.position < passes
          omega
      · rw [if_pos hread]
        exact ⟨_, rfl⟩

end Forward

section Backward

/-- The word before a position. -/
def wordBefore (content : List Byte) (p : Nat) : Nat :=
  header ((content.drop (p - 4)).take 4)

/-- A search backward from the position comes to a word with a zero length
field: the word before the position is one, or it is the header of something
other than a data record, after which the position is that much further on. -/
inductive MeetsZeroLength (content : List Byte) : Nat → Prop
  | here
      {p : Nat}
      (start : 4 ≤ p)
      (stop : p ≤ content.length)
      (zero : length (wordBefore content p) = 0) :
      MeetsZeroLength content p
  | beyond
      {p : Nat}
      (start : 4 ≤ p)
      (stop : p ≤ content.length)
      (positive : 0 < length (wordBefore content p))
      (other : metaByte (wordBefore content p) ≠ 0)
      (next : MeetsZeroLength content
        (p + minusUnsigned (length (wordBefore content p) + 4) - 4)) :
      MeetsZeroLength content p

theorem length_lt
    (header : Nat) :
    length header < 4096 := by
  unfold length
  rw [show 0x0fff = 2 ^ 12 - 1 from rfl, Nat.and_two_pow_sub_one_eq_mod]
  exact Nat.mod_lt _ (by decide)

theorem fseekCur_four
    {f : TapeFile} (h : 4 ≤ f.position) :
    f.fseekCur (-4) = some { f with position := f.position - 4 } := by
  unfold fseekCur
  rw [if_pos (by omega)]
  refine congrArg (fun p => some { f with position := p }) ?_
  omega

theorem fseekCur_four_of_lt
    {f : TapeFile} (h : f.position < 4) :
    f.fseekCur (-4) = none := by
  unfold fseekCur
  rw [if_neg (by omega)]

/-- The negative of a length goes far ahead. -/
theorem eight_le_minusUnsigned
    {header : Nat} :
    8 ≤ minusUnsigned (length header + 4) := by
  have hlt := length_lt header
  unfold minusUnsigned
  omega

/-- One pass of the search backward. -/
theorem findDataRecordBackward_succ
    (passes : Nat) (f : TapeFile) :
    f.findDataRecordBackward (passes + 1) =
      if f.position < 4 ∨ f.content.length < f.position then
        some (none, if f.position < 4 then f else
          { f with position := max (f.position - 4) f.content.length })
      else if length (wordBefore f.content f.position) = 0 then
        f.findDataRecordBackward passes
      else if metaByte (wordBefore f.content f.position) = 0 then
        some (some (length (wordBefore f.content f.position)),
          { f with
            position := f.position +
              minusUnsigned (length (wordBefore f.content f.position) + 4) })
      else
        TapeFile.findDataRecordBackward passes
          { f with
            position := f.position +
              minusUnsigned (length (wordBefore f.content f.position) + 4) - 4 } := by
  rw [findDataRecordBackward]
  rcases Nat.lt_or_ge f.position 4 with hstart | hstart
  · rw [if_pos (.inl hstart), if_pos hstart, fseekCur_four_of_lt hstart]
  · rw [fseekCur_four hstart]
    dsimp only
    have hlength : (({ f with position := f.position - 4 } : TapeFile).fread
        4).1.length = min 4 (f.content.length - (f.position - 4)) :=
      fread_length 4 _
    rcases Nat.lt_or_ge f.content.length f.position with hstop | hstop
    · have hshort : (({ f with position := f.position - 4 } :
          TapeFile).fread 4).1.length ≠ 4 := by
        omega
      rw [if_pos hshort, if_pos (.inr hstop), if_neg (by omega)]
      refine congrArg (fun p => some (none, { f with position := p })) ?_
      change f.position - 4 + (({ f with position := f.position - 4 } :
        TapeFile).fread 4).1.length = _
      omega
    · have hfull : (({ f with position := f.position - 4 } :
          TapeFile).fread 4).1.length = 4 := by
        omega
      have hback : (({ f with position := f.position - 4 } :
          TapeFile).fread 4).2 = f := by
        refine TapeFile.ext rfl ?_
        rw [fread_position hfull]
        dsimp only
        omega
      have hword : header (({ f with position := f.position - 4 } :
          TapeFile).fread 4).1 = wordBefore f.content f.position := by
        rfl
      have hinside :
          ¬ (f.position < 4 ∨ f.content.length < f.position) := by
        omega
      rw [if_neg (not_not_intro hfull), if_neg hinside, hback, hword]
      rcases Nat.eq_zero_or_pos (length (wordBefore f.content f.position))
        with hzero | hpos
      · rw [if_neg (by omega), if_pos hzero]
      · rw [if_pos hpos, if_neg (by omega), fseekCur_nat]
        dsimp only
        have hfar := @eight_le_minusUnsigned
          (wordBefore f.content f.position)
        split
        · rfl
        · rw [fseekCur_four (by dsimp only; omega)]

/-- From there the search does not end. -/
theorem findDataRecordBackward_blocked
    {content : List Byte} {p : Nat} (h : MeetsZeroLength content p)
    (passes : Nat) :
    TapeFile.findDataRecordBackward passes ⟨content, p⟩ = none := by
  induction h generalizing passes with
  | @here p start stop zero =>
      have hinside : ¬ (p < 4 ∨ content.length < p) := by
        omega
      induction passes with
      | zero =>
          rfl
      | succ passes ih =>
          rw [findDataRecordBackward_succ, if_neg hinside, if_pos zero]
          exact ih
  | @beyond p start stop positive other next ih =>
      have hinside : ¬ (p < 4 ∨ content.length < p) := by
        omega
      cases passes with
      | zero =>
          rfl
      | succ passes =>
          rw [findDataRecordBackward_succ, if_neg hinside,
            if_neg (Nat.pos_iff_ne_zero.mp positive), if_neg other]
          exact ih passes

/-- From everywhere else it does, as each header that is passed over moves the
position ahead. -/
theorem findDataRecordBackward_ends
    {content : List Byte} (n : Nat) {p : Nat}
    (hn : content.length + 1 - p ≤ n) (h : ¬ MeetsZeroLength content p) :
    ∃ passes r,
      TapeFile.findDataRecordBackward passes ⟨content, p⟩ = some r := by
  induction n generalizing p with
  | zero =>
      have hbeyond : p < 4 ∨ content.length < p := by
        omega
      refine ⟨1, ?_⟩
      rw [findDataRecordBackward_succ, if_pos hbeyond]
      exact ⟨_, rfl⟩
  | succ n ih =>
      by_cases hout : p < 4 ∨ content.length < p
      · refine ⟨1, ?_⟩
        rw [findDataRecordBackward_succ, if_pos hout]
        exact ⟨_, rfl⟩
      · have hstart : 4 ≤ p := by
          omega
        have hstop : p ≤ content.length := by
          omega
        have hzero : length (wordBefore content p) ≠ 0 :=
          fun hz => h (.here hstart hstop hz)
        by_cases hother : metaByte (wordBefore content p) = 0
        · refine ⟨1, ?_⟩
          rw [findDataRecordBackward_succ, if_neg hout, if_neg hzero,
            if_pos hother]
          exact ⟨_, rfl⟩
        · have hfar := @eight_le_minusUnsigned (wordBefore content p)
          obtain ⟨passes, r, hr⟩ := ih
            (p := p + minusUnsigned (length (wordBefore content p) + 4) - 4)
            (by omega)
            fun hnext => h
              (.beyond hstart hstop (Nat.pos_of_ne_zero hzero) hother hnext)
          refine ⟨passes + 1, r, ?_⟩
          rw [findDataRecordBackward_succ, if_neg hout, if_neg hzero,
            if_neg hother]
          exact hr

theorem findDataRecordBackward_ends_iff
    (f : TapeFile) :
    (∃ passes r, f.findDataRecordBackward passes = some r) ↔
      ¬ MeetsZeroLength f.content f.position := by
  constructor
  · rintro ⟨passes, r, hr⟩ h
    have hblocked := findDataRecordBackward_blocked h passes
    rw [hr] at hblocked
    cases hblocked
  · exact findDataRecordBackward_ends _ le_rfl

end Backward

end TapeFile

namespace Tm11

open TapeFile

section Commands

variable {passes n : Nat} {memOffset : PhysAddr} {f : TapeFile}

/-- A command that searches is done when the search is. -/
theorem read_ends_iff :
    (∃ outcome, read passes n memOffset f = some outcome) ↔
      ∃ r, f.findDataRecordForward passes = some r := by
  unfold read
  cases f.findDataRecordForward passes with
  | none =>
      simp
  | some r =>
      obtain ⟨found, f⟩ := r
      refine iff_of_true ?_ ⟨_, rfl⟩
      cases found with
      | none =>
          exact ⟨_, rfl⟩
      | some length =>
          dsimp only
          split_ifs
          · exact ⟨_, rfl⟩
          · exact ⟨_, rfl⟩
          · split <;> exact ⟨_, rfl⟩
          · exact ⟨_, rfl⟩

theorem spaceForward_ends_iff :
    (∃ outcome, spaceForward passes f = some outcome) ↔
      ∃ r, f.findDataRecordForward passes = some r := by
  unfold spaceForward
  cases f.findDataRecordForward passes with
  | none =>
      simp
  | some r =>
      obtain ⟨found, f⟩ := r
      refine iff_of_true ?_ ⟨_, rfl⟩
      cases found with
      | none =>
          exact ⟨_, rfl⟩
      | some length =>
          dsimp only
          split <;> exact ⟨_, rfl⟩

theorem write_ends_iff :
    (∃ outcome, write passes n memOffset f = some outcome) ↔
      ∃ r, f.findDataRecordBackward passes = some r := by
  unfold write
  cases f.findDataRecordBackward passes with
  | none =>
      simp
  | some r =>
      obtain ⟨found, f⟩ := r
      refine iff_of_true ?_ ⟨_, rfl⟩
      cases found with
      | none =>
          exact ⟨_, rfl⟩
      | some length =>
          dsimp only
          split <;> exact ⟨_, rfl⟩

theorem spaceBackward_ends_iff :
    (∃ outcome, spaceBackward passes f = some outcome) ↔
      ∃ r, f.findDataRecordBackward passes = some r := by
  unfold spaceBackward
  cases f.findDataRecordBackward passes with
  | none =>
      simp
  | some r =>
      obtain ⟨found, f⟩ := r
      refine iff_of_true ?_ ⟨_, rfl⟩
      cases found with
      | none =>
          exact ⟨_, rfl⟩
      | some length =>
          dsimp only
          split <;> exact ⟨_, rfl⟩

/-- Only the commands that search backward may not end. -/
theorem command_ends_iff
    (v : Word) (t : Tm11) :
    (∃ passes outcome, t.command passes v = some outcome) ↔
      ¬ ((func v = 2 ∨ func v = 5) ∧
        MeetsZeroLength t.file.content t.file.position) := by
  have hforward : ∃ passes r, t.file.findDataRecordForward passes = some r :=
    ⟨_, findDataRecordForward_ends _ t.file (Nat.lt_succ_self _)⟩
  have hbackward := findDataRecordBackward_ends_iff t.file
  unfold command
  dsimp only
  by_cases h1 : func v = 1
  · simp only [if_pos h1, read_ends_iff]
    exact iff_of_true hforward (by omega)
  · by_cases h2 : func v = 2
    · simp only [if_neg h1, if_pos h2, write_ends_iff]
      rw [hbackward]
      simp [h2]
    · by_cases h4 : func v = 4
      · simp only [if_neg h1, if_neg h2, if_pos h4, spaceForward_ends_iff]
        exact iff_of_true hforward (by omega)
      · by_cases h5 : func v = 5
        · simp only [if_neg h1, if_neg h2, if_neg h4, if_pos h5,
            spaceBackward_ends_iff]
          rw [hbackward]
          simp [h5]
        · simp only [if_neg h1, if_neg h2, if_neg h4, if_neg h5]
          refine iff_of_true ⟨0, ?_⟩ (by omega)
          split <;> exact ⟨_, rfl⟩

theorem writeWord_mtc_go
    {v : Word} (hgo : v &&& 1 ≠ 0) (t : Tm11) :
    t.writeWord passes mtc v =
      (t.command passes v).map fun outcome =>
        { tm11 :=
            { t with file := outcome.file }.setRegister mtc
              (if outcome.ok then 128 else 32768)
          calls := outcome.calls
          interrupt := decide (v &&& 64 ≠ 0) } := by
  unfold writeWord
  rw [if_pos rfl, if_pos hgo]

theorem writeWord_mtc_idle
    {v : Word} (hgo : ¬ v &&& 1 ≠ 0) (t : Tm11) :
    t.writeWord passes mtc v =
      some ⟨t.setRegister mtc v, [], decide (v &&& 0o101 = 0o100)⟩ := by
  unfold writeWord
  rw [if_pos rfl, if_neg hgo]

/-- A write to MTC returns, unless it starts a write or a space reverse whose
search comes to a word with a zero length field. -/
theorem writeWord_mtc_returns_iff
    (t : Tm11) (v : Word) :
    (∃ passes e, t.writeWord passes mtc v = some e) ↔
      ¬ (v &&& 1 ≠ 0 ∧ (func v = 2 ∨ func v = 5) ∧
        MeetsZeroLength t.file.content t.file.position) := by
  by_cases hgo : v &&& 1 ≠ 0
  · simp only [writeWord_mtc_go hgo, Option.map_eq_some_iff]
    constructor
    · rintro ⟨passes, e, outcome, h, -⟩ ⟨-, hmeets⟩
      exact (command_ends_iff v t).mp ⟨passes, outcome, h⟩ hmeets
    · intro h
      obtain ⟨passes, outcome, hends⟩ :=
        (command_ends_iff v t).mpr fun hmeets => h ⟨hgo, hmeets⟩
      exact ⟨passes, _, outcome, hends, rfl⟩
  · simp only [writeWord_mtc_idle hgo]
    exact iff_of_true ⟨0, _, rfl⟩ fun h => hgo h.1

/-- A tape with one tape mark, behind which it stands. -/
def behindTapeMark : Tm11 where
  registers _ := 0
  file := ⟨[0, 0, 0, 0], 4⟩

/-- Space reverse from there does not return. -/
theorem space_reverse_over_tape_mark :
    ¬ ∃ passes e, behindTapeMark.writeWord passes mtc 0o13 = some e := by
  rw [writeWord_mtc_returns_iff]
  refine not_not_intro ⟨by decide, .inr (by decide), ?_⟩
  exact .here (by decide) (by decide) (by decide)

end Commands

end Tm11

end KekPdp11
