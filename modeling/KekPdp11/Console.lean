import KekPdp11.Word
import KekPdp11.Utils
import KekPdp11.Lib.Slices
import KekPdp11.Lib.Numerals
import KekPdp11.Lib.Prefixes

/-!
# KEK PDP-11: the screen of the console

console::put_char keeps an image of the terminal: a buffer for the characters,
a cursor and the state of an escape sequence.  What goes to the real terminal
and to the log, the time of day included, is left out.
-/

namespace KekPdp11

open Slices

/-- t_width and t_height.  The consoles are of 80 columns and 24 or 25 lines;
both fit into the bytes of the cursor. -/
structure ScreenSize where
  width : Nat
  height : Nat
  widthInRange : 0 < width ∧ width < 256
  heightInRange : 0 < height ∧ height < 256

structure Console where
  screenBuffer : Nat → Byte
  tx : Byte
  ty : Byte
  escape : Bool
  escapeBuffer : List Char

/-- What put_char does: the indices of screen_buffer that it uses, and whether
an exception leaves it. -/
structure PutCharEffect where
  console : Console
  indices : List Nat
  threw : Bool

namespace Console

def space : Byte := 32

/-- The console when it is constructed. -/
def constructed : Console where
  screenBuffer _ := 0
  tx := 0
  ty := 0
  escape := false
  escapeBuffer := []

/-- A character that toupper makes one of A to Z. -/
def isLetter (c : Byte) : Bool :=
  let cu := (Char.ofNat c.toNat).toUpper
  'A' ≤ cu && cu ≤ 'Z'

/-- A byte is the given character. -/
def isChar (c : Byte) (ch : Char) : Bool :=
  c.toNat = ch.toNat

section Sequences

/-- A store of n equal characters. -/
def fill (k : Console) (start n : Nat) (v : Byte) : PutCharEffect :=
  ⟨{ k with
      screenBuffer := overwrite k.screenBuffer start (List.replicate n v) },
    List.range' start n, false⟩

/-- A number of the H command as a place of the cursor. -/
def coordinate (n : Int) : Byte :=
  BitVec.ofInt 8 (n - 1)

/-- The H command. -/
def setCursor (k : Console) : PutCharEffect :=
  match split ';' k.escapeBuffer with
  | [row] =>
      match Numerals.stoi 10 row with
      | .value n => ⟨{ k with ty := coordinate n, tx := 0 }, [], false⟩
      | .invalidArgument => ⟨k, [], false⟩
      | .outOfRange => ⟨k, [], true⟩
  | [row, col] =>
      match Numerals.stoi 10 row with
      | .value n =>
          let k := { k with ty := coordinate n }
          match Numerals.stoi 10 col with
          | .value m => ⟨{ k with tx := coordinate m }, [], false⟩
          | .invalidArgument => ⟨k, [], false⟩
          | .outOfRange => ⟨k, [], true⟩
      | .invalidArgument => ⟨k, [], false⟩
      | .outOfRange => ⟨k, [], true⟩
  | _ => ⟨{ k with tx := 0, ty := 0 }, [], false⟩

/-- The K command. -/
def eraseLine (z : ScreenSize) (k : Console) : PutCharEffect :=
  let line := k.ty.toNat * z.width
  if k.escapeBuffer = [] ∨ k.escapeBuffer = ['0'] then
    k.fill (line + k.tx.toNat) (z.width - k.tx.toNat) space
  else if k.escapeBuffer = ['1'] then k.fill line k.tx.toNat space
  else if k.escapeBuffer = ['2'] then k.fill line z.width space
  else ⟨k, [], false⟩

/-- The command at the end of an escape sequence. -/
def command (z : ScreenSize) (k : Console) (c : Byte) : PutCharEffect :=
  if isChar c 'J' then
    let e := k.fill 0 (z.width * z.height) space
    { e with console := { e.console with tx := 0, ty := 0 } }
  else if isChar c 'A' then
    ⟨if 0 < k.ty then { k with ty := k.ty - 1 } else k, [], false⟩
  else if isChar c 'B' then
    ⟨if k.ty.toNat < z.height - 1 then { k with ty := k.ty + 1 } else k, [],
      false⟩
  else if isChar c 'C' then
    ⟨if k.tx.toNat < z.width - 1 then { k with tx := k.tx + 1 } else k, [],
      false⟩
  else if isChar c 'D' then
    ⟨if 0 < k.tx then { k with tx := k.tx - 1 } else k, [], false⟩
  else if isChar c 'H' then k.setCursor
  else if isChar c 'K' then k.eraseLine z
  else ⟨k, [], false⟩

/-- The end of an escape sequence, unless an exception comes before it. -/
def endEscape (e : PutCharEffect) : PutCharEffect :=
  if e.threw then e
  else
    { e with console := { e.console with escapeBuffer := [], escape := false } }

/-- A character while an escape sequence is read. -/
def putEscaped (z : ScreenSize) (k : Console) (c : Byte) : PutCharEffect :=
  if isLetter c = false ∧ k.escapeBuffer.length < 25 then
    if isChar c '[' then ⟨k, [], false⟩
    else
      ⟨{ k with escapeBuffer := k.escapeBuffer ++ [Char.ofNat c.toNat] }, [],
        false⟩
  else
    endEscape (k.command z c)

end Sequences

/-- A character that is shown. -/
def putShown (z : ScreenSize) (k : Console) (c : Byte) : PutCharEffect :=
  let index := k.ty.toNat * z.width + k.tx.toNat
  let k :=
    { k with
      screenBuffer := Function.update k.screenBuffer index c
      tx := k.tx + 1 }
  ⟨if k.tx.toNat = z.width then { k with tx := 0, ty := k.ty + 1 } else k,
    [index], false⟩

/-- The lines move up when the cursor is below the last one. -/
def scroll (z : ScreenSize) (e : PutCharEffect) : PutCharEffect :=
  let k := e.console
  if k.ty.toNat = z.height then
    let last := (z.height - 1) * z.width
    let moved := overwrite k.screenBuffer 0 (slice k.screenBuffer z.width last)
    { e with
      console :=
        { k with
          screenBuffer := overwrite moved last (List.replicate z.width space)
          ty := k.ty - 1 }
      indices := e.indices ++
        (List.range' z.width last ++ List.range' 0 last ++
          List.range' last z.width) }
  else
    e

/-- The character alone. -/
def putOne (z : ScreenSize) (k : Console) (c : Byte) : PutCharEffect :=
  if c = 0 then ⟨k, [], false⟩
  else if k.escape then k.putEscaped z c
  else if c = 27 then ⟨{ k with escape := true }, [], false⟩
  else if c = 13 then ⟨{ k with tx := 0 }, [], false⟩
  else if c = 10 then ⟨{ k with ty := k.ty + 1 }, [], false⟩
  else if c = 8 then
    ⟨if 0 < k.tx then { k with tx := k.tx - 1 } else k, [], false⟩
  else k.putShown z c

def putChar (z : ScreenSize) (k : Console) (c : Byte) : PutCharEffect :=
  let e := k.putOne z c
  if e.threw then e else scroll z e

def step (z : ScreenSize) (k : Console) (c : Byte) : Console :=
  (k.putChar z c).console

section Specification

/-- The cursor is on the screen. -/
structure OnScreen (z : ScreenSize) (k : Console) : Prop where
  tx : k.tx.toNat < z.width
  ty : k.ty.toNat < z.height

/-- A character leaves the cursor on the screen, uses only indices of the
buffer and throws nothing. -/
structure StaysOnScreen (z : ScreenSize) (k : Console) (c : Byte) : Prop where
  cursor : OnScreen z (k.step z c)
  indices : ∀ i ∈ (k.putChar z c).indices, i < z.width * z.height
  noThrow : (k.putChar z c).threw = false

/-- A row of an H command.  The row below the last one scrolls. -/
def RowFits (z : ScreenSize) (row : List Char) : Prop :=
  match Numerals.stoi 10 row with
  | .value n => (coordinate n).toNat ≤ z.height
  | .invalidArgument => True
  | .outOfRange => False

def ColFits (z : ScreenSize) (col : List Char) : Prop :=
  match Numerals.stoi 10 col with
  | .value m => (coordinate m).toNat < z.width
  | .invalidArgument => True
  | .outOfRange => False

/-- The numbers of an H command fit.  The column is not looked at behind a row
without a number. -/
def CoordinatesFit (z : ScreenSize) (text : List Char) : Prop :=
  match split ';' text with
  | [row] => RowFits z row
  | [row, col] =>
      RowFits z row ∧
        (Numerals.stoi 10 row ≠ .invalidArgument → ColFits z col)
  | _ => True

/-- An H command has numbers that fit. -/
def Careful (z : ScreenSize) (k : Console) (c : Byte) : Prop :=
  k.escape = true → isChar c 'H' = true → CoordinatesFit z k.escapeBuffer

end Specification

section Scrolling

/-- The effect of a character before the lines move up. -/
structure Within (z : ScreenSize) (e : PutCharEffect) : Prop where
  tx : e.console.tx.toNat < z.width
  ty : e.console.ty.toNat ≤ z.height
  indices : ∀ i ∈ e.indices, i < z.width * z.height
  noThrow : e.threw = false

variable {z : ScreenSize} {k : Console}

/-- The lines that move. -/
theorem last_add_width
    (z : ScreenSize) :
    (z.height - 1) * z.width + z.width = z.width * z.height := by
  have h := z.heightInRange.1
  rw [← Nat.succ_mul, Nat.succ_eq_add_one, Nat.sub_add_cancel h, Nat.mul_comm]

/-- The lines move up within the buffer. -/
theorem scroll_indices
    (e : PutCharEffect) :
    (∀ i ∈ (scroll z e).indices, i < z.width * z.height) ↔
      ∀ i ∈ e.indices, i < z.width * z.height := by
  have hlast := last_add_width z
  unfold scroll
  dsimp only
  split
  · constructor
    · exact fun h i hi => h i (List.mem_append_left _ hi)
    · intro h i hi
      simp only [List.mem_append, List.mem_range'_1] at hi
      rcases hi with hold | (hread | hwrite) | hfill
      · exact h i hold
      all_goals omega
  · rfl

/-- The cursor comes from one line below the screen at most. -/
theorem scroll_onScreen
    (e : PutCharEffect) :
    OnScreen z (scroll z e).console ↔
      e.console.tx.toNat < z.width ∧ e.console.ty.toNat ≤ z.height := by
  have hheight := z.heightInRange
  unfold scroll
  dsimp only
  split
  · rename_i hbelow
    have hup : (e.console.ty - 1).toNat < z.height := by
      rw [BitVec.toNat_sub_of_le (by bv_omega), hbelow]
      exact Nat.sub_lt hheight.1 (by decide)
    exact ⟨fun h => ⟨h.tx, hbelow.le⟩, fun h => ⟨h.1, hup⟩⟩
  · rename_i hbelow
    exact ⟨fun h => ⟨h.tx, h.ty.le⟩,
      fun h => ⟨h.1, Nat.lt_of_le_of_ne h.2 hbelow⟩⟩

theorem scroll_threw
    (e : PutCharEffect) :
    (scroll z e).threw = e.threw := by
  unfold scroll
  dsimp only
  split <;> rfl

/-- The movement of the lines needs no care of its own. -/
theorem stays_iff_within
    (c : Byte) :
    StaysOnScreen z k c ↔ Within z (k.putOne z c) := by
  by_cases hthrew : (k.putOne z c).threw = true
  · have hput : k.putChar z c = k.putOne z c :=
      if_pos hthrew
    refine iff_of_false (fun h => ?_) fun h => ?_
    · rw [hput.symm, h.noThrow] at hthrew
      cases hthrew
    · rw [h.noThrow] at hthrew
      cases hthrew
  · have hput : k.putChar z c = scroll z (k.putOne z c) :=
      if_neg hthrew
    have hstep : k.step z c = (scroll z (k.putOne z c)).console :=
      congrArg PutCharEffect.console hput
    constructor
    · rintro ⟨hcursor, hindices, hnoThrow⟩
      rw [hstep, scroll_onScreen] at hcursor
      rw [hput, scroll_indices] at hindices
      rw [hput, scroll_threw] at hnoThrow
      exact ⟨hcursor.1, hcursor.2, hindices, hnoThrow⟩
    · rintro ⟨htx, hty, hindices, hnoThrow⟩
      refine ⟨?_, ?_, ?_⟩
      · rw [hstep, scroll_onScreen]
        exact ⟨htx, hty⟩
      · rw [hput, scroll_indices]
        exact hindices
      · rw [hput, scroll_threw]
        exact hnoThrow

end Scrolling

section Characters

variable {z : ScreenSize} {k : Console}

/-- An effect that uses no index. -/
theorem within_quiet_iff
    {k' : Console} :
    Within z ⟨k', [], false⟩ ↔
      k'.tx.toNat < z.width ∧ k'.ty.toNat ≤ z.height :=
  ⟨fun h => ⟨h.tx, h.ty⟩,
    fun h => ⟨h.1, h.2, fun _ hi => absurd hi List.not_mem_nil, rfl⟩⟩

theorem OnScreen.quiet
    {k' : Console} (h : OnScreen z k') :
    Within z ⟨k', [], false⟩ :=
  within_quiet_iff.mpr ⟨h.tx, h.ty.le⟩

theorem not_within_threw
    {k' : Console} :
    ¬ Within z ⟨k', [], true⟩ :=
  fun h => Bool.noConfusion h.noThrow

theorem Within.fill
    (h : OnScreen z k) {start n : Nat} (v : Byte)
    (hin : start + n ≤ z.width * z.height) :
    Within z (k.fill start n v) := by
  refine ⟨h.tx, h.ty.le, fun i hi => ?_, rfl⟩
  have hrange := List.mem_range'_1.mp hi
  omega

/-- A line of the screen. -/
theorem OnScreen.line_add_width
    (h : OnScreen z k) :
    k.ty.toNat * z.width + z.width ≤ z.width * z.height := by
  have hty := Nat.mul_le_mul_right z.width (Nat.succ_le_of_lt h.ty)
  rw [Nat.succ_mul] at hty
  rwa [Nat.mul_comm z.width]

theorem OnScreen.up
    (h : OnScreen z k) :
    OnScreen z (if 0 < k.ty then { k with ty := k.ty - 1 } else k) := by
  have hty := h.ty
  split
  · exact ⟨h.tx, (by bv_omega : (k.ty - 1).toNat < z.height)⟩
  · exact h

theorem OnScreen.left
    (h : OnScreen z k) :
    OnScreen z (if 0 < k.tx then { k with tx := k.tx - 1 } else k) := by
  have htx := h.tx
  split
  · exact ⟨(by bv_omega : (k.tx - 1).toNat < z.width), h.ty⟩
  · exact h

theorem OnScreen.down
    (h : OnScreen z k) :
    OnScreen z
      (if k.ty.toNat < z.height - 1 then { k with ty := k.ty + 1 } else k) := by
  split
  · exact ⟨h.tx, (by bv_omega : (k.ty + 1).toNat < z.height)⟩
  · exact h

theorem OnScreen.right
    (h : OnScreen z k) :
    OnScreen z
      (if k.tx.toNat < z.width - 1 then { k with tx := k.tx + 1 } else k) := by
  split
  · exact ⟨(by bv_omega : (k.tx + 1).toNat < z.width), h.ty⟩
  · exact h

theorem OnScreen.eraseLine
    (h : OnScreen z k) :
    Within z (k.eraseLine z) := by
  have hline := h.line_add_width
  have htx := h.tx
  unfold Console.eraseLine
  dsimp only
  split_ifs
  · exact .fill h space (by omega)
  · exact .fill h space (by omega)
  · exact .fill h space (by omega)
  · exact h.quiet

/-- The H command stays within the screen if and only if its numbers fit. -/
theorem OnScreen.setCursor_iff
    (h : OnScreen z k) :
    Within z k.setCursor ↔ CoordinatesFit z k.escapeBuffer := by
  have hzero : (0 : Byte).toNat < z.width := z.widthInRange.1
  unfold Console.setCursor CoordinatesFit
  split
  · unfold RowFits
    split
    · rw [within_quiet_iff]
      exact and_iff_right hzero
    · exact iff_of_true h.quiet trivial
    · exact iff_of_false not_within_threw id
  · unfold RowFits
    split
    · rename_i hrow
      rw [hrow]
      unfold ColFits
      dsimp only
      split
      · rw [within_quiet_iff, and_comm]
        simp
      · rw [within_quiet_iff, and_comm]
        simp [h.tx]
      · exact iff_of_false not_within_threw (by simp)
    · rename_i hrow
      exact iff_of_true h.quiet ⟨trivial, fun hne => absurd hrow hne⟩
    · exact iff_of_false not_within_threw fun hfit => hfit.1
  · refine iff_of_true (within_quiet_iff.mpr ⟨hzero, ?_⟩) trivial
    exact Nat.zero_le _

theorem within_endEscape_iff
    (e : PutCharEffect) :
    Within z (endEscape e) ↔ Within z e := by
  unfold endEscape
  split
  · rfl
  · exact ⟨fun h => ⟨h.tx, h.ty, h.indices, h.noThrow⟩,
      fun h => ⟨h.tx, h.ty, h.indices, h.noThrow⟩⟩

/-- Only the H command needs care. -/
theorem OnScreen.command_iff
    (h : OnScreen z k) (c : Byte) :
    Within z (k.command z c) ↔
      (isChar c 'H' = true → CoordinatesFit z k.escapeBuffer) := by
  have hwidth := z.widthInRange.1
  by_cases hc : isChar c 'H' = true
  · have hother : ∀ ch : Char, ch.toNat ≠ 'H'.toNat → isChar c ch = false := by
      intro ch hne
      have hcode : c.toNat = 'H'.toNat := of_decide_eq_true hc
      exact decide_eq_false fun heq => hne (heq.symm.trans hcode)
    unfold Console.command
    rw [if_neg (by simp [hother 'J' (by decide)]),
      if_neg (by simp [hother 'A' (by decide)]),
      if_neg (by simp [hother 'B' (by decide)]),
      if_neg (by simp [hother 'C' (by decide)]),
      if_neg (by simp [hother 'D' (by decide)]), if_pos hc,
      h.setCursor_iff]
    exact ⟨fun hfit _ => hfit, fun hfit => hfit hc⟩
  · refine iff_of_true ?_ fun hH => absurd hH hc
    unfold Console.command
    rw [if_neg hc]
    split
    · have hall : Within z (k.fill 0 (z.width * z.height) space) :=
        .fill h space (by omega)
      exact ⟨hwidth, Nat.zero_le _, hall.indices, rfl⟩
    split
    · exact h.up.quiet
    split
    · exact h.down.quiet
    split
    · exact h.right.quiet
    split
    · exact h.left.quiet
    split
    · exact h.eraseLine
    · exact h.quiet

theorem OnScreen.putShown
    (h : OnScreen z k) (c : Byte) :
    Within z (k.putShown z c) := by
  have hline := h.line_add_width
  have htx := h.tx
  have hty := h.ty
  have hheight := z.heightInRange.2
  have hwidth := z.widthInRange
  have hnext : (k.ty + 1).toNat ≤ z.height := by
    bv_omega
  have hindices : ∀ i ∈ [k.ty.toNat * z.width + k.tx.toNat],
      i < z.width * z.height := by
    intro i hi
    rw [List.mem_singleton.mp hi]
    omega
  unfold Console.putShown
  dsimp only
  split
  · exact ⟨hwidth.1, hnext, hindices, rfl⟩
  · rename_i hend
    have hright : (k.tx + 1).toNat < z.width := by
      bv_omega
    exact ⟨hright, hty.le, hindices, rfl⟩

theorem isLetter_of_isChar_H
    {c : Byte} (h : isChar c 'H' = true) :
    isLetter c = true := by
  have hcode : c.toNat = 'H'.toNat := of_decide_eq_true h
  unfold isLetter
  rw [hcode]
  decide

/-- A character stays within the screen if and only if it is careful. -/
theorem OnScreen.putOne_iff
    (h : OnScreen z k) (c : Byte) :
    Within z (k.putOne z c) ↔ Careful z k c := by
  unfold Careful
  by_cases hnul : c = 0
  · subst hnul
    exact iff_of_true h.quiet fun _ hH => absurd hH (by decide)
  unfold Console.putOne
  rw [if_neg hnul]
  by_cases hescape : k.escape = true
  · rw [if_pos hescape, forall_prop_of_true hescape]
    unfold putEscaped
    split
    · rename_i hnumber
      refine iff_of_true ?_ fun hH => ?_
      · split
        · exact h.quiet
        · exact within_quiet_iff.mpr ⟨h.tx, h.ty.le⟩
      · rw [isLetter_of_isChar_H hH] at hnumber
        exact Bool.noConfusion hnumber.1
    · rw [within_endEscape_iff, h.command_iff]
  · rw [if_neg hescape]
    refine iff_of_true ?_ fun hon => absurd hon hescape
    split
    · exact within_quiet_iff.mpr ⟨h.tx, h.ty.le⟩
    split
    · exact within_quiet_iff.mpr ⟨z.widthInRange.1, h.ty.le⟩
    split
    · have hty := h.ty
      exact within_quiet_iff.mpr ⟨h.tx, by bv_omega⟩
    split
    · exact h.left.quiet
    · exact h.putShown c

end Characters

section Runs

theorem constructed_onScreen
    (z : ScreenSize) :
    OnScreen z constructed :=
  ⟨z.widthInRange.1, z.heightInRange.1⟩

/-- For every sequence of characters: all of them stay on the screen if and
only if every H command has numbers that fit. -/
theorem staysOnScreen_iff
    (z : ScreenSize) (text : List Byte) :
    Prefixes.Steps (step z) (StaysOnScreen z) constructed text ↔
      Prefixes.Steps (step z) (Careful z) constructed text :=
  Prefixes.steps_iff
    (fun _ c h => (stays_iff_within c).trans (h.putOne_iff c))
    (fun _ _ _ h => h.cursor) (constructed_onScreen z) text

/-- 80 columns and 25 lines. -/
def defaultSize : ScreenSize :=
  ⟨80, 25, by decide, by decide⟩

/-- ESC [ 100 H puts the cursor on row 99 of 25; ESC [ 9999999999 H throws. -/
theorem not_staysOnScreen :
    ¬ Prefixes.Steps (step defaultSize) (StaysOnScreen defaultSize) constructed
      [27, 91, 49, 48, 48, 72] ∧
    ¬ Prefixes.Steps (step defaultSize) (StaysOnScreen defaultSize) constructed
      [27, 91, 57, 57, 57, 57, 57, 57, 57, 57, 57, 57, 72] := by
  constructor
  · intro h
    have hlast := h [27, 91, 49, 48, 48] 72 (List.prefix_refl _)
    exact absurd hlast.cursor.ty (by decide)
  · intro h
    have hlast := h [27, 91, 57, 57, 57, 57, 57, 57, 57, 57, 57, 57] 72
      (List.prefix_refl _)
    exact absurd hlast.noThrow (by decide)

end Runs

end Console

end KekPdp11
