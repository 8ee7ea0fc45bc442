import Mathlib.Data.List.TakeWhile
import Mathlib.Tactic.IntervalCases

/-!
# Numbers in text

`stoi` is the conversion of a string to a 32-bit integer in a base up to ten:
white space, a sign and digits; what follows the digits is not looked at.
`padded` prints a number with zeros in front.

**Round trip.**  A printed number below 2^31 is read back; a larger one is out
of range.
-/

namespace Numerals

/-- What a conversion gives. -/
inductive Conversion where
  | value (n : Int)
  | invalidArgument
  | outOfRange
deriving DecidableEq, Repr

/-- The characters that isspace takes. -/
def isSpace (c : Char) : Bool :=
  c = ' ' || (9 ≤ c.toNat && c.toNat ≤ 13)

/-- A digit in a base up to ten. -/
def isDigit (base : Nat) (c : Char) : Bool :=
  '0'.toNat ≤ c.toNat && c.toNat < '0'.toNat + base

/-- The sign and what follows it. -/
def sign : List Char → Bool × List Char
  | '-' :: rest => (true, rest)
  | '+' :: rest => (false, rest)
  | text => (false, text)

def stoi (base : Nat) (text : List Char) : Conversion :=
  let signed := sign (text.dropWhile isSpace)
  let digits := signed.2.takeWhile (isDigit base)
  if digits = [] then .invalidArgument
  else
    let n : Int := Nat.ofDigitChars base digits 0
    let n := if signed.1 then -n else n
    if -2 ^ 31 ≤ n ∧ n < 2 ^ 31 then .value n else .outOfRange

/-- A number in a base, with zeros in front up to a width. -/
def padded (base width n : Nat) : List Char :=
  List.replicate (width - (Nat.toDigits base n).length) '0' ++
    Nat.toDigits base n

section RoundTrip

variable {base : Nat}

theorem isDigit_digitChar
    {d : Nat} (hd : d < base) (hbase : base ≤ 10) :
    isDigit base d.digitChar = true := by
  have hchar : d < 10 → d.digitChar.toNat = 48 + d := by
    intro h
    interval_cases d <;> rfl
  have hzero : '0'.toNat = 48 := rfl
  unfold isDigit
  rw [hchar (by omega), hzero]
  simp only [Bool.and_eq_true, decide_eq_true_eq]
  omega

theorem isDigit_of_mem_toDigits
    (hbase : 1 < base) (hten : base ≤ 10) (n : Nat) {c : Char}
    (hc : c ∈ Nat.toDigits base n) :
    isDigit base c = true := by
  induction n using Nat.strong_induction_on with
  | _ n ih =>
      rw [Nat.toDigits_eq_if hbase] at hc
      split at hc
      · next hlt =>
          rw [List.mem_singleton.mp hc]
          exact isDigit_digitChar hlt hten
      · next hge =>
          rcases List.mem_append.mp hc with hc | hc
          · exact ih (n / base) (Nat.div_lt_self (by omega) hbase) hc
          · rw [List.mem_singleton.mp hc]
            exact isDigit_digitChar (Nat.mod_lt _ (by omega)) hten

theorem isDigit_of_mem_padded
    (hbase : 1 < base) (hten : base ≤ 10) {width n : Nat} {c : Char}
    (hc : c ∈ padded base width n) :
    isDigit base c = true := by
  rcases List.mem_append.mp hc with hc | hc
  · rw [List.eq_of_mem_replicate hc]
    exact isDigit_digitChar (d := 0) (by omega) hten
  · exact isDigit_of_mem_toDigits hbase hten n hc

theorem padded_ne_nil
    (width n : Nat) :
    padded base width n ≠ [] :=
  List.append_ne_nil_of_right_ne_nil _ Nat.toDigits_ne_nil

theorem ofDigitChars_padded
    (hbase : 1 < base) (hten : base ≤ 10) (width n : Nat) :
    Nat.ofDigitChars base (padded base width n) 0 = n := by
  unfold padded
  rw [Nat.ofDigitChars_append, Nat.ofDigitChars_replicate_zero, Nat.mul_zero]
  exact Nat.ofDigitChars_toDigits hbase hten

/-- What stoi makes of digits and what follows them. -/
theorem stoi_digits
    {digits : List Char} (hne : digits ≠ [])
    (hdigits : ∀ c ∈ digits, isDigit base c = true) {rest : List Char}
    (hrest : ∀ c ∈ rest.head?, isDigit base c = false) :
    stoi base (digits ++ rest) =
      if Nat.ofDigitChars base digits 0 < 2 ^ 31 then
        .value (Nat.ofDigitChars base digits 0)
      else
        .outOfRange := by
  obtain ⟨c, more, rfl⟩ := List.exists_cons_of_ne_nil hne
  have hc := hdigits c List.mem_cons_self
  have hzero : '0'.toNat = 48 := rfl
  simp only [isDigit, hzero, Bool.and_eq_true, decide_eq_true_eq] at hc
  have hspace : isSpace c = false := by
    unfold isSpace
    have hblank : c ≠ ' ' := by
      rintro rfl
      exact absurd hc.1 (by decide)
    simp only [hblank, decide_false, Bool.false_or, Bool.and_eq_false_iff,
      decide_eq_false_iff_not]
    omega
  have hsign : sign (c :: (more ++ rest)) = (false, c :: (more ++ rest)) := by
    unfold sign
    split
    · next heq =>
        cases heq
        exact absurd hc.1 (by decide)
    · next heq =>
        cases heq
        exact absurd hc.1 (by decide)
    · rfl
  have htake : (c :: (more ++ rest)).takeWhile (isDigit base) = c :: more := by
    rw [← List.cons_append, List.takeWhile_append_of_pos hdigits]
    cases rest with
    | nil =>
        simp
    | cons d rest =>
        simp [hrest d rfl]
  unfold stoi
  rw [List.cons_append, List.dropWhile_cons_of_neg (by simp [hspace]), hsign]
  dsimp only
  rw [htake, if_neg (List.cons_ne_nil _ _)]
  generalize Nat.ofDigitChars base (c :: more) 0 = n
  refine if_congr ?_ rfl rfl
  rw [if_neg Bool.false_ne_true]
  omega

/-- A printed number is read back as long as it fits. -/
theorem stoi_padded
    (hbase : 1 < base) (hten : base ≤ 10) (width n : Nat) {rest : List Char}
    (hrest : ∀ c ∈ rest.head?, isDigit base c = false) :
    stoi base (padded base width n ++ rest) =
      if n < 2 ^ 31 then .value n else .outOfRange := by
  rw [stoi_digits (padded_ne_nil width n)
    (fun c hc => isDigit_of_mem_padded hbase hten hc) hrest,
    ofDigitChars_padded hbase hten]

end RoundTrip

end Numerals
