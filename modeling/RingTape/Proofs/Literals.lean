/-
# Decimal literals

The decimal literal of an integer writes this integer, as long as it does not have more digits
than are converted. It begins and ends with no blank, and no line ends in it.
-/

import Mathlib.Algebra.Group.Nat.Defs
import RingTape.Text.IntegerLiteral

namespace RingTape.Text

/-! ## Digits -/

section Digits

variable {character : Char} {digits : List Char}

theorem bounds_of_isDigit (digit : character.isDigit) :
    48 ≤ character.toNat ∧ character.toNat ≤ 57 := by
  simp only [Char.isDigit, Bool.and_eq_true, decide_eq_true_eq, ge_iff_le,
    UInt32.le_iff_toNat_le] at digit
  exact digit

theorem digitValue?_of_isDigit (digit : character.isDigit) :
    digitValue? character = some (character.toNat - '0'.toNat) := by
  obtain ⟨lower, upper⟩ := bounds_of_isDigit digit
  have zeros : zeroDigits = '0'.toNat :: zeroDigits.tail := rfl
  rw [digitValue?, zeros, List.find?_cons_of_pos]
  · rfl
  · simp
    omega

theorem isMargin_of_isDigit (digit : character.isDigit) : isMargin character = false := by
  obtain ⟨lower, upper⟩ := bounds_of_isDigit digit
  have blank : isBlank character = false := by
    simp [isBlank, inRanges, blankRanges]
    omega
  rw [isMargin, blank, Bool.false_and]

/-- Digits without anything between them and behind them are all taken. -/
theorem leadingDigits_of_isDigit (given : digits ≠ [])
    (all : ∀ character ∈ digits, character.isDigit) :
    leadingDigits digits =
      some (digits.map fun character => character.toNat - '0'.toNat, []) := by
  have noUnderscore {character : Char} (digit : character.isDigit) : character ≠ '_' := by
    rintro rfl
    exact absurd digit (by decide)
  induction digits with
  | nil => exact absurd rfl given
  | cons first rest ih =>
      obtain ⟨digit, digitRest⟩ := List.forall_mem_cons.mp all
      cases rest with
      | nil =>
          rw [leadingDigits, digitValue?_of_isDigit digit]
          · rfl
          · exact noUnderscore digit
      | cons second others =>
          have next := digitRest second List.mem_cons_self
          have taken : isDigit second := by rw [isDigit, digitValue?_of_isDigit next]; rfl
          have behind := ih (List.cons_ne_nil second others) digitRest
          rw [leadingDigits, digitValue?_of_isDigit digit]
          · simp [noUnderscore next, taken, behind]
          · exact noUnderscore digit

/-- The text of digits writes the number with these digits. -/
theorem foldl_map_digits (digits : List Char) :
    (digits.map fun character => character.toNat - '0'.toNat).foldl
        (fun value digit => value * 10 + digit) 0 = Nat.ofDigitChars 10 digits 0 := by
  rw [List.foldl_map, Nat.ofDigitChars]
  simp only [Nat.mul_comm]

end Digits

/-! ## Margins -/

/-- A text without blanks has none at its ends. -/
theorem trimMargins_of_forall {text : List Char}
    (none : ∀ character ∈ text, isMargin character = false) : trimMargins text = text := by
  have kept {text : List Char} (none : ∀ character ∈ text, isMargin character = false) :
      text.dropWhile isMargin = text := by
    cases text with
    | nil => rfl
    | cons first rest =>
        exact List.dropWhile_cons_of_neg (by simp [none first List.mem_cons_self])
  rw [trimMargins, kept none, kept (by simpa using none), List.reverse_reverse]

/-! ## Integers -/

section Integers

variable {digits : List Char} {negative : Bool}

/-- The sign in front of the digits of an integer, which only a negative one has. -/
def signOf (negative : Bool) : List Char :=
  if negative then ['-'] else []

theorem splitSign_signOf (all : ∀ character ∈ digits, character.isDigit) :
    splitSign (signOf negative ++ digits) = (negative, digits) := by
  cases negative with
  | true => rfl
  | false =>
      cases digits with
      | nil => rfl
      | cons first rest =>
          have digit := all first List.mem_cons_self
          show splitSign (first :: rest) = (false, first :: rest)
          rw [splitSign]
          -- A sign is no digit.
          all_goals
            rintro _ ⟨⟩
            exact absurd digit (by decide)

theorem isMargin_signOf (all : ∀ character ∈ digits, character.isDigit) :
    ∀ character ∈ signOf negative ++ digits, isMargin character = false := by
  intro character occurs
  rcases List.mem_append.mp occurs with sign | digit
  · obtain rfl : character = '-' := by
      cases negative <;> simp_all [signOf]
    decide
  · exact isMargin_of_isDigit (all character digit)

/-- A sign, if there is one, and digits, but not too many, are read as one expects. -/
theorem readInteger_of_digits {text : String} (spelled : text.toList = signOf negative ++ digits)
    (given : digits ≠ []) (all : ∀ character ∈ digits, character.isDigit)
    (short : digits.length ≤ maxIntegerDigits) :
    readInteger text = .ok (if negative then -(Nat.ofDigitChars 10 digits 0 : Int)
      else Nat.ofDigitChars 10 digits 0) := by
  rw [readInteger, spelled, trimMargins_of_forall (isMargin_signOf all), splitSign_signOf all]
  simp only [leadingDigits_of_isDigit given all, List.length_map, if_neg (Nat.not_lt.mpr short),
    List.isEmpty_nil, if_true, foldl_map_digits]

/-- The literal of an integer has the digits of its absolute value, behind a sign if it is
negative. -/
theorem toList_toString (number : Int) :
    (toString number).toList =
      signOf (decide (number < 0)) ++ Nat.toDigits 10 number.natAbs := by
  show number.repr.toList = _
  cases number with
  | ofNat magnitude =>
      rw [decide_eq_false (by simp), Int.repr, Nat.toList_repr]
      rfl
  | negSucc less =>
      rw [decide_eq_true (Int.negSucc_lt_zero less), Int.repr, String.toList_append,
        Nat.toList_repr]
      rfl

theorem isDigit_of_mem_toDigits {number : Nat} :
    ∀ character ∈ Nat.toDigits 10 number, character.isDigit :=
  fun _ occurs => Nat.isDigit_of_mem_toDigits (by decide) (by decide) occurs

/-- The literal of an integer writes this integer. -/
theorem readInteger_toString {number : Int}
    (short : number.natAbs < 10 ^ maxIntegerDigits) :
    readInteger (toString number) = .ok number := by
  have length : (Nat.toDigits 10 number.natAbs).length ≤ maxIntegerDigits :=
    (Nat.length_toDigits_le_iff (by decide) (by decide)).mpr short
  rw [readInteger_of_digits (toList_toString number) Nat.toDigits_ne_nil isDigit_of_mem_toDigits
    length, Nat.ofDigitChars_ten_toDigits]
  congr 1
  by_cases negative : number < 0
  · rw [decide_eq_true negative, if_pos rfl]
    omega
  · rw [decide_eq_false negative, if_neg Bool.false_ne_true]
    omega

/-- No line ends in the literal of an integer. -/
theorem newline_notMem_toString (number : Int) : '\n' ∉ (toString number).toList := by
  rw [toList_toString]
  intro occurs
  have noMargin := isMargin_signOf isDigit_of_mem_toDigits _ occurs
  exact absurd noMargin (by decide)

end Integers

end RingTape.Text
