/-
# Written integers

An integer is written in base ten with the digits of any script. It may have a
sign, blanks around it, leading zeros, and single underscores between digits.
-/

import RingTape.Text.Blank
import RingTape.Text.Digit

namespace RingTape.Text

/-- Why a text is not taken for an integer. -/
inductive IntegerFault
  | malformed
  /-- There are more digits than are converted. -/
  | tooLong (digits : Nat)
  deriving DecidableEq

/-- The largest number of digits that are converted. -/
def maxIntegerDigits : Nat := 4300

/-- The digits at the front of a text, the underscores between them left out, and
what follows them. `none` when there is no digit at the front, or an underscore
has no digit on both sides. -/
def leadingDigits : List Char → Option (List Nat × List Char)
  | [] => none
  | '_' :: _ => none
  | character :: rest =>
    match digitValue? character with
    | none => none
    | some digit =>
      match rest with
      | '_' :: others => (leadingDigits others).map fun (digits, after) => (digit :: digits, after)
      | next :: others =>
        if isDigit next then
          (leadingDigits (next :: others)).map fun (digits, after) => (digit :: digits, after)
        else some ([digit], next :: others)
      | [] => some ([digit], [])

/-- A text without the blanks at both ends. -/
def trimMargins (text : List Char) : List Char :=
  ((text.dropWhile isMargin).reverse.dropWhile isMargin).reverse

/-- The sign at the front of a number, as whether it is negative, and the rest. -/
def splitSign : List Char → Bool × List Char
  | '-' :: rest => (true, rest)
  | '+' :: rest => (false, rest)
  | text => (false, text)

/-- The integer that a text writes. Too many digits are complained about before
anything that follows them. -/
def readInteger (text : String) : Except IntegerFault Int :=
  let (negative, unsigned) := splitSign (trimMargins text.toList)
  match leadingDigits unsigned with
  | none => .error .malformed
  | some (digits, after) =>
    if maxIntegerDigits < digits.length then .error (.tooLong digits.length)
    else if after.isEmpty then
      let magnitude : Nat := digits.foldl (fun value digit => value * 10 + digit) 0
      .ok (if negative then -(magnitude : Int) else magnitude)
    else .error .malformed

end RingTape.Text
