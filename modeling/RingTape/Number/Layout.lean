/-
# Floating-point numbers as text

A number is written with the fewest digits that read back. Numbers from a
ten-thousandth up to ten to the sixteenth are written out, with at least one digit
on each side of the point; all others have an exponent with a sign and at least
two digits.
-/

import RingTape.Number.Shortest

namespace RingTape

namespace Decimal

/-- The digits with a point among or beside them. -/
def positional (decimal : Decimal) : List Char :=
  let characters := decimal.characters
  let leading := decimal.leading
  if leading < 0 then
    '0' :: '.' :: List.replicate (-leading - 1).toNat '0' ++ characters
  else
    let whole := leading.toNat + 1
    let fraction := characters.drop whole
    characters.take whole ++ List.replicate (whole - characters.length) '0' ++
      '.' :: (if fraction.isEmpty then ['0'] else fraction)

/-- The digits with a point after the first one, and the power of ten. -/
def scientific (decimal : Decimal) : List Char :=
  let leading := decimal.leading
  let power := Nat.toDigits 10 leading.natAbs
  let coefficient :=
    match decimal.characters with
    | first :: second :: rest => first :: '.' :: second :: rest
    | digits => digits
  coefficient ++ 'e' :: (if leading < 0 then '-' else '+') ::
    List.replicate (2 - power.length) '0' ++ power

end Decimal

namespace Floating

/-- Whether `mantissa * 2 ^ exponent` is zero or lies in the range of numbers that
are written out. -/
def isWrittenOut (mantissa : Nat) (exponent : Int) : Bool :=
  let (value, ceiling) := Decimal.scales (4 * mantissa) exponent 1 16
  let (scaled, floor) := Decimal.scales (4 * mantissa) exponent 1 (-4)
  decide (mantissa = 0) || (decide (value < ceiling) && decide (floor ≤ scaled))

/-- The text of a number of the given format. -/
def toText (format : BinaryFormat) : Floating → String
  | nan => "nan"
  | infinite negative => if negative then "-inf" else "inf"
  | finite negative mantissa exponent =>
    let decimal := Decimal.shortest format mantissa exponent
    let magnitude :=
      if isWrittenOut mantissa exponent then decimal.positional else decimal.scientific
    String.ofList (if negative then '-' :: magnitude else magnitude)

end Floating

end RingTape
