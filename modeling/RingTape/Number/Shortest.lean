/-
# The fewest digits that read back

A floating-point number stands for all reals that round to it. Of the decimals in
that interval the ones with the fewest digits are found by trying one digit more
at a time: if a multiple of a power of ten lies in the interval, so does one of
the two multiples next to the number itself. Of two such multiples the nearer one
is taken, and the even one when they are equally near.
-/

import RingTape.Number.Binary

namespace RingTape

/-- The decimal `digits * 10 ^ exponent`. -/
structure Decimal where
  digits : Nat
  exponent : Int
  deriving DecidableEq

namespace Decimal

/-- The digits of a decimal from the first to the last. -/
def characters (decimal : Decimal) : List Char :=
  Nat.toDigits 10 decimal.digits

/-- The power of ten that the first digit stands for. -/
def leading (decimal : Decimal) : Int :=
  decimal.exponent + decimal.characters.length - 1

/-- Compare `quarters * 2 ^ binary / 4` with `digits * 10 ^ exponent`, both written
over one denominator. -/
def scales (quarters : Nat) (binary : Int) (digits : Nat) (exponent : Int) : Nat × Nat :=
  (quarters * Nat.pow 2 binary.toNat * Nat.pow 10 (-exponent).toNat,
    digits * Nat.pow 10 exponent.toNat * (4 * Nat.pow 2 (-binary).toNat))

/-- The exponent of the largest power of ten that is not above the number, found
by raising a lower bound. -/
def raiseExponent (mantissa : Nat) (binary : Int) : (fuel : Nat) → Int → Int
  | 0, exponent => exponent
  | fuel + 1, exponent =>
    let (value, power) := scales (4 * mantissa) binary 1 (exponent + 1)
    if power ≤ value then raiseExponent mantissa binary fuel (exponent + 1) else exponent

/-- The exponent of the first digit of `mantissa * 2 ^ binary`. -/
def leadingExponent (mantissa : Nat) (binary : Int) : Int :=
  raiseExponent mantissa binary 4 (((mantissa.log2 : Int) + binary) * 30103 / 100000 - 1)

/-- A decimal with the given exponent that reads back as `mantissa * 2 ^ binary`.
Below a power of two the neighbours are only half as far away. -/
def onGrid (format : BinaryFormat) (mantissa : Nat) (binary exponent : Int) : Option Decimal :=
  let narrow := mantissa = Nat.pow 2 (format.precision - 1) ∧ format.least < binary
  let lower := 4 * mantissa - (if narrow then 1 else 2)
  let upper := 4 * mantissa + 2
  let readsBack (digits : Nat) : Bool :=
    let (low, candidate) := scales lower binary digits exponent
    let (high, _) := scales upper binary digits exponent
    if mantissa % 2 = 0 then decide (low ≤ candidate) && decide (candidate ≤ high)
    else decide (low < candidate) && decide (candidate < high)
  let (value, unit) := scales (4 * mantissa) binary 1 exponent
  let below := value / unit
  let above := below + 1
  let preferred := Floating.roundQuotient value unit
  if readsBack below && readsBack above then some ⟨preferred, exponent⟩
  else if readsBack below then some ⟨below, exponent⟩
  else if readsBack above then some ⟨above, exponent⟩
  else none

/-- The shortest decimal with at least `count` digits, where `fuel` more may be
tried. -/
def search (format : BinaryFormat) (mantissa : Nat) (binary leading : Int) :
    (fuel count : Nat) → Option Decimal
  | 0, _ => none
  | fuel + 1, count =>
    match onGrid format mantissa binary (leading + 1 - count) with
    | some decimal => some decimal
    | none => search format mantissa binary leading fuel (count + 1)

/-- Without zeros at the end of the digits. -/
def trim : (fuel : Nat) → Decimal → Decimal
  | 0, decimal => decimal
  | fuel + 1, decimal =>
    if decimal.digits ≠ 0 ∧ decimal.digits % 10 = 0 then
      trim fuel ⟨decimal.digits / 10, decimal.exponent + 1⟩
    else decimal

/-- The decimal with the fewest digits that reads back as `mantissa * 2 ^ binary`. As many
digits as the mantissa has bits are always enough. -/
def shortest (format : BinaryFormat) (mantissa : Nat) (binary : Int) : Decimal :=
  if mantissa = 0 then ⟨0, 0⟩
  else
    let found := search format mantissa binary (leadingExponent mantissa binary)
      format.precision 1
    trim format.precision (found.getD ⟨mantissa, 0⟩)

end Decimal

end RingTape
