/-
# Binary floating-point numbers

A finite floating-point number is a whole mantissa times a power of two, signed
so that there are two zeros. A format bounds both. Every operation here is exact
whole-number arithmetic followed by one rounding, in which a value half-way
between two neighbours goes to the one with the even mantissa.
-/

namespace RingTape

/-- A format: mantissas lie below two to the power `precision`, exponents between
`least` and `greatest`. -/
structure BinaryFormat where
  precision : Nat
  least : Int
  greatest : Int
  deriving DecidableEq

namespace BinaryFormat

def half : BinaryFormat := ⟨11, -24, 5⟩

def single : BinaryFormat := ⟨24, -149, 104⟩

def double : BinaryFormat := ⟨53, -1074, 971⟩

/-- The number of bits that a number of this format is stored in: the mantissa
without its first bit, the sign, and as many bits as the exponents need. -/
def bits (format : BinaryFormat) : Nat :=
  format.precision + ((format.greatest - format.least + 2).toNat - 1).log2 + 1

end BinaryFormat

/-- A floating-point number; a finite one is `mantissa * 2 ^ exponent`. -/
inductive Floating
  | nan
  | infinite (negative : Bool)
  | finite (negative : Bool) (mantissa : Nat) (exponent : Int)
  deriving DecidableEq

namespace Floating

/-- The whole number nearest to a quotient; of two nearest ones the even one. -/
def roundQuotient (numerator denominator : Nat) : Nat :=
  let quotient := numerator / denominator
  let twice := 2 * (numerator % denominator)
  if twice < denominator then quotient
  else if denominator < twice then quotient + 1
  else quotient + quotient % 2

/-- A quotient divided by a power of two, as numerator and denominator. -/
def unscale (numerator denominator : Nat) (exponent : Int) : Nat × Nat :=
  (numerator * Nat.pow 2 (-exponent).toNat, denominator * Nat.pow 2 exponent.toNat)

/-- The number of a format nearest to a quotient, and an infinity when that would
be too large. -/
def ofQuotient (format : BinaryFormat) (negative : Bool) (numerator denominator : Nat) :
    Floating :=
  if numerator = 0 then finite negative 0 format.least
  else
    let magnitude : Int := (numerator.log2 : Int) - denominator.log2
    let start := max format.least (magnitude - format.precision)
    let (scaled, divisor) := unscale numerator denominator start
    let exponent := if scaled / divisor < Nat.pow 2 format.precision then start else start + 1
    let (scaled, divisor) := unscale numerator denominator exponent
    let mantissa := roundQuotient scaled divisor
    let (mantissa, exponent) :=
      if mantissa = Nat.pow 2 format.precision then (mantissa / 2, exponent + 1)
      else (mantissa, exponent)
    if format.greatest < exponent then infinite negative
    else finite negative mantissa exponent

/-- The number of a format nearest to `digits * 10 ^ exponent`. Exponents far
outside the format are settled without writing the power out. -/
def ofDecimal (format : BinaryFormat) (negative : Bool) (digits : Nat) (exponent : Int) :
    Floating :=
  let length : Int := digits.log2 + 1
  if digits = 0 then finite negative 0 format.least
  else if format.greatest + format.precision < exponent then infinite negative
  else if length + 3 * exponent < format.least - 1 then finite negative 0 format.least
  else
    ofQuotient format negative (digits * Nat.pow 10 exponent.toNat)
      (Nat.pow 10 (-exponent).toNat)

/-- The nearest number of another format. -/
def convert (format : BinaryFormat) : Floating → Floating
  | nan => nan
  | infinite negative => infinite negative
  | finite negative mantissa exponent =>
    ofQuotient format negative (mantissa * Nat.pow 2 exponent.toNat)
      (Nat.pow 2 (-exponent).toNat)

end Floating

end RingTape
