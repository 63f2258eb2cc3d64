/-
# Values

Memory sizes, program elements and reported positions may be values of any kind.
A value has a literal, by which messages refer to it, and it may stand for a whole
number.
-/

import RingTape.Number.Layout
import RingTape.Text.Quoted

namespace RingTape

/-- A value of any kind. -/
inductive Value
  | null
  | boolean (truth : Bool)
  | integer (number : Int)
  | floating (number : Floating)
  | text (characters : String)
  | list (elements : List Value)
  | record (fields : List (String × Value))
  /-- Not a number itself, but convertible to one. -/
  | index (number : Int)
  /-- A truth value of fixed width. -/
  | fixedBoolean (truth : Bool)
  /-- A whole number of the fixed-width kind of that name. -/
  | fixedInteger (kind : String) (number : Int)
  /-- A floating-point number of one of the fixed formats. -/
  | fixedFloating (format : BinaryFormat) (number : Floating)

namespace Value

/-- The word for a truth value. -/
def truthWord (truth : Bool) : String :=
  if truth then "True" else "False"

mutual

/-- The literal that denotes a value. -/
def literal : Value → String
  | null => "None"
  | boolean truth => truthWord truth
  | integer number => toString number
  | floating number => number.toText .double
  | text characters => Text.quoted characters
  | list elements => "[" ++ String.intercalate ", " (literals elements) ++ "]"
  | record fields => "\x7b" ++ String.intercalate ", " (fieldLiterals fields) ++ "\x7d"
  | index number => "Index(" ++ toString number ++ ")"
  | fixedBoolean truth => "np." ++ truthWord truth ++ "_"
  | fixedInteger kind number => "np." ++ kind ++ "(" ++ toString number ++ ")"
  | fixedFloating format number =>
    "np.float" ++ toString format.bits ++ "(" ++ number.toText format ++ ")"

/-- The literals of some values. -/
def literals : List Value → List String
  | [] => []
  | element :: elements => literal element :: literals elements

/-- The literals of some fields, each with its name in front. -/
def fieldLiterals : List (String × Value) → List String
  | [] => []
  | (name, value) :: fields =>
    (Text.quoted name ++ ": " ++ literal value) :: fieldLiterals fields

end

/-- A value as it stands in a message: a text as it is, all else as its literal. -/
def display : Value → String
  | text characters => characters
  | value => literal value

/-- Whether a value is a truth value, of fixed width or not. -/
def isBoolean : Value → Bool
  | boolean _ | fixedBoolean _ => true
  | _ => false

/-- The whole number that a value converts to, if it converts to one. A truth value does,
except for those of fixed width; floating-point numbers do not, even where they are equal
to a whole number. -/
def toIndex? : Value → Option Int
  | boolean truth => some (if truth then 1 else 0)
  | integer number => some number
  | index number => some number
  | fixedInteger _ number => some number
  | _ => none

end Value

end RingTape
