/-
# Failures

Everything that can go wrong, each as its cause. The texts are made in one place,
and each layer adds the causes of its own: a caller who hands in something
unusable, a run that is broken off, a program file that cannot be read, and
settings that cannot be used.
-/

import RingTape.Fault
import RingTape.Text.Ascii
import RingTape.Text.IntegerLiteral
import RingTape.Text.Utf8
import RingTape.Value

namespace RingTape

/-- A kind of value that is no sequence of instructions. -/
inductive Unsized
  | null
  | boolean
  | integer
  | floating
  deriving DecidableEq

/-- The word for a kind of value. -/
def Unsized.word : Unsized → String
  | null => "NoneType"
  | boolean => "bool"
  | integer => "int"
  | floating => "float"

/-- Why a path does not lead to a file that can be read. -/
inductive PathFault
  | missing
  | throughFile
  | directory
  | nameTooLong
  deriving DecidableEq

/-- The number and the wording of a path fault. -/
def PathFault.description : PathFault → Nat × String
  | missing => (2, "No such file or directory")
  | throughFile => (20, "Not a directory")
  | directory => (21, "Is a directory")
  | nameTooLong => (36, "File name too long")

/-- The kind of error that a path fault is. -/
def PathFault.kind : PathFault → ErrorKind
  | missing => .fileNotFound
  | throughFile => .notADirectory
  | directory => .isADirectory
  | nameTooLong => .os

/-- Why something was not done, or not finished. -/
inductive Failure
  /-- The value does not give a size for the tape. -/
  | memorySize (size : Value)
  | sourceMissing
  | sinkMissing
  /-- The size is beyond what an index can express. -/
  | dimension
  | outOfMemory
  | unsized (kind : Unsized)
  /-- The run was broken off by a fault. -/
  | brokenOff (fault : Fault)
  /-- The path does not lead to a file that can be read. -/
  | unreachable (cause : PathFault) (path : String)
  /-- A path or a setting holds a NUL character. -/
  | nulCharacter
  | undecodable (refusal : Text.Utf8.Refusal)
  | unencodable (refusal : Text.Ascii.Refusal)
  /-- The text was expected to write an integer. -/
  | integerLiteral (cause : Text.IntegerFault) (literal : String)
  | variableName
  | level (name : String)

namespace Failure

/-- The text about a literal that writes no integer, which shows at most 200
characters of the quoted literal, or about one that is too long. -/
def integerMessage (cause : Text.IntegerFault) (literal : String) : String :=
  match cause with
  | .malformed =>
    "invalid literal for int() with base 10: " ++
      String.ofList ((Text.quoted literal).toList.take 200)
  | .tooLong digits =>
    s!"Exceeds the limit ({Text.maxIntegerDigits} digits) for integer string conversion: " ++
      s!"value has {digits} digits; use sys.set_int_max_str_digits() to increase the limit"

/-- The text of a failure; running out of memory has none. -/
def message : Failure → String
  | memorySize size => "memory size must be a positive integer, got " ++ size.literal
  | sourceMissing => "input source must not be None"
  | sinkMissing => "output sink must not be None"
  | dimension => "Maximum allowed dimension exceeded"
  | outOfMemory => ""
  | unsized kind => s!"object of type '{kind.word}' has no len()"
  | brokenOff fault => fault.message
  | unreachable cause path =>
    let (number, wording) := cause.description
    s!"[Errno {number}] {wording}: {Text.quoted path}"
  | nulCharacter => "embedded null byte"
  | undecodable refusal => refusal.message
  | unencodable refusal => refusal.message
  | integerLiteral cause literal => integerMessage cause literal
  | variableName => "illegal environment variable name"
  | level name => "Unknown level: " ++ Text.quoted name

/-- The kind of error that a failure is. -/
def kind : Failure → ErrorKind
  | memorySize _ | sourceMissing | sinkMissing => .invalidArgument
  | dimension | nulCharacter | integerLiteral .. | variableName | level _ => .value
  | outOfMemory => .memory
  | unsized _ => .type
  | brokenOff fault => fault.kind
  | unreachable cause _ => cause.kind
  | undecodable _ => .unicodeDecode
  | unencodable _ => .unicodeEncode

end Failure

/-- Both parts of a computation that gives a result give one. -/
theorem exists_of_bind_eq_ok {ε α β : Type} {first : Except ε α} {next : α → Except ε β}
    {result : β} (made : first >>= next = .ok result) :
    ∃ middle, first = .ok middle ∧ next middle = .ok result := by
  cases first with
  | error fault => cases made
  | ok middle => exact ⟨middle, rfl, made⟩

end RingTape
