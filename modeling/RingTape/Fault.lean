/-
# Faults of a running program

A run can only be broken off by a jump that finds no partner for its bracket,
by the streams it is connected to, or by a read that delivers several
characters where one was asked for.
-/

import RingTape.ErrorKind

namespace RingTape

/-- The two ends of a loop. -/
inductive Bracket
  | opening
  | closing
  deriving DecidableEq

/-- The character that writes a bracket. -/
def Bracket.symbol : Bracket → Char
  | opening => '['
  | closing => ']'

/-- What a stream fails with. -/
structure StreamError where
  kind : ErrorKind
  message : String
  deriving DecidableEq

/-- Why a run was broken off. -/
inductive Fault
  /-- The jump at `position` found no partner for its bracket. -/
  | unmatched (bracket : Bracket) (position : Int)
  /-- The source or the sink failed, with an error of its own. -/
  | stream (error : StreamError)
  /-- A read delivered `length` characters at once. -/
  | manyCharacters (length : Nat)
  deriving DecidableEq

namespace Fault

/-- A complaint with the place that it is about. -/
def placed (complaint place : String) : String :=
  complaint ++ " at position " ++ place

/-- The complaint about a bracket, with the place at which it was noticed. -/
def unmatchedMessage (bracket : Bracket) (position : Int) : String :=
  placed (s!"Unmatched '{bracket.symbol}'") (toString position)

/-- The text of a fault. -/
def message : Fault → String
  | unmatched bracket position => unmatchedMessage bracket position
  | stream error => error.message
  | manyCharacters length => s!"ord() expected a character, but string of length {length} found"

/-- The kind of error that a fault is. -/
def kind : Fault → ErrorKind
  | unmatched .. => .malformedProgram
  | stream error => error.kind
  | manyCharacters _ => .type

end Fault

end RingTape
