/-
# Events

A run and the loading of a program tell what they do by events. Each has a level
and an origin and can be written as one line; a threshold decides which are shown.
-/

import RingTape.Fault

namespace RingTape

/-- How important an event is. -/
inductive Level
  | debug
  | info
  | warning
  deriving DecidableEq

namespace Level

/-- The name of a level. -/
def name : Level → String
  | debug => "DEBUG"
  | info => "INFO"
  | warning => "WARNING"

/-- The rank of a level among all thresholds. -/
def severity : Level → Nat
  | debug => 10
  | info => 20
  | warning => 30

end Level

/-- Something that happened. -/
inductive Event
  /-- A program of that many instructions, comments included, begins to run. -/
  | running (instructions memory : Nat)
  /-- A jump found no partner for its bracket. -/
  | unmatched (bracket : Bracket) (position : Int)
  /-- A run came to its end without a fault. -/
  | finished
  /-- A program of that many characters was read from a file. -/
  | loaded (characters : Nat) (path : String)
  deriving DecidableEq

namespace Event

/-- The level of an event. -/
def level : Event → Level
  | running .. => .debug
  | unmatched .. => .warning
  | finished => .debug
  | loaded .. => .info

/-- The part of the program that tells of an event. -/
def origin : Event → String
  | loaded .. => "core.bf_runner"
  | _ => "brainfuck"

/-- The text of an event. -/
def text : Event → String
  | running instructions memory =>
    s!"Running {instructions} instructions with {memory} bytes of memory"
  | unmatched bracket position => Fault.unmatchedMessage bracket position
  | finished => "Program finished"
  | loaded characters path => s!"Loaded {characters} characters from {path}"

/-- An event as one line. -/
def line (event : Event) : String :=
  event.level.name ++ " " ++ event.origin ++ ": " ++ event.text

/-- The event that goes with a fault, if it has one. -/
def ofFault : Fault → Option Event
  | .unmatched bracket position => some (unmatched bracket position)
  | _ => none

end Event

/-- The severities that a threshold can be given by, by their names. -/
def thresholds : List (String × Nat) :=
  [("CRITICAL", 50), ("FATAL", 50), ("ERROR", 40), ("WARN", 30), ("WARNING", 30),
    ("INFO", 20), ("DEBUG", 10), ("NOTSET", 0)]

/-- The events of a threshold's severity or more. -/
def Event.shown (threshold : Nat) (events : List Event) : List Event :=
  events.filter fun event => decide (threshold ≤ event.level.severity)

end RingTape
