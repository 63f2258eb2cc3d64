/-
# Flags

The command takes one operand, the path of a program, and five flags. A flag may
be shortened as long as only one can be meant, and a value may be written in the
same argument.
-/

import RingTape.Text.Digit

namespace RingTape.CommandLine

/-- The flags of the command. -/
inductive Flag
  | help
  | execute
  | memorySize
  | input
  | logLevel
  deriving DecidableEq

namespace Flag

/-- All spellings, in the order in which they are tried and listed. -/
def spellings : List (String × Flag) :=
  [("-h", help), ("--help", help), ("-e", execute), ("--execute", execute),
    ("--memory-size", memorySize), ("--input", input), ("--log-level", logLevel)]

/-- How messages refer to a flag. -/
def label (flag : Flag) : String :=
  String.intercalate "/" ((spellings.filter fun (_, other) => other = flag).map (·.1))

/-- The flag that is written with one dash and this letter. -/
def ofLetter (letter : Char) : Option Flag :=
  spellings.lookup (String.ofList ['-', letter])

end Flag

/-- A value in the same argument as its flag. -/
structure Attached where
  afterEquals : Bool
  value : List Char

/-- What one argument is taken for before any flag is carried out. -/
inductive Word
  /-- Not a flag: an operand or the value of a flag. -/
  | plain (argument : String)
  /-- The two dashes after which no argument is a flag. -/
  | separator
  /-- A flag, whether it was written with two dashes, and the attached value. -/
  | flag (flag : Flag) (long : Bool) (attached : Option Attached)
  /-- Written like a flag, but there is no such flag. -/
  | unknown (argument : String)

/-- Whether an argument that begins with a dash is a negative number; a line feed
may follow it. -/
def isNegativeNumber (argument : String) : Bool :=
  match argument.toList with
  | '-' :: rest =>
    let body := if rest.getLast? = some '\n' then rest.dropLast else rest
    match body.span Text.isDigit with
    | (whole, []) => !whole.isEmpty
    | (_, '.' :: fraction) => !fraction.isEmpty && fraction.all Text.isDigit
    | _ => false
  | _ => false

/-- Cut at the first equality sign. -/
def splitEquals (argument : List Char) : List Char × Option (List Char) :=
  match argument.span (· ≠ '=') with
  | (before, _ :: after) => (before, some after)
  | (before, []) => (before, none)

/-- The flags that an argument may mean when it is not spelled in full, each with its
spelling: after two dashes those that begin with what stands before the equality sign,
after one dash the one with that letter. -/
def candidates (argument : String) : List (String × Word) :=
  match argument.toList with
  | '-' :: '-' :: _ =>
    let (shortened, value) := splitEquals argument.toList
    let meant := Flag.spellings.filter fun (spelling, _) =>
      shortened.isPrefixOf spelling.toList
    meant.map fun (spelling, flag) => (spelling, .flag flag true (value.map (⟨true, ·⟩)))
  | '-' :: letter :: value =>
    match Flag.ofLetter letter with
    | some flag => [(String.ofList ['-', letter], .flag flag false (some ⟨false, value⟩))]
    | none => []
  | _ => []

/-- Whether an argument begins with a dash and does not end there. -/
def looksLikeFlag (argument : String) : Bool :=
  match argument.toList with
  | '-' :: _ :: _ => true
  | _ => false

/-- Whether an argument begins with two dashes. -/
def isLong (argument : String) : Bool :=
  match argument.toList with
  | '-' :: '-' :: _ => true
  | _ => false

/-- What an argument is taken for; the error lists the spellings between which it
leaves a choice. -/
def classify (argument : String) : Except (List String) Word :=
  if !looksLikeFlag argument then .ok (.plain argument)
  else
    match Flag.spellings.lookup argument with
    | some flag => .ok (.flag flag (isLong argument) none)
    | none =>
      let (spelling, value) := splitEquals argument.toList
      match value, Flag.spellings.lookup (String.ofList spelling) with
      | some value, some flag => .ok (.flag flag (isLong argument) (some ⟨true, value⟩))
      | _, _ =>
        match candidates argument with
        | [(_, word)] => .ok word
        | [] =>
          if isNegativeNumber argument || argument.toList.contains ' ' then
            .ok (.plain argument)
          else .ok (.unknown argument)
        | several => .error (several.map (·.1))

end RingTape.CommandLine
