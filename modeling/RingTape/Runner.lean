/-
# Programs run by themselves

A program can be run on an input of its own, which is given as a whole: its output is
given back as a whole too. What is not said is taken from the configuration.
-/

import RingTape.Configuration
import RingTape.ProgramFile

namespace RingTape.Runner

/-- An input that is given as a whole. -/
inductive Input
  | bytes (items : List UInt8)
  | text (characters : String)

/-- The source that holds an input; a text is encoded for it. -/
def Input.source : Input → Source
  | bytes items => .ofBytes items
  | text characters => .ofEncoded characters

/-- Run a program on an input, without one on an empty one, and give back what it wrote.
What was written before a failure is lost. -/
def runProgram (limit : Nat) (configuration : Configuration) (code : Code)
    (input : Option Input) (size : Option Value) : Option (Except Failure String) :=
  let source := (input.getD (.bytes [])).source
  (Interpreter.interpret limit code (configuration.size size) source .plain).map fun report =>
    match report.failure with
    | none => .ok report.sink.text
    | some failure => .error failure

/-- Run the program file at a path on the given streams. -/
def runFile (limit : Nat) (configuration : Configuration) (readFile : FileReader)
    (path : String) (size : Option Value) (source : Source) (sink : Sink) : Option Report :=
  ProgramFile.interpret limit readFile path (configuration.size size) source sink

end RingTape.Runner
