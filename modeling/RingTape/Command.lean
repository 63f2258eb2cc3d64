/-
# The command

The command runs a program file or a program given as an argument on the standard
streams. Failures of files and streams, refused memory sizes and unmatched brackets
are reported on standard error; any other failure ends the command unreported.
-/

import RingTape.CommandLine.Invocation
import RingTape.ProgramFile

namespace RingTape

namespace Command

/-- Whether the command reports a failure itself: where it is an error of the operating
system or one of the language. -/
def isReported (failure : Failure) : Bool :=
  failure.kind.countsAs .os || failure.kind.countsAs .brainfuck

/-- How a command ended: its exit status, or a failure that it does not report, what it
wrote to the standard streams, and the state in which it left standard input. -/
structure Outcome where
  status : Except Failure Nat
  output : String
  errors : String
  input : Source

/-- The lines of the events that a threshold lets through. -/
def eventLines (threshold : Nat) (events : List Event) : String :=
  String.join ((Event.shown threshold events).map fun event => event.line ++ "\n")

/-- The outcome of a command whose program left this report, and standard input like this. -/
def Outcome.ofReport (threshold : Nat) (report : Report) (input : Source) : Outcome :=
  let output := report.sink.text
  let lines := eventLines threshold report.events
  match report.failure with
  | none => ⟨.ok 0, output, lines, input⟩
  | some failure =>
    if isReported failure then
      ⟨.ok 1, output, lines ++ CommandLine.commandName ++ ": " ++ failure.message ++ "\n", input⟩
    else ⟨.error failure, output, lines, input⟩

/-- The outcome of arguments that are not taken to their end. -/
def Outcome.ofInterruption (interruption : CommandLine.Interruption) (input : Source) : Outcome :=
  match interruption with
  | .help => ⟨.ok 0, CommandLine.help, "", input⟩
  | .error fault => ⟨.ok 2, "", fault.report, input⟩

/-- Run what is asked for on a source, from which its input comes. -/
def runTarget (limit : Nat) (readFile : FileReader) (invocation : CommandLine.Invocation)
    (source : Source) : Option Report :=
  let size := Value.integer invocation.memorySize
  match invocation.target with
  | .code text => Interpreter.interpret limit (.text text) size source .plain
  | .file path => ProgramFile.interpret limit readFile path size source .plain

/-- Carry out an invocation: on the input that it gives, or else on standard input. -/
def perform (limit : Nat) (readFile : FileReader) (standardInput : Source)
    (invocation : CommandLine.Invocation) : Option Outcome :=
  match thresholds.lookup invocation.logLevel with
  | none => some ⟨.error (.level invocation.logLevel), "", "", standardInput⟩
  | some threshold =>
    match invocation.input with
    | some text =>
      (runTarget limit readFile invocation (.ofEncoded text)).map fun report =>
        .ofReport threshold report standardInput
    | none =>
      (runTarget limit readFile invocation standardInput).map fun report =>
        .ofReport threshold report report.source

/-- Carry out the command with the given arguments. -/
def run (limit : Nat) (configuration : Configuration) (readFile : FileReader)
    (standardInput : Source) (arguments : List String) : Option Outcome :=
  match CommandLine.parse configuration arguments with
  | .error interruption => some (.ofInterruption interruption standardInput)
  | .ok invocation => perform limit readFile standardInput invocation

end Command

end RingTape
