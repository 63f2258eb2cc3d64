/-
# The program

The command on the real standard streams, with the files, the environment and the
variables file of the working directory. Nothing is read before the program is known: each
read and each write is made on the real streams just before the step that is about it, and
the machine gets the answer.
-/

import RingTape.Command

namespace RingTape.Main

/-- The number of steps after which a run is given up. -/
def stepLimit : Nat := Nat.pow 2 62

/-- The error of a stream. -/
def streamError (error : IO.Error) : StreamError :=
  ⟨.os, toString error⟩

/-- The failure that goes with an error of the file system. -/
def failureOf (path : String) : IO.Error → Failure
  | .noFileOrDirectory .. => .unreachable .missing path
  | .inappropriateType .. => .unreachable .directory path
  | error => .brokenOff (.stream (streamError error))

/-- The content of a file, or why it cannot be read. -/
def readFile (path : String) : IO (Except Failure (List UInt8)) := do
  try
    return .ok (← IO.FS.readBinFile path).toList
  catch error =>
    return .error (failureOf path error)

/-- The content of the variables file, if there is one. -/
def readVariablesFile : IO (Option String) := do
  try
    return some (← IO.FS.readFile ".env")
  catch _ =>
    return none

/-- The values of some environment variables, as far as they are set. -/
def readVariables (names : List String) : IO Variables :=
  names.filterMapM fun name => do
    return (← IO.getEnv name).map (name, ·)

/-- What the next read from a stream delivers. -/
def nextChunk (input : IO.FS.Stream) : IO Chunk := do
  try
    return .bytes (← input.read readSize.toUSize).toList
  catch error =>
    return .failure (streamError error)

/-- Write a text to a stream, and tell why that fails if it does. -/
def tryWrite (output : IO.FS.Stream) (text : List Char) : IO (Option StreamError) := do
  try
    output.putStr (String.ofList text)
    return none
  catch error =>
    return some (streamError error)

/-- Make the exchange of the next step on the real streams, and give the machine the
answer. Without a stream to read from, its own source answers. -/
def exchange (input : Option IO.FS.Stream) (program : Program) (machine : Machine Tape) :
    IO (Machine Tape) := do
  let ⟨position, ⟨tape, source, sink⟩⟩ := machine
  match program[position]?, input with
  | some (.action .read), some input =>
    let chunk ← nextChunk input
    return ⟨position, ⟨tape, { source with answers := fun _ => chunk }, sink⟩⟩
  | some (.action .write), _ =>
    let answer ← tryWrite (← IO.getStdout) machine.workspace.symbol
    return ⟨position, ⟨tape, source, { sink with answers := fun _ _ => answer }⟩⟩
  | _, _ => return machine

/-- Step until the run stops, as `Machine.runTelling` does, on the real streams. -/
def runMachine (input : Option IO.FS.Stream) (program : Program) :
    (limit : Nat) → Machine Tape → (told : List Event) → IO (Option (Halt Tape × List Event))
  | 0, _, _ => return none
  | limit + 1, machine, told => do
    let machine ← exchange input program machine
    match machine.stepTelling program with
    | (.ended last, more) => return some (⟨last, none⟩, told ++ more)
    | (.advanced next, more) => runMachine input program limit next (told ++ more)
    | (.failed last fault, more) => return some (⟨last, some fault⟩, told ++ more)

/-- Interpret a text on the given input, or else on standard input. -/
def interpret (text : String) (size : Value) (given : Option String) : IO (Option Report) := do
  let source := (given.map Source.ofEncoded).getD .empty
  match Interpreter.prepare (.text text) size with
  | .error failure => return some ⟨source, .plain, [], some failure⟩
  | .ok (cells, tape, program) =>
    let input ← if given.isSome then pure none else some <$> IO.getStdin
    let begun := Event.running program.size cells.val
    let halted ← runMachine input program stepLimit (.start ⟨tape, source, .plain⟩) [begun]
    return halted.map fun (halt, told) => Interpreter.concludeTelling told halt

/-- Run what is asked for. -/
def runTarget (invocation : CommandLine.Invocation) : IO (Option Report) := do
  let size := Value.integer invocation.memorySize
  match invocation.target with
  | .code text => interpret text size invocation.input
  | .file path =>
    let content ← readFile path
    match ProgramFile.load (fun _ => content) path with
    | .error failure => return some ⟨.empty, .plain, [], some failure⟩
    | .ok text =>
      let report ← interpret text size invocation.input
      return report.map (ProgramFile.told text path)

/-- Print what an outcome says beside the output of the program, and give the exit status. -/
def report (outcome : Command.Outcome) : IO UInt32 := do
  (← IO.getStdout).flush
  IO.eprint outcome.errors
  match outcome.status with
  | .ok status => return status.toUInt32
  | .error failure =>
    IO.eprintln (CommandLine.commandName ++ ": " ++ failure.message)
    return 1

/-- Carry out an invocation on the real streams. -/
def perform (invocation : CommandLine.Invocation) : IO UInt32 := do
  match thresholds.lookup invocation.logLevel with
  | none => report ⟨.error (.level invocation.logLevel), "", "", .empty⟩
  | some threshold =>
    match ← runTarget invocation with
    | none => return 1
    | some left => report (.ofReport threshold left left.source)

/-- Carry out the command. -/
def run (arguments : List String) : IO UInt32 := do
  let variablesFile ← readVariablesFile
  let environment ← readVariables (Configuration.relevantVariables variablesFile)
  match Configuration.load environment variablesFile with
  | .error failure =>
    IO.eprintln failure.message
    return 1
  | .ok configuration =>
    match CommandLine.parse configuration arguments with
    | .error interruption =>
      let outcome := Command.Outcome.ofInterruption interruption .empty
      IO.print outcome.output
      report outcome
    | .ok invocation => perform invocation

end RingTape.Main

/-- The entry point. -/
def main (arguments : List String) : IO UInt32 :=
  RingTape.Main.run arguments
