/-
# Sessions

An interpreter keeps a source and a sink selected over many runs. The streams keep
their state between runs, the tape does not: every run begins with a blank one. A
request that fails leaves the session usable.
-/

import RingTape.ProgramFile

namespace RingTape

/-- A selected stream: the standard one, or one of those given. -/
inductive Selection
  | standard
  | given (index : Nat)
  deriving DecidableEq

/-- The selection for an optional index. -/
def Selection.ofIndex : Option Nat → Selection
  | none => standard
  | some index => given index

/-- The streams, those given and the standard ones, and which of them are selected. -/
structure Session where
  sources : Array Source
  sinks : Array Sink
  standardInput : Source
  standardOutput : Sink
  input : Selection
  output : Selection

/-- What can be asked of a session. -/
inductive Request
  | interpret (code : Code) (size : Value)
  | runFile (path : String) (size : Value)
  | setInput (source : Option Nat)
  | setOutput (sink : Option Nat)
  /-- Go on with a new interpreter on the streams of these indices. -/
  | renew (source sink : Option Nat)

namespace Session

/-- The selected source in its present state. -/
def source (session : Session) : Source :=
  match session.input with
  | .standard => session.standardInput
  | .given index => session.sources[index]?.getD .empty

/-- The selected sink in its present state. -/
def sink (session : Session) : Sink :=
  match session.output with
  | .standard => session.standardOutput
  | .given index => session.sinks[index]?.getD .plain

/-- Put the selected source into a new state. -/
def putSource (source : Source) (session : Session) : Session :=
  match session.input with
  | .standard => { session with standardInput := source }
  | .given index => { session with sources := session.sources.setIfInBounds index source }

/-- Put the selected sink into a new state. -/
def putSink (sink : Sink) (session : Session) : Session :=
  match session.output with
  | .standard => { session with standardOutput := sink }
  | .given index => { session with sinks := session.sinks.setIfInBounds index sink }

/-- Take over what a run left behind. -/
def absorb (session : Session) (report : Report) : Session × Option Failure :=
  ((session.putSource report.source).putSink report.sink, report.failure)

/-- Answer one request: the session after it, and the failure if it failed. -/
def perform (limit : Nat) (readFile : FileReader) (session : Session) :
    Request → Option (Session × Option Failure)
  | .interpret code size =>
    (Interpreter.interpret limit code size session.source session.sink).map session.absorb
  | .runFile path size =>
    (ProgramFile.interpret limit readFile path size session.source session.sink).map
      session.absorb
  | .setInput (some index) => some ({ session with input := .given index }, none)
  | .setInput none => some (session, some .sourceMissing)
  | .setOutput (some index) => some ({ session with output := .given index }, none)
  | .setOutput none => some (session, some .sinkMissing)
  | .renew source sink =>
    some ({ session with input := .ofIndex source, output := .ofIndex sink }, none)

/-- Answer requests in order: the session after each of them, and the failure if that one
failed; `none` when one of them is still running. -/
def performAll (limit : Nat) (readFile : FileReader) :
    Session → List Request → Option (List (Session × Option Failure))
  | _, [] => some []
  | session, request :: requests =>
    match session.perform limit readFile request with
    | none => none
    | some (next, failure) =>
      (performAll limit readFile next requests).map ((next, failure) :: ·)

end Session

end RingTape
