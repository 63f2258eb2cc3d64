/-
# Histories of sessions

Every request is a turn of the streams that are selected when it is made. The history of a
session is the sequence of its turns with the exchanges that each of them made; from it one can
read what came from each source and what went into each sink.
-/

import RingTape.Session

namespace RingTape

/-- The code that a request asks to run with the size of the tape, or why it cannot be loaded;
`none` when nothing is to be run. -/
def Request.task (readFile : FileReader) : Request → Option (Except Failure (Code × Value))
  | interpret code size => some (.ok (code, size))
  | runFile path size =>
    some ((ProgramFile.load readFile path).map fun text => (.text text, size))
  | _ => none

/-- What a request exchanged, and the streams that were selected then. -/
structure Turn where
  input : Selection
  output : Selection
  exchanged : List Exchange

namespace Turn

/-- The results of the reads from a source in this turn. -/
def resultsOn (which : Selection) (turn : Turn) : List (Except Fault UInt8) :=
  if turn.input = which then Exchange.results turn.exchanged else []

/-- The characters that came into a sink in this turn. -/
def charactersOn (which : Selection) (turn : Turn) : List Char :=
  if turn.output = which then Exchange.characters turn.exchanged else []

end Turn

namespace Session

/-- The source of a selection, if there is one. -/
def sourceAt (session : Session) : Selection → Option Source
  | .standard => some session.standardInput
  | .given index => session.sources[index]?

/-- The sink of a selection, if there is one. -/
def sinkAt (session : Session) : Selection → Option Sink
  | .standard => some session.standardOutput
  | .given index => session.sinks[index]?

/-- The session of a new interpreter with no other streams than these. -/
def only (source : Source) (sink : Sink) : Session :=
  ⟨#[source], #[sink], .empty, .plain, .given 0, .given 0⟩

/-- The turn that a request makes. -/
def turn (limit : Nat) (readFile : FileReader) (session : Session) (request : Request) : Turn :=
  ⟨session.input, session.output,
    match request.task readFile with
    | some (.ok (code, size)) =>
      Interpreter.exchanges limit code size session.source session.sink
    | _ => []⟩

/-- The turns of requests in order, up to one that is still running. -/
def turns (limit : Nat) (readFile : FileReader) : Session → List Request → List Turn
  | _, [] => []
  | session, request :: requests =>
    session.turn limit readFile request ::
      match session.perform limit readFile request with
      | some (next, _) => turns limit readFile next requests
      | none => []

/-- The session after all requests, given what `performAll` answers. -/
def final (session : Session) (answers : List (Session × Option Failure)) : Session :=
  (answers.map Prod.fst).getLastD session

/-! ## Selected streams -/

theorem source_eq (session : Session) :
    session.source = (session.sourceAt session.input).getD .empty := by
  unfold source sourceAt
  cases session.input <;> rfl

theorem sink_eq (session : Session) :
    session.sink = (session.sinkAt session.output).getD .plain := by
  unfold sink sinkAt
  cases session.output <;> rfl

@[simp]
theorem input_putSource (source : Source) (session : Session) :
    (session.putSource source).input = session.input := by
  unfold putSource
  split <;> rfl

@[simp]
theorem output_putSource (source : Source) (session : Session) :
    (session.putSource source).output = session.output := by
  unfold putSource
  split <;> rfl

@[simp]
theorem input_putSink (sink : Sink) (session : Session) :
    (session.putSink sink).input = session.input := by
  unfold putSink
  split <;> rfl

@[simp]
theorem output_putSink (sink : Sink) (session : Session) :
    (session.putSink sink).output = session.output := by
  unfold putSink
  split <;> rfl

@[simp]
theorem sinkAt_putSource (source : Source) (session : Session) (which : Selection) :
    (session.putSource source).sinkAt which = session.sinkAt which := by
  unfold putSource
  split <;> cases which <;> rfl

@[simp]
theorem sourceAt_putSink (sink : Sink) (session : Session) (which : Selection) :
    (session.putSink sink).sourceAt which = session.sourceAt which := by
  unfold putSink
  split <;> cases which <;> rfl

/-- A new state of the selected source is found there, and nowhere else. -/
theorem sourceAt_putSource (source : Source) (session : Session) (which : Selection) :
    (session.putSource source).sourceAt which =
      if which = session.input then (session.sourceAt which).map fun _ => source
      else session.sourceAt which := by
  unfold putSource
  cases selected : session.input with
  | standard => cases which <;> simp [sourceAt]
  | given index =>
      cases which with
      | standard => simp [sourceAt]
      | given other =>
          simp only [sourceAt, Array.getElem?_setIfInBounds, Selection.given.injEq]
          by_cases same : other = index
          · subst same
            by_cases inRange : other < session.sources.size <;> simp [inRange]
          · simp [same, Ne.symm same]

/-- A new state of the selected sink is found there, and nowhere else. -/
theorem sinkAt_putSink (sink : Sink) (session : Session) (which : Selection) :
    (session.putSink sink).sinkAt which =
      if which = session.output then (session.sinkAt which).map fun _ => sink
      else session.sinkAt which := by
  unfold putSink
  cases selected : session.output with
  | standard => cases which <;> simp [sinkAt]
  | given index =>
      cases which with
      | standard => simp [sinkAt]
      | given other =>
          simp only [sinkAt, Array.getElem?_setIfInBounds, Selection.given.injEq]
          by_cases same : other = index
          · subst same
            by_cases inRange : other < session.sinks.size <;> simp [inRange]
          · simp [same, Ne.symm same]

end Session

end RingTape
