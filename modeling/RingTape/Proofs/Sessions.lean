/-
# Sessions and their streams

The streams of a session are shared by all of its runs, and the runs take turns. A turn reads on
where the turn before it has stopped reading, and writes behind what is there, whether its run
fails or not. So the turns on one stream fit together, whatever is done in between with other
streams, and of what went before a run knows nothing but the state of its two streams.
-/

import RingTape.History
import RingTape.Proofs.Exchanges

namespace RingTape

/-! ## Accounts of single runs -/

/-- From one state of a source to another just these results were read, in order. -/
structure Source.Delivered (first : Source) (results : List (Except Fault UInt8))
    (last : Source) : Prop where
  answers : last.answers = first.answers
  reads : last.reads = first.reads + results.length
  results : results = (first.readMany results.length).1

/-- From one state of a sink to another just these characters were written, in order. -/
def Sink.Received (first : Sink) (characters : List Char) (last : Sink) : Prop :=
  last.written.toList = first.written.toList ++ characters

namespace Source.Delivered

variable {first middle last : Source} {before after : List (Except Fault UInt8)}

theorem nil (source : Source) : source.Delivered [] source :=
  ⟨rfl, rfl, rfl⟩

theorem eq_readMany (delivered : first.Delivered before last) :
    last = (first.readMany before.length).2 := by
  rw [readMany_snd, ← delivered.answers, ← delivered.reads]

/-- What is read later are the results behind those that were read before. -/
theorem append (earlier : first.Delivered before middle) (later : middle.Delivered after last) :
    first.Delivered (before ++ after) last where
  answers := later.answers.trans earlier.answers
  reads := by rw [later.reads, earlier.reads, List.length_append, Nat.add_assoc]
  results := by
    rw [List.length_append, readMany_add, ← earlier.eq_readMany, ← earlier.results,
      ← later.results]

end Source.Delivered

namespace Sink.Received

variable {first middle last : Sink} {before after : List Char}

theorem nil (sink : Sink) : sink.Received [] sink :=
  (List.append_nil _).symm

theorem append (earlier : first.Received before middle) (later : middle.Received after last) :
    first.Received (before ++ after) last := by
  rw [Received, later, earlier, List.append_assoc]

end Sink.Received

theorem Workspace.Ledger.delivered {τ : Type} {exchanged : List Exchange}
    {first last : Workspace τ} (ledger : Ledger exchanged first last) :
    first.source.Delivered (Exchange.results exchanged) last.source where
  answers := by rw [ledger.source, Source.readMany_snd]
  reads := ledger.reads
  results := ledger.results

/-- An interpretation reads and writes just what its exchanges tell, whether it fails or not. -/
theorem Interpreter.account_of_interpret {limit : Nat} {code : Code} {size : Value}
    {source : Source} {sink : Sink} {report : Report}
    (interpreted : interpret limit code size source sink = some report) :
    source.Delivered (Exchange.results (exchanges limit code size source sink)) report.source ∧
      sink.Received (Exchange.characters (exchanges limit code size source sink))
        report.sink := by
  cases prepared : prepare code size with
  | error failure =>
      rw [interpret_of_refuse prepared, Option.some.injEq] at interpreted
      subst interpreted
      rw [exchanges, prepared]
      exact ⟨.nil source, .nil sink⟩
  | ok made =>
      obtain ⟨cells, tape, program⟩ := made
      rw [interpret_of_prepare prepared, Option.map_eq_some_iff] at interpreted
      obtain ⟨halt, stopped, rfl⟩ := interpreted
      have ledger := Machine.ledger_run stopped
      rw [exchanges, prepared, source_conclude, Sink.Received, written_conclude]
      exact ⟨ledger.delivered, ledger.written⟩

namespace Session

variable {limit : Nat} {readFile : FileReader} {session next : Session} {request : Request}

/-! ## What a request does -/

/-- Only the selected streams are changed, into these. -/
structure Replaced (session : Session) (source : Source) (sink : Sink) (next : Session) :
    Prop where
  input : next.input = session.input
  output : next.output = session.output
  sourceAt : ∀ which, next.sourceAt which =
    if which = session.input then (session.sourceAt which).map fun _ => source
    else session.sourceAt which
  sinkAt : ∀ which, next.sinkAt which =
    if which = session.output then (session.sinkAt which).map fun _ => sink
    else session.sinkAt which

theorem replaced_absorb (session : Session) (report : Report) :
    session.Replaced report.source report.sink (session.absorb report).1 where
  input := by simp [absorb]
  output := by simp [absorb]
  sourceAt which := by simp [absorb, sourceAt_putSource]
  sinkAt which := by simp [absorb, sinkAt_putSink]

/-- A program that can be loaded is run on the selected streams. -/
theorem perform_of_task {code : Code} {size : Value}
    (asked : request.task readFile = some (.ok (code, size))) (limit : Nat)
    (session : Session) :
    session.perform limit readFile request =
      (Interpreter.interpret limit code size session.source session.sink).map
        session.absorb := by
  cases request with
  | interpret other otherSize =>
      simp only [Request.task, Option.some.injEq, Except.ok.injEq, Prod.mk.injEq] at asked
      obtain ⟨rfl, rfl⟩ := asked
      rfl
  | runFile path otherSize =>
      simp only [Request.task, Option.some.injEq] at asked
      cases loaded : ProgramFile.load readFile path with
      | error failure => simp [loaded, Except.map] at asked
      | ok text =>
          simp only [loaded, Except.map, Except.ok.injEq, Prod.mk.injEq] at asked
          obtain ⟨rfl, rfl⟩ := asked
          simp only [perform, ProgramFile.interpret, loaded, Option.map_map]
          rfl
  | setInput | setOutput | renew => simp [Request.task] at asked

/-- A program that cannot be loaded leaves the streams as they are. -/
theorem perform_of_task_error {failure : Failure}
    (asked : request.task readFile = some (.error failure)) (limit : Nat) (session : Session) :
    session.perform limit readFile request =
      some (session.absorb ⟨session.source, session.sink, [], some failure⟩) := by
  cases request with
  | runFile path size =>
      simp only [Request.task, Option.some.injEq] at asked
      cases loaded : ProgramFile.load readFile path with
      | ok text => simp [loaded, Except.map] at asked
      | error reason =>
          simp only [loaded, Except.map, Except.error.injEq] at asked
          subst asked
          simp only [perform, ProgramFile.interpret, loaded]
          rfl
  | interpret | setInput | setOutput | renew => simp [Request.task] at asked

/-! ## Runs by themselves -/

/-- Of all that a session was and did, a run sees the states of its two streams and nothing
else. -/
theorem perform_only {attempt : Except Failure (Code × Value)}
    (asked : request.task readFile = some attempt) (limit : Nat) (session : Session) :
    Option.Rel (fun made alone =>
        made.2 = alone.2 ∧ session.Replaced alone.1.source alone.1.sink made.1)
      (session.perform limit readFile request)
      ((only session.source session.sink).perform limit readFile request) := by
  have absorbed (report : Report) :
      (session.absorb report).2 = ((only session.source session.sink).absorb report).2 ∧
        session.Replaced ((only session.source session.sink).absorb report).1.source
          ((only session.source session.sink).absorb report).1.sink
          (session.absorb report).1 :=
    ⟨rfl, session.replaced_absorb report⟩
  cases attempt with
  | ok task =>
      rw [perform_of_task asked, perform_of_task asked]
      have source : (only session.source session.sink).source = session.source := rfl
      have sink : (only session.source session.sink).sink = session.sink := rfl
      rw [source, sink]
      cases Interpreter.interpret limit task.1 task.2 session.source session.sink with
      | none => exact .none
      | some report => exact .some (absorbed report)
  | error failure =>
      rw [perform_of_task_error asked, perform_of_task_error asked]
      exact .some (absorbed _)

/-- A run begins with a blank tape, on the selected streams as they are. -/
theorem perform_eq_run {code : Code} {program : Program} {size : Value}
    {cells : { cells : Nat // 0 < cells }}
    (asked : request.task readFile = some (.ok (code, size)))
    (given : code.program = .ok program) (checked : MemorySize.check size = .ok cells)
    (fits : cells.val < MemorySize.memoryBound) (limit : Nat) (session : Session) :
    session.perform limit readFile request =
      ((Machine.start ⟨Tape.blank cells.val cells.property, session.source,
        session.sink⟩).run program limit).map fun halt =>
          session.absorb (Interpreter.conclude (.running program.size cells.val) halt) := by
  rw [perform_of_task asked, Interpreter.interpret_eq_run given checked fits, Option.map_map]
  rfl

/-! ## Selections -/

/-- A run leaves the selection as it is, whether it fails or not. -/
theorem selection_of_task {attempt : Except Failure (Code × Value)} {failure : Option Failure}
    (asked : request.task readFile = some attempt)
    (performed : session.perform limit readFile request = some (next, failure)) :
    next.input = session.input ∧ next.output = session.output := by
  have related := perform_only asked limit session
  rw [performed] at related
  generalize perform limit readFile (only session.source session.sink) request = alone at related
  cases related with
  | some together => exact ⟨together.2.input, together.2.output⟩

/-- What requests do to the selection: a run keeps it, and one that asks for another selection
is granted, with nothing else changed, unless it does not say which. -/
inductive Selects (readFile : FileReader) (session next : Session) :
    Request → Option Failure → Prop
  | run {request : Request} {failure : Option Failure}
      {attempt : Except Failure (Code × Value)} (asked : request.task readFile = some attempt)
      (input : next.input = session.input) (output : next.output = session.output) :
      Selects readFile session next request failure
  | input {index : Nat} (selected : next = { session with input := .given index }) :
      Selects readFile session next (.setInput (some index)) none
  | noSource (same : next = session) :
      Selects readFile session next (.setInput none) (some .sourceMissing)
  | output {index : Nat} (selected : next = { session with output := .given index }) :
      Selects readFile session next (.setOutput (some index)) none
  | noSink (same : next = session) :
      Selects readFile session next (.setOutput none) (some .sinkMissing)
  | both {source sink : Option Nat}
      (selected : next =
        { session with input := .ofIndex source, output := .ofIndex sink }) :
      Selects readFile session next (.renew source sink) none

theorem selects_of_perform {failure : Option Failure}
    (performed : session.perform limit readFile request = some (next, failure)) :
    Selects readFile session next request failure := by
  cases asked : request.task readFile with
  | some attempt =>
      obtain ⟨input, output⟩ := selection_of_task asked performed
      exact .run asked input output
  | none =>
      cases request with
      | interpret | runFile => simp [Request.task] at asked
      | setInput choice =>
          cases choice with
          | none =>
              obtain ⟨rfl, rfl⟩ := Prod.mk.inj (Option.some.inj performed)
              exact .noSource rfl
          | some index =>
              obtain ⟨rfl, rfl⟩ := Prod.mk.inj (Option.some.inj performed)
              exact .input rfl
      | setOutput choice =>
          cases choice with
          | none =>
              obtain ⟨rfl, rfl⟩ := Prod.mk.inj (Option.some.inj performed)
              exact .noSink rfl
          | some index =>
              obtain ⟨rfl, rfl⟩ := Prod.mk.inj (Option.some.inj performed)
              exact .output rfl
      | renew source sink =>
          obtain ⟨rfl, rfl⟩ := Prod.mk.inj (Option.some.inj performed)
          exact .both rfl

/-- Where nothing is to be run, only the selection may change. -/
theorem eq_of_task_eq_none {failure : Option Failure} (asked : request.task readFile = none)
    (performed : session.perform limit readFile request = some (next, failure)) :
    next = { session with input := next.input, output := next.output } := by
  cases selects_of_perform performed with
  | run task => rw [asked] at task; cases task
  | input selected | output selected | both selected => rw [selected]
  | noSource same | noSink same => rw [same]

/-! ## Accounts of sessions -/

/-- The turns account for all streams: from the first session to the last just what they tell
was read from each source, and written to each sink, in order. -/
structure Accounted (session : Session) (turns : List Turn) (last : Session) : Prop where
  source : ∀ which source, session.sourceAt which = some source →
    ∃ later, last.sourceAt which = some later ∧
      source.Delivered (turns.flatMap (Turn.resultsOn which)) later
  sink : ∀ which sink, session.sinkAt which = some sink →
    ∃ later, last.sinkAt which = some later ∧
      sink.Received (turns.flatMap (Turn.charactersOn which)) later

theorem Accounted.nil (session : Session) : session.Accounted [] session where
  source _ source here := ⟨source, here, .nil source⟩
  sink _ sink here := ⟨sink, here, .nil sink⟩

theorem Accounted.append {middle last : Session} {before after : List Turn}
    (earlier : session.Accounted before middle) (later : middle.Accounted after last) :
    session.Accounted (before ++ after) last where
  source which source here := by
    obtain ⟨between, there, delivered⟩ := earlier.source which source here
    obtain ⟨reached, found, onwards⟩ := later.source which between there
    rw [List.flatMap_append]
    exact ⟨reached, found, delivered.append onwards⟩
  sink which sink here := by
    obtain ⟨between, there, received⟩ := earlier.sink which sink here
    obtain ⟨reached, found, onwards⟩ := later.sink which between there
    rw [List.flatMap_append]
    exact ⟨reached, found, received.append onwards⟩

/-- A report that accounts for the selected streams accounts for all. -/
theorem accounted_absorb {exchanged : List Exchange} {report : Report}
    (delivered : session.source.Delivered (Exchange.results exchanged) report.source)
    (received : session.sink.Received (Exchange.characters exchanged) report.sink) :
    session.Accounted [⟨session.input, session.output, exchanged⟩]
      (session.absorb report).1 := by
  have replaced := session.replaced_absorb report
  constructor
  · intro which source here
    rw [replaced.sourceAt, List.flatMap_singleton, Turn.resultsOn]
    by_cases selected : which = session.input
    · have same : session.source = source := by rw [source_eq, ← selected, here]; rfl
      rw [if_pos selected, if_pos selected.symm, here, ← same]
      exact ⟨report.source, rfl, delivered⟩
    · rw [if_neg selected, if_neg (Ne.symm selected), here]
      exact ⟨source, rfl, .nil source⟩
  · intro which sink here
    rw [replaced.sinkAt, List.flatMap_singleton, Turn.charactersOn]
    by_cases selected : which = session.output
    · have same : session.sink = sink := by rw [sink_eq, ← selected, here]; rfl
      rw [if_pos selected, if_pos selected.symm, here, ← same]
      exact ⟨report.sink, rfl, received⟩
    · rw [if_neg selected, if_neg (Ne.symm selected), here]
      exact ⟨sink, rfl, .nil sink⟩

/-- A request is accounted for by its turn, whether it fails or not. -/
theorem accounted_of_perform {failure : Option Failure}
    (performed : session.perform limit readFile request = some (next, failure)) :
    session.Accounted [session.turn limit readFile request] next := by
  rw [turn]
  cases asked : request.task readFile with
  | some attempt =>
      cases attempt with
      | ok task =>
          obtain ⟨code, size⟩ := task
          rw [perform_of_task asked, Option.map_eq_some_iff] at performed
          obtain ⟨report, interpreted, absorbed⟩ := performed
          obtain rfl : (session.absorb report).1 = next := congrArg Prod.fst absorbed
          obtain ⟨delivered, received⟩ := Interpreter.account_of_interpret interpreted
          exact accounted_absorb delivered received
      | error reason =>
          rw [perform_of_task_error asked, Option.some.injEq] at performed
          obtain rfl : (session.absorb _).1 = next := congrArg Prod.fst performed
          exact accounted_absorb (.nil _) (.nil _)
  | none =>
      have selected := eq_of_task_eq_none asked performed
      have silent (which : Selection) :
          [(⟨session.input, session.output, []⟩ : Turn)].flatMap (Turn.resultsOn which) = [] ∧
            [(⟨session.input, session.output, []⟩ : Turn)].flatMap
              (Turn.charactersOn which) = [] := by
        simp [Turn.resultsOn, Turn.charactersOn]
      constructor
      · intro which source here
        rw [(silent which).1, selected]
        exact ⟨source, here, .nil source⟩
      · intro which sink here
        rw [(silent which).2, selected]
        exact ⟨sink, here, .nil sink⟩

theorem accounted_of_performAll {requests : List Request}
    {answers : List (Session × Option Failure)}
    (performed : session.performAll limit readFile requests = some answers) :
    session.Accounted (session.turns limit readFile requests) (session.final answers) := by
  induction requests generalizing session answers with
  | nil =>
      obtain rfl := Option.some.inj performed
      exact .nil session
  | cons request requests ih =>
      rw [performAll] at performed
      rw [turns]
      cases answer : session.perform limit readFile request with
      | none => simp [answer] at performed
      | some outcome =>
          obtain ⟨next, failure⟩ := outcome
          simp only [answer, Option.map_eq_some_iff] at performed ⊢
          obtain ⟨rest, performedRest, rfl⟩ := performed
          rw [← List.singleton_append, final, List.map_cons, List.getLastD_cons]
          exact (accounted_of_perform answer).append (ih performedRest)

end Session

end RingTape
