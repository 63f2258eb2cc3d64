/-
# Runs on related streams

Two runs of one program on equal tapes stay together as long as their streams answer alike:
as long as the reads they make have the same results and the writes the same refusals. How
long that is can be read off the exchanges, by counting the reads and the writes.
-/

import RingTape.Interpreter
import RingTape.Proofs.Exchanges
import RingTape.Proofs.Lockstep

namespace RingTape

/-- Workspaces with the same tape and related streams. -/
structure Workspace.Beside {τ : Type} (sources : Source → Source → Prop)
    (sinks : Sink → Sink → Prop) (first second : Workspace τ) : Prop where
  tape : first.tape = second.tape
  source : sources first.source second.source
  sink : sinks first.sink second.sink

/-- Reports of the same events and failure that leave related streams behind. -/
structure Report.Beside (sources : Source → Source → Prop) (sinks : Sink → Sink → Prop)
    (first second : Report) : Prop where
  source : sources first.source second.source
  sink : sinks first.sink second.sink
  events : first.events = second.events
  failure : first.failure = second.failure

/-- Related streams answer alike, and what is done to them leaves them related, as long as the
first source is readable when it is read and the first sink is writable with the text that is
written to it. -/
structure StreamSimulation (readable : Source → Prop) (writable : Sink → List Char → Prop)
    (sources : Source → Source → Prop) (sinks : Sink → Sink → Prop) : Prop where
  read : ∀ {first second}, sources first second → readable first →
    first.read.1 = second.read.1 ∧ sources first.read.2 second.read.2
  write : ∀ {first second text}, sinks first second → writable first text →
    first.refusal text = second.refusal text ∧
      sinks (first.write text).2 (second.write text).2
  flush : ∀ {first second}, sinks first second →
    first.flush.1 = second.flush.1 ∧ sinks first.flush.2 second.flush.2

/-- The next step reads only a readable source and writes only to a writable sink. -/
def Machine.Permits {τ : Type} [TapeLike τ] (program : Program) (readable : Source → Prop)
    (writable : Sink → List Char → Prop) (machine : Machine τ) : Prop :=
  (program[machine.position]? = some (.action .read) → readable machine.workspace.source) ∧
    (program[machine.position]? = some (.action .write) →
      writable machine.workspace.sink machine.workspace.symbol)

namespace StreamSimulation

variable {τ : Type} [TapeLike τ] {program : Program} {readable : Source → Prop}
  {writable : Sink → List Char → Prop} {sources : Source → Source → Prop}
  {sinks : Sink → Sink → Prop}

/-- A program that keeps to readable sources and writable sinks cannot tell workspaces with
related streams apart. -/
theorem workspaces (simulation : StreamSimulation readable writable sources sinks)
    (program : Program) :
    WorkspaceSimulation program
      (fun machine : Machine τ => machine.Permits program readable writable)
      (Workspace.Beside sources sinks) where
  current := by
    rintro position ⟨tape, source, sink⟩ ⟨_, otherSource, otherSink⟩ ⟨rfl, _, _⟩ _
    rfl
  perform := by
    rintro position ⟨tape, source, sink⟩ ⟨_, otherSource, otherSink⟩ action
      ⟨rfl, sourcesRelated, sinksRelated⟩ ⟨readPermitted, writePermitted⟩ here
    cases action with
    | right | left | increment | decrement | comment =>
        exact ⟨⟨rfl, sourcesRelated, sinksRelated⟩, rfl⟩
    | write =>
        obtain ⟨sameRefusal, written⟩ := simulation.write sinksRelated (writePermitted here)
        rw [Workspace.perform_write, Workspace.perform_write]
        exact ⟨⟨rfl, sourcesRelated, written⟩, sameRefusal⟩
    | read =>
        have answered : source.read.1 = otherSource.read.1 ∧
            sources source.read.2 otherSource.read.2 :=
          simulation.read sourcesRelated (readPermitted here)
        simp only [Workspace.perform]
        generalize source.read = answer at answered ⊢
        generalize otherSource.read = otherAnswer at answered ⊢
        obtain ⟨result, rest⟩ := answer
        obtain ⟨_, otherRest⟩ := otherAnswer
        obtain ⟨rfl, restRelated⟩ := answered
        cases result with
        | ok byte => exact ⟨⟨rfl, restRelated, sinksRelated⟩, rfl⟩
        | error fault => exact ⟨⟨rfl, restRelated, sinksRelated⟩, rfl⟩

theorem exchange_eq (simulation : StreamSimulation readable writable sources sinks)
    {first second : Machine τ} (together : first.Together (Workspace.Beside sources sinks) second)
    (permits : first.Permits program readable writable) :
    first.exchange program = second.exchange program := by
  obtain ⟨position, tape, source, sink⟩ := first
  obtain ⟨_, _, otherSource, otherSink⟩ := second
  obtain ⟨rfl, rfl, sourcesRelated, sinksRelated⟩ := together
  obtain ⟨readPermitted, writePermitted⟩ := permits
  cases here : program[position]? with
  | none => simp only [Machine.exchange, here]
  | some instruction =>
      cases instruction with
      | loopStart | loopEnd => simp only [Machine.exchange, here]
      | action action =>
          simp only [Machine.exchange, here]
          cases action with
          | right | left | increment | decrement | comment => rfl
          | write =>
              have sameRefusal := (simulation.write sinksRelated (writePermitted here)).1
              exact congrArg some (congrArg (Exchange.write _) sameRefusal)
          | read =>
              have sameResult : source.read.1 = otherSource.read.1 :=
                (simulation.read sourcesRelated (readPermitted here)).1
              simp only [Workspace.exchange, sameResult]

/-- Runs on related streams go through the same positions and tapes, make the same exchanges
and stop in the same way, as long as the first of them is permitted what it does. -/
theorem runs (simulation : StreamSimulation readable writable sources sinks)
    {first second : Machine τ} (together : first.Together (Workspace.Beside sources sinks) second)
    {count : Nat}
    (guarded : Guarded program (Machine.Permits program readable writable) first count) :
    (∀ earlier, earlier ≤ count →
      Option.Rel (Machine.Together (Workspace.Beside sources sinks))
        (first.after program earlier) (second.after program earlier)) ∧
    first.exchanges program count = second.exchanges program count ∧
    Option.Rel (Halt.Related (Machine.Together (Workspace.Beside sources sinks)))
      (first.run program count) (second.run program count) := by
  have workspaces : WorkspaceSimulation program
      (fun machine : Machine τ => machine.Permits program readable writable)
      (Workspace.Beside sources sinks) := simulation.workspaces program
  have lockstep := workspaces.lockstep
  refine ⟨?_, ?_, ?_⟩
  · intro earlier within
    exact lockstep.after together (guarded.of_le within)
  · apply lockstep.exchanges _ together guarded
    intro first second inRelation permits
    exact simulation.exchange_eq inRelation permits
  · exact lockstep.run together guarded

omit [TapeLike τ] in
/-- Runs that stopped in the same way on related streams give related reports. -/
theorem conclude (simulation : StreamSimulation readable writable sources sinks)
    {first second : Halt τ}
    (inRelation : Halt.Related (Machine.Together (Workspace.Beside sources sinks)) first second)
    (begun : Event) :
    (Interpreter.conclude begun first).Beside sources sinks
      (Interpreter.conclude begun second) := by
  obtain ⟨⟨position, tape, source, sink⟩, fault⟩ := first
  obtain ⟨⟨_, _, otherSource, otherSink⟩, _⟩ := second
  obtain ⟨⟨rfl, rfl, sourcesRelated, sinksRelated⟩, rfl⟩ := inRelation
  cases fault with
  | some fault => exact ⟨sourcesRelated, sinksRelated, rfl, rfl⟩
  | none =>
      have flushed : sink.flush.1 = otherSink.flush.1 ∧
          sinks sink.flush.2 otherSink.flush.2 := simulation.flush sinksRelated
      simp only [Interpreter.conclude_of_ended, Interpreter.finish]
      generalize sink.flush = answer at flushed ⊢
      generalize otherSink.flush = otherAnswer at flushed ⊢
      obtain ⟨result, flushedSink⟩ := answer
      obtain ⟨_, otherFlushedSink⟩ := otherAnswer
      obtain ⟨rfl, flushedRelated⟩ := flushed
      cases result with
      | none => exact ⟨sourcesRelated, flushedRelated, rfl, rfl⟩
      | some fault => exact ⟨sourcesRelated, flushedRelated, rfl, rfl⟩

/-- Interpretations on related streams give related reports, if the run of what is prepared is
permitted what it does. -/
theorem interpret (simulation : StreamSimulation readable writable sources sinks)
    {source otherSource : Source} {sink otherSink : Sink}
    (sourcesRelated : sources source otherSource) (sinksRelated : sinks sink otherSink)
    (limit : Nat) (code : Code) (size : Value)
    (guarded : ∀ cells tape program,
      Interpreter.prepare code size = .ok (cells, tape, program) →
        Guarded program (Machine.Permits program readable writable)
          (.start ⟨tape, source, sink⟩) limit) :
    Option.Rel (Report.Beside sources sinks)
      (Interpreter.interpret limit code size source sink)
      (Interpreter.interpret limit code size otherSource otherSink) := by
  cases prepared : Interpreter.prepare code size with
  | error failure =>
      rw [Interpreter.interpret_of_refuse prepared, Interpreter.interpret_of_refuse prepared]
      exact .some ⟨sourcesRelated, sinksRelated, rfl, rfl⟩
  | ok made =>
      obtain ⟨cells, tape, program⟩ := made
      rw [Interpreter.interpret_of_prepare prepared, Interpreter.interpret_of_prepare prepared]
      have together : Machine.Together (Workspace.Beside sources sinks)
          (.start ⟨tape, source, sink⟩) (.start ⟨tape, otherSource, otherSink⟩) :=
        ⟨rfl, rfl, sourcesRelated, sinksRelated⟩
      obtain ⟨_, _, stopped⟩ := simulation.runs together (guarded cells tape program prepared)
      generalize (Machine.start ⟨tape, source, sink⟩).run program limit = first at stopped ⊢
      generalize (Machine.start ⟨tape, otherSource, otherSink⟩).run program limit = second
        at stopped ⊢
      cases stopped with
      | none => exact .none
      | some halted => exact .some (simulation.conclude halted _)

end StreamSimulation

/-! ## Counting reads and writes -/

namespace Machine

variable {τ : Type} [TapeLike τ] {program : Program}

theorem exchange_of_read {machine : Machine τ}
    (here : program[machine.position]? = some (.action .read)) :
    machine.exchange program = some (.read machine.workspace.source.read.1) :=
  exchange_of_action here

theorem exchange_of_write {machine : Machine τ}
    (here : program[machine.position]? = some (.action .write)) :
    machine.exchange program = some (.write (Char.ofUInt8 machine.workspace.current)
      (machine.workspace.sink.refusal machine.workspace.symbol)) :=
  exchange_of_action here

/-- A write that the sink refuses breaks the run off. -/
theorem step_of_refusal {machine : Machine τ} {fault : Fault}
    (here : program[machine.position]? = some (.action .write))
    (refused : machine.workspace.sink.refusal machine.workspace.symbol = some fault) :
    machine.step program = .failed ⟨machine.position,
      { machine.workspace with sink := machine.workspace.sink.refuse }⟩ fault := by
  refine step_eq_iff.mpr (.broken here ?_)
  rw [Workspace.perform_write, refused, Sink.write_of_refusal refused]

/-- Only an action makes an exchange, and it is the exchange of that action. -/
theorem exists_action_of_exchange {machine : Machine τ} {exchange : Exchange}
    (makes : machine.exchange program = some exchange) :
    ∃ action, program[machine.position]? = some (.action action) ∧
      machine.workspace.exchange action = some exchange := by
  rw [Machine.exchange] at makes
  split at makes
  · exact ⟨_, ‹_›, makes⟩
  · simp at makes

theorem exchange_eq_read_iff {machine : Machine τ} {result : Except Fault UInt8} :
    machine.exchange program = some (.read result) ↔
      program[machine.position]? = some (.action .read) ∧
        result = machine.workspace.source.read.1 := by
  refine ⟨fun makes => ?_, fun ⟨here, same⟩ => by rw [exchange_of_read here, same]⟩
  obtain ⟨action, here, made⟩ := exists_action_of_exchange makes
  cases action with
  | read =>
      simp only [Workspace.exchange, Option.some.injEq, Exchange.read.injEq] at made
      exact ⟨here, made.symm⟩
  | write | right | left | increment | decrement | comment => simp [Workspace.exchange] at made

theorem exchange_eq_write_iff {machine : Machine τ} {character : Char}
    {refusal : Option Fault} :
    machine.exchange program = some (.write character refusal) ↔
      program[machine.position]? = some (.action .write) ∧
        character = Char.ofUInt8 machine.workspace.current ∧
        refusal = machine.workspace.sink.refusal machine.workspace.symbol := by
  refine ⟨fun makes => ?_, fun ⟨here, written, refused⟩ => by
    rw [exchange_of_write here, written, refused]⟩
  obtain ⟨action, here, made⟩ := exists_action_of_exchange makes
  cases action with
  | write =>
      simp only [Workspace.exchange, Option.some.injEq, Exchange.write.injEq] at made
      exact ⟨here, made.1.symm, made.2.symm⟩
  | read | right | left | increment | decrement | comment => simp [Workspace.exchange] at made

/-- In as many steps as make `bound` reads at most, the source is only read when it was read
fewer times than that. -/
theorem reads_lt_of_read {machine middle : Machine τ} {earlier count bound : Nat}
    (few : (Exchange.results (machine.exchanges program count)).length ≤ bound)
    (within : earlier < count) (reached : machine.after program earlier = some middle)
    (here : program[middle.position]? = some (.action .read)) :
    middle.workspace.source.reads < machine.workspace.source.reads + bound := by
  obtain ⟨rest, split⟩ := exists_exchanges_eq_append reached within
  rw [split, exchange_of_read here] at few
  simp only [Exchange.results_append, List.length_append, Option.toList_some] at few
  have reads := (ledger_after reached).reads
  have one : (Exchange.results [Exchange.read middle.workspace.source.read.1]).length = 1 := rfl
  omega

/-- No run changes what its sink answers. -/
theorem answers_sink_after {machine middle : Machine τ} {count : Nat}
    (reached : machine.after program count = some middle) :
    middle.workspace.sink.answers = machine.workspace.sink.answers := by
  rw [(ledger_after reached).sink]
  rfl

/-- A sink that takes everything gets one character for each write. -/
theorem writes_exchanges {machine : Machine τ} (takes : machine.workspace.sink.TakesAll)
    (count : Nat) :
    Exchange.writes (machine.exchanges program count) =
      (Exchange.characters (machine.exchanges program count)).length := by
  induction count with
  | zero => rfl
  | succ count ih =>
      rw [exchanges_succ, Exchange.characters_append, List.length_append, ← ih, Exchange.writes,
        Exchange.writes, List.countP_append, Nat.add_left_cancel_iff]
      cases reached : machine.after program count with
      | none => rfl
      | some middle =>
          have stillTakes : middle.workspace.sink.TakesAll := by
            intro index text
            rw [answers_sink_after reached, takes]
          rw [Option.bind_some]
          cases makes : middle.exchange program with
          | none => rfl
          | some exchange =>
              cases exchange with
              | read => rfl
              | write character refusal =>
                  obtain ⟨_, _, rfl⟩ := exchange_eq_write_iff.mp makes
                  rw [stillTakes.refusal]
                  rfl

/-- A sink that takes everything was written to once for each character that came in. -/
theorem writes_after {machine middle : Machine τ} (takes : machine.workspace.sink.TakesAll)
    {count : Nat} (reached : machine.after program count = some middle) :
    middle.workspace.sink.writes = machine.workspace.sink.writes +
      (Exchange.characters (machine.exchanges program count)).length := by
  rw [(ledger_after reached).sink, ← writes_exchanges takes]
  rfl

/-- What is written to a sink that takes everything is the next of the characters that come in. -/
theorem getElem?_characters_of_write {machine middle : Machine τ} {earlier count : Nat}
    (takes : machine.workspace.sink.TakesAll) (within : earlier < count)
    (reached : machine.after program earlier = some middle)
    (here : program[middle.position]? = some (.action .write)) :
    (Exchange.characters (machine.exchanges program count))[(Exchange.characters
      (machine.exchanges program earlier)).length]? =
        some (Char.ofUInt8 middle.workspace.current) := by
  have taken : middle.workspace.sink.refusal middle.workspace.symbol = none := by
    rw [Sink.refusal, answers_sink_after reached, takes]
    rfl
  obtain ⟨rest, split⟩ := exists_exchanges_eq_append reached within
  rw [split, exchange_of_write here, taken, List.append_assoc, Exchange.characters_append,
    List.getElem?_append_right (Nat.le_refl _), Nat.sub_self]
  rfl

/-- In as many steps as write `bound` characters at most, a sink that takes everything is only
written to when it was written to fewer times than that. -/
theorem writes_lt_of_write {machine middle : Machine τ} {earlier count bound : Nat}
    (takes : machine.workspace.sink.TakesAll)
    (few : (Exchange.characters (machine.exchanges program count)).length ≤ bound)
    (within : earlier < count) (reached : machine.after program earlier = some middle)
    (here : program[middle.position]? = some (.action .write)) :
    middle.workspace.sink.writes < machine.workspace.sink.writes + bound := by
  have next := getElem?_characters_of_write takes within reached here
  have inside := (List.getElem?_eq_some_iff.mp next).1
  have made := writes_after takes reached
  omega

/-- The reads and the writes of an interpretation are those of its run. -/
theorem length_exchanges_of_interpret {code : Code} {size : Value}
    {cells : { cells : Nat // 0 < cells }} {tape : Tape}
    (prepared : Interpreter.prepare code size = .ok (cells, tape, program)) {limit : Nat}
    {source : Source} {sink : Sink} {report : Report}
    (interpreted : Interpreter.interpret limit code size source sink = some report) :
    report.source.reads = source.reads + (Exchange.results
        ((start ⟨tape, source, sink⟩).exchanges program limit)).length ∧
      report.sink.written.size = sink.written.size + (Exchange.characters
        ((start ⟨tape, source, sink⟩).exchanges program limit)).length := by
  rw [Interpreter.interpret_of_prepare prepared, Option.map_eq_some_iff] at interpreted
  obtain ⟨halt, stopped, rfl⟩ := interpreted
  have ledger := ledger_run stopped
  have written := congrArg List.length ledger.written
  rw [List.length_append, Array.length_toList, Array.length_toList] at written
  rw [Interpreter.source_conclude, Interpreter.written_conclude]
  exact ⟨ledger.reads, written⟩

end Machine

end RingTape
