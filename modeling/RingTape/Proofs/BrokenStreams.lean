/-
# Streams that fail

A sink that is full refuses what is written, and a read may fail. Up to there the run is the
one on a stream that does not fail; there it breaks off, and nothing that came before is lost,
made twice or out of order. Whether the other run would ever have stopped does not matter.
-/

import RingTape.Proofs.Deliveries

namespace RingTape

open Exchange (results characters)

/-! ## Sinks with and without a capacity -/

namespace Sink

/-- The same sink, but full after so many writes. -/
def limitedTo (capacity : Capacity) (sink : Sink) : Sink :=
  { sink with answers := Capacity.answers (some capacity) }

/-- A sink that takes everything, and the same sink with a capacity. -/
def Limited (capacity : Capacity) (sink limited : Sink) : Prop :=
  sink.TakesAll ∧ limited = sink.limitedTo capacity

theorem refusal_limitedTo (capacity : Capacity) (sink : Sink) (text : List Char) :
    (sink.limitedTo capacity).refusal text =
      if sink.writes < capacity.writes then none else some (.stream capacity.error) := by
  rw [refusal]
  exact apply_ite (Option.map Fault.stream) _ _ _

/-- As long as there is room, a capacity makes no difference. -/
theorem streamSimulation (capacity : Capacity) :
    StreamSimulation (fun _ => True) (fun sink _ => sink.writes < capacity.writes)
      (· = ·) (Limited capacity) where
  read := by
    rintro source _ rfl _
    exact ⟨rfl, rfl⟩
  write := by
    rintro sink _ text ⟨takes, rfl⟩ room
    have free : (sink.limitedTo capacity).refusal text = none := by
      rw [refusal_limitedTo, if_pos room]
    rw [write_of_taken (takes.refusal text), write_of_taken free, takes.refusal, free]
    exact ⟨rfl, takes, rfl⟩
  flush := by
    rintro ⟨answers, flushing, written, writes, flushes⟩ _ ⟨takes, rfl⟩
    cases flushing with
    | absent | works | fails => exact ⟨rfl, takes, rfl⟩

end Sink

namespace Exchange

theorem exists_eq_write_of_isSome {exchange : Exchange} (came : exchange.character?.isSome) :
    ∃ character, exchange = .write character none := by
  cases exchange with
  | read result => simp [character?] at came
  | write character refusal =>
      cases refusal with
      | none => exact ⟨character, rfl⟩
      | some fault => simp [character?] at came

theorem exists_eq_read_of_isSome {exchange : Exchange} (came : exchange.result?.isSome) :
    ∃ result, exchange = .read result := by
  cases exchange with
  | read result => exact ⟨result, rfl⟩
  | write character refusal => simp [result?] at came

end Exchange

/-! ## Where a run breaks off -/

namespace Machine

variable {τ : Type} [TapeLike τ] {program : Program}

/-- A run that gets to a step that fails breaks off there, whatever the limit. -/
theorem run_of_failed {machine before last : Machine τ} {fault : Fault} {earlier limit : Nat}
    (reached : machine.after program earlier = some before)
    (failed : before.step program = .failed last fault) (within : earlier < limit) :
    machine.run program limit = some ⟨last, some fault⟩ :=
  run_eq_some_iff.mpr ⟨earlier, within, before, reached, by rw [failed]; rfl⟩

/-- The step that fails makes the last exchange. -/
theorem exchanges_of_failed {machine before last : Machine τ} {fault : Fault}
    {earlier limit : Nat} (reached : machine.after program earlier = some before)
    (failed : before.step program = .failed last fault) (within : earlier < limit) :
    machine.exchanges program limit =
      machine.exchanges program earlier ++ (before.exchange program).toList := by
  have stopped := run_of_failed reached failed (Nat.lt_succ_self earlier)
  obtain ⟨more, rfl⟩ := Nat.exists_eq_add_of_le within
  rw [exchanges_add_of_run stopped, exchanges_succ, reached, Option.bind_some]

/-- A read that fails is made all the same. -/
theorem step_of_failed_read {machine : Machine τ} {fault : Fault}
    (here : program[machine.position]? = some (.action .read))
    (failed : machine.workspace.source.read.1 = .error fault) :
    machine.step program = .failed ⟨machine.position,
      { machine.workspace with source := machine.workspace.source.read.2 }⟩ fault := by
  obtain ⟨position, tape, source, sink⟩ := machine
  refine step_eq_iff.mpr (.broken here ?_)
  simp only at failed
  cases outcome : source.read with
  | mk result rest =>
      rw [outcome] at failed
      obtain rfl : result = .error fault := failed
      simp only [Workspace.perform, outcome]

/-- A run that writes few characters keeps to the room that the sink has. -/
theorem guarded_of_characters {capacity : Capacity} {machine : Machine τ} {count : Nat}
    (takes : machine.workspace.sink.TakesAll)
    (few : machine.workspace.sink.writes +
      (characters (machine.exchanges program count)).length ≤ capacity.writes) :
    Guarded program (Permits program (fun _ => True)
      (fun sink _ => sink.writes < capacity.writes)) machine count :=
  fun _ within _ reached => ⟨fun _ => trivial, fun here =>
    Nat.lt_of_lt_of_le (writes_lt_of_write takes (Nat.le_refl _) within reached here) few⟩

/-- As far as a run is permitted what it does, the run on related streams gets to where it
gets. -/
theorem exists_after_of_guarded {readable : Source → Prop} {writable : Sink → List Char → Prop}
    {sources : Source → Source → Prop} {sinks : Sink → Sink → Prop}
    {first second before : Machine τ} {earlier : Nat}
    (simulation : StreamSimulation readable writable sources sinks)
    (together : first.Together (Workspace.Beside sources sinks) second)
    (guarded : Guarded program (Permits program readable writable) first earlier)
    (reached : first.after program earlier = some before) :
    ∃ other, second.after program earlier = some other ∧
      before.Together (Workspace.Beside sources sinks) other ∧
      second.exchanges program earlier = first.exchanges program earlier := by
  obtain ⟨states, exchanged, _⟩ := simulation.runs together guarded
  have related := states earlier (Nat.le_refl earlier)
  rw [reached] at related
  generalize second.after program earlier = answer at related
  cases related with
  | some inRelation => exact ⟨_, rfl, inRelation, exchanged.symm⟩

/-- Where a run makes one write too many for the limited sink, the write to that one fails. -/
theorem exists_refused_write {capacity : Capacity} {machine limited : Machine τ} {count : Nat}
    (together : machine.Together (Workspace.Beside (· = ·) (Sink.Limited capacity)) limited)
    (unused : machine.workspace.sink.writes = 0)
    (more : capacity.writes < (characters (machine.exchanges program count)).length) :
    ∃ earlier character after other,
      machine.exchanges program count =
        limited.exchanges program earlier ++ .write character none :: after ∧
      (characters (limited.exchanges program earlier)).length = capacity.writes ∧
      limited.after program earlier = some other ∧
      other.exchange program = some (.write character (some (.stream capacity.error))) ∧
      other.step program = .failed ⟨other.position,
        { other.workspace with sink := other.workspace.sink.refuse }⟩
        (.stream capacity.error) := by
  obtain ⟨earlier, within, before, reached, filled, exchange, makes, came⟩ :=
    exists_exchange_of_lt_length Exchange.character? more
  obtain ⟨after, split⟩ := exists_exchanges_eq_append reached within
  obtain ⟨character, rfl⟩ := Exchange.exists_eq_write_of_isSome came
  obtain ⟨here, rfl, _⟩ := exchange_eq_write_iff.mp makes
  have takes := together.workspace.sink.1
  have guarded : Guarded program (Permits program (fun _ => True)
      (fun sink _ => sink.writes < capacity.writes)) machine earlier :=
    guarded_of_characters takes (Nat.le_of_eq (by rw [unused, Nat.zero_add]; exact filled))
  obtain ⟨other, otherReached, inRelation, exchanged⟩ :=
    exists_after_of_guarded (Sink.streamSimulation capacity) together guarded reached
  -- By now the sink was written to just as often as it takes.
  have full : before.workspace.sink.writes = capacity.writes := by
    rw [writes_after takes reached, unused, Nat.zero_add]
    exact filled
  have refused (text : List Char) :
      other.workspace.sink.refusal text = some (.stream capacity.error) := by
    rw [inRelation.workspace.sink.2, Sink.refusal_limitedTo, if_neg (by omega)]
  rw [inRelation.position] at here
  refine ⟨earlier, Char.ofUInt8 before.workspace.current, after, other, ?_, ?_, otherReached,
    ?_, step_of_refusal here (refused _)⟩
  · rw [exchanged, split, makes, Option.toList_some, List.append_assoc, List.singleton_append]
  · rw [exchanged]
    exact filled
  · rw [exchange_of_write here, refused, Workspace.current, Workspace.current,
      inRelation.workspace.tape]

/-- Where a run makes one read more than both sources answer alike, the read from the broken
source fails. -/
theorem exists_failed_read {sound broken : Source} {made count : Nat} {error : StreamError}
    (same : (sound.readMany made).1 = (broken.readMany made).1)
    (breaks : broken.answers (broken.reads + made) = .failure error)
    {tape : τ} {sink : Sink}
    (more : made <
      (results ((start ⟨tape, sound, sink⟩).exchanges program count)).length) :
    ∃ earlier result after other,
      (start ⟨tape, sound, sink⟩).exchanges program count =
        (start ⟨tape, broken, sink⟩).exchanges program earlier ++ .read result :: after ∧
      (results ((start ⟨tape, broken, sink⟩).exchanges program earlier)).length = made ∧
      (start ⟨tape, broken, sink⟩).after program earlier = some other ∧
      other.exchange program = some (.read (.error (.stream error))) ∧
      other.step program = .failed ⟨other.position,
        { other.workspace with source := other.workspace.source.read.2 }⟩ (.stream error) := by
  obtain ⟨earlier, within, before, reached, read, exchange, makes, came⟩ :=
    exists_exchange_of_lt_length Exchange.result? more
  obtain ⟨after, split⟩ := exists_exchanges_eq_append reached within
  obtain ⟨result, rfl⟩ := Exchange.exists_eq_read_of_isSome came
  obtain ⟨here, _⟩ := exchange_eq_read_iff.mp makes
  have together : Together (Workspace.Beside (sound.InStep broken) (· = ·))
      (start ⟨tape, sound, sink⟩) (start ⟨tape, broken, sink⟩) :=
    ⟨rfl, rfl, sound.inStep_self broken, rfl⟩
  obtain ⟨other, otherReached, inRelation, exchanged⟩ :=
    exists_after_of_guarded (Source.streamSimulation same) together
      (guarded_of_results (Nat.le_of_eq read)) reached
  have many : (results ((start ⟨tape, broken, sink⟩).exchanges program earlier)).length =
      made := by
    rw [exchanged]
    exact read
  have source := (ledger_after otherReached).source
  rw [many] at source
  have failed : other.workspace.source.read.1 = .error (.stream error) := by
    rw [source]
    simp only [start, Source.readMany_snd, Source.read, breaks, Chunk.delivered]
  rw [inRelation.position] at here
  refine ⟨earlier, result, after, other, ?_, many, otherReached, ?_,
    step_of_failed_read here failed⟩
  · rw [exchanged, split, makes, Option.toList_some, List.append_assoc, List.singleton_append]
  · rw [exchange_of_read here, failed]

end Machine

/-! ## Interpretations -/

namespace Interpreter

/-- The step behind the first `earlier` ones makes an exchange that breaks the interpretation
off with this error. There were those in `exchanged` before it, and there is nothing after
it: no exchange, no flush, and no event that tells of an end. -/
structure BreaksOff (code : Code) (size : Value) (source : Source) (sink : Sink) (earlier : Nat)
    (exchanged : List Exchange) (last : Exchange) (error : StreamError) (report : Report) :
    Prop where
  interpret : ∀ limit, earlier < limit → interpret limit code size source sink = some report
  exchanges : ∀ limit, earlier < limit →
    exchanges limit code size source sink = exchanged ++ [last]
  source : report.source = (source.readMany (results (exchanged ++ [last])).length).2
  sink : report.sink = sink.took (exchanged ++ [last])
  unfinished : .finished ∉ report.events
  failure : report.failure = some (.brokenOff (.stream error))

section

variable {code : Code} {size : Value} {cells : { cells : Nat // 0 < cells }} {tape : Tape}
  {program : Program} {source otherSource : Source} {sink otherSink : Sink}

theorem exchanges_of_prepare (prepared : prepare code size = .ok (cells, tape, program))
    (limit : Nat) (source : Source) (sink : Sink) :
    exchanges limit code size source sink =
      (Machine.start ⟨tape, source, sink⟩).exchanges program limit := by
  rw [exchanges, prepared]

/-- Only what is prepared makes exchanges. -/
theorem exists_prepare_of_lt_length {α : Type} (kind : Exchange → Option α)
    {bound limit : Nat}
    (more : bound < ((exchanges limit code size source sink).filterMap kind).length) :
    ∃ cells tape program, prepare code size = .ok (cells, tape, program) := by
  rw [exchanges] at more
  split at more
  · simp at more
  · exact ⟨_, _, _, ‹_›⟩

/-- A run that gets to a stream that fails breaks the interpretation off. -/
theorem breaksOff_of_failed (prepared : prepare code size = .ok (cells, tape, program))
    {earlier : Nat} {before last : Machine Tape} {exchange : Exchange} {error : StreamError}
    (reached : (Machine.start ⟨tape, source, sink⟩).after program earlier = some before)
    (makes : before.exchange program = some exchange)
    (failed : before.step program = .failed last (.stream error)) :
    BreaksOff code size source sink earlier
      ((Machine.start ⟨tape, source, sink⟩).exchanges program earlier) exchange error
      (conclude (.running program.size cells.val) ⟨last, some (.stream error)⟩) := by
  have stopped (limit : Nat) (within : earlier < limit) :=
    Machine.run_of_failed reached failed within
  have exchanged (limit : Nat) (within : earlier < limit) :=
    Machine.exchanges_of_failed reached failed within
  simp only [makes, Option.toList_some] at exchanged
  have ledger := Machine.ledger_run (stopped (earlier + 1) (Nat.lt_succ_self earlier))
  rw [exchanged (earlier + 1) (Nat.lt_succ_self earlier)] at ledger
  constructor
  · intro limit within
    rw [interpret_of_prepare prepared, stopped limit within, Option.map_some]
  · intro limit within
    rw [exchanges_of_prepare prepared, exchanged limit within]
  · rw [source_conclude]
    exact ledger.source
  · exact ledger.sink
  · simp [conclude, concludeTelling, Halt.told, Event.ofFault]
  · rw [failure_conclude]
    rfl

/-- The runs of one code on related streams make the same exchanges. -/
theorem exchanges_eq {readable : Source → Prop} {writable : Sink → List Char → Prop}
    {sources : Source → Source → Prop} {sinks : Sink → Sink → Prop}
    (simulation : StreamSimulation readable writable sources sinks)
    (sourcesRelated : sources source otherSource) (sinksRelated : sinks sink otherSink)
    {limit : Nat} (guarded : ∀ cells tape program,
      prepare code size = .ok (cells, tape, program) →
        Guarded program (Machine.Permits program readable writable)
          (.start ⟨tape, source, sink⟩) limit) :
    exchanges limit code size source sink = exchanges limit code size otherSource otherSink := by
  cases prepared : prepare code size with
  | error failure => rw [exchanges, exchanges, prepared]
  | ok made =>
      obtain ⟨cells, tape, program⟩ := made
      rw [exchanges_of_prepare prepared, exchanges_of_prepare prepared]
      have together : Machine.Together (Workspace.Beside sources sinks)
          (.start ⟨tape, source, sink⟩) (.start ⟨tape, otherSource, otherSink⟩) :=
        ⟨rfl, rfl, sourcesRelated, sinksRelated⟩
      exact (simulation.runs together (guarded cells tape program prepared)).2.1

end

section

variable {code : Code} {size : Value}

/-- Where a run on a sink that takes everything makes one write too many, the run on the limited
sink breaks off. -/
theorem exists_breaksOff_of_full {capacity : Capacity} {flushing : Flushing} {source : Source}
    {count : Nat} (more : capacity.writes <
      (characters (exchanges count code size source (.create none flushing))).length) :
    ∃ before character after earlier report,
      exchanges count code size source (.create none flushing) =
        before ++ .write character none :: after ∧
      (characters before).length = capacity.writes ∧
      BreaksOff code size source (.create (some capacity) flushing) earlier before
        (.write character (some (.stream capacity.error))) capacity.error report := by
  obtain ⟨cells, tape, program, prepared⟩ :=
    exists_prepare_of_lt_length Exchange.character? more
  rw [exchanges_of_prepare prepared] at more ⊢
  have together : Machine.Together (Workspace.Beside (· = ·) (Sink.Limited capacity))
      (.start ⟨tape, source, .create none flushing⟩)
      (.start ⟨tape, source, .create (some capacity) flushing⟩) :=
    ⟨rfl, rfl, rfl, Sink.takesAll_create flushing, rfl⟩
  obtain ⟨earlier, character, after, other, split, filled, reached, makes, failed⟩ :=
    Machine.exists_refused_write together rfl more
  exact ⟨_, character, after, earlier, _, split, filled,
    breaksOff_of_failed prepared reached makes failed⟩

/-- A capacity that is not exceeded makes no difference. -/
theorem interpret_limited {capacity : Capacity} {flushing : Flushing} {source : Source}
    {limit : Nat} (few :
      (characters (exchanges limit code size source (.create none flushing))).length ≤
        capacity.writes) :
    exchanges limit code size source (.create (some capacity) flushing) =
        exchanges limit code size source (.create none flushing) ∧
      interpret limit code size source (.create (some capacity) flushing) =
        (interpret limit code size source (.create none flushing)).map fun report =>
          { report with sink := report.sink.limitedTo capacity } := by
  have limited : Sink.Limited capacity (.create none flushing)
      (.create (some capacity) flushing) := ⟨Sink.takesAll_create flushing, rfl⟩
  have guarded cells tape program (prepared : prepare code size = .ok (cells, tape, program)) :
      Guarded program (Machine.Permits program (fun _ => True)
        (fun sink _ => sink.writes < capacity.writes))
        (.start ⟨tape, source, .create none flushing⟩) limit := by
    rw [exchanges_of_prepare prepared] at few
    exact Machine.guarded_of_characters (Sink.takesAll_create flushing)
      (Nat.le_trans (Nat.le_of_eq (Nat.zero_add _)) few)
  have simulation := Sink.streamSimulation capacity
  refine ⟨(exchanges_eq simulation rfl limited guarded).symm, ?_⟩
  have related := simulation.interpret rfl limited limit code size guarded
  generalize interpret limit code size source (.create none flushing) = plain at related ⊢
  generalize interpret limit code size source (.create (some capacity) flushing) = answer
    at related ⊢
  cases related with
  | none => rfl
  | @some report other beside =>
      obtain ⟨_, _, _, _⟩ := report
      obtain ⟨_, _, _, _⟩ := other
      obtain ⟨rfl, ⟨_, rfl⟩, rfl, rfl⟩ := beside
      rfl

variable {sound broken : Source} {made : Nat}

/-- Where a run makes one read more than both sources answer alike, the run on the broken source
breaks off. -/
theorem exists_breaksOff_of_failure {error : StreamError} {sink : Sink} {count : Nat}
    (same : (sound.readMany made).1 = (broken.readMany made).1)
    (breaks : broken.answers (broken.reads + made) = .failure error)
    (more : made < (results (exchanges count code size sound sink)).length) :
    ∃ before result after earlier report,
      exchanges count code size sound sink = before ++ .read result :: after ∧
      (results before).length = made ∧
      BreaksOff code size broken sink earlier before (.read (.error (.stream error))) error
        report := by
  obtain ⟨cells, tape, program, prepared⟩ := exists_prepare_of_lt_length Exchange.result? more
  rw [exchanges_of_prepare prepared] at more ⊢
  obtain ⟨earlier, result, after, other, split, many, reached, makes, failed⟩ :=
    Machine.exists_failed_read same breaks more
  exact ⟨_, result, after, earlier, _, split, many,
    breaksOff_of_failed prepared reached makes failed⟩

/-- A failure that is not read makes no difference. -/
theorem interpret_unread (same : (sound.readMany made).1 = (broken.readMany made).1)
    {sink : Sink} {limit : Nat}
    (few : (results (exchanges limit code size sound sink)).length ≤ made) :
    exchanges limit code size broken sink = exchanges limit code size sound sink ∧
      Option.Rel (Report.Beside (sound.InStep broken) (· = ·))
        (interpret limit code size sound sink) (interpret limit code size broken sink) := by
  have inStep := sound.inStep_self broken
  have guarded cells tape program (prepared : prepare code size = .ok (cells, tape, program)) :
      Guarded program (Machine.Permits program
        (fun source => source.reads < sound.reads + made) (fun _ _ => True))
        (.start ⟨tape, sound, sink⟩) limit := by
    rw [exchanges_of_prepare prepared] at few
    exact Machine.guarded_of_results few
  have simulation := Source.streamSimulation same
  exact ⟨(exchanges_eq simulation inStep rfl guarded).symm,
    simulation.interpret inStep rfl limit code size guarded⟩

end

/-- A stream that fails breaks a run off just where it fails. Suppose that a run on a sink that
takes everything, whether it ever stops or not, makes one write more than a limited sink takes.
Then the run on the limited sink makes the same exchanges up to that write, which fails, and
nothing after it: so it has written just the characters that the sink takes, and has made the
reads that the other run made before. A run that writes no more than that, whether it stops or
not, is the same on the limited sink. Likewise with the reads from a source that fails, compared
with any source that delivers the same before. -/
theorem breaks_off_where_stream_fails (code : Code) (size : Value) :
    (∀ (source : Source) (flushing : Flushing) (capacity : Capacity),
      let plain := Sink.create none flushing
      let limited := Sink.create (some capacity) flushing
      (∀ count,
        capacity.writes < (characters (exchanges count code size source plain)).length →
          ∃ before character after earlier report,
            exchanges count code size source plain =
              before ++ .write character none :: after ∧
            (characters before).length = capacity.writes ∧
            BreaksOff code size source limited earlier before
              (.write character (some (.stream capacity.error))) capacity.error report) ∧
      (∀ limit,
        (characters (exchanges limit code size source plain)).length ≤ capacity.writes →
          exchanges limit code size source limited = exchanges limit code size source plain ∧
          interpret limit code size source limited =
            (interpret limit code size source plain).map fun report =>
              { report with sink := report.sink.limitedTo capacity })) ∧
    (∀ (sound broken : Source) (made : Nat) (error : StreamError) (sink : Sink),
      (sound.readMany made).1 = (broken.readMany made).1 →
      broken.answers (broken.reads + made) = .failure error →
      (∀ count, made < (results (exchanges count code size sound sink)).length →
        ∃ before result after earlier report,
          exchanges count code size sound sink = before ++ .read result :: after ∧
          (results before).length = made ∧
          BreaksOff code size broken sink earlier before (.read (.error (.stream error)))
            error report) ∧
      (∀ limit, (results (exchanges limit code size sound sink)).length ≤ made →
        exchanges limit code size broken sink = exchanges limit code size sound sink ∧
        Option.Rel (Report.Beside (sound.InStep broken) (· = ·))
          (interpret limit code size sound sink) (interpret limit code size broken sink))) := by
  refine ⟨fun source flushing capacity => ⟨?_, ?_⟩,
    fun sound broken made error sink same breaks => ⟨?_, ?_⟩⟩
  · intro count more
    exact exists_breaksOff_of_full more
  · intro limit few
    exact interpret_limited few
  · intro count more
    exact exists_breaksOff_of_failure same breaks more
  · intro limit few
    exact interpret_unread same few

/-- `+[.,]` never stops on an empty source. A sink for two characters breaks it off at its third
write, and a source that fails at its second read breaks it off there; until then neither makes
a difference. -/
theorem breaks_off_where_stream_fails_of_endless_echo :
    let echo := Code.text "+[.,]"
    let one := Value.integer 1
    let plain := Sink.create none .works
    let full : StreamError := ⟨.os, "full"⟩
    let gone : StreamError := ⟨.os, "gone"⟩
    let limited := Sink.create (some ⟨2, full⟩) .works
    let broken := Source.ofChunks [.absent, .failure gone]
    (2 < (characters (exchanges 9 echo one .empty plain)).length ∧
      ∃ before character earlier report, (characters before).length = 2 ∧
        BreaksOff echo one .empty limited earlier before (.write character (some (.stream full)))
          full report) ∧
    ((characters (exchanges 8 echo one .empty plain)).length ≤ 2 ∧
      exchanges 8 echo one .empty limited = exchanges 8 echo one .empty plain) ∧
    ((Source.empty.readMany 1).1 = (broken.readMany 1).1 ∧
      broken.answers (broken.reads + 1) = .failure gone ∧
      (1 < (results (exchanges 7 echo one .empty plain)).length ∧
        ∃ before earlier report, (results before).length = 1 ∧
          BreaksOff echo one broken plain earlier before (.read (.error (.stream gone))) gone
            report) ∧
      ((results (exchanges 6 echo one .empty plain)).length ≤ 1 ∧
        exchanges 6 echo one broken plain = exchanges 6 echo one .empty plain)) := by
  intro echo one plain full gone limited broken
  obtain ⟨sinks, sources⟩ := breaks_off_where_stream_fails echo one
  obtain ⟨overflows, roomy⟩ := sinks .empty .works ⟨2, full⟩
  have exceeded : 2 < (characters (exchanges 9 echo one .empty plain)).length :=
    Nat.lt_of_lt_of_eq (Nat.lt_succ_self 2) rfl
  have room : (characters (exchanges 8 echo one .empty plain)).length ≤ 2 := Nat.le_of_eq rfl
  have same : (Source.empty.readMany 1).1 = (broken.readMany 1).1 := rfl
  have breaks : broken.answers (broken.reads + 1) = .failure gone := rfl
  have again : 1 < (results (exchanges 7 echo one .empty plain)).length :=
    Nat.lt_of_lt_of_eq (Nat.lt_succ_self 1) rfl
  have once : (results (exchanges 6 echo one .empty plain)).length ≤ 1 := Nat.le_of_eq rfl
  obtain ⟨failing, sound⟩ := sources .empty broken 1 gone plain same breaks
  obtain ⟨before, character, _, earlier, report, _, two, breaksOff⟩ := overflows 9 exceeded
  obtain ⟨reading, _, _, step, other, _, single, fails⟩ := failing 7 again
  exact ⟨⟨exceeded, before, character, earlier, report, two, breaksOff⟩,
    ⟨room, (roomy 8 room).1⟩, same, breaks,
    ⟨again, reading, step, other, single, fails⟩, once, (sound 6 once).1⟩

end Interpreter

end RingTape
