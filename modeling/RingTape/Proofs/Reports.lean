/-
# Reports of runs

The report of an interpretation that was not refused accounts for its run. The source was read
once for each read that the run came to, and the sink has one character more for each write that
it completed. What was logged behind the first line, whether the sink was flushed, and what the
interpretation failed with go together in five ways, by the step at which the run ended.
-/

import RingTape.Proofs.InRange
import RingTape.Proofs.Streams

namespace RingTape

/-! ## Elements of the code -/

namespace Code

/-- The number of elements of the code, if it is a sequence. -/
def length? : Code → Option Nat
  | text characters => some characters.toList.length
  | pieces elements => some elements.length
  | bytes elements => some elements.length
  | unsized _ => none

/-- The element of the code at a position, where it is a single character. -/
def characterAt? (position : Nat) : Code → Option Char
  | text characters => characters.toList[position]?
  | pieces elements =>
    match elements[position]? with
    | some (.text characters) =>
      match characters.toList with
      | [character] => some character
      | _ => none
    | _ => none
  | bytes _ => none
  | unsized _ => none

end Code

/-- The instruction that a bracket is. -/
def Bracket.instruction : Bracket → Instruction
  | opening => .loopStart
  | closing => .loopEnd

/-- Only the bracket itself asks for what the bracket does. -/
theorem Instruction.eq_symbol_of_ofChar {character : Char} {bracket : Bracket}
    (asks : ofChar character = bracket.instruction) : character = bracket.symbol := by
  unfold ofChar at asks
  split at asks
  case h_7 | h_8 => cases bracket <;> first | rfl | cases asks
  all_goals cases bracket <;> cases asks

/-- A piece that asks for what a bracket does is a text of just this bracket. -/
theorem Instruction.exists_text_of_ofValue {value : Value} {bracket : Bracket}
    (asks : ofValue value = bracket.instruction) :
    ∃ characters, value = .text characters ∧ characters.toList = [bracket.symbol] := by
  cases value with
  | text characters =>
      rw [ofValue, ofText] at asks
      split at asks
      · rename_i character spelled
        exact ⟨characters, rfl, by rw [spelled, eq_symbol_of_ofChar asks]⟩
      · cases bracket <;> cases asks
  | null | boolean | integer | floating | list | record | index | fixedBoolean
  | fixedInteger | fixedFloating => cases bracket <;> cases asks

namespace Code

variable {code : Code} {program : Program}

theorem length?_of_program (given : code.program = .ok program) :
    code.length? = some program.size := by
  cases code with
  | text characters =>
      obtain rfl := Except.ok.inj given
      rw [length?, Program.size_ofText]
  | pieces elements | bytes elements =>
      obtain rfl := Except.ok.inj given
      simp [length?]
  | unsized kind => cases given

/-- Where the program has a bracket, the code has its character. -/
theorem characterAt?_of_bracket (given : code.program = .ok program) {position : Nat}
    {bracket : Bracket} (here : program[position]? = some bracket.instruction) :
    code.characterAt? position = some bracket.symbol := by
  cases code with
  | text characters =>
      obtain rfl := Except.ok.inj given
      simp only [Program.ofText, List.getElem?_toArray, List.getElem?_map,
        Option.map_eq_some_iff] at here
      obtain ⟨character, there, asks⟩ := here
      rw [characterAt?, there, Instruction.eq_symbol_of_ofChar asks]
  | pieces elements =>
      obtain rfl := Except.ok.inj given
      simp only [List.getElem?_toArray, List.getElem?_map, Option.map_eq_some_iff] at here
      obtain ⟨value, there, asks⟩ := here
      obtain ⟨characters, rfl, spelled⟩ := Instruction.exists_text_of_ofValue asks
      simp only [characterAt?, there, spelled]
  | bytes elements =>
      obtain rfl := Except.ok.inj given
      simp only [List.getElem?_toArray, List.getElem?_map, Option.map_eq_some_iff] at here
      obtain ⟨_, _, asks⟩ := here
      cases bracket <;> cases asks
  | unsized kind => cases given

end Code

/-! ## States of a run -/

namespace Machine

variable {τ : Type} [TapeLike τ] {program : Program} {machine : Machine τ}

/-- The states in which the first `count` steps begin, or all when there are fewer. -/
def visited (program : Program) : (count : Nat) → Machine τ → List (Machine τ)
  | 0, _ => []
  | count + 1, machine =>
    machine ::
      match machine.step program with
      | .advanced next => visited program count next
      | _ => []

/-- Whether the next step carries this action out, or breaks off in it. -/
def executes (program : Program) (action : Action) (machine : Machine τ) : Bool :=
  program[machine.position]? = some (.action action)

/-- Whether the next step carries this action out and the run goes on. -/
def completes (program : Program) (action : Action) (machine : Machine τ) : Bool :=
  machine.executes program action &&
    match machine.step program with
    | .advanced _ => true
    | _ => false

/-- The exchanges of a run are those of the states that it visits. -/
theorem exchanges_eq_filterMap_visited (program : Program) (count : Nat) (machine : Machine τ) :
    machine.exchanges program count =
      (machine.visited program count).filterMap (exchange program) := by
  induction count generalizing machine with
  | zero => rfl
  | succ count ih =>
      rw [exchanges, visited, List.filterMap_cons]
      cases machine.step program with
      | advanced next =>
          simp only [ih next]
          cases machine.exchange program <;> rfl
      | ended | failed => cases machine.exchange program <;> rfl

/-- A step passes a result just when it carries out a read. -/
theorem isSome_bind_result? :
    ((machine.exchange program).bind Exchange.result?).isSome = machine.executes program .read := by
  rw [Bool.eq_iff_iff, executes, decide_eq_true_eq]
  constructor
  · intro came
    obtain ⟨result, made⟩ := Option.isSome_iff_exists.mp came
    obtain ⟨exchange, makes, delivers⟩ := Option.bind_eq_some_iff.mp made
    cases exchange with
    | read => exact (exchange_eq_read_iff.mp makes).1
    | write => cases delivers
  · intro here
    rw [exchange_of_read here]
    rfl

/-- A step passes a character just when it completes a write. -/
theorem isSome_bind_character? :
    ((machine.exchange program).bind Exchange.character?).isSome =
      machine.completes program .write := by
  by_cases here : program[machine.position]? = some (.action .write)
  · rw [exchange_of_write here, completes, executes, here]
    cases refused : machine.workspace.sink.refusal machine.workspace.symbol with
    | none =>
        have performed := Workspace.perform_write machine.workspace
        rw [refused] at performed
        rw [step_eq_iff.mpr (.acted here performed)]
        rfl
    | some fault =>
        rw [step_of_refusal here refused]
        rfl
  · have silent : (machine.exchange program).bind Exchange.character? = none := by
      rw [Option.bind_eq_none_iff]
      intro exchange makes
      cases exchange with
      | read => rfl
      | write => exact absurd (exchange_eq_write_iff.mp makes).1 here
    simp [silent, completes, executes, here]

/-- A run makes a read each time that it comes to one. -/
theorem length_results_exchanges (program : Program) (count : Nat) (machine : Machine τ) :
    (Exchange.results (machine.exchanges program count)).length =
      (machine.visited program count).countP (executes program .read) := by
  rw [Exchange.results, exchanges_eq_filterMap_visited, List.filterMap_filterMap,
    List.length_filterMap_eq_countP]
  exact List.countP_congr fun state _ => by rw [isSome_bind_result?]

/-- A run writes a character each time that it completes a write. -/
theorem length_characters_exchanges (program : Program) (count : Nat) (machine : Machine τ) :
    (Exchange.characters (machine.exchanges program count)).length =
      (machine.visited program count).countP (completes program .write) := by
  rw [Exchange.characters, exchanges_eq_filterMap_visited, List.filterMap_filterMap,
    List.length_filterMap_eq_countP]
  exact List.countP_congr fun state _ => by rw [isSome_bind_character?]

/-- A run that stops does so in the last state that it visits. -/
theorem exists_last_of_run {limit : Nat} {halt : Halt τ}
    (stopped : machine.run program limit = some halt) :
    ∃ earlier last, machine.visited program limit = earlier ++ [last] ∧
      (last.step program).halt? = some halt := by
  induction limit generalizing machine with
  | zero => simp [run] at stopped
  | succ limit ih =>
      rw [run] at stopped
      rw [visited]
      cases outcome : machine.step program with
      | ended last =>
          rw [outcome] at stopped
          exact ⟨[], machine, rfl, by rw [outcome]; exact stopped⟩
      | failed last fault =>
          rw [outcome] at stopped
          exact ⟨[], machine, rfl, by rw [outcome]; exact stopped⟩
      | advanced next =>
          simp only [outcome] at stopped ⊢
          obtain ⟨earlier, last, split, halted⟩ := ih stopped
          exact ⟨machine :: earlier, last, by rw [split]; rfl, halted⟩

/-- No step of a run flushes the sink, or changes what a flush would do. -/
theorem flush_of_mem_visited {count : Nat} {state : Machine τ}
    (visits : state ∈ machine.visited program count) :
    state.workspace.sink.flushes = machine.workspace.sink.flushes ∧
      state.workspace.sink.flushing = machine.workspace.sink.flushing := by
  induction count generalizing machine with
  | zero => simp [visited] at visits
  | succ count ih =>
      rw [visited] at visits
      rcases List.mem_cons.mp visits with rfl | later
      · exact ⟨rfl, rfl⟩
      · cases outcome : machine.step program with
        | ended | failed => simp [outcome] at later
        | advanced next =>
            simp only [outcome] at later
            have kept := ih later
            rcases sink_of_advanced outcome with same | ⟨_, pushed⟩
            · rwa [same] at kept
            · rw [pushed] at kept
              exact kept

end Machine

/-! ## Reports -/

theorem Event.line_running (instructions memory : Nat) :
    (running instructions memory).line =
      s!"DEBUG brainfuck: Running {instructions} instructions with {memory} bytes of memory" := by
  apply String.toList_injective
  simp [line, level, Level.name, origin, text, toString]

theorem Event.line_unmatched (bracket : Bracket) (position : Nat) :
    (unmatched bracket position).line =
      s!"WARNING brainfuck: Unmatched '{bracket.symbol}' at position {position}" := by
  have sameDigits : (position : Int).repr = position.repr := rfl
  apply String.toList_injective
  cases bracket <;>
    simp [line, level, Level.name, origin, text, toString, Fault.unmatchedMessage, Fault.placed,
      Bracket.symbol, sameDigits]

namespace Interpreter

open Machine (start visited executes completes)

/-- How an interpretation can end, by the state in which its last step begins: how often the
sink is flushed then, what is logged behind the first line, and what the failure is. -/
inductive Ending (code : Code) (program : Program) (flushing : Flushing) (last : Machine Tape) :
    (flushes : Nat) → (log : List String) → Option Failure → Prop
  | flushed (outside : program.size ≤ last.position) (works : flushing = .works) :
      Ending code program flushing last 1 ["DEBUG brainfuck: Program finished"] none
  /-- The sink has no flush. -/
  | unflushable (outside : program.size ≤ last.position) (absent : flushing = .absent) :
      Ending code program flushing last 0 ["DEBUG brainfuck: Program finished"] none
  /-- The flush fails, and the program does not count as finished. -/
  | unflushed {error : StreamError} (outside : program.size ≤ last.position)
      (fails : flushing = .fails error) :
      Ending code program flushing last 1 [] (some (.brokenOff (.stream error)))
  /-- A jump finds no partner for the bracket that the code has there. -/
  | unmatched {bracket : Bracket}
      (here : code.characterAt? last.position = some bracket.symbol) :
      Ending code program flushing last 0
        [s!"WARNING brainfuck: Unmatched '{bracket.symbol}' at position {last.position}"]
        (some (.brokenOff (.unmatched bracket last.position)))
  /-- A read or a write breaks the run off. -/
  | stream {fault : Fault} (breaks : last.BreaksOff program fault)
      (other : ∀ bracket position, fault ≠ .unmatched bracket position) :
      Ending code program flushing last 0 [] (some (.brokenOff fault))

/-- The report says what the ending is, and has what was written until then. -/
structure EndsWith (code : Code) (program : Program) (begun : Event) (last : Machine Tape)
    (report : Report) (flushes : Nat) (log : List String) : Prop where
  ending : Ending code program last.workspace.sink.flushing last flushes log report.failure
  written : report.sink.written = last.workspace.sink.written
  flushes : report.sink.flushes = last.workspace.sink.flushes + flushes
  log : report.events.map Event.line = begun.line :: log

variable {code : Code} {program : Program} {last : Machine Tape}

/-- A run that came to the end of the program ends with its flush. -/
theorem endsWith_finish (outside : program.size ≤ last.position) (begun : Event) :
    ∃ flushes log, EndsWith code program begun last
      (finish [begun] last.workspace.source last.workspace.sink) flushes log := by
  obtain ⟨position, tape, source, answers, flushing, written, writes, flushes⟩ := last
  cases flushing with
  | absent => exact ⟨0, _, .unflushable outside rfl, rfl, rfl, rfl⟩
  | works => exact ⟨1, _, .flushed outside rfl, rfl, rfl, rfl⟩
  | fails error => exact ⟨1, _, .unflushed outside rfl, rfl, rfl, rfl⟩

/-- A fault that breaks a run off is told of at once. -/
theorem endsWith_of_failed (given : code.program = .ok program) {stuck : Machine Tape}
    {fault : Fault} (failed : last.step program = .failed stuck fault) (begun : Event) :
    ∃ flushes log, EndsWith code program begun last (conclude begun ⟨stuck, some fault⟩)
      flushes log := by
  obtain ⟨breaks, sink⟩ := Machine.breaksOff_of_failed failed
  have kept : stuck.workspace.sink.written = last.workspace.sink.written ∧
      stuck.workspace.sink.flushes = last.workspace.sink.flushes := by
    rcases sink with same | ⟨_, refused⟩
    · rw [same]
      exact ⟨rfl, rfl⟩
    · rw [refused]
      exact ⟨rfl, rfl⟩
  have endsWith {log : List String} (ending : Ending code program last.workspace.sink.flushing
      last 0 log (some (.brokenOff fault)))
      (told : (Event.ofFault fault).toList.map Event.line = log) :
      EndsWith code program begun last (conclude begun ⟨stuck, some fault⟩) 0 log :=
    ⟨ending, kept.1, kept.2, congrArg (begun.line :: ·) told⟩
  cases fault with
  | unmatched bracket position =>
      have complaint : (position : Int) = last.position ∧
          code.characterAt? last.position = some bracket.symbol := by
        cases breaks with
        | opening here =>
            have opens : program[last.position]? = some Bracket.opening.instruction := here
            exact ⟨rfl, Code.characterAt?_of_bracket given opens⟩
        | closing here =>
            have closes : program[last.position]? = some Bracket.closing.instruction := here
            exact ⟨rfl, Code.characterAt?_of_bracket given closes⟩
      obtain ⟨rfl, here⟩ := complaint
      have told := congrArg (fun line => [line]) (Event.line_unmatched bracket last.position)
      exact ⟨0, _, endsWith (.unmatched here) told⟩
  | stream error => exact ⟨0, _, endsWith (.stream breaks (by simp)) rfl⟩
  | manyCharacters length => exact ⟨0, _, endsWith (.stream breaks (by simp)) rfl⟩

/-- The step that stops a run gives the report its ending. -/
theorem endsWith_of_halt (given : code.program = .ok program) {halt : Halt Tape}
    (halted : (last.step program).halt? = some halt) (begun : Event) :
    ∃ flushes log, EndsWith code program begun last (conclude begun halt) flushes log := by
  cases outcome : last.step program with
  | advanced next => simp [outcome, Progress.halt?] at halted
  | ended stopped =>
      simp only [outcome, Progress.halt?, Option.some.injEq] at halted
      subst halted
      cases Machine.step_eq_iff.mp outcome with
      | ended outside =>
          exact endsWith_finish (Array.getElem?_eq_none_iff.mp outside) begun
  | failed stuck fault =>
      simp only [outcome, Progress.halt?, Option.some.injEq] at halted
      subst halted
      exact endsWith_of_failed given outcome begun

/-- The report of an interpretation that was not refused and comes to an end accounts for its
run. The source was read once for each read that the run came to, the last one included where it
failed, and the sink got one character for each write that the run completed. The first line of
the log tells the number of elements of the code, comments included, and of cells. No step of the
run flushes the sink. What was logged behind the first line, whether the sink was flushed when
everything was written, and what the failure is then fit the way in which the last step ends
the run: with the program finished and flushed, if the sink has a flush; with a flush that fails;
with a bracket without a partner, where the log and the failure name the bracket that the code
has there; or with a stream that fails. -/
theorem report_accounts_for_run {size : Value} {cells : { cells : Nat // 0 < cells }}
    {tape : Tape} (prepared : prepare code size = .ok (cells, tape, program)) {limit : Nat}
    {source : Source} {sink : Sink} {report : Report}
    (interpreted : interpret limit code size source sink = some report) :
    code.length? = some program.size ∧ size.toIndex? = some cells.val ∧
      let states := (start ⟨tape, source, sink⟩).visited program limit
      report.source.reads = source.reads + states.countP (executes program .read) ∧
      report.sink.written.size =
        sink.written.size + states.countP (completes program .write) ∧
      (∀ state ∈ states, state.workspace.sink.flushes = sink.flushes) ∧
      ∃ earlier last flushes log, states = earlier ++ [last] ∧
        report.sink.written = last.workspace.sink.written ∧
        report.sink.flushes = sink.flushes + flushes ∧
        report.events.map Event.line =
          s!"DEBUG brainfuck: Running {program.size} instructions with {cells.val} bytes of memory"
            :: log ∧
        Ending code program sink.flushing last flushes log report.failure := by
  obtain ⟨checked, given, _⟩ := prepare_eq_ok prepared
  have counted := Machine.length_exchanges_of_interpret prepared interpreted
  rw [Machine.length_results_exchanges, Machine.length_characters_exchanges] at counted
  rw [interpret_of_prepare prepared, Option.map_eq_some_iff] at interpreted
  obtain ⟨halt, stopped, rfl⟩ := interpreted
  obtain ⟨earlier, last, split, halted⟩ := Machine.exists_last_of_run stopped
  have kept (state : Machine Tape)
      (visits : state ∈ (start ⟨tape, source, sink⟩).visited program limit) :
      state.workspace.sink.flushes = sink.flushes ∧
        state.workspace.sink.flushing = sink.flushing := Machine.flush_of_mem_visited visits
  obtain ⟨unflushed, sameFlushing⟩ := kept last (by simp [split])
  obtain ⟨flushes, log, endsWith⟩ :=
    endsWith_of_halt given halted (.running program.size cells.val)
  refine ⟨Code.length?_of_program given, (MemorySize.check_eq_ok_iff.mp checked).2, counted.1,
    counted.2, fun state visits => (kept state visits).1, earlier, last, flushes, log, split,
    endsWith.written, ?_, ?_, ?_⟩
  · rw [endsWith.flushes, unflushed]
  · rw [endsWith.log, Event.line_running]
  · exact sameFlushing ▸ endsWith.ending

/-- The program `,.]` on one cell reads `A`, writes it, and comes to a bracket without a partner. -/
theorem report_accounts_for_run_of_unopened :
    let program : Program := #[.action .read, .action .write, .loopEnd]
    let blank : Tape := .blank 1 Nat.one_pos
    let source := Source.ofBytes [65]
    let report : Report :=
      ⟨⟨source.answers, 1⟩, Sink.plain.take ['A'], [.running 3 1, .unmatched .closing 2],
        some (.brokenOff (.unmatched .closing 2))⟩
    prepare (.text ",.]") (.integer 1) = .ok (⟨1, Nat.one_pos⟩, blank, program) ∧
      interpret 3 (.text ",.]") (.integer 1) source .plain = some report ∧
      let states := (start ⟨blank, source, .plain⟩).visited program 3
      states.countP (executes program .read) = 1 ∧
      states.countP (completes program .write) = 1 ∧
      ∃ last, last ∈ states ∧
        Ending (.text ",.]") program .works last 0
          ["WARNING brainfuck: Unmatched ']' at position 2"] report.failure := by
  intro program blank source report
  have prepared : prepare (.text ",.]") (.integer 1) = .ok (⟨1, Nat.one_pos⟩, blank, program) := rfl
  have interpreted : interpret 3 (.text ",.]") (.integer 1) source .plain = some report := rfl
  obtain ⟨_, _, reads, writes, _, earlier, last, flushes, log, split, _, flushed, logged, ending⟩ :=
    report_accounts_for_run prepared interpreted
  refine ⟨prepared, interpreted, (Nat.zero_add _).symm.trans reads.symm,
    (Nat.zero_add _).symm.trans writes.symm, last, by simp [split], ?_⟩
  obtain rfl : flushes = 0 := (Nat.zero_add flushes).symm.trans flushed.symm
  obtain rfl : log = ["WARNING brainfuck: Unmatched ']' at position 2"] :=
    (List.cons.inj logged).2.symm
  exact ending

end Interpreter

end RingTape
