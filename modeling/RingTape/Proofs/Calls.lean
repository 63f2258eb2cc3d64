/-
# Calls of the command

A program can be called by the command, which prints what it writes and reports how it fails,
or by itself, with an input and a size of its own, which gives back what it has written or
fails. Where the command gets the code, the input and the size attached to their flags, both
come to the same.
-/

import RingTape.Command
import RingTape.Proofs.InRange
import RingTape.Proofs.Interpretation
import RingTape.Proofs.Invocations
import RingTape.Proofs.Sessions
import RingTape.Proofs.Streams
import RingTape.Runner

namespace RingTape

/-! ## Interpretations on streams that do not fail -/

/-- Every read of the source delivers a byte. -/
def Source.Reliable (source : Source) : Prop :=
  ∀ index, ∃ byte, (source.answers index).delivered = .ok byte

theorem Source.reliable_ofBytes (bytes : List UInt8) : (ofBytes bytes).Reliable :=
  fun index => ⟨_, delivered_ofBytes bytes index⟩

theorem Runner.Input.reliable_source (input : Runner.Input) : input.source.Reliable := by
  cases input with
  | bytes items => exact Source.reliable_ofBytes items
  | text characters => exact Source.reliable_ofBytes _

namespace Machine

variable {program : Program} {workspace : Workspace Tape} {limit : Nat}

/-- On streams that do not fail only a bracket breaks a run off. -/
theorem exists_unmatched_of_run (reliable : workspace.source.Reliable)
    (takes : workspace.sink.TakesAll) {last : Machine Tape} {fault : Fault}
    (stopped : (start workspace).run program limit = some ⟨last, some fault⟩) :
    ∃ bracket position, fault = .unmatched bracket position := by
  obtain ⟨count, reached, reachedAfter, broken⟩ := exists_breaksOff_of_run stopped
  have ledger := ledger_after reachedAfter
  have answers : reached.workspace.source.answers = workspace.source.answers := by
    rw [ledger.source, Source.readMany_snd]
    rfl
  obtain ⟨byte, delivered⟩ := reliable reached.workspace.source.reads
  rw [← answers] at delivered
  cases broken with
  | opening | closing => exact ⟨_, _, rfl⟩
  | source here answer =>
      rw [answer] at delivered
      cases delivered
  | characters here answer several =>
      rw [answer, Chunk.delivered] at delivered
      split at delivered
      · simp_all
      · simp_all
      · cases delivered
  | sink here answer =>
      have sameAnswers : reached.workspace.sink.answers = workspace.sink.answers :=
        answers_sink_after reachedAfter
      rw [sameAnswers, takes] at answer
      cases answer

end Machine

/-- A number that is taken for a size is this size. -/
theorem MemorySize.val_of_check {number : Int} {cells : { cells : Nat // 0 < cells }}
    (checked : check (.integer number) = .ok cells) : cells.val = number.toNat := by
  have stands : number = cells.val := Option.some.inj (check_eq_ok_iff.mp checked).2
  omega

namespace Interpreter

/-- What an interpretation of a text can tell when its streams do not fail and there is memory
for its tape. -/
inductive Tells (number : Int) : List Event → Option Failure → Prop
  | finished (instructions memory : Nat) :
      Tells number [.running instructions memory, .finished] none
  | refused : Tells number [] (some (.memorySize (.integer number)))
  | unmatched (instructions memory : Nat) (bracket : Bracket) (position : Int) :
      Tells number [.running instructions memory, .unmatched bracket position]
        (some (.brokenOff (.unmatched bracket position)))

theorem tells_of_interpret {limit : Nat} {text : String} {number : Int} {source : Source}
    {report : Report} (bounded : number.natAbs < MemorySize.memoryBound)
    (reliable : source.Reliable)
    (interpreted : interpret limit (.text text) (.integer number) source .plain = some report) :
    Tells number report.events report.failure := by
  cases checked : MemorySize.check (.integer number) with
  | error failure =>
      rw [interpret_of_refuse (prepare_of_check_error checked _), Option.some.injEq]
        at interpreted
      subst interpreted
      rw [MemorySize.check_eq_error checked]
      exact .refused
  | ok cells =>
      have fits : cells.val < MemorySize.memoryBound := by
        rw [MemorySize.val_of_check checked]
        omega
      rw [interpret_eq_run rfl checked fits, Option.map_eq_some_iff] at interpreted
      obtain ⟨⟨⟨position, tape, rest, sink⟩, fault⟩, stopped, rfl⟩ := interpreted
      cases fault with
      | some fault =>
          obtain ⟨bracket, place, rfl⟩ :=
            Machine.exists_unmatched_of_run reliable Sink.takesAll_plain stopped
          exact .unmatched _ _ bracket place
      | none =>
          obtain ⟨answers, flushing, written, writes, flushes⟩ := sink
          obtain rfl : flushing = .works :=
            congrArg Sink.flushing (Machine.ledger_run stopped).sink
          exact .finished _ _

end Interpreter

/-! ## Lines -/

namespace Text

/-- No line ends in the text. -/
def OneLine (text : String) : Prop :=
  '\n' ∉ text.toList

instance (text : String) : Decidable (OneLine text) :=
  inferInstanceAs (Decidable ('\n' ∉ text.toList))

theorem OneLine.append {first second : String} (before : OneLine first)
    (behind : OneLine second) : OneLine (first ++ second) := by
  rw [OneLine, String.toList_append, List.mem_append]
  exact not_or.mpr ⟨before, behind⟩

theorem oneLine_toString (number : Int) : OneLine (toString number) :=
  newline_notMem_toString number

/-- The text consists of lines, and this is the last one. -/
def LastLine (line text : String) : Prop :=
  OneLine line ∧ ∃ above : List String, text = String.join ((above ++ [line]).map (· ++ "\n"))

end Text

open Text (OneLine LastLine)

theorem Failure.oneLine_memorySize (number : Int) :
    OneLine (Failure.memorySize (.integer number)).message := by
  have complaint : OneLine "memory size must be a positive integer, got " := by decide
  exact complaint.append (Text.oneLine_toString number)

theorem Failure.oneLine_unmatched (bracket : Bracket) (position : Int) :
    OneLine (Failure.brokenOff (.unmatched bracket position)).message := by
  have complaint : OneLine s!"Unmatched '{bracket.symbol}'" := by cases bracket <;> decide
  have place : OneLine " at position " := by decide
  exact (complaint.append place).append (Text.oneLine_toString position)

namespace Command

/-! ## Reports -/

/-- What the command leaves behind when the program called by itself ends like this, after it
has written this, and with standard input in this state. -/
inductive Agrees (written : String) (input : Source) : Outcome → Except Failure String → Prop
  | finished (output : String) : Agrees written input ⟨.ok 0, output, "", input⟩ (.ok output)
  | refused {size : Value} {errors : String}
      (reported : LastLine ("bf-run: " ++ (Failure.memorySize size).message) errors) :
      Agrees written input ⟨.ok 1, written, errors, input⟩ (.error (.memorySize size))
  | unmatched {bracket : Bracket} {position : Int} {errors : String}
      (reported : LastLine
        ("bf-run: " ++ (Failure.brokenOff (.unmatched bracket position)).message) errors) :
      Agrees written input ⟨.ok 1, written, errors, input⟩
        (.error (.brokenOff (.unmatched bracket position)))

/-- A command that agrees with a complaint about a bracket has reported it. -/
theorem exists_lastLine_of_unmatched {written : String} {input : Source}
    {outcome? : Option Outcome} {bracket : Bracket} {position : Int}
    (agrees : Option.Rel (Agrees written input) outcome?
      (some (.error (.brokenOff (.unmatched bracket position))))) :
    ∃ errors, LastLine
        ("bf-run: " ++ (Failure.brokenOff (.unmatched bracket position)).message) errors ∧
      outcome? = some ⟨.ok 1, written, errors, input⟩ := by
  cases agrees with
  | some agrees =>
      cases agrees with
      | unmatched reported => exact ⟨_, reported, rfl⟩

/-- The report of a failure is the line behind those of the events. -/
theorem lastLine_report {failure : Failure} (oneLine : OneLine failure.message)
    (threshold : Nat) (events : List Event) :
    LastLine ("bf-run: " ++ failure.message)
      (eventLines threshold events ++ CommandLine.commandName ++ ": " ++ failure.message ++
        "\n") := by
  have name : OneLine "bf-run: " := by decide
  refine ⟨name.append oneLine, (Event.shown threshold events).map Event.line, ?_⟩
  rw [List.map_append, String.join_append, List.map_map, List.map_singleton, String.join_cons,
    String.join_nil, String.append_empty]
  show eventLines threshold events ++ "bf-run" ++ ": " ++ failure.message ++ "\n" =
    eventLines threshold events ++ ("bf-run: " ++ failure.message ++ "\n")
  simp only [String.append_assoc]
  rfl

/-- At the threshold for warnings the command shows the complaint about a bracket and nothing
else, and it reports what an interpretation can tell. -/
theorem agrees_ofReport {report : Report} {number : Int}
    (tells : Interpreter.Tells number report.events report.failure) (input : Source) :
    Agrees report.sink.text input (Outcome.ofReport 30 report input)
      (match report.failure with
      | none => .ok report.sink.text
      | some failure => .error failure) := by
  obtain ⟨source, sink, events, failure⟩ := report
  cases tells with
  | finished instructions memory => exact .finished sink.text
  | refused =>
      refine .refused ?_
      exact lastLine_report (Failure.oneLine_memorySize number) 30 []
  | unmatched instructions memory bracket position =>
      refine .unmatched ?_
      exact lastLine_report (Failure.oneLine_unmatched bracket position) 30 _

/-- The rest of an outcome does not depend on how standard input is left. -/
theorem input_ofReport (report : Report) (threshold : Nat) (input other : Source) :
    { Outcome.ofReport threshold report input with input := other } =
      Outcome.ofReport threshold report other := by
  obtain ⟨source, sink, events, failure⟩ := report
  cases failure with
  | none => rfl
  | some failure =>
      simp only [Outcome.ofReport]
      split <;> rfl

/-! ## Calls -/

/-- The arguments that attach a code and, where they are given, an input and a size. -/
def arguments (code : String) (input? : Option String) (size? : Option Int) : List String :=
  ("--execute=" ++ code) :: ((input?.map ("--input=" ++ ·)).toList ++
    (size?.map fun size => "--memory-size=" ++ toString size).toList)

/-- The literal of a size below the memory bound is not too long to be read. -/
theorem readInteger_of_lt_memoryBound {number : Int}
    (fits : number.natAbs < MemorySize.memoryBound) :
    Text.readInteger (toString number) = .ok number := by
  apply Text.readInteger_toString
  calc number.natAbs
    _ < MemorySize.memoryBound := fits
    _ ≤ 10 ^ 19 := by decide
    _ ≤ 10 ^ Text.maxIntegerDigits := Nat.pow_le_pow_right (by decide) (by decide)

theorem uppercase_warning : Text.uppercase "WARNING" = "WARNING" := by
  decide

open CommandLine (Flag takeValue takeAssigned) in
/-- What is attached is asked for, and the rest is left to the defaults. -/
theorem parse_arguments {size? : Option Int}
    (fits : ∀ size ∈ size?, size.natAbs < MemorySize.memoryBound)
    (configuration : Configuration) (code : String) (input? : Option String) :
    CommandLine.parse configuration (arguments code input? size?) =
      .ok ⟨.code code, size?.getD configuration.memorySize, input?,
        Text.uppercase configuration.logLevel⟩ := by
  let assigned : List (Flag × String) :=
    (.execute, code) :: ((input?.map (Prod.mk Flag.input)).toList ++
      (size?.map fun size => (Flag.memorySize, toString size)).toList)
  have spelled : arguments code input? size? = CommandLine.assignments assigned := by
    cases input? <;> cases size? <;> rfl
  have noHelp : ∀ pair ∈ assigned, pair.1 ≠ .help := by
    cases input? <;> cases size? <;> simp [assigned]
  rw [spelled, CommandLine.parse_assign configuration noHelp]
  cases size? with
  | none => cases input? <;> rfl
  | some size =>
      have taken (gathered : CommandLine.Gathered) :
          takeAssigned gathered (.memorySize, toString size) =
            .ok { gathered with memorySize := some size } := by
        simp only [takeAssigned, takeValue, readInteger_of_lt_memoryBound (fits size rfl)]
      cases input? <;>
        simp only [assigned, Option.map, Option.toList, List.nil_append, List.cons_append,
          List.foldlM_cons, List.foldlM_nil, taken] <;>
        rfl

/-- With these arguments the command interprets the code, on the input that is attached or on
standard input, and it shows warnings if this is the default level. -/
theorem run_arguments {configuration : Configuration}
    (warning : configuration.logLevel = "WARNING") {size? : Option Int}
    (fits : ∀ size ∈ size?, size.natAbs < MemorySize.memoryBound) (limit : Nat)
    (readFile : FileReader) (standardInput : Source) (code : String)
    (input? : Option String) :
    run limit configuration readFile standardInput (arguments code input? size?) =
      (Interpreter.interpret limit (.text code)
        (.integer (size?.getD configuration.memorySize))
        ((input?.map Source.ofEncoded).getD standardInput) .plain).map fun report =>
          Outcome.ofReport 30 report (if input?.isSome then standardInput else report.source) := by
  rw [run, parse_arguments fits, warning, uppercase_warning]
  cases input? <;> rfl

/-- Where the input is attached, standard input stays as it is, and makes no difference. -/
theorem run_of_input {configuration : Configuration}
    (warning : configuration.logLevel = "WARNING") {size? : Option Int}
    (fits : ∀ size ∈ size?, size.natAbs < MemorySize.memoryBound) (limit : Nat)
    (readFile : FileReader) (code input : String) (standardInput other : Source) :
    run limit configuration readFile other (arguments code (some input) size?) =
      (run limit configuration readFile standardInput (arguments code (some input) size?)).map
        fun outcome => { outcome with input := other } := by
  rw [run_arguments warning fits, run_arguments warning fits, Option.map_map]
  exact congrArg (Option.map · _) (funext fun report => (input_ofReport report 30 _ other).symm)

/-- A number in the environment is the default size, and there is a default level. -/
theorem ofVariables_of_lookup {environment : Variables} {number : Int}
    (configured :
      environment.lookup Configuration.memorySizeVariable = some (toString number))
    (unlevelled : environment.lookup Configuration.logLevelVariable = none)
    (fits : number.natAbs < MemorySize.memoryBound) :
    Configuration.ofVariables environment = .ok ⟨number, "WARNING"⟩ := by
  rw [Configuration.ofVariables, configured, unlevelled]
  simp only [readInteger_of_lt_memoryBound fits, Option.getD_none, uppercase_warning]
  rfl

/-- A call of the command agrees with the program called by itself, if both have the same input.
It leaves standard input as it is where the input is attached, and else with its reads made. -/
theorem agrees_of_source_eq {configuration : Configuration}
    (warning : configuration.logLevel = "WARNING") {size? : Option Int}
    (bounded : (size?.getD configuration.memorySize).natAbs < MemorySize.memoryBound)
    (limit : Nat) (readFile : FileReader) (code : String) (input : Runner.Input)
    (attached? : Option String) (standardInput : Source)
    (same : (attached?.map Source.ofEncoded).getD standardInput = input.source) :
    let size := size?.map Value.integer
    let exchanged := Interpreter.exchanges limit (.text code) (configuration.size size)
      input.source .plain
    let left := if attached?.isSome then standardInput
      else (standardInput.readMany (Exchange.results exchanged).length).2
    Option.Rel (Agrees (String.ofList (Exchange.characters exchanged)) left)
      (run limit configuration readFile standardInput (arguments code attached? size?))
      (Runner.runProgram limit configuration (.text code) (some input) size) := by
  intro size exchanged left
  have fits : ∀ size ∈ size?, size.natAbs < MemorySize.memoryBound := by
    rintro size ⟨⟩
    exact bounded
  have sameSize : configuration.size size =
      .integer (size?.getD configuration.memorySize) := by
    cases size? <;> rfl
  rw [run_arguments warning fits, same, Runner.runProgram, Option.getD_some, ← sameSize]
  cases interpreted : Interpreter.interpret limit (.text code) (configuration.size size)
      input.source .plain with
  | none => exact .none
  | some report =>
      obtain ⟨delivered, received⟩ := Interpreter.account_of_interpret interpreted
      have text : report.sink.text = String.ofList (Exchange.characters exchanged) := by
        rw [Sink.text, received]
        rfl
      have rest : (if attached?.isSome then standardInput else report.source) = left := by
        cases attached? with
        | some text => rfl
        | none =>
            have unattached : standardInput = input.source := same
            show report.source = (standardInput.readMany (Exchange.results exchanged).length).2
            rw [unattached]
            exact delivered.eq_readMany
      rw [sameSize] at interpreted
      have tells := Interpreter.tells_of_interpret bounded input.reliable_source interpreted
      rw [Option.map_some, Option.map_some, rest, ← text]
      exact .some (agrees_ofReport tells left)

/-- A call of the command at the level of warnings agrees with the program called by itself, for
every code, for every input, be it a text that is attached to its flag or be it the bytes of
standard input, and for every size below the memory bound in absolute value, be it attached or be
it the default of both. The one comes to an end within a number of steps exactly when the other
does. If the program gives back an output, the command succeeds with this output and nothing on
standard error. If it fails, a size was refused or a bracket is unmatched; then the exit status of
the command is 1, on standard output stands just what was written before, and the last line on
standard error is about this failure. Where the input is attached, standard input is left as it
was, whatever it is, with no read made, and nothing else depends on it; where it is not, the reads
of the run were made. Every size below the bound becomes the default by its literal in the
environment. -/
theorem calls_agree_with_interpretations (readFile : FileReader) :
    (∀ (configuration : Configuration) (code : String) (size? : Option Int),
      configuration.logLevel = "WARNING" →
      (size?.getD configuration.memorySize).natAbs < MemorySize.memoryBound →
      let size := size?.map Value.integer
      let exchanged (limit : Nat) (input : Runner.Input) :=
        Interpreter.exchanges limit (.text code) (configuration.size size) input.source .plain
      let written (limit : Nat) (input : Runner.Input) :=
        String.ofList (Exchange.characters (exchanged limit input))
      (∀ limit text standardInput,
        let call := arguments code (some text) size?
        Option.Rel (Agrees (written limit (.text text)) standardInput)
          (run limit configuration readFile standardInput call)
          (Runner.runProgram limit configuration (.text code) (some (.text text)) size) ∧
        ∀ other, run limit configuration readFile other call =
          (run limit configuration readFile standardInput call).map
            fun outcome => { outcome with input := other }) ∧
      ∀ limit bytes,
        let call := arguments code none size?
        let reads := (Exchange.results (exchanged limit (.bytes bytes))).length
        Option.Rel (Agrees (written limit (.bytes bytes)) ((Source.ofBytes bytes).readMany reads).2)
          (run limit configuration readFile (.ofBytes bytes) call)
          (Runner.runProgram limit configuration (.text code) (some (.bytes bytes)) size)) ∧
    ∀ (environment : Variables) (number : Int),
      environment.lookup Configuration.memorySizeVariable = some (toString number) →
      environment.lookup Configuration.logLevelVariable = none →
      number.natAbs < MemorySize.memoryBound →
        Configuration.ofVariables environment = .ok ⟨number, "WARNING"⟩ := by
  refine ⟨?_, fun environment number => ofVariables_of_lookup⟩
  intro configuration code size? warning bounded size exchanged written
  have fits : ∀ size ∈ size?, size.natAbs < MemorySize.memoryBound := by
    rintro size ⟨⟩
    exact bounded
  refine ⟨fun limit text standardInput => ⟨?_, fun other => ?_⟩, fun limit bytes => ?_⟩
  · exact agrees_of_source_eq warning bounded limit readFile code (.text text) (some text)
      standardInput rfl
  · exact run_of_input warning fits limit readFile code text standardInput other
  · exact agrees_of_source_eq warning bounded limit readFile code (.bytes bytes) none
      (.ofBytes bytes) rfl

/-- The code `,.]` writes the first byte of its input and then finds no partner for its bracket,
once with the input é and the size 3 attached, once with the byte 65 on standard input and the
size 3 from the environment. -/
theorem calls_agree_with_interpretations_of_unmatched :
    let readFile : FileReader := fun path => .error (.unreachable .missing path)
    let environment : Variables := [("BF_MEMORY_SIZE", "3")]
    let complaint := "bf-run: Unmatched ']' at position 2"
    Configuration.ofVariables environment = .ok ⟨3, "WARNING"⟩ ∧
      (∀ standardInput, ∃ errors, LastLine complaint errors ∧
        run 3 ⟨3, "WARNING"⟩ readFile standardInput
          ["--execute=,.]", "--input=é", "--memory-size=3"] =
            some ⟨.ok 1, "Ã", errors, standardInput⟩) ∧
      ∃ errors, LastLine complaint errors ∧
        run 3 ⟨3, "WARNING"⟩ readFile (.ofBytes [65]) ["--execute=,.]"] =
          some ⟨.ok 1, "A", errors, (Source.ofBytes [65]).read.2⟩ := by
  intro readFile environment complaint
  obtain ⟨agreement, configured⟩ := calls_agree_with_interpretations readFile
  have spelled : "bf-run: " ++ (Failure.brokenOff (.unmatched .closing 2)).message = complaint := by
    decide
  refine ⟨configured environment 3 rfl rfl (by decide), fun standardInput => ?_, ?_⟩
  · obtain ⟨onTexts, _⟩ := agreement ⟨3, "WARNING"⟩ ",.]" (some 3) rfl (by decide)
    obtain ⟨agrees, _⟩ := onTexts 3 "é" standardInput
    have failed : Runner.runProgram 3 ⟨3, "WARNING"⟩ (.text ",.]") (some (.text "é"))
        (some (.integer 3)) = some (.error (.brokenOff (.unmatched .closing 2))) := rfl
    obtain ⟨errors, reported, ended⟩ := exists_lastLine_of_unmatched (failed ▸ agrees)
    rw [spelled] at reported
    exact ⟨errors, reported, ended⟩
  · obtain ⟨_, onBytes⟩ := agreement ⟨3, "WARNING"⟩ ",.]" none rfl (by decide)
    have failed : Runner.runProgram 3 ⟨3, "WARNING"⟩ (.text ",.]") (some (.bytes [65])) none =
        some (.error (.brokenOff (.unmatched .closing 2))) := rfl
    obtain ⟨errors, reported, ended⟩ := exists_lastLine_of_unmatched (failed ▸ onBytes 3 [65])
    rw [spelled] at reported
    exact ⟨errors, reported, ended⟩

end Command

end RingTape
