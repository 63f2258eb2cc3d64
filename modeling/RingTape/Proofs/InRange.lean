/-
# Runs stay in range

Whatever its program, source and sink, a run on a ring keeps the number of cells, keeps the
head over one of them, and keeps its position within the program or just behind it; its scans
look at no place outside the program. What it writes are the bytes it had under its head.
So nothing can break a run off but a bracket without a partner and the streams themselves.
-/

import RingTape.Interpreter
import RingTape.Proofs.Exchanges

namespace RingTape

/-! ## Scans -/

namespace Program

/-- The forward scan for someone who must not look outside the program: the outer `none`
says that it tried to. -/
def scanForwardChecked (program : Program) :
    (remaining position depth : Nat) → Option (Option Nat)
  | 0, _, _ => some none
  | remaining + 1, position, depth =>
    match program[position]? with
    | none => none
    | some .loopStart => scanForwardChecked program remaining (position + 1) (depth + 1)
    | some .loopEnd =>
      if depth = 0 then some (some position)
      else scanForwardChecked program remaining (position + 1) (depth - 1)
    | some (.action _) => scanForwardChecked program remaining (position + 1) depth

/-- The backward scan for someone who must not look outside the program. -/
def scanBackwardChecked (program : Program) : (bound depth : Nat) → Option (Option Nat)
  | 0, _ => some none
  | position + 1, depth =>
    match program[position]? with
    | none => none
    | some .loopEnd => scanBackwardChecked program position (depth + 1)
    | some .loopStart =>
      if depth = 0 then some (some position)
      else scanBackwardChecked program position (depth - 1)
    | some (.action _) => scanBackwardChecked program position depth

/-- A forward scan that has no more to look at than the program has left stays inside. -/
theorem scanForwardChecked_eq {program : Program} {remaining position : Nat} (depth : Nat)
    (inside : position + remaining ≤ program.size) :
    program.scanForwardChecked remaining position depth =
      some (program.scanForward remaining position depth) := by
  induction remaining generalizing position depth with
  | zero => rfl
  | succ remaining ih =>
      have here : program[position]? = some program[position] :=
        Array.getElem?_eq_getElem (by omega)
      have rest (level : Nat) : program.scanForwardChecked remaining (position + 1) level =
          some (program.scanForward remaining (position + 1) level) := ih level (by omega)
      rw [scanForwardChecked, scanForward, here]
      cases program[position] with
      | action action => exact rest depth
      | loopStart => exact rest (depth + 1)
      | loopEnd =>
          by_cases outermost : depth = 0
          · simp [outermost]
          · simpa [outermost] using rest (depth - 1)

/-- A backward scan that begins inside the program stays inside. -/
theorem scanBackwardChecked_eq {program : Program} {bound : Nat} (depth : Nat)
    (inside : bound ≤ program.size) :
    program.scanBackwardChecked bound depth = some (program.scanBackward bound depth) := by
  induction bound generalizing depth with
  | zero => rfl
  | succ position ih =>
      have here : program[position]? = some program[position] :=
        Array.getElem?_eq_getElem inside
      have rest (level : Nat) := ih level (Nat.le_of_lt inside)
      rw [scanBackwardChecked, scanBackward, here]
      cases program[position] with
      | action action => exact rest depth
      | loopEnd => exact rest (depth + 1)
      | loopStart =>
          by_cases outermost : depth = 0
          · simp [outermost]
          · simpa [outermost] using rest (depth - 1)

/-- The end of a loop begun at `start`, found without a look outside the program. -/
def loopEndChecked (program : Program) (start : Int) : Option (Except Fault Nat) :=
  let first := (start + 1).toNat
  (program.scanForwardChecked (program.size - first) first 0).map fun found =>
    (Search.ofFound .opening start found).result

/-- The beginning of a loop ended at `finish`, found without a look outside the program. -/
def loopStartChecked (program : Program) (finish : Int) : Option (Except Fault Nat) :=
  (program.scanBackwardChecked finish.toNat 0).map fun found =>
    (Search.ofFound .closing finish found).result

theorem loopEndChecked_eq {program : Program} {start : Int} (inside : start < program.size) :
    program.loopEndChecked start = some (program.loopEnd start) := by
  have scanned : program.scanForwardChecked (program.size - (start + 1).toNat)
      (start + 1).toNat 0 =
        some (program.scanForward (program.size - (start + 1).toNat) (start + 1).toNat 0) :=
    scanForwardChecked_eq 0 (by omega)
  exact congrArg (Option.map _) scanned

theorem loopStartChecked_eq {program : Program} {finish : Int}
    (inside : finish ≤ program.size) :
    program.loopStartChecked finish = some (program.loopStart finish) := by
  have scanned : program.scanBackwardChecked finish.toNat 0 =
      some (program.scanBackward finish.toNat 0) := scanBackwardChecked_eq 0 (by omega)
  exact congrArg (Option.map _) scanned

end Program

namespace Machine

/-! ## Ranges -/

/-- The state of a run on a ring of `size` cells is in range. -/
structure InRange (program : Program) (size : Nat) (machine : Machine Tape) : Prop where
  position : machine.position ≤ program.size
  cells : machine.workspace.tape.cells.size = size
  head : machine.workspace.tape.head < size
  bytes : ∀ cell ∈ machine.workspace.tape.cells, cell.toNat ≤ 255

section Ranges

variable {program : Program} {size : Nat} {machine : Machine Tape}

/-- The head of a ring is over one of its cells, so only the position and the number of cells
have to be kept. -/
theorem InRange.of_size {position : Nat} {workspace : Workspace Tape}
    (inside : position ≤ program.size) (cells : workspace.tape.size = size) :
    InRange program size ⟨position, workspace⟩ :=
  ⟨inside, cells, cells ▸ workspace.tape.head_lt_size,
    fun cell _ => Nat.le_of_lt_succ cell.toNat_lt⟩

theorem inRange_start (program : Program) (workspace : Workspace Tape) :
    InRange program workspace.tape.size (start workspace) :=
  .of_size (Nat.zero_le _) rfl

theorem InRange.advanced (inRange : InRange program size machine) {next : Machine Tape}
    (stepped : machine.step program = .advanced next) : InRange program size next := by
  have lt_size {position : Nat} {instruction : Instruction}
      (here : program[position]? = some instruction) : position < program.size :=
    (Array.getElem?_eq_some_iff.mp here).1
  have inside : next.position ≤ program.size := by
    cases step_eq_iff.mp stepped with
    | acted here | entered here | left here => exact lt_size here
    | skipped zero matched => exact lt_size matched.closing
    | repeated nonzero matched => exact lt_size matched.opening
  exact .of_size inside ((size_of_advanced stepped).trans inRange.cells)

theorem InRange.failed (inRange : InRange program size machine) {last : Machine Tape}
    {fault : Fault} (stepped : machine.step program = .failed last fault) :
    InRange program size last := by
  cases step_eq_iff.mp stepped with
  | @broken action last fault here performed =>
      have size := Workspace.size_perform action machine.workspace
      rw [performed] at size
      exact .of_size inRange.position (size.trans inRange.cells)
  | unclosed | unopened => exact inRange

/-- Every state that a run gets to is in range. -/
theorem InRange.after (inRange : InRange program size machine) {count : Nat}
    {later : Machine Tape} (reached : machine.after program count = some later) :
    InRange program size later := by
  induction count generalizing later with
  | zero =>
      obtain rfl := Option.some.inj reached
      exact inRange
  | succ count ih =>
      obtain ⟨middle, reachedMiddle, stepped⟩ := after_succ_eq_some_iff.mp reached
      exact (ih reachedMiddle).advanced stepped

end Ranges

/-! ## Characters -/

section Characters

variable {τ : Type} [TapeLike τ] {program : Program}

theorem sink_of_advanced {machine next : Machine τ}
    (stepped : machine.step program = .advanced next) :
    next.workspace.sink = machine.workspace.sink ∨
      (program[machine.position]? = some (.action .write) ∧ next.workspace.sink =
        machine.workspace.sink.take machine.workspace.symbol) := by
  cases step_eq_iff.mp stepped with
  | acted here performed =>
      rcases Workspace.sink_of_perform performed with same | ⟨rfl, taken⟩
      · exact .inl same
      · exact .inr ⟨here, taken⟩
  | entered | left | skipped | repeated => exact .inl rfl

/-- Within `count` steps the run wrote this character when there were `index` characters in
its sink, and the cell under its head was the character's code point. -/
def Wrote (program : Program) (machine : Machine τ) (count index : Nat) (character : Char) :
    Prop :=
  ∃ earlier, earlier < count ∧ ∃ writer, machine.after program earlier = some writer ∧
    program[writer.position]? = some (.action .write) ∧
    writer.workspace.sink.written.size = index ∧
    character.toNat = writer.workspace.current.toNat

theorem Wrote.toNat_le {machine : Machine τ} {count index : Nat} {character : Char}
    (wrote : Wrote program machine count index character) : character.toNat ≤ 255 := by
  obtain ⟨_, _, writer, _, _, _, code⟩ := wrote
  rw [code]
  exact Nat.le_of_lt_succ writer.workspace.current.toNat_lt

/-- What a run has added to its sink was under its head when it was written. -/
theorem wrote_of_after {machine later : Machine τ} {count index : Nat} {character : Char}
    (reached : machine.after program count = some later)
    (added : machine.workspace.sink.written.size ≤ index)
    (there : later.workspace.sink.written[index]? = some character) :
    Wrote program machine count index character := by
  induction count generalizing later with
  | zero =>
      obtain rfl := Option.some.inj reached
      have inside := (Array.getElem?_eq_some_iff.mp there).1
      omega
  | succ count ih =>
      obtain ⟨middle, reachedMiddle, stepped⟩ := after_succ_eq_some_iff.mp reached
      have before (there : middle.workspace.sink.written[index]? = some character) :
          Wrote program machine (count + 1) index character := by
        obtain ⟨earlier, within, writer⟩ := ih reachedMiddle there
        exact ⟨earlier, Nat.lt_succ_of_lt within, writer⟩
      rcases sink_of_advanced stepped with same | ⟨writes, taken⟩
      · exact before (same ▸ there)
      · have pushed : later.workspace.sink.written = middle.workspace.sink.written.push
            (Char.ofUInt8 middle.workspace.current) := congrArg Sink.written taken
        rw [pushed, Array.getElem?_push] at there
        by_cases last : index = middle.workspace.sink.written.size
        · rw [if_pos last, Option.some.injEq] at there
          refine ⟨count, Nat.lt_succ_self count, middle, reachedMiddle, writes, last.symm, ?_⟩
          rw [← there]
          rfl
        · exact before (by simpa [last] using there)

end Characters

/-! ## Faults -/

/-- What can break a run off in a state, and with which fault. -/
inductive BreaksOff {τ : Type} [TapeLike τ] (program : Program) (machine : Machine τ) :
    Fault → Prop
  | opening (here : program[machine.position]? = some .loopStart) :
      BreaksOff program machine (.unmatched .opening machine.position)
  | closing (here : program[machine.position]? = some .loopEnd) :
      BreaksOff program machine (.unmatched .closing machine.position)
  /-- The source fails. -/
  | source {error : StreamError} (here : program[machine.position]? = some (.action .read))
      (answer : machine.workspace.source.answers machine.workspace.source.reads =
        .failure error) :
      BreaksOff program machine (.stream error)
  /-- The source answers with several characters. -/
  | characters {characters : String}
      (here : program[machine.position]? = some (.action .read))
      (answer : machine.workspace.source.answers machine.workspace.source.reads =
        .text characters)
      (several : 2 ≤ characters.toList.length) :
      BreaksOff program machine (.manyCharacters characters.toList.length)
  /-- The sink fails. -/
  | sink {error : StreamError} (here : program[machine.position]? = some (.action .write))
      (answer : machine.workspace.sink.answers machine.workspace.sink.writes
        machine.workspace.symbol = some error) :
      BreaksOff program machine (.stream error)

section Faults

variable {τ : Type} [TapeLike τ] {program : Program}

/-- A step that fails has one of these causes, and it leaves the sink as it was, but for a write
that the sink refused. -/
theorem breaksOff_of_failed {machine last : Machine τ} {fault : Fault}
    (stepped : machine.step program = .failed last fault) :
    BreaksOff program machine fault ∧
      (last.workspace.sink = machine.workspace.sink ∨
        (program[machine.position]? = some (.action .write) ∧
          last.workspace.sink = machine.workspace.sink.refuse)) := by
  cases step_eq_iff.mp stepped with
  | broken here performed =>
      rcases Workspace.perform_eq_fault performed with
        ⟨rfl, refused, rfl⟩ | ⟨rfl, failed, rfl⟩
      · obtain ⟨error, answer, rfl⟩ := Sink.refusal_eq_some refused
        exact ⟨.sink here answer, .inr ⟨here, rfl⟩⟩
      · rcases Chunk.delivered_eq_error failed with
          ⟨error, answer, rfl⟩ | ⟨characters, answer, several, rfl⟩
        · exact ⟨.source here answer, .inl rfl⟩
        · exact ⟨.characters here answer several, .inl rfl⟩
  | unclosed here => exact ⟨.opening here, .inl rfl⟩
  | unopened here => exact ⟨.closing here, .inl rfl⟩

/-- A run that is broken off gets to a state in which that happens. -/
theorem exists_breaksOff_of_run {machine : Machine τ} {limit : Nat} {last : Machine τ}
    {fault : Fault} (stopped : machine.run program limit = some ⟨last, some fault⟩) :
    ∃ count reached, machine.after program count = some reached ∧
      BreaksOff program reached fault := by
  obtain ⟨count, _, reached, reachedAfter, halted⟩ := run_eq_some_iff.mp stopped
  cases outcome : reached.step program with
  | ended | advanced => simp [outcome, Progress.halt?] at halted
  | failed stuck cause =>
      simp only [outcome, Progress.halt?, Option.some.injEq, Halt.mk.injEq] at halted
      obtain ⟨_, rfl⟩ := halted
      exact ⟨count, reached, reachedAfter, (breaksOff_of_failed outcome).1⟩

end Faults

/-- A run on a ring is in range at every step, with every source and every sink, also in the step
that breaks it off: the number of cells stays, each cell is a byte, the head is over one of the
cells, and the position is in the program or just behind it, from where the scans look at no
place outside. Each character that it has added to the sink is the byte that was under its head
when it was written; the step that breaks it off adds none. Only an unmatched bracket, a stream
that fails, or a source that answers with several characters breaks it off; an interpretation
that was not refused can besides fail only in its flush. -/
theorem run_stays_in_range (program : Program) :
    (∀ (workspace : Workspace Tape) count reached,
      (start workspace).after program count = some reached →
        InRange program workspace.tape.size reached ∧
        (∀ index character, workspace.sink.written.size ≤ index →
          reached.workspace.sink.written[index]? = some character →
            character.toNat ≤ 255 ∧ Wrote program (start workspace) count index character) ∧
        ∀ last fault, reached.step program = .failed last fault →
          InRange program workspace.tape.size last ∧
          (last.workspace.sink = reached.workspace.sink ∨
            (program[reached.position]? = some (.action .write) ∧
              last.workspace.sink = reached.workspace.sink.refuse)) ∧
          BreaksOff program reached fault) ∧
    (∀ position : Nat, position < program.size →
      program.loopEndChecked position = some (program.loopEnd position) ∧
      program.loopStartChecked position = some (program.loopStart position)) ∧
    (∀ code size cells tape, Interpreter.prepare code size = .ok (cells, tape, program) →
      tape = .blank cells.val cells.property ∧
      ∀ limit source sink report failure,
        Interpreter.interpret limit code size source sink = some report →
          report.failure = some failure → ∃ fault, failure = .brokenOff fault ∧
            ((∃ count reached,
              (start ⟨tape, source, sink⟩).after program count = some reached ∧
                BreaksOff program reached fault) ∨
              ∃ error, sink.flushing = .fails error ∧ fault = .stream error)) := by
  refine ⟨fun workspace count reached reachedAfter => ⟨?_, ?_, ?_⟩,
    fun position inside => ⟨?_, ?_⟩, fun code size cells tape prepared => ⟨?_, ?_⟩⟩
  · exact (inRange_start program workspace).after reachedAfter
  · intro index character added there
    have wrote := wrote_of_after reachedAfter added there
    exact ⟨wrote.toNat_le, wrote⟩
  · intro last fault failed
    obtain ⟨cause, sameSink⟩ := breaksOff_of_failed failed
    exact ⟨((inRange_start program workspace).after reachedAfter).failed failed, sameSink, cause⟩
  · exact Program.loopEndChecked_eq (by omega)
  · exact Program.loopStartChecked_eq (by omega)
  · exact (Interpreter.prepare_eq_ok prepared).2.2
  · intro limit source sink report failure interpreted failed
    rw [Interpreter.interpret_of_prepare prepared, Option.map_eq_some_iff] at interpreted
    obtain ⟨⟨last, cause⟩, stopped, rfl⟩ := interpreted
    rw [Interpreter.failure_conclude, Option.map_eq_some_iff] at failed
    obtain ⟨fault, blamed, rfl⟩ := failed
    refine ⟨fault, rfl, ?_⟩
    cases cause with
    | some cause =>
        obtain rfl := Option.some.inj blamed
        exact .inl (exists_breaksOff_of_run stopped)
    | none =>
        have flushing : last.workspace.sink.flushing = sink.flushing := by
          rw [(ledger_run stopped).sink]
          rfl
        obtain ⟨error, broken, rfl⟩ := Sink.flush_eq_some blamed
        exact .inr ⟨error, flushing.symm.trans broken, rfl⟩

/-- The program `<,.,` goes left from cell 0 on two cells, reads the integer -1 as 255, writes
it, and is broken off by an answer of two characters. -/
theorem run_stays_in_range_of_two_characters :
    let program : Program :=
      #[.action .left, .action .read, .action .write, .action .read]
    let source : Source := .ofChunks [.integers [-1], .text "ab"]
    let blank : Tape := .blank 2 Nat.two_pos
    let stuck (reads : Nat) : Machine Tape :=
      ⟨3, ⟨blank.moveLeft.put 255, ⟨source.answers, reads⟩, Sink.plain.take ['ÿ']⟩⟩
    (start ⟨blank, source, .plain⟩).after program 3 = some (stuck 1) ∧
      InRange program 2 (stuck 1) ∧ Wrote program (start ⟨blank, source, .plain⟩) 3 0 'ÿ' ∧
      (stuck 1).step program = .failed (stuck 2) (.manyCharacters 2) ∧
      InRange program 2 (stuck 2) ∧ BreaksOff program (stuck 1) (.manyCharacters 2) ∧
      ∃ report, Interpreter.interpret 4 (.text "<,.,") (.integer 2) source .plain =
          some report ∧ report.failure = some (.brokenOff (.manyCharacters 2)) ∧
        ∃ count reached, (start ⟨blank, source, .plain⟩).after program count = some reached ∧
          BreaksOff program reached (.manyCharacters 2) := by
  intro program source blank stuck
  obtain ⟨states, _, failures⟩ := run_stays_in_range program
  have reached : (start ⟨blank, source, .plain⟩).after program 3 = some (stuck 1) := rfl
  have failed : (stuck 1).step program = .failed (stuck 2) (.manyCharacters 2) := rfl
  obtain ⟨inRange, wrote, broken⟩ := states ⟨blank, source, .plain⟩ 3 (stuck 1) reached
  obtain ⟨lastInRange, _, cause⟩ := broken (stuck 2) _ failed
  refine ⟨reached, inRange, (wrote 0 'ÿ' (Nat.le_refl 0) rfl).2, failed, lastInRange, cause,
    _, rfl, rfl, ?_⟩
  obtain ⟨_, blamed⟩ :=
    failures (.text "<,.,") (.integer 2) ⟨2, Nat.two_pos⟩ blank rfl
  obtain ⟨fault, same, stopped | ⟨error, unflushed, _⟩⟩ := blamed 4 source .plain _ _ rfl rfl
  · obtain rfl := Failure.brokenOff.inj same
    exact stopped
  · cases unflushed

end Machine

end RingTape
