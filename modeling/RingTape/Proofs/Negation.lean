/-
# Negated runs

Adding and taking away are exchanged by negation modulo 256, and so are the two instructions for
them. A program and the one with these exchanged make the same run, negated: every cell is the
negation of its counterpart, and so is every character that is written. They have to read
negated bytes for that, if they read at all, and what they write has to be answered alike. A sink
that counts the writes does so, and one that looks at the characters may not.
-/

import RingTape.Proofs.Deliveries
import RingTape.Proofs.Interpretation
import RingTape.Tape.Symmetry

namespace RingTape

/-! ## Negated code -/

theorem Instruction.ofChar_negatedCharacter (character : Char) :
    ofChar (negatedCharacter character) = (ofChar character).mapAction Action.negated := by
  unfold negatedCharacter
  split
  · rfl
  · rfl
  · rename_i noPlus noMinus
    unfold ofChar
    split
    case h_3 => exact absurd rfl noPlus
    case h_4 => exact absurd rfl noMinus
    all_goals rfl

theorem Instruction.ofValue_negated (value : Value) :
    ofValue value.negated = (ofValue value).mapAction Action.negated := by
  unfold Value.negated
  split
  · rfl
  · rfl
  · rename_i noPlus noMinus
    cases value with
    | text characters =>
        rw [ofValue, ofText]
        split
        · rename_i character spelled
          have text : characters = String.ofList [character] := by
            rw [← spelled, String.ofList_toList]
          have unchanged : negatedCharacter character = character := by
            unfold negatedCharacter
            split
            · exact absurd (congrArg Value.text text) noPlus
            · exact absurd (congrArg Value.text text) noMinus
            · rfl
          rw [← ofChar_negatedCharacter, unchanged]
        · rfl
    | null | boolean | integer | floating | list | record | index | fixedBoolean
    | fixedInteger | fixedFloating => rfl

/-- The code with `+` and `-` exchanged gives the negated program. -/
theorem Code.program_negated {code : Code} {program : Program}
    (given : code.program = .ok program) : code.negated.program = .ok program.negated := by
  cases code with
  | text characters =>
      obtain rfl := Except.ok.inj given
      simp [Code.program, negated, Program.ofText, Program.negated, Function.comp_def,
        Instruction.ofChar_negatedCharacter]
  | pieces elements =>
      obtain rfl := Except.ok.inj given
      simp [Code.program, negated, Program.negated, Function.comp_def,
        Instruction.ofValue_negated]
  | bytes elements =>
      obtain rfl := Except.ok.inj given
      simp [Code.program, negated, Program.negated, Instruction.mapAction, Action.negated]
  | unsized kind => cases given

/-! ## Negated streams -/

/-- The reads of the two sources deliver bytes of which each is the negation of the other, or
fail alike. -/
def Source.Opposite (first second : Source) : Prop :=
  ∀ index, (second.answers (second.reads + index)).delivered =
    (first.answers (first.reads + index)).delivered.map fun byte => -byte

namespace Exchange

/-- The character whose code point is the negation modulo 256. -/
def negatedCharacter (character : Char) : Char :=
  Char.ofUInt8 (-UInt8.ofNat character.toNat)

/-- The exchange with the byte negated that it passes. -/
def negated : Exchange → Exchange
  | read result => read (result.map fun byte => -byte)
  | write character refusal => write (negatedCharacter character) refusal

theorem negatedCharacter_ofUInt8 (byte : UInt8) :
    negatedCharacter (Char.ofUInt8 byte) = Char.ofUInt8 (-byte) := by
  rw [negatedCharacter]
  congr 2
  exact UInt8.ofNat_toNat

end Exchange

namespace Sink

/-- After as many writes the other sink answers the character of the negated byte as this one
answers that of the byte. -/
def AnsweredAlike (sink other : Sink) (made : Nat) (byte : UInt8) : Prop :=
  other.answers (other.writes + made) [Char.ofUInt8 (-byte)] =
    sink.answers (sink.writes + made) [Char.ofUInt8 byte]

/-- From now on the other sink answers every negated byte as this one answers the byte, and both
are flushed alike. -/
structure Opposite (sink other : Sink) : Prop where
  answers : ∀ made byte, sink.AnsweredAlike other made byte
  flushing : other.flushing = sink.flushing

/-- The sink that answers each text as this one answers the negated characters. -/
def mirror : Sink → Sink
  | ⟨answers, flushing, written, writes, flushes⟩ =>
    ⟨fun index text => answers index (text.map Exchange.negatedCharacter), flushing, written,
      writes, flushes⟩

theorem opposite_mirror (sink : Sink) : sink.Opposite sink.mirror where
  answers made byte := by
    have back : Exchange.negatedCharacter (Char.ofUInt8 (-byte)) = Char.ofUInt8 byte := by
      rw [Exchange.negatedCharacter_ofUInt8, UInt8.neg_neg]
    change sink.answers (sink.writes + made)
      [Exchange.negatedCharacter (Char.ofUInt8 (-byte))] = _
    rw [back]
  flushing := rfl

/-- A sink that does not look at the characters is opposite to itself. -/
theorem opposite_self {sink : Sink}
    (counts : ∀ index text other, sink.answers index text = sink.answers index other) :
    sink.Opposite sink :=
  ⟨fun _ _ => counts _ _ _, rfl⟩

/-- Since they were these two, the sinks were written to and flushed equally often, and one of
them got the negations of the characters that the other got. -/
structure Negated (sink other first second : Sink) : Prop where
  written : ∃ characters, first.written.toList = sink.written.toList ++ characters ∧
    second.written.toList =
      other.written.toList ++ characters.map Exchange.negatedCharacter
  writes : ∃ made, first.writes = sink.writes + made ∧ second.writes = other.writes + made
  flushes : ∃ made, first.flushes = sink.flushes + made ∧ second.flushes = other.flushes + made
  answers : first.answers = sink.answers ∧ second.answers = other.answers
  flushing : second.flushing = first.flushing

namespace Negated

variable {sink other first second : Sink}

theorem refl (same : other.flushing = sink.flushing) : sink.Negated other sink other :=
  ⟨⟨[], by simp⟩, ⟨0, rfl, rfl⟩, ⟨0, rfl, rfl⟩, ⟨rfl, rfl⟩, same⟩

/-- The one sink refuses the negated byte as the other does the byte, if and only if it is
answered alike. -/
theorem refusal_eq_iff (negated : sink.Negated other first second) {byte : UInt8} :
    second.refusal [Char.ofUInt8 (-byte)] = first.refusal [Char.ofUInt8 byte] ↔
      sink.AnsweredAlike other (first.writes - sink.writes) byte := by
  obtain ⟨made, writes, otherWrites⟩ := negated.writes
  have sameFault : Function.Injective Fault.stream := fun _ _ => Fault.stream.inj
  rw [Sink.refusal, Sink.refusal, negated.answers.1, negated.answers.2, writes, otherWrites,
    AnsweredAlike, Nat.add_sub_cancel_left]
  exact (Option.map_injective sameFault).eq_iff

theorem refuse (negated : sink.Negated other first second) :
    sink.Negated other first.refuse second.refuse := by
  obtain ⟨made, writes, otherWrites⟩ := negated.writes
  exact ⟨negated.written, ⟨made + 1, congrArg (· + 1) writes, congrArg (· + 1) otherWrites⟩,
    negated.flushes, negated.answers, negated.flushing⟩

theorem take (negated : sink.Negated other first second) (byte : UInt8) :
    sink.Negated other (first.take [Char.ofUInt8 byte]) (second.take [Char.ofUInt8 (-byte)]) := by
  obtain ⟨characters, written, opposite⟩ := negated.written
  obtain ⟨made, writes, otherWrites⟩ := negated.writes
  refine ⟨⟨characters ++ [Char.ofUInt8 byte], ?_, ?_⟩,
    ⟨made + 1, congrArg (· + 1) writes, congrArg (· + 1) otherWrites⟩, negated.flushes,
    negated.answers, negated.flushing⟩
  · rw [toList_written_take, written, List.append_assoc]
  · rw [toList_written_take, opposite, List.map_append, List.append_assoc, List.map_singleton,
      Exchange.negatedCharacter_ofUInt8]

/-- What is written is taken by both sinks or refused by both, if it is answered alike. -/
theorem write (negated : sink.Negated other first second) {byte : UInt8}
    (alike : sink.AnsweredAlike other (first.writes - sink.writes) byte) :
    sink.Negated other (first.write [Char.ofUInt8 byte]).2
      (second.write [Char.ofUInt8 (-byte)]).2 := by
  have same := negated.refusal_eq_iff.mpr alike
  cases refused : first.refusal [Char.ofUInt8 byte] with
  | some fault =>
      rw [write_of_refusal refused, write_of_refusal (same.trans refused)]
      exact negated.refuse
  | none =>
      rw [write_of_taken refused, write_of_taken (same.trans refused)]
      exact negated.take byte

theorem flush (negated : sink.Negated other first second) :
    second.flush.1 = first.flush.1 ∧ sink.Negated other first.flush.2 second.flush.2 := by
  obtain ⟨_, _, _, _, _⟩ := first
  obtain ⟨_, ability, _, _, _⟩ := second
  obtain ⟨written, writes, ⟨made, flushes, otherFlushes⟩, answers, rfl⟩ := negated
  cases ability with
  | absent => exact ⟨rfl, written, writes, ⟨made, flushes, otherFlushes⟩, answers, rfl⟩
  | works | fails =>
      exact ⟨rfl, written, writes,
        ⟨made + 1, congrArg (· + 1) flushes, congrArg (· + 1) otherFlushes⟩, answers, rfl⟩

end Negated

end Sink

/-! ## Negated workspaces -/

/-- Workspaces whose tapes are negations of each other, and whose streams were used alike. -/
structure Workspace.Negated (first second : Source) (sink other : Sink)
    (workspace counterpart : Workspace Tape) : Prop where
  tape : counterpart.tape = workspace.tape.negate
  source : first.InStep second workspace.source counterpart.source
  sink : sink.Negated other workspace.sink counterpart.sink

namespace Workspace

variable {first second : Source} {sink other : Sink} {workspace counterpart : Workspace Tape}

theorem Negated.current (negated : Negated first second sink other workspace counterpart) :
    counterpart.current = -workspace.current := by
  have same : counterpart.current = counterpart.tape.current := rfl
  rw [same, negated.tape, Tape.current_negate]
  rfl

/-- Only zero is zero when it is negated. -/
theorem Negated.current_eq_zero_iff
    (negated : Negated first second sink other workspace counterpart) :
    workspace.current = 0 ↔ counterpart.current = 0 := by
  have only : -workspace.current = -0 ↔ workspace.current = 0 := UInt8.neg_inj
  rw [negated.current]
  exact only.symm

/-- Sources that were read equally often answer with opposite results. -/
theorem Negated.read (opposite : first.Opposite second)
    (negated : Negated first second sink other workspace counterpart) :
    counterpart.source.read.1 = workspace.source.read.1.map (fun byte => -byte) ∧
      first.InStep second workspace.source.read.2 counterpart.source.read.2 := by
  obtain ⟨made, source, otherSource⟩ := negated.source
  rw [source, otherSource, ← Source.readMany_succ_snd, ← Source.readMany_succ_snd,
    Source.readMany_snd, Source.readMany_snd]
  exact ⟨opposite made, made + 1, rfl, rfl⟩

/-- What is written next, if it is, is answered alike. -/
def AnsweredAlike (sink other : Sink) (workspace : Workspace Tape) : Prop :=
  sink.AnsweredAlike other (workspace.sink.writes - sink.writes) workspace.current

theorem Negated.refusal_eq_iff
    (negated : Negated first second sink other workspace counterpart) :
    counterpart.sink.refusal counterpart.symbol = workspace.sink.refusal workspace.symbol ↔
      workspace.AnsweredAlike sink other := by
  rw [symbol, negated.current]
  exact negated.sink.refusal_eq_iff

/-- The negated action does on a negated tape what the action does on the tape. -/
theorem Negated.perform {action : Action}
    (negated : Negated first second sink other workspace counterpart)
    (opposed : action = .read → first.Opposite second)
    (alike : action = .write → workspace.AnsweredAlike sink other) :
    Negated first second sink other (workspace.perform action).1
        (counterpart.perform action.negated).1 ∧
      (workspace.perform action).2 = (counterpart.perform action.negated).2 := by
  have refusal := fun writes => negated.sink.refusal_eq_iff.mpr (alike writes)
  have write := fun writes => negated.sink.write (alike writes)
  have read := fun reads => negated.read (opposed reads)
  have opposite := negated.current
  obtain ⟨tape, source, written⟩ := workspace
  obtain ⟨_, otherSource, otherWritten⟩ := counterpart
  obtain ⟨rfl, sources, sinks⟩ := negated
  simp only at refusal write read sources sinks
  have current : TapeLike.current tape.negate = -TapeLike.current tape := tape.current_negate
  have put (value : UInt8) : TapeLike.put (-value) tape.negate = (tape.put value).negate :=
    (tape.put_negate value).symm
  cases action with
  | right => exact ⟨⟨tape.moveRight_negate.symm, sources, sinks⟩, rfl⟩
  | left => exact ⟨⟨tape.moveLeft_negate.symm, sources, sinks⟩, rfl⟩
  | comment => exact ⟨⟨rfl, sources, sinks⟩, rfl⟩
  | increment =>
      have taken : -TapeLike.current tape - 1 = -(TapeLike.current tape + 1) :=
        UInt8.neg_add.symm
      simp only [Workspace.perform, Action.negated, current, taken, put]
      exact ⟨⟨rfl, sources, sinks⟩, trivial⟩
  | decrement =>
      have added : -TapeLike.current tape + 1 = -(TapeLike.current tape - 1) := by
        rw [UInt8.neg_sub, UInt8.sub_eq_add_neg, UInt8.add_comm]
      simp only [Workspace.perform, Action.negated, current, added, put]
      exact ⟨⟨rfl, sources, sinks⟩, trivial⟩
  | write =>
      have unchanged : Action.negated .write = .write := rfl
      rw [unchanged, perform_write, perform_write, symbol, symbol, opposite]
      exact ⟨⟨rfl, sources, write rfl⟩, (refusal rfl).symm⟩
  | read =>
      obtain ⟨answered, inStep⟩ := read rfl
      simp only [Workspace.perform, Action.negated]
      generalize source.read = answer at answered inStep ⊢
      generalize otherSource.read = otherAnswer at answered inStep ⊢
      obtain ⟨result, rest⟩ := answer
      obtain ⟨_, otherRest⟩ := otherAnswer
      obtain rfl := answered
      cases result with
      | error fault => exact ⟨⟨rfl, inStep, sinks⟩, rfl⟩
      | ok byte => exact ⟨⟨put byte, inStep, sinks⟩, rfl⟩

end Workspace

/-! ## Negated runs -/

namespace Machine

variable {program : Program} {first second : Source} {sink other : Sink} {limit : Nat}

open Workspace (Negated)

/-- What the next step writes, if it writes, is answered alike. -/
def AnsweredAlike (sink other : Sink) (program : Program) (machine : Machine Tape) : Prop :=
  program[machine.position]? = some (.action .write) →
    machine.workspace.AnsweredAlike sink other

/-- Opposite sinks answer alike whatever is written. -/
theorem answeredAlike_of_opposite (opposite : sink.Opposite other) (machine : Machine Tape) :
    machine.AnsweredAlike sink other program :=
  fun _ => opposite.answers _ _

/-- One run is another one negated for so many steps: after any number of them both are at the
same position, with negated tapes and with streams that were used alike, they have made negated
exchanges, and they stop together and in the same way. -/
structure Opposed (first second : Source) (sink other : Sink) (program : Program)
    (limit : Nat) (machine counterpart : Machine Tape) : Prop where
  after : ∀ count, count ≤ limit → Option.Rel (Together (Negated first second sink other))
    (machine.after program count) (counterpart.after program.negated count)
  exchanges : ∀ count, count ≤ limit → counterpart.exchanges program.negated count =
    (machine.exchanges program count).map Exchange.negated
  run : ∀ count, count ≤ limit →
    Option.Rel (Halt.Related (Together (Negated first second sink other)))
      (machine.run program count) (counterpart.run program.negated count)

/-- A program that reads opposite sources, or nothing, and the negated program run in lockstep
while what they write is answered alike. -/
theorem lockstep_negated (opposed : .action .read ∈ program → first.Opposite second) :
    Lockstep program program.negated (AnsweredAlike sink other program)
      (Together (Negated first second sink other)) :=
  .of_mapAction Action.negated (fun negated _ => negated.current_eq_zero_iff)
    fun negated alike here => negated.perform
      (fun reads => opposed (Array.mem_of_getElem? (reads ▸ here)))
      (fun writes => alike (writes ▸ here))

theorem exchange_negated (opposed : .action .read ∈ program → first.Opposite second)
    {machine counterpart : Machine Tape}
    (together : machine.Together (Negated first second sink other) counterpart)
    (alike : machine.AnsweredAlike sink other program) :
    counterpart.exchange program.negated = (machine.exchange program).map Exchange.negated := by
  obtain ⟨position, workspace⟩ := machine
  obtain ⟨_, counterpart⟩ := counterpart
  obtain ⟨rfl, negated⟩ := together
  simp only [exchange, Program.negated, Array.getElem?_map]
  cases here : program[position]? with
  | none => rfl
  | some instruction =>
      cases instruction with
      | loopStart | loopEnd => rfl
      | action action =>
          cases action with
          | right | left | increment | decrement | comment => rfl
          | write =>
              simp only [Option.map_some, Instruction.mapAction, Action.negated,
                Workspace.exchange, Exchange.negated, negated.refusal_eq_iff.mpr (alike here),
                negated.current, Exchange.negatedCharacter_ofUInt8]
          | read =>
              have opposite := opposed (Array.mem_of_getElem? here)
              simp only [Option.map_some, Instruction.mapAction, Action.negated,
                Workspace.exchange, Exchange.negated, (negated.read opposite).1]

/-- The negated program makes the negated run on the negated tape, for as many steps as what is
written is answered alike. -/
theorem opposed_negate (opposed : .action .read ∈ program → first.Opposite second)
    (same : other.flushing = sink.flushing) {position : Nat} {tape : Tape}
    (alike : Guarded program (AnsweredAlike sink other program)
      ⟨position, tape, first, sink⟩ limit) :
    Opposed first second sink other program limit ⟨position, tape, first, sink⟩
      ⟨position, tape.negate, second, other⟩ := by
  have lockstep : Lockstep program program.negated (AnsweredAlike sink other program)
      (Together (Negated first second sink other)) := lockstep_negated opposed
  have together : Together (Negated first second sink other) ⟨position, tape, first, sink⟩
      ⟨position, tape.negate, second, other⟩ :=
    ⟨rfl, rfl, first.inStep_self second, .refl same⟩
  constructor
  · intro count within
    exact lockstep.after together (alike.of_le within)
  · intro count within
    exact lockstep.map_exchanges Exchange.negated
      (fun _ _ inRelation => exchange_negated opposed inRelation) together (alike.of_le within)
  · intro count within
    exact lockstep.run together (alike.of_le within)

/-- Runs that are opposed have been answered alike whatever they wrote. -/
theorem guarded_of_opposed {machine counterpart : Machine Tape}
    (opposed : Opposed first second sink other program limit machine counterpart) :
    Guarded program (AnsweredAlike sink other program) machine limit := by
  intro earlier within middle reached here
  have together := opposed.after earlier (Nat.le_of_lt within)
  have exchanged := opposed.exchanges (earlier + 1) within
  rw [exchanges_succ, exchanges_succ, opposed.exchanges earlier (Nat.le_of_lt within),
    List.map_append, List.append_cancel_left_eq, reached] at exchanged
  rw [reached] at together
  generalize counterpart.after program.negated earlier = found at together exchanged
  cases together with
  | @some _ alongside together =>
      obtain ⟨samePosition, negated⟩ := together
      have there : program.negated[alongside.position]? = some (.action .write) := by
        rw [Program.negated, Array.getElem?_map, ← samePosition, here]
        rfl
      rw [Option.bind_some, Option.bind_some, exchange_of_write here, exchange_of_write there]
        at exchanged
      simp only [Option.toList_some, List.map_cons, List.map_nil, Exchange.negated,
        List.cons.injEq, Exchange.write.injEq, and_true] at exchanged
      exact negated.refusal_eq_iff.mp exchanged.2

/-- A blank tape is its own negation. -/
theorem opposed_blank (opposed : .action .read ∈ program → first.Opposite second)
    (same : other.flushing = sink.flushing) {size : Nat} {positive : 0 < size}
    (alike : Guarded program (AnsweredAlike sink other program)
      (start ⟨Tape.blank size positive, first, sink⟩) limit) :
    Opposed first second sink other program limit
      (start ⟨Tape.blank size positive, first, sink⟩)
      (start ⟨Tape.blank size positive, second, other⟩) := by
  have negated := opposed_negate opposed same alike
  rwa [Tape.negate_blank] at negated

end Machine

/-! ## Negated interpretations -/

/-- Reports of the same events and failure, whose streams were used alike with negated bytes. -/
structure Report.Negated (first second : Source) (sink other : Sink)
    (report counterpart : Report) : Prop where
  source : first.InStep second report.source counterpart.source
  sink : sink.Negated other report.sink counterpart.sink
  events : counterpart.events = report.events
  failure : counterpart.failure = report.failure

namespace Interpreter

variable {first second : Source} {sink other : Sink} {limit : Nat}

theorem conclude_negated {halt counterpart : Halt Tape}
    (inRelation : Halt.Related
      (Machine.Together (Workspace.Negated first second sink other)) halt counterpart)
    (begun : Event) :
    Report.Negated first second sink other (conclude begun halt)
      (conclude begun counterpart) := by
  obtain ⟨⟨position, tape, source, written⟩, fault⟩ := halt
  obtain ⟨⟨_, otherTape, otherSource, otherWritten⟩, _⟩ := counterpart
  obtain ⟨⟨rfl, _, sources, sinks⟩, rfl⟩ := inRelation
  cases fault with
  | some fault => exact ⟨sources, sinks, rfl, rfl⟩
  | none =>
      have flushed := sinks.flush
      simp only [conclude_of_ended, finish] at flushed ⊢
      generalize written.flush = answer at flushed ⊢
      generalize otherWritten.flush = otherAnswer at flushed ⊢
      obtain ⟨_, flushedSink⟩ := answer
      obtain ⟨failed, otherFlushedSink⟩ := otherAnswer
      obtain ⟨rfl, negated⟩ := flushed
      cases failed with
      | none => exact ⟨sources, negated, rfl, rfl⟩
      | some fault => exact ⟨sources, negated, rfl, rfl⟩

/-- Code that reads opposite sources, or nothing, and the negated code have negated reports, if
what is written is answered alike. -/
theorem interpret_negated {program : Program} {code : Code}
    (given : code.program = .ok program)
    (opposed : .action .read ∈ program → first.Opposite second)
    (same : other.flushing = sink.flushing) (size : Value)
    (alike : ∀ cells tape, prepare code size = .ok (cells, tape, program) →
      Guarded program (Machine.AnsweredAlike sink other program) (.start ⟨tape, first, sink⟩)
        limit) :
    Option.Rel (Report.Negated first second sink other) (interpret limit code size first sink)
      (interpret limit code.negated size second other) := by
  rcases prepare_alike given (Code.program_negated given) size with
    ⟨cells, tape, prepared, otherPrepared⟩ | ⟨failure, refused, otherRefused, _⟩
  · have answered := alike cells tape prepared
    obtain ⟨_, _, rfl⟩ := prepare_eq_ok prepared
    rw [interpret_of_prepare prepared, interpret_of_prepare otherPrepared,
      Program.size_negated]
    let tape := Tape.blank cells.val cells.property
    have stopped := (Machine.opposed_blank opposed same answered).run limit (Nat.le_refl limit)
    generalize (Machine.start ⟨tape, first, sink⟩).run program limit = halted at stopped ⊢
    generalize (Machine.start ⟨tape, second, other⟩).run program.negated limit = otherHalted
      at stopped ⊢
    cases stopped with
    | none => exact .none
    | some inRelation => exact .some (conclude_negated inRelation _)
  · rw [interpret_of_refuse refused, interpret_of_refuse otherRefused]
    exact .some ⟨first.inStep_self second, .refl same, rfl, rfl⟩

/-- A sink that knows only ASCII characters does not answer alike the 1 that `+.` writes and the
255 that `-.` writes: the one interpretation comes to its end, and the other does not. -/
theorem negated_run_fails_on_ascii :
    ∃ sink : Sink, ∃ report other,
      interpret 3 (.text "+.") (.integer 1) .empty sink = some report ∧
      interpret 3 (Code.text "+.").negated (.integer 1) .empty sink = some other ∧
      report.failure = none ∧
      other.failure = some (.brokenOff (.stream ⟨.unicodeEncode, "no ASCII"⟩)) := by
  refine ⟨⟨fun _ text => if text.all (·.toNat < 128) then none else
    some ⟨.unicodeEncode, "no ASCII"⟩, .works, #[], 0, 0⟩, _, _, rfl, rfl, rfl, rfl⟩

end Interpreter

end RingTape
