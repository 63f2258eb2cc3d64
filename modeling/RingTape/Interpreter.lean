/-
# Interpretation

To interpret code is to check what was handed in, to run the program on a blank
tape, and to flush the sink. A refusal comes before any effect on the streams.
-/

import RingTape.Code
import RingTape.Event
import RingTape.Machine
import RingTape.MemorySize

namespace RingTape

/-- What an interpretation leaves behind: both streams, the events in order, and
the failure if there was one. -/
structure Report where
  source : Source
  sink : Sink
  events : List Event
  failure : Option Failure

namespace Interpreter

open MemorySize (Allocator)

/-- Check the size, make the tape and take the program, in this order. -/
def prepareWith (allocate : Allocator) (code : Code) (size : Value) :
    Except Failure ({ cells : Nat // 0 < cells } × Tape × Program) := do
  let cells ← MemorySize.check size
  let tape ← allocate cells
  let program ← code.program
  return (cells, tape, program)

/-- Flush the sink after a run without a fault; only then is the program finished. -/
def finish (told : List Event) (source : Source) (sink : Sink) : Report :=
  match sink.flush with
  | (none, flushed) => ⟨source, flushed, told ++ [.finished], none⟩
  | (some fault, flushed) => ⟨source, flushed, told, some (.brokenOff fault)⟩

/-- What remains of a run that has told this, on whatever kind of tape it was made. -/
def concludeTelling {τ : Type} (told : List Event) : Halt τ → Report
  | ⟨⟨_, ⟨_, source, sink⟩⟩, none⟩ => finish told source sink
  | ⟨⟨_, ⟨_, source, sink⟩⟩, some fault⟩ => ⟨source, sink, told, some (.brokenOff fault)⟩

/-- Interpret code on a tape that is made like this, `limit` steps at most; `none` when it
is still running then. -/
def interpretWith (allocate : Allocator) (limit : Nat) (code : Code) (size : Value)
    (source : Source) (sink : Sink) : Option Report :=
  match prepareWith allocate code size with
  | .error failure => some ⟨source, sink, [], some failure⟩
  | .ok (cells, tape, program) =>
    let begun := Event.running program.size cells.val
    ((Machine.start ⟨tape, source, sink⟩).runTelling program limit [begun]).map
      fun (halt, told) => concludeTelling told halt

/-- The preparation of a run on a blank tape. -/
def prepare (code : Code) (size : Value) :
    Except Failure ({ cells : Nat // 0 < cells } × Tape × Program) :=
  prepareWith MemorySize.allocate code size

/-- Interpret code on a blank tape, `limit` steps at most; `none` when it is still
running then. -/
def interpret (limit : Nat) (code : Code) (size : Value) (source : Source) (sink : Sink) :
    Option Report :=
  interpretWith MemorySize.allocate limit code size source sink

/-- What remains of a run that began with this event: it has told of its fault since. -/
def conclude {τ : Type} (begun : Event) (halt : Halt τ) : Report :=
  concludeTelling (begun :: halt.told) halt

/-- A run that came to its end is finished, having told nothing. -/
theorem conclude_of_ended {τ : Type} (begun : Event) (last : Machine τ) :
    conclude begun ⟨last, none⟩ =
      finish [begun] last.workspace.source last.workspace.sink := rfl

/-- A report leaves the source as the run did. -/
@[simp]
theorem source_conclude {τ : Type} (begun : Event) (halt : Halt τ) :
    (conclude begun halt).source = halt.machine.workspace.source := by
  obtain ⟨last, fault⟩ := halt
  cases fault with
  | some fault => rfl
  | none =>
      rw [conclude_of_ended, finish]
      split <;> rfl

/-- A report has what the run wrote. -/
@[simp]
theorem written_conclude {τ : Type} (begun : Event) (halt : Halt τ) :
    (conclude begun halt).sink.written = halt.machine.workspace.sink.written := by
  obtain ⟨last, fault⟩ := halt
  cases fault with
  | some fault => rfl
  | none =>
      have flushed := last.workspace.sink.written_flush
      rw [conclude_of_ended, finish]
      split <;> simp_all

/-- A report tells of the fault that broke the run off, or else of a flush that failed. -/
theorem failure_conclude {τ : Type} (begun : Event) (halt : Halt τ) :
    (conclude begun halt).failure =
      (halt.fault.or halt.machine.workspace.sink.flush.1).map Failure.brokenOff := by
  obtain ⟨last, fault⟩ := halt
  cases fault with
  | some fault => rfl
  | none =>
      rw [conclude_of_ended, finish, Option.none_or]
      cases last.workspace.sink.flush with
      | mk failed flushed => cases failed <;> rfl

/-- The exchanges of the first `limit` steps of an interpretation. -/
def exchanges (limit : Nat) (code : Code) (size : Value) (source : Source) (sink : Sink) :
    List Exchange :=
  match prepare code size with
  | .error _ => []
  | .ok (_, tape, program) => (Machine.start ⟨tape, source, sink⟩).exchanges program limit

/-- The tape that is prepared is blank and of the size that was checked. -/
theorem prepare_eq_ok {code : Code} {size : Value} {cells : { cells : Nat // 0 < cells }}
    {tape : Tape} {program : Program} (prepared : prepare code size = .ok (cells, tape, program)) :
    MemorySize.check size = .ok cells ∧ code.program = .ok program ∧
      tape = .blank cells.val cells.property := by
  obtain ⟨found, checked, prepared⟩ := exists_of_bind_eq_ok prepared
  obtain ⟨blank, made, prepared⟩ := exists_of_bind_eq_ok prepared
  obtain ⟨taken, given, prepared⟩ := exists_of_bind_eq_ok prepared
  cases prepared
  exact ⟨checked, given, MemorySize.eq_blank_of_allocate made⟩

/-- What is prepared is run, and what the run tells is told of its fault. -/
theorem interpretWith_of_prepareWith {allocate : Allocator} {code : Code} {size : Value}
    {cells : { cells : Nat // 0 < cells }} {tape : Tape} {program : Program}
    (prepared : prepareWith allocate code size = .ok (cells, tape, program)) (limit : Nat)
    (source : Source) (sink : Sink) :
    interpretWith allocate limit code size source sink =
      ((Machine.start ⟨tape, source, sink⟩).run program limit).map
        (conclude (.running program.size cells.val)) := by
  simp only [interpretWith, prepared, Machine.runTelling_eq, Option.map_map]
  rfl

theorem interpret_of_prepare {code : Code} {size : Value} {cells : { cells : Nat // 0 < cells }}
    {tape : Tape} {program : Program} (prepared : prepare code size = .ok (cells, tape, program))
    (limit : Nat) (source : Source) (sink : Sink) :
    interpret limit code size source sink =
      ((Machine.start ⟨tape, source, sink⟩).run program limit).map
        (conclude (.running program.size cells.val)) :=
  interpretWith_of_prepareWith prepared limit source sink

/-- What is refused leaves the streams as they are, whatever the limit. -/
theorem interpretWith_of_refuse {allocate : Allocator} {code : Code} {size : Value}
    {failure : Failure} (refused : prepareWith allocate code size = .error failure)
    (limit : Nat) (source : Source) (sink : Sink) :
    interpretWith allocate limit code size source sink =
      some ⟨source, sink, [], some failure⟩ := by
  rw [interpretWith, refused]

theorem interpret_of_refuse {code : Code} {size : Value} {failure : Failure}
    (refused : prepare code size = .error failure) (limit : Nat) (source : Source)
    (sink : Sink) :
    interpret limit code size source sink = some ⟨source, sink, [], some failure⟩ :=
  interpretWith_of_refuse refused limit source sink

/-- Where nothing is refused, an interpretation is a run on a blank tape. -/
theorem interpret_eq_run {code : Code} {program : Program} {size : Value}
    {cells : { cells : Nat // 0 < cells }} (given : code.program = .ok program)
    (checked : MemorySize.check size = .ok cells) (fits : cells.val < MemorySize.memoryBound)
    (limit : Nat) (source : Source) (sink : Sink) :
    interpret limit code size source sink =
      ((Machine.start ⟨Tape.blank cells.val cells.property, source, sink⟩).run program limit).map
        (conclude (.running program.size cells.val)) := by
  have prepared : prepare code size =
      .ok (cells, .blank cells.val cells.property, program) := by
    rw [prepare, prepareWith, checked]
    simp [bind, Except.bind, pure, Except.pure, MemorySize.allocate_of_lt fits, given]
  exact interpret_of_prepare prepared limit source sink

end Interpreter

end RingTape
