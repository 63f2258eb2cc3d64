/-
# Output sinks

A sink is written to one text after the other, and it answers each write by its number
and its text: it takes the text, or fails and takes nothing. So a sink may be full after
some writes, may know only some characters, or may recover from a failure. It may have no
flush or one that fails.
-/

import RingTape.Fault

namespace RingTape

/-- What happens when a sink is flushed. -/
inductive Flushing
  | absent
  | works
  | fails (error : StreamError)

/-- The answers of a sink, what was written to it, and how often that was tried and it was
flushed. -/
structure Sink where
  /-- Why a write fails, if it does: by the number of writes before it, failed ones
  included, and by its text. -/
  answers : Nat → List Char → Option StreamError
  flushing : Flushing
  written : Array Char
  writes : Nat
  flushes : Nat

/-- After so many writes every further one fails. -/
structure Capacity where
  writes : Nat
  error : StreamError

/-- The answers of a sink that is full at its capacity, if it has one. -/
def Capacity.answers : Option Capacity → Nat → List Char → Option StreamError
  | none, _, _ => none
  | some capacity, index, _ => if index < capacity.writes then none else some capacity.error

namespace Sink

/-- An unused sink of the given abilities. -/
def create (capacity : Option Capacity) (flushing : Flushing) : Sink :=
  ⟨Capacity.answers capacity, flushing, #[], 0, 0⟩

/-- A sink that takes everything and can be flushed. -/
def plain : Sink := create none .works

/-- Why it would fail to write this text now, if it would. -/
def refusal (text : List Char) (sink : Sink) : Option Fault :=
  (sink.answers sink.writes text).map .stream

/-- The sink after a write that it has taken. -/
def take (text : List Char) : Sink → Sink
  | ⟨answers, flushing, written, writes, flushes⟩ =>
    ⟨answers, flushing, text.foldl Array.push written, writes + 1, flushes⟩

/-- The sink after a write that has failed. -/
def refuse : Sink → Sink
  | ⟨answers, flushing, written, writes, flushes⟩ =>
    ⟨answers, flushing, written, writes + 1, flushes⟩

/-- Write a text. -/
def write (text : List Char) (sink : Sink) : Option Fault × Sink :=
  match sink.refusal text with
  | some fault => (some fault, sink.refuse)
  | none => (none, sink.take text)

/-- Print a line: its text and the line feed behind it are two writes. -/
def print (line : String) (sink : Sink) : Option Fault × Sink :=
  match sink.write line.toList with
  | (some fault, left) => (some fault, left)
  | (none, taken) => taken.write ['\n']

/-- Flush once. A flush that fails is counted; a sink without one is left alone. -/
def flush : Sink → Option Fault × Sink
  | ⟨answers, .absent, written, writes, flushes⟩ =>
    (none, ⟨answers, .absent, written, writes, flushes⟩)
  | ⟨answers, .works, written, writes, flushes⟩ =>
    (none, ⟨answers, .works, written, writes, flushes + 1⟩)
  | ⟨answers, .fails error, written, writes, flushes⟩ =>
    (some (.stream error), ⟨answers, .fails error, written, writes, flushes + 1⟩)

/-- Everything written so far. -/
def text (sink : Sink) : String :=
  String.ofList sink.written.toList

/-- No write to the sink fails. -/
def TakesAll (sink : Sink) : Prop :=
  ∀ index text, sink.answers index text = none

theorem takesAll_create (flushing : Flushing) : (create none flushing).TakesAll :=
  fun _ _ => rfl

theorem takesAll_plain : plain.TakesAll :=
  takesAll_create .works

theorem TakesAll.refusal {sink : Sink} (takes : sink.TakesAll) (text : List Char) :
    sink.refusal text = none := by
  rw [Sink.refusal, takes]
  rfl

/-- A sink refuses a write only with its own error. -/
theorem refusal_eq_some {sink : Sink} {text : List Char} {fault : Fault}
    (refused : sink.refusal text = some fault) :
    ∃ error, sink.answers sink.writes text = some error ∧ fault = .stream error := by
  obtain ⟨error, answer, rfl⟩ := Option.map_eq_some_iff.mp refused
  exact ⟨error, answer, rfl⟩

theorem write_of_refusal {sink : Sink} {text : List Char} {fault : Fault}
    (refused : sink.refusal text = some fault) : sink.write text = (some fault, sink.refuse) := by
  rw [write, refused]

theorem write_of_taken {sink : Sink} {text : List Char} (taken : sink.refusal text = none) :
    sink.write text = (none, sink.take text) := by
  rw [write, taken]

@[simp]
theorem write_fst (text : List Char) (sink : Sink) :
    (sink.write text).1 = sink.refusal text := by
  cases refused : sink.refusal text with
  | none => rw [write_of_taken refused]
  | some fault => rw [write_of_refusal refused]

/-- What is taken stands behind what is there. -/
@[simp]
theorem toList_written_take (text : List Char) (sink : Sink) :
    (sink.take text).written.toList = sink.written.toList ++ text := by
  simp [take]

/-- A flush fails only where the sink is made so. -/
theorem flush_eq_some {sink : Sink} {fault : Fault} (failed : sink.flush.1 = some fault) :
    ∃ error, sink.flushing = .fails error ∧ fault = .stream error := by
  obtain ⟨answers, flushing, written, writes, flushes⟩ := sink
  cases flushing with
  | absent | works => simp [flush] at failed
  | fails error => exact ⟨error, rfl, by simpa [flush, eq_comm] using failed⟩

/-- Flushing writes nothing. -/
@[simp]
theorem written_flush (sink : Sink) : sink.flush.2.written = sink.written := by
  obtain ⟨answers, flushing, written, writes, flushes⟩ := sink
  cases flushing <;> rfl

end Sink

end RingTape
