/-
# Workspaces

A workspace is what a program works on: a tape, a source and a sink. An action
changes it in one way, or breaks the run off when a stream fails.
-/

import RingTape.Event
import RingTape.Instruction
import RingTape.Sink
import RingTape.Source
import RingTape.Tape

namespace RingTape

/-- A tape of some kind and the two streams. -/
structure Workspace (τ : Type) where
  tape : τ
  source : Source
  sink : Sink

namespace Workspace

variable {τ : Type} [TapeLike τ]

/-- The cell under the head. -/
@[inline]
def current (workspace : Workspace τ) : UInt8 :=
  TapeLike.current workspace.tape

/-- The workspace after an action, and the fault if the action broke the run off.
Cells are bytes, so adding to 255 and taking from 0 wrap around. What is written is
the character whose code point is the cell. A read or a write that fails is made all the
same. -/
@[inline]
def perform (action : Action) : Workspace τ → Workspace τ × Option Fault
  | ⟨tape, source, sink⟩ =>
    match action with
    | .right => (⟨TapeLike.moveRight tape, source, sink⟩, none)
    | .left => (⟨TapeLike.moveLeft tape, source, sink⟩, none)
    | .increment => (⟨TapeLike.put (TapeLike.current tape + 1) tape, source, sink⟩, none)
    | .decrement => (⟨TapeLike.put (TapeLike.current tape - 1) tape, source, sink⟩, none)
    | .write =>
      match sink.write [Char.ofUInt8 (TapeLike.current tape)] with
      | (failed, left) => (⟨tape, source, left⟩, failed)
    | .read =>
      match source.read with
      | (.ok byte, rest) => (⟨TapeLike.put byte tape, rest, sink⟩, none)
      | (.error fault, rest) => (⟨tape, rest, sink⟩, some fault)
    | .comment => (⟨tape, source, sink⟩, none)

/-- The text that a write would write: the character whose code point is the cell. -/
def symbol (workspace : Workspace τ) : List Char :=
  [Char.ofUInt8 workspace.current]

/-- A write does to the sink what the sink does. -/
theorem perform_write (workspace : Workspace τ) :
    workspace.perform .write =
      ({ workspace with sink := (workspace.sink.write workspace.symbol).2 },
        workspace.sink.refusal workspace.symbol) := by
  rw [← Sink.write_fst]
  rfl

/-- A read stores the byte that it delivers, or fails. -/
theorem perform_read (workspace : Workspace τ) :
    workspace.perform .read =
      match workspace.source.read with
      | (.ok byte, rest) => (⟨TapeLike.put byte workspace.tape, rest, workspace.sink⟩, none)
      | (.error fault, rest) => ({ workspace with source := rest }, some fault) := rfl

/-- An action breaks a run off in one of two ways: a write is refused, or a read fails. -/
theorem perform_eq_fault {workspace last : Workspace τ} {action : Action} {fault : Fault}
    (performed : workspace.perform action = (last, some fault)) :
    (action = .write ∧ workspace.sink.refusal workspace.symbol = some fault ∧
        last = { workspace with sink := workspace.sink.refuse }) ∨
      (action = .read ∧ workspace.source.read.1 = .error fault ∧
        last = { workspace with source := workspace.source.read.2 }) := by
  cases action with
  | write =>
      rw [perform_write, Prod.mk.injEq] at performed
      obtain ⟨rfl, refused⟩ := performed
      exact .inl ⟨rfl, refused, by rw [Sink.write_of_refusal refused]⟩
  | read =>
      rw [perform_read] at performed
      cases outcome : workspace.source.read with
      | mk result rest =>
          cases result with
          | ok byte => simp [outcome] at performed
          | error reason =>
              simp only [outcome, Prod.mk.injEq, Option.some.injEq] at performed
              exact .inr ⟨rfl, by rw [performed.2], performed.1.symm⟩
  | right | left | increment | decrement | comment => simp [perform] at performed

/-- No log goes with a fault of a stream. -/
theorem ofFault_of_perform {workspace last : Workspace τ} {action : Action} {fault : Fault}
    (performed : workspace.perform action = (last, some fault)) : Event.ofFault fault = none := by
  rcases perform_eq_fault performed with ⟨_, refused, _⟩ | ⟨_, failed, _⟩
  · obtain ⟨error, _, rfl⟩ := Sink.refusal_eq_some refused
    rfl
  · rcases Chunk.delivered_eq_error failed with ⟨error, _, rfl⟩ | ⟨characters, _, _, rfl⟩ <;> rfl

/-- An action that does not break the run off leaves the sink alone, or writes the cell under
the head. -/
theorem sink_of_perform {workspace next : Workspace τ} {action : Action}
    (performed : workspace.perform action = (next, none)) :
    next.sink = workspace.sink ∨
      (action = .write ∧ next.sink = workspace.sink.take workspace.symbol) := by
  cases action with
  | write =>
      rw [perform_write, Prod.mk.injEq] at performed
      obtain ⟨rfl, taken⟩ := performed
      exact .inr ⟨rfl, by rw [Sink.write_of_taken taken]⟩
  | read =>
      rw [perform_read] at performed
      cases outcome : workspace.source.read with
      | mk result rest =>
          cases result with
          | error fault => simp [outcome] at performed
          | ok byte =>
              simp only [outcome, Prod.mk.injEq, and_true] at performed
              exact .inl (by rw [← performed])
  | right | left | increment | decrement | comment =>
      obtain ⟨tape, source, sink⟩ := workspace
      simp only [perform, Prod.mk.injEq, and_true] at performed
      exact .inl (by rw [← performed])

/-- No action changes the number of cells of a ring. -/
@[simp]
theorem size_perform (action : Action) (workspace : Workspace Tape) :
    (workspace.perform action).1.tape.size = workspace.tape.size := by
  obtain ⟨tape, source, sink⟩ := workspace
  cases action with
  | right => exact congrArg Array.size tape.cells_moveRight
  | left => exact congrArg Array.size tape.cells_moveLeft
  | increment | decrement => exact tape.size_put _
  | comment => rfl
  | write => rfl
  | read =>
      simp only [perform]
      split
      · exact tape.size_put _
      · rfl

end Workspace

end RingTape
