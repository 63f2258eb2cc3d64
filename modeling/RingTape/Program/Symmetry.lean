/-
# Programs exchanged and stripped

Exchanging the two moves, or the two changes of a cell, gives a program that does the
same work on the reflected, or the negated, tape. Comments can be left out without
changing what is done, only where it stands.
-/

import RingTape.Program

namespace RingTape

namespace Action

/-- The action with right and left exchanged. -/
def reflected : Action → Action
  | right => left
  | left => right
  | action => action

/-- The action with adding and taking away exchanged. -/
def negated : Action → Action
  | increment => decrement
  | decrement => increment
  | action => action

@[simp]
theorem reflected_reflected (action : Action) : action.reflected.reflected = action := by
  cases action <;> rfl

@[simp]
theorem negated_negated (action : Action) : action.negated.negated = action := by
  cases action <;> rfl

end Action

namespace Instruction

/-- The instruction with its action changed, brackets staying as they are. -/
def mapAction (change : Action → Action) : Instruction → Instruction
  | action old => action (change old)
  | loopStart => loopStart
  | loopEnd => loopEnd

/-- Whether this is one of the eight instructions and no comment. -/
def isProper (instruction : Instruction) : Bool :=
  instruction ≠ action .comment

@[simp]
theorem mapAction_id : mapAction id = id := by
  funext instruction
  cases instruction <;> rfl

end Instruction

namespace Program

/-- The program with right and left exchanged. -/
def reflected (program : Program) : Program :=
  program.map (Instruction.mapAction Action.reflected)

/-- The program with adding and taking away exchanged. -/
def negated (program : Program) : Program :=
  program.map (Instruction.mapAction Action.negated)

/-- The program without its comments. -/
def stripped (program : Program) : Program :=
  program.filter Instruction.isProper

/-- The positions that are no comments, in order; the position at an index is where
the instruction of that index in the stripped program comes from. -/
def properPositions (program : Program) : List Nat :=
  (List.range program.size).filter fun position =>
    (program[position]?.map Instruction.isProper).getD false

/-! ## Scans look at brackets only -/

section

variable (change : Action → Action) (program : Program)

theorem scanForward_map_mapAction (remaining position depth : Nat) :
    scanForward (program.map (Instruction.mapAction change)) remaining position depth =
      program.scanForward remaining position depth := by
  induction remaining generalizing position depth with
  | zero => rfl
  | succ remaining ih =>
      rw [scanForward, scanForward, Array.getElem?_map]
      rcases program[position]? with _ | (_ | _ | _)
      · exact ih (position + 1) depth
      · exact ih (position + 1) depth
      · exact ih (position + 1) (depth + 1)
      · simp only [Option.map_some, Instruction.mapAction, ih]

theorem scanBackward_map_mapAction (bound depth : Nat) :
    scanBackward (program.map (Instruction.mapAction change)) bound depth =
      program.scanBackward bound depth := by
  induction bound generalizing depth with
  | zero => rfl
  | succ position ih =>
      rw [scanBackward, scanBackward, Array.getElem?_map]
      rcases program[position]? with _ | (_ | _ | _)
      · exact ih depth
      · exact ih depth
      · simp only [Option.map_some, Instruction.mapAction, ih]
      · exact ih (depth + 1)

theorem loopEnd_map_mapAction (start : Int) :
    loopEnd (program.map (Instruction.mapAction change)) start = program.loopEnd start := by
  simp only [loopEnd, searchForward, Array.size_map, scanForward_map_mapAction]

theorem loopStart_map_mapAction (finish : Int) :
    loopStart (program.map (Instruction.mapAction change)) finish = program.loopStart finish := by
  simp only [loopStart, searchBackward, scanBackward_map_mapAction]

end

@[simp]
theorem size_reflected (program : Program) : program.reflected.size = program.size := by
  simp [reflected]

@[simp]
theorem size_negated (program : Program) : program.negated.size = program.size := by
  simp [negated]

end Program

end RingTape
