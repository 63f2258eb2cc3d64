/-
# Programs and their loops

A program is an array of instructions. The end of a loop is not recorded
anywhere: a jump finds it by scanning from the bracket, forward from a loop
start and backward from a loop end, and counting how deep it is in other loops.
-/

import RingTape.Event
import RingTape.Instruction

namespace RingTape

/-- A sequence of instructions and comments. -/
abbrev Program := Array Instruction

namespace Program

/-- The program that a text spells, one position a character. -/
def ofText (text : String) : Program :=
  (text.toList.map Instruction.ofChar).toArray

/-- Look at `remaining` positions from `position` on for the loop end that is not
the end of a loop begun on the way; `depth` such loops are open already. -/
def scanForward (program : Program) : (remaining position depth : Nat) → Option Nat
  | 0, _, _ => none
  | remaining + 1, position, depth =>
    match program[position]? with
    | some .loopStart => scanForward program remaining (position + 1) (depth + 1)
    | some .loopEnd =>
      if depth = 0 then some position
      else scanForward program remaining (position + 1) (depth - 1)
    | _ => scanForward program remaining (position + 1) depth

/-- Look at the positions below `bound`, the last one first, for the loop start
that is not the start of a loop ended on the way; `depth` such loops are open
already. -/
def scanBackward (program : Program) : (bound depth : Nat) → Option Nat
  | 0, _ => none
  | position + 1, depth =>
    match program[position]? with
    | some .loopEnd => scanBackward program position (depth + 1)
    | some .loopStart =>
      if depth = 0 then some position else scanBackward program position (depth - 1)
    | _ => scanBackward program position depth

/-- What a jump learns from its scan: where to go on, or why not, and what is told of it. -/
structure Search where
  result : Except Fault Nat
  told : List Event

/-- A search that began at `origin` and has found this, or nothing. Nothing found is told
of before it is a fault. -/
def Search.ofFound (bracket : Bracket) (origin : Int) : Option Nat → Search
  | some position => ⟨.ok position, []⟩
  | none => ⟨.error (.unmatched bracket origin), [.unmatched bracket origin]⟩

/-- Search for the end of a loop begun at `start`. The instruction at `start` is not
looked at; -1 searches the whole program. -/
def searchForward (program : Program) (start : Int) : Search :=
  let first := (start + 1).toNat
  .ofFound .opening start (program.scanForward (program.size - first) first 0)

/-- Search for the start of a loop ended at `finish`. The instruction at `finish` is not
looked at. -/
def searchBackward (program : Program) (finish : Int) : Search :=
  .ofFound .closing finish (program.scanBackward finish.toNat 0)

/-- The position at which a loop begun at `start` ends. -/
def loopEnd (program : Program) (start : Int) : Except Fault Nat :=
  (program.searchForward start).result

/-- The position at which a loop ended at `finish` begins. -/
def loopStart (program : Program) (finish : Int) : Except Fault Nat :=
  (program.searchBackward finish).result

namespace Search

variable {bracket : Bracket} {origin : Int} {found : Option Nat}

theorem result_ofFound_eq_ok_iff {position : Nat} :
    (ofFound bracket origin found).result = .ok position ↔ found = some position := by
  cases found <;> simp [ofFound]

/-- A search that finds nothing complains about the position it began at. -/
theorem result_ofFound_eq_error_iff {fault : Fault} :
    (ofFound bracket origin found).result = .error fault ↔
      fault = .unmatched bracket origin ∧
        ∀ position, (ofFound bracket origin found).result ≠ .ok position := by
  cases found <;> simp [ofFound, eq_comm]

/-- A search tells of its fault and of nothing else. -/
theorem told_ofFound :
    (ofFound bracket origin found).told =
      match (ofFound bracket origin found).result with
      | .ok _ => []
      | .error fault => (Event.ofFault fault).toList := by
  cases found <;> rfl

end Search

@[simp]
theorem size_ofText (text : String) : (ofText text).size = text.toList.length := by
  simp [ofText]

end Program

end RingTape
