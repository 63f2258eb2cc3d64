/-
# Straight stretches

A stretch of a program without brackets is passed through from left to right, and as long as
nothing is read or written only the tape changes. What becomes of the tape can be told from the
text: the moves lead the head as far as there are more of one kind than of the other, and a cell
gains as much as is added less what is taken away while the head is over it. A loop around such
a stretch that leads the head back counts with the cell it tests.
-/

import Mathlib.Logic.Function.Iterate
import RingTape.Program
import RingTape.Tape

namespace RingTape

/-- Whether this is an action, and one that leaves the streams alone. -/
def Instruction.isQuiet : Instruction → Bool
  | action .write | action .read | loopStart | loopEnd => false
  | action _ => true

/-- No instruction of the stretch is a bracket, a read or a write. -/
def Straight (stretch : List Instruction) : Prop :=
  ∀ instruction ∈ stretch, instruction.isQuiet

instance (stretch : List Instruction) : Decidable (Straight stretch) :=
  inferInstanceAs (Decidable (∀ instruction ∈ stretch, instruction.isQuiet))

/-! ## What the text says -/

/-- How far the instruction moves the head to the right. -/
def Instruction.move : Instruction → Int
  | action .right => 1
  | action .left => -1
  | _ => 0

/-- How much the instruction adds to the cell under the head. -/
def Instruction.raise : Instruction → Int
  | action .increment => 1
  | action .decrement => -1
  | _ => 0

/-- The number of moves to the right less the number of moves to the left. -/
def displacement (stretch : List Instruction) : Int :=
  stretch.count (.action .right) - stretch.count (.action .left)

/-- How often the instruction stands in the stretch where the moves before it lead, around a
ring of so many cells, to the cell at this offset from the first one. -/
def occurrences (size : Nat) (offset : Int) (instruction : Instruction)
    (stretch : List Instruction) : Nat :=
  (List.range stretch.length).countP fun place =>
    stretch[place]? = some instruction ∧
      displacement (stretch.take place) % size = offset % size

/-- How much the stretch adds to the cell at an offset less how much it takes away. -/
def gain (size : Nat) (offset : Int) (stretch : List Instruction) : Int :=
  occurrences size offset (.action .increment) stretch -
    occurrences size offset (.action .decrement) stretch

/-- A loop around a body. -/
def Program.loop (body : Program) : Program :=
  #[.loopStart] ++ body ++ #[.loopEnd]

/-- A counter that changes by the same amount in every round is zero modulo 256 after so
many. -/
def Expires (counter change : Int) (rounds : Nat) : Prop :=
  (counter + rounds * change) % 256 = 0

instance (counter change : Int) (rounds : Nat) : Decidable (Expires counter change rounds) :=
  inferInstanceAs (Decidable (_ = _))

/-! ## What is done to the tape -/

namespace Tape

/-- The number in the cell with this index, counted around the ring. -/
def value (tape : Tape) (index : Int) : Int :=
  (tape.cells.getD (index % tape.size).toNat 0).toNat

/-- The tape after one instruction of a straight stretch. -/
def follow (tape : Tape) : Instruction → Tape
  | .action .right => tape.moveRight
  | .action .left => tape.moveLeft
  | .action .increment => tape.put (tape.current + 1)
  | .action .decrement => tape.put (tape.current - 1)
  | _ => tape

/-- The tape after a straight stretch. -/
def through (stretch : List Instruction) (tape : Tape) : Tape :=
  stretch.foldl follow tape

/-- The tape after a straight stretch that is passed through so many times. -/
def rounds (stretch : List Instruction) (count : Nat) (tape : Tape) : Tape :=
  (through stretch)^[count] tape

/-! ## Numbers in cells -/

theorem size_pos (tape : Tape) : 0 < tape.size :=
  Nat.zero_lt_of_lt tape.head_lt_size

theorem value_nonneg (tape : Tape) (index : Int) : 0 ≤ tape.value index :=
  Int.natCast_nonneg _

theorem value_lt (tape : Tape) (index : Int) : tape.value index < 256 := by
  have bounded := UInt8.toNat_lt (tape.cells.getD (index % tape.size).toNat 0)
  rw [value]
  omega

@[simp]
theorem value_emod_256 (tape : Tape) (index : Int) : tape.value index % 256 = tape.value index :=
  Int.emod_eq_of_lt (tape.value_nonneg index) (tape.value_lt index)

/-- Once around the ring is the same cell. -/
theorem value_congr (tape : Tape) {index other : Int}
    (same : index % tape.size = other % tape.size) : tape.value index = tape.value other := by
  rw [value, value, same]

@[simp]
theorem value_moveRight (tape : Tape) : tape.moveRight.value = tape.value := by
  funext index
  rw [value, value, Tape.size, Tape.size, cells_moveRight]

@[simp]
theorem value_moveLeft (tape : Tape) : tape.moveLeft.value = tape.value := by
  funext index
  rw [value, value, Tape.size, Tape.size, cells_moveLeft]

/-- A new value comes into the cell under the head and into no other. -/
theorem value_put (new : UInt8) (tape : Tape) (index : Int) :
    (tape.put new).value index =
      if index % tape.size = tape.head then (new.toNat : Int) else tape.value index := by
  have positive := tape.size_pos
  obtain ⟨cells, head, inRange⟩ := tape
  simp only [Tape.size] at positive
  have nonnegative := Int.emod_nonneg index (b := cells.size) (by omega)
  simp only [value, put, Tape.size, Array.size_set, Array.getD_eq_getD_getElem?,
    Array.getElem?_set]
  by_cases here : index % cells.size = head
  · simp [here]
  · rw [if_neg here, if_neg (by omega)]

/-- The number in the cell under the head. -/
theorem value_head (tape : Tape) : tape.value tape.head = tape.current.toNat := by
  obtain ⟨cells, head, inRange⟩ := tape
  have small : (head : Int) % cells.size = head := by
    rw [← Int.natCast_emod, Nat.mod_eq_of_lt inRange]
  simp [value, Tape.size, small, current, Array.getD_eq_getD_getElem?, inRange]

theorem current_eq_zero_iff (tape : Tape) : tape.current = 0 ↔ tape.value tape.head = 0 := by
  rw [value_head, ← UInt8.toNat_inj]
  simp

/-- Tapes of one size with the head in one place are the same when their cells hold the same
numbers. -/
theorem ext_value {first second : Tape} (size : first.size = second.size)
    (head : first.head = second.head)
    (values : ∀ index, first.value index = second.value index) : first = second := by
  refine ext (Array.ext size fun index inside within => ?_) head
  have same := values index
  have small : (index : Int) % first.size = index := by
    rw [Tape.size, ← Int.natCast_emod, Nat.mod_eq_of_lt inside]
  rw [value, value, ← size, small] at same
  have equal := UInt8.toNat_inj.mp (Int.natCast_inj.mp same)
  simpa [Array.getD_eq_getD_getElem?, inside, within] using equal

end Tape

end RingTape
