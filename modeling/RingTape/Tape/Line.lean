/-
# The endless tape

A line of byte cells without ends on either side. The head moves without ever
turning around, so on a line no two moves to different places meet.
-/

import RingTape.Tape

namespace RingTape

/-- A byte for every integer, and the index of the cell under the head. -/
structure Line where
  cells : Int → UInt8
  head : Int

namespace Line

/-- A line of zero cells with the head over cell 0. -/
def blank : Line := ⟨fun _ => 0, 0⟩

/-- The cell under the head. -/
def current (line : Line) : UInt8 :=
  line.cells line.head

/-- Replace the cell under the head. -/
def put (value : UInt8) (line : Line) : Line :=
  ⟨fun index => if index = line.head then value else line.cells index, line.head⟩

/-- Move the head one cell to the right. -/
def moveRight (line : Line) : Line :=
  ⟨line.cells, line.head + 1⟩

/-- Move the head one cell to the left. -/
def moveLeft (line : Line) : Line :=
  ⟨line.cells, line.head - 1⟩

instance : TapeLike Line where
  current := current
  put := put
  moveRight := moveRight
  moveLeft := moveLeft

@[simp]
theorem current_put (value : UInt8) (line : Line) : (line.put value).current = value := by
  simp [current, put]

theorem cells_put_of_ne (value : UInt8) (line : Line) {index : Int} (other : index ≠ line.head) :
    (line.put value).cells index = line.cells index := by
  simp [put, other]

@[simp]
theorem moveLeft_moveRight (line : Line) : line.moveRight.moveLeft = line := by
  simp [moveRight, moveLeft]

@[simp]
theorem moveRight_moveLeft (line : Line) : line.moveLeft.moveRight = line := by
  simp [moveRight, moveLeft]

end Line

end RingTape
