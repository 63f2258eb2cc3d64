/-
# Tapes

A machine needs four things of a tape: the cell under the head, a way to replace
it, and the two moves. The tape of a run is a ring of byte cells: moving right from
the last cell leads to the first and moving left from the first leads to the last,
so the head is always over a cell, and the structure records that.
-/

namespace RingTape

/-- What a machine needs of a tape of byte cells. -/
class TapeLike (τ : Type) where
  /-- The cell under the head. -/
  current : τ → UInt8
  /-- Replace the cell under the head. -/
  put : UInt8 → τ → τ
  moveRight : τ → τ
  moveLeft : τ → τ

/-- A ring of byte cells and the index of the cell under the head. -/
structure Tape where
  cells : Array UInt8
  head : Nat
  head_lt_size : head < cells.size

namespace Tape

/-- The number of cells. -/
def size (tape : Tape) : Nat := tape.cells.size

/-- A tape of zero cells with the head over the first. -/
def blank (size : Nat) (positive : 0 < size) : Tape :=
  ⟨Array.replicate size 0, 0, by simpa using positive⟩

/-- The cell under the head. -/
def current : Tape → UInt8
  | ⟨cells, head, _⟩ => cells[head]

/-- Replace the cell under the head. -/
def put (value : UInt8) : Tape → Tape
  | ⟨cells, head, head_lt_size⟩ =>
    ⟨cells.set head value head_lt_size, head, by simpa using head_lt_size⟩

/-- Move the head one cell to the right, from the last cell to the first. -/
def moveRight : Tape → Tape
  | ⟨cells, head, head_lt_size⟩ =>
    if last : head + 1 = cells.size then ⟨cells, 0, Nat.zero_lt_of_lt head_lt_size⟩
    else ⟨cells, head + 1, Nat.lt_of_le_of_ne head_lt_size last⟩

/-- Move the head one cell to the left, from the first cell to the last. -/
def moveLeft : Tape → Tape
  | ⟨cells, 0, head_lt_size⟩ => ⟨cells, cells.size - 1, Nat.sub_lt head_lt_size Nat.one_pos⟩
  | ⟨cells, head + 1, head_lt_size⟩ => ⟨cells, head, Nat.lt_of_succ_lt head_lt_size⟩

instance : TapeLike Tape where
  current := current
  put := put
  moveRight := moveRight
  moveLeft := moveLeft

/-- Two tapes with the same cells and the same head are equal. -/
theorem ext {first second : Tape} (cells : first.cells = second.cells)
    (head : first.head = second.head) : first = second := by
  cases first
  cases second
  simp_all

@[simp]
theorem size_blank (size : Nat) (positive : 0 < size) : (blank size positive).size = size := by
  simp [Tape.size, blank]

@[simp]
theorem current_blank (size : Nat) (positive : 0 < size) : (blank size positive).current = 0 := by
  simp [current, blank]

@[simp]
theorem size_put (value : UInt8) (tape : Tape) : (tape.put value).size = tape.size := by
  simp [Tape.size, put]

@[simp]
theorem head_put (value : UInt8) (tape : Tape) : (tape.put value).head = tape.head := rfl

@[simp]
theorem current_put (value : UInt8) (tape : Tape) : (tape.put value).current = value := by
  simp [current, put]

@[simp]
theorem put_put (first second : UInt8) (tape : Tape) :
    (tape.put first).put second = tape.put second := by
  simp [put]

@[simp]
theorem put_current (tape : Tape) : tape.put tape.current = tape := by
  simp [put, current]

/-- The head moves right modulo the number of cells. -/
theorem head_moveRight (tape : Tape) : tape.moveRight.head = (tape.head + 1) % tape.size := by
  have inRange := tape.head_lt_size
  unfold moveRight Tape.size
  by_cases last : tape.head + 1 = tape.cells.size
  · simp [last]
  · have inside : tape.head + 1 < tape.cells.size := Nat.lt_of_le_of_ne inRange last
    simp [last, Nat.mod_eq_of_lt inside]

/-- The head moves left modulo the number of cells. -/
theorem head_moveLeft (tape : Tape) :
    tape.moveLeft.head = (tape.head + tape.size - 1) % tape.size := by
  obtain ⟨cells, head, inRange⟩ := tape
  cases head with
  | zero => simp [moveLeft, Tape.size, Nat.mod_eq_of_lt (Nat.sub_lt inRange Nat.one_pos)]
  | succ head =>
      have shifted : head + 1 + cells.size - 1 = head + cells.size := by omega
      simp [moveLeft, Tape.size, shifted, Nat.mod_eq_of_lt (Nat.lt_of_succ_lt inRange)]

@[simp]
theorem cells_moveRight (tape : Tape) : tape.moveRight.cells = tape.cells := by
  obtain ⟨cells, head, inRange⟩ := tape
  by_cases last : head + 1 = cells.size <;> simp [moveRight, last]

/-- On a ring of one cell a move leads nowhere. -/
theorem moveRight_of_size_eq_one {tape : Tape} (single : tape.size = 1) :
    tape.moveRight = tape := by
  refine ext tape.cells_moveRight ?_
  have inRange : tape.head < tape.size := tape.head_lt_size
  rw [head_moveRight, single, Nat.mod_one]
  omega

@[simp]
theorem cells_moveLeft (tape : Tape) : tape.moveLeft.cells = tape.cells := by
  obtain ⟨cells, head, inRange⟩ := tape
  cases head <;> rfl

@[simp]
theorem moveLeft_moveRight (tape : Tape) : tape.moveRight.moveLeft = tape := by
  obtain ⟨cells, head, inRange⟩ := tape
  by_cases last : head + 1 = cells.size
  · have before : cells.size - 1 = head := by omega
    simp [moveRight, moveLeft, last, before]
  · simp [moveRight, moveLeft, last]

@[simp]
theorem moveRight_moveLeft (tape : Tape) : tape.moveLeft.moveRight = tape := by
  obtain ⟨cells, head, inRange⟩ := tape
  cases head with
  | zero =>
      have positive : 0 < cells.size := inRange
      have atLast : cells.size - 1 + 1 = cells.size := by omega
      simp [moveRight, moveLeft, atLast]
  | succ head => simp [moveRight, moveLeft, Nat.ne_of_lt inRange]

end Tape

end RingTape
