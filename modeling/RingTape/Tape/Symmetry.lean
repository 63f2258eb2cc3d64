/-
# Symmetries of the ring

No cell of a ring is distinguished and neither is a direction, and adding and taking
away are exchanged by negation modulo 256. Rotation, reflection and negation say so:
each moves the cells, or changes all of them, and takes the head along.
-/

import RingTape.Tape

namespace RingTape.Tape

/-- The ring turned right by a number of cells. -/
def rotate (distance : Nat) (tape : Tape) : Tape :=
  let size := tape.cells.size
  ⟨Array.ofFn fun index : Fin size =>
      tape.cells.getD ((index.val + (size - distance % size)) % size) 0,
    (tape.head + distance) % size,
    by simpa using Nat.mod_lt _ (Nat.zero_lt_of_lt tape.head_lt_size)⟩

/-- The ring seen from the other side, cell 0 staying where it is. -/
def reflect (tape : Tape) : Tape :=
  let size := tape.cells.size
  ⟨Array.ofFn fun index : Fin size => tape.cells.getD ((size - index.val) % size) 0,
    (size - tape.head) % size,
    by simpa using Nat.mod_lt _ (Nat.zero_lt_of_lt tape.head_lt_size)⟩

/-- The ring with every cell negated modulo 256. -/
def negate (tape : Tape) : Tape :=
  ⟨tape.cells.map fun cell => -cell, tape.head, by simpa using tape.head_lt_size⟩

@[simp]
theorem size_rotate (distance : Nat) (tape : Tape) : (tape.rotate distance).size = tape.size := by
  simp [Tape.size, rotate]

@[simp]
theorem size_reflect (tape : Tape) : tape.reflect.size = tape.size := by
  simp [Tape.size, reflect]

@[simp]
theorem size_negate (tape : Tape) : tape.negate.size = tape.size := by
  simp [Tape.size, negate]

@[simp]
theorem current_negate (tape : Tape) : tape.negate.current = -tape.current := by
  obtain ⟨cells, head, inRange⟩ := tape
  simp [current, negate]

/-! ## Indices that are moved around -/

section

variable {size index head : Nat}

/-- An index less than twice around the ring is at most once around it. -/
theorem mod_of_lt_twice (small : index < size + size) :
    index % size = if index < size then index else index - size := by
  split
  · exact Nat.mod_eq_of_lt ‹_›
  · rw [Nat.mod_eq_sub_mod (by omega), Nat.mod_eq_of_lt (by omega)]

/-- After a turn the cell of an index is the one from as far behind. -/
theorem turned_back_iff (distance : Nat) (inside : index < size) (inRange : head < size) :
    (index + (size - distance % size)) % size = head ↔ (head + distance) % size = index := by
  have small := Nat.mod_lt distance (Nat.zero_lt_of_lt inside)
  rw [← Nat.add_mod_mod head distance size]
  generalize distance % size = rest at small ⊢
  rw [mod_of_lt_twice (by omega), mod_of_lt_twice (by omega)]
  split <;> split <;> omega

/-- Indices are exchanged in pairs when the ring is seen from the other side. -/
theorem reflected_iff (inside : index < size) (inRange : head < size) :
    (size - index) % size = head ↔ (size - head) % size = index := by
  rw [mod_of_lt_twice (by omega), mod_of_lt_twice (by omega)]
  split <;> split <;> omega

/-- What is one to the left is one to the right from the other side, around the seam as well. -/
theorem reflected_before (inRange : head < size) :
    (size - (head + size - 1) % size) % size = (size - head + 1) % size := by
  have small : head + size - 1 < size + size := by omega
  rw [mod_of_lt_twice small]
  split
  · obtain rfl : head = 0 := by omega
    have last : size - (0 + size - 1) = 1 := by omega
    rw [last, Nat.sub_zero, Nat.add_mod_left]
  · have next : size - (head + size - 1 - size) = size - head + 1 := by omega
    rw [next]

end

/-! ## Cells taken from other places -/

/-- The same number of cells, that of each index taken from another one. -/
def taken (origin : Nat → Nat) (cells : Array UInt8) : Array UInt8 :=
  Array.ofFn fun index : Fin cells.size => cells.getD (origin index) 0

section

variable {cells : Array UInt8} {origin : Nat → Nat} {head target : Nat}

@[simp]
theorem size_taken (origin : Nat → Nat) (cells : Array UInt8) :
    (taken origin cells).size = cells.size := by
  simp [taken]

theorem getElem?_taken (inside : target < cells.size) :
    (taken origin cells)[target]? = some (cells.getD (origin target) 0) := by
  simp [taken, inside]

/-- A new cell can be put where it is taken from, or else where it is taken to. -/
theorem taken_set (inRange : head < cells.size) (inside : target < (taken origin cells).size)
    (brought : ∀ index, index < cells.size → (origin index = head ↔ target = index))
    (value : UInt8) :
    taken origin (cells.set head value) = (taken origin cells).set target value := by
  rw [size_taken] at inside
  refine Array.ext_getElem? fun index => ?_
  by_cases within : index < cells.size
  · rw [getElem?_taken (by simpa using within), Array.getD_eq_getD_getElem?, Array.getElem?_set,
      Array.getElem?_set, getElem?_taken within, Array.getD_eq_getD_getElem?]
    have moved := brought index within
    simp only [eq_comm (a := head), moved]
    split <;> simp_all
  · rw [Array.getElem?_eq_none (by simpa using within),
      Array.getElem?_eq_none (by simpa using within)]

/-- On zero cells it does not show where they are taken from. -/
theorem taken_replicate (origin : Nat → Nat) (size : Nat) :
    taken origin (Array.replicate size 0) = Array.replicate size 0 := by
  refine Array.ext (by simp) fun index _ _ => ?_
  simp only [taken, Array.getElem_ofFn, Array.getD_eq_getD_getElem?, Array.getElem?_replicate,
    Array.getElem_replicate]
  split <;> rfl

end

/-! ## Turning -/

theorem cells_rotate (distance : Nat) (tape : Tape) :
    (tape.rotate distance).cells =
      taken (fun index => (index + (tape.cells.size - distance % tape.cells.size)) %
        tape.cells.size) tape.cells := rfl

theorem head_rotate (distance : Nat) (tape : Tape) :
    (tape.rotate distance).head = (tape.head + distance) % tape.size := rfl

/-- A turn brings every cell as far to the right. -/
theorem getElem?_cells_rotate {distance index : Nat} {tape : Tape} (inside : index < tape.size) :
    (tape.rotate distance).cells[(index + distance) % tape.size]? = tape.cells[index]? := by
  have target := Nat.mod_lt (index + distance) (Nat.zero_lt_of_lt inside)
  have back := (turned_back_iff distance target inside).mpr rfl
  rw [Tape.size] at inside target back
  simp [cells_rotate, getElem?_taken target, Tape.size, back, inside]

@[simp]
theorem current_rotate (distance : Nat) (tape : Tape) :
    (tape.rotate distance).current = tape.current := by
  obtain ⟨cells, head, inRange⟩ := tape
  have inside := Nat.mod_lt (head + distance) (Nat.zero_lt_of_lt inRange)
  have back := (turned_back_iff distance inside inRange).mpr rfl
  simp [current, rotate, back, inRange]

theorem put_rotate (value : UInt8) (distance : Nat) (tape : Tape) :
    (tape.put value).rotate distance = (tape.rotate distance).put value := by
  obtain ⟨cells, head, inRange⟩ := tape
  have inside := (rotate distance ⟨cells, head, inRange⟩).head_lt_size
  refine ext ?_ ?_
  · have moved := taken_set inRange inside
      (fun index bounded => turned_back_iff distance bounded inRange) value
    simpa [rotate, put, taken] using moved
  · simp [rotate, put]

theorem moveRight_rotate (distance : Nat) (tape : Tape) :
    tape.moveRight.rotate distance = (tape.rotate distance).moveRight := by
  have same : tape.moveRight.size = tape.size := congrArg Array.size tape.cells_moveRight
  refine ext ?_ ?_
  · rw [cells_rotate, cells_moveRight, cells_moveRight, cells_rotate]
  · rw [head_rotate, same, head_moveRight, head_moveRight, head_rotate, size_rotate,
      Nat.mod_add_mod, Nat.mod_add_mod, Nat.add_right_comm]

/-- The moves undo each other, so a turn leaves both alone if it leaves one. -/
theorem moveLeft_rotate (distance : Nat) (tape : Tape) :
    tape.moveLeft.rotate distance = (tape.rotate distance).moveLeft := by
  have back := moveRight_rotate distance tape.moveLeft
  rw [moveRight_moveLeft] at back
  rw [back, moveLeft_moveRight]

/-- A tape of zero cells is a blank one that was turned. -/
theorem eq_rotate_blank {size : Nat} {positive : 0 < size} {tape : Tape}
    (zero : tape.cells = Array.replicate size 0) :
    tape = (blank size positive).rotate tape.head := by
  have inRange : tape.head < size := by
    simpa [zero] using tape.head_lt_size
  refine ext ?_ ?_
  · rw [cells_rotate, blank, taken_replicate, zero]
  · rw [head_rotate, size_blank, blank, Nat.zero_add, Nat.mod_eq_of_lt inRange]

/-! ## Looking from the other side -/

theorem cells_reflect (tape : Tape) :
    tape.reflect.cells =
      taken (fun index => (tape.cells.size - index) % tape.cells.size) tape.cells := rfl

theorem head_reflect (tape : Tape) : tape.reflect.head = (tape.size - tape.head) % tape.size := rfl

/-- Each cell changes places with the one as far from cell 0 on the other side. -/
theorem getElem?_cells_reflect {index : Nat} {tape : Tape} (inside : index < tape.size) :
    tape.reflect.cells[(tape.size - index) % tape.size]? = tape.cells[index]? := by
  have target := Nat.mod_lt (tape.size - index) (Nat.zero_lt_of_lt inside)
  have back := (reflected_iff target inside).mpr rfl
  rw [Tape.size] at inside target back
  simp [cells_reflect, getElem?_taken target, Tape.size, back, inside]

@[simp]
theorem current_reflect (tape : Tape) : tape.reflect.current = tape.current := by
  obtain ⟨cells, head, inRange⟩ := tape
  have inside := Nat.mod_lt (cells.size - head) (Nat.zero_lt_of_lt inRange)
  have back := (reflected_iff inside inRange).mpr rfl
  simp [current, reflect, back, inRange]

theorem put_reflect (value : UInt8) (tape : Tape) :
    (tape.put value).reflect = tape.reflect.put value := by
  obtain ⟨cells, head, inRange⟩ := tape
  have inside := (reflect ⟨cells, head, inRange⟩).head_lt_size
  refine ext ?_ ?_
  · have moved := taken_set inRange inside
      (fun index bounded => reflected_iff bounded inRange) value
    simpa [reflect, put, taken] using moved
  · simp [reflect, put]

theorem moveLeft_reflect (tape : Tape) : tape.moveLeft.reflect = tape.reflect.moveRight := by
  have inRange : tape.head < tape.size := tape.head_lt_size
  have same : tape.moveLeft.size = tape.size := congrArg Array.size tape.cells_moveLeft
  refine ext ?_ ?_
  · rw [cells_reflect, cells_moveLeft, cells_moveRight, cells_reflect]
  · rw [head_reflect, same, head_moveLeft, head_moveRight, head_reflect, size_reflect,
      Nat.mod_add_mod]
    exact reflected_before inRange

theorem moveRight_reflect (tape : Tape) : tape.moveRight.reflect = tape.reflect.moveLeft := by
  have back := moveLeft_reflect tape.moveRight
  rw [moveLeft_moveRight] at back
  rw [back, moveLeft_moveRight]

theorem reflect_blank {size : Nat} (positive : 0 < size) :
    (blank size positive).reflect = blank size positive := by
  refine ext ?_ ?_
  · rw [cells_reflect, blank, taken_replicate]
  · rw [head_reflect, size_blank, blank, Nat.sub_zero, Nat.mod_self]

/-! ## Negating -/

theorem cells_negate (tape : Tape) : tape.negate.cells = tape.cells.map fun cell => -cell := rfl

@[simp]
theorem head_negate (tape : Tape) : tape.negate.head = tape.head := rfl

theorem put_negate (value : UInt8) (tape : Tape) :
    (tape.put value).negate = tape.negate.put (-value) := by
  obtain ⟨cells, head, inRange⟩ := tape
  refine ext ?_ rfl
  simp [negate, put]

/-- Negation leaves the head where it is. -/
theorem moveRight_negate (tape : Tape) : tape.moveRight.negate = tape.negate.moveRight := by
  refine ext ?_ ?_
  · rw [cells_negate, cells_moveRight, cells_moveRight, cells_negate]
  · have same : tape.moveRight.negate.head = tape.moveRight.head := rfl
    rw [same, head_moveRight, head_moveRight, head_negate, size_negate]

theorem moveLeft_negate (tape : Tape) : tape.moveLeft.negate = tape.negate.moveLeft := by
  have back := moveRight_negate tape.moveLeft
  rw [moveRight_moveLeft] at back
  rw [back, moveLeft_moveRight]

theorem negate_blank {size : Nat} (positive : 0 < size) :
    (blank size positive).negate = blank size positive := by
  refine ext ?_ rfl
  simp [cells_negate, blank]

end RingTape.Tape
