/-
# Memory sizes

The size of a tape is given as a value. It has to stand for a whole number of at
least one; whether a tape of that many cells can be made is a second question.
-/

import RingTape.Failure
import RingTape.Tape

namespace RingTape.MemorySize

/-- The size of a tape for which nothing else is said. -/
def standard : Nat := 65535

/-- From this size on a tape does not fit into memory. -/
def memoryBound : Nat := Nat.pow 2 62

/-- From this size on the cells of a tape cannot even be numbered. -/
def dimensionBound : Nat := Nat.pow 2 63

/-- The size that a value gives. A truth value gives none, whatever it converts to. -/
def check (size : Value) : Except Failure { cells : Nat // 0 < cells } :=
  if size.isBoolean then .error (.memorySize size)
  else
    match size.toIndex? with
    | none => .error (.memorySize size)
    | some number =>
      if positive : 0 < number then .ok ⟨number.toNat, by omega⟩
      else .error (.memorySize size)

/-- How a tape of a size is made, or why it is not. -/
abbrev Allocator := { cells : Nat // 0 < cells } → Except Failure Tape

/-- Make a blank tape unless it is too large. -/
def allocate : Allocator := fun size =>
  if dimensionBound ≤ size.val then .error .dimension
  else if memoryBound ≤ size.val then .error .outOfMemory
  else .ok (.blank size.val size.property)

/-- A size is taken exactly when the value is no truth value and converts to the number of
cells, which is positive. -/
theorem check_eq_ok_iff {size : Value} {cells : { cells : Nat // 0 < cells }} :
    check size = .ok cells ↔
      size.isBoolean = false ∧ size.toIndex? = some (cells.val : Int) := by
  obtain ⟨cells, positive⟩ := cells
  by_cases boolean : size.isBoolean
  · simp [check, boolean]
  · rw [check, if_neg boolean]
    cases size.toIndex? with
    | none => simp
    | some number =>
        by_cases least : 0 < number
        · simp only [least, dif_pos, Except.ok.injEq, Subtype.mk.injEq, boolean, true_and,
            Option.some.injEq]
          omega
        · simp only [least, dif_neg, not_false_eq_true, reduceCtorEq, boolean, true_and,
            Option.some.injEq, false_iff]
          omega

/-- A size is refused because of the value that gives it. -/
theorem check_eq_error {size : Value} {failure : Failure}
    (refused : check size = .error failure) : failure = .memorySize size := by
  unfold check at refused
  split at refused
  · exact (Except.error.inj refused).symm
  · split at refused
    · exact (Except.error.inj refused).symm
    · split at refused
      · simp at refused
      · exact (Except.error.inj refused).symm

/-- Below the memory bound a tape can be made. -/
theorem allocate_of_lt {size : { cells : Nat // 0 < cells }} (fits : size.val < memoryBound) :
    allocate size = .ok (.blank size.val size.property) := by
  have numbered : memoryBound ≤ dimensionBound := by decide
  rw [allocate, if_neg (by omega), if_neg (by omega)]

/-- A tape that is made is blank. -/
theorem eq_blank_of_allocate {size : { cells : Nat // 0 < cells }} {tape : Tape}
    (made : allocate size = .ok tape) : tape = .blank size.val size.property := by
  unfold allocate at made
  split at made
  · simp at made
  · split at made
    · simp at made
    · exact (Except.ok.inj made).symm

/-- A tape is refused for two reasons. -/
theorem allocate_eq_error {size : { cells : Nat // 0 < cells }} {failure : Failure}
    (refused : allocate size = .error failure) :
    failure = .dimension ∨ failure = .outOfMemory := by
  unfold allocate at refused
  split at refused
  · exact .inl (Except.error.inj refused).symm
  · split at refused
    · exact .inr (Except.error.inj refused).symm
    · simp at refused

end RingTape.MemorySize
