/-
# Scans from anywhere

A scan does not look at the position where it begins, so it can begin anywhere, at a bracket or
not, at the last position or outside the program. What it finds is the end, or the start, of the
innermost loop around that place: the one bracket with nothing but a balanced stretch in between.
-/

import RingTape.Proofs.Matching

namespace RingTape.Program

/-- The innermost loop that is open behind `position` ends at `finish`. -/
def ClosesAfter (program : Program) (position : Int) (finish : Nat) : Prop :=
  position < finish ∧ program[finish]? = some .loopEnd ∧
    Balanced (program.between (position + 1).toNat finish)

/-- The innermost loop that is open before `position` begins at `start`. -/
def OpensBefore (program : Program) (position start : Nat) : Prop :=
  start < position ∧ program[start]? = some .loopStart ∧
    Balanced (program.between (start + 1) position)

instance (program : Program) (position : Int) (finish : Nat) :
    Decidable (program.ClosesAfter position finish) :=
  inferInstanceAs (Decidable (_ ∧ _ ∧ _))

instance (program : Program) (position start : Nat) :
    Decidable (program.OpensBefore position start) :=
  inferInstanceAs (Decidable (_ ∧ _ ∧ _))

/-! ## Innermost loops -/

/-- No stretch stays balanced when a loop ends behind it that does not begin in it. -/
theorem not_balanced_append_loopEnd {first rest : List Instruction} (balanced : Balanced first) :
    ¬ Balanced (first ++ .loopEnd :: rest) := by
  intro whole
  rw [balanced_iff_nesting, balanced.nesting_append, nesting_zero_loopEnd] at whole
  cases whole

/-- No stretch becomes balanced by a loop that begins behind it and does not end. -/
theorem not_balanced_append_loopStart {first rest : List Instruction} (balanced : Balanced rest) :
    ¬ Balanced (first ++ .loopStart :: rest) := by
  rintro ⟨bounded, total⟩
  have before := bounded first.length
  have inside := balanced.2
  rw [List.take_left] at before
  rw [List.count_append, List.count_append, List.count_cons_self,
    List.count_cons_of_ne (by decide)] at total
  omega

section Unique

variable {program : Program}

/-- No other loop end that lies nearer leaves a balanced stretch in between. -/
theorem ClosesAfter.le {position : Int} {finish other : Nat} (lower : -1 ≤ position)
    (closes : program.ClosesAfter position finish)
    (otherwise : program.ClosesAfter position other) : finish ≤ other := by
  by_contra nearer
  obtain ⟨_, there, outer⟩ := closes
  obtain ⟨behind, closing, inner⟩ := otherwise
  have inRange := (Array.getElem?_eq_some_iff.mp there).1
  rw [← between_append other (by omega) (by omega) (Nat.le_of_lt inRange),
    between_eq_cons (by omega) closing] at outer
  exact not_balanced_append_loopEnd inner outer

theorem ClosesAfter.unique {position : Int} {finish other : Nat} (lower : -1 ≤ position)
    (closes : program.ClosesAfter position finish)
    (otherwise : program.ClosesAfter position other) : finish = other :=
  Nat.le_antisymm (closes.le lower otherwise) (otherwise.le lower closes)

/-- No other loop start that lies nearer leaves a balanced stretch in between. -/
theorem OpensBefore.le {position start other : Nat} (inRange : position ≤ program.size)
    (opens : program.OpensBefore position start)
    (otherwise : program.OpensBefore position other) : other ≤ start := by
  by_contra nearer
  obtain ⟨_, _, outer⟩ := opens
  obtain ⟨before, opening, inner⟩ := otherwise
  rw [← between_append other (by omega) (by omega) inRange,
    between_eq_cons before opening] at outer
  exact not_balanced_append_loopStart inner outer

theorem OpensBefore.unique {position start other : Nat} (inRange : position ≤ program.size)
    (opens : program.OpensBefore position start)
    (otherwise : program.OpensBefore position other) : start = other :=
  Nat.le_antisymm (otherwise.le inRange opens) (opens.le inRange otherwise)

end Unique

/-! ## What scans find -/

/-- Both scans by what lies between their ends, from any position and whatever stands there. From
-1 or any later position the forward scan gives a loop end exactly when this is the end of the
innermost loop that is open there, the brackets in between being balanced; from any position of the
program or its end the backward scan gives a loop start exactly when this is the start of that
loop. There is one such bracket at most, and where there is none, and only there, the scan complains
about the position where it began. -/
theorem scans_find_innermost_loops (program : Program) :
    (∀ position : Int, -1 ≤ position →
      (∀ finish : Nat,
        program.loopEnd position = .ok finish ↔ program.ClosesAfter position finish) ∧
      (∀ finish other, program.ClosesAfter position finish →
        program.ClosesAfter position other → finish = other) ∧
      (∀ fault, program.loopEnd position = .error fault ↔
        fault = .unmatched .opening position ∧
          ¬ ∃ finish, program.ClosesAfter position finish)) ∧
    (∀ position : Nat, position ≤ program.size →
      (∀ start : Nat,
        program.loopStart position = .ok start ↔ program.OpensBefore position start) ∧
      (∀ start other, program.OpensBefore position start →
        program.OpensBefore position other → start = other) ∧
      (∀ fault, program.loopStart position = .error fault ↔
        fault = .unmatched .closing position ∧
          ¬ ∃ start, program.OpensBefore position start)) := by
  refine ⟨fun position lower => ?_, fun position inRange => ?_⟩
  · have found (finish : Nat) :
        program.loopEnd position = .ok finish ↔ program.ClosesAfter position finish :=
      loopEnd_eq_ok_iff lower
    refine ⟨found, fun _ _ closes => closes.unique lower, fun fault => ?_⟩
    rw [loopEnd_eq_error_iff, not_exists]
    simp only [ne_eq, found]
  · have found (start : Nat) :
        program.loopStart position = .ok start ↔ program.OpensBefore position start :=
      loopStart_eq_ok_iff inRange
    refine ⟨found, fun _ _ opens => opens.unique inRange, fun fault => ?_⟩
    rw [loopStart_eq_error_iff, not_exists]
    simp only [ne_eq, found]

/-- In the program `[]+]` the last bracket ends a loop that begins nowhere. The scan from -1 finds
it, and none of the brackets finds it or is found from it. -/
theorem scans_find_innermost_loops_of_stray :
    let program : Program := #[.loopStart, .loopEnd, .action .increment, .loopEnd]
    (-1 : Int) ≤ -1 ∧ 1 ≤ program.size ∧ program.loopEnd (-1) = .ok 3 ∧
      program.loopStart (1 : Nat) = .ok 0 ∧
      program.loopStart (4 : Nat) = .error (.unmatched .closing (4 : Nat)) := by
  intro program
  obtain ⟨forward, backward⟩ := scans_find_innermost_loops program
  have alone : ∀ start < 4, ¬ program.OpensBefore 4 start := by decide
  refine ⟨by decide, by decide, ((forward (-1) (by decide)).1 3).mpr (by decide),
    ((backward 1 (by decide)).1 0).mpr (by decide), ?_⟩
  refine ((backward 4 (by decide)).2.2 _).mpr ⟨rfl, ?_⟩
  rintro ⟨start, opens⟩
  exact alone start opens.1 opens

end RingTape.Program
