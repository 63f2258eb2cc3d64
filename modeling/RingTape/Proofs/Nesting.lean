/-
# Nesting

Reading a stretch of a program from left to right, a loop start leads one level deeper
and a loop end one level back. A stretch is balanced exactly when it is read from the
outermost level back to the outermost level. This module proves that, and finds the
partner of a bracket inside a stretch: the place where the reading first comes back to
the level of a loop start, and the place where it last was on the level of a loop end.
-/

import Mathlib.Data.List.Induction
import RingTape.Bracketing

namespace RingTape

/-- The level on which the reading of a stretch ends that begins on level `depth`;
`none` when the stretch ends a loop on level zero. -/
def nesting : (depth : Nat) → List Instruction → Option Nat
  | depth, [] => some depth
  | depth, .action _ :: stretch => nesting depth stretch
  | depth, .loopStart :: stretch => nesting (depth + 1) stretch
  | 0, .loopEnd :: _ => none
  | depth + 1, .loopEnd :: stretch => nesting depth stretch

@[simp]
theorem nesting_nil (depth : Nat) : nesting depth [] = some depth := by
  rw [nesting]

@[simp]
theorem nesting_action (depth : Nat) (action : Action) (stretch : List Instruction) :
    nesting depth (.action action :: stretch) = nesting depth stretch := by
  rw [nesting]

@[simp]
theorem nesting_loopStart (depth : Nat) (stretch : List Instruction) :
    nesting depth (.loopStart :: stretch) = nesting (depth + 1) stretch := by
  rw [nesting]

@[simp]
theorem nesting_zero_loopEnd (stretch : List Instruction) :
    nesting 0 (.loopEnd :: stretch) = none := by
  rw [nesting]

@[simp]
theorem nesting_succ_loopEnd (depth : Nat) (stretch : List Instruction) :
    nesting (depth + 1) (.loopEnd :: stretch) = nesting depth stretch := by
  rw [nesting]

/-- A stretch read in two parts. -/
theorem nesting_append (depth : Nat) (first second : List Instruction) :
    nesting depth (first ++ second) =
      (nesting depth first).bind fun middle => nesting middle second := by
  induction first generalizing depth with
  | nil => simp
  | cons instruction rest ih =>
      cases instruction with
      | action action => simpa using ih depth
      | loopStart => simpa using ih (depth + 1)
      | loopEnd =>
          cases depth with
          | zero => simp
          | succ depth => simpa using ih depth

theorem nesting_append_of_eq_some {depth middle : Nat} {first : List Instruction}
    (second : List Instruction) (read : nesting depth first = some middle) :
    nesting depth (first ++ second) = nesting middle second := by
  rw [nesting_append, read, Option.bind_some]

/-- The level counted: no beginning of the stretch has more loop ends than there were
open loops and loop starts, and the difference is the level at the end. -/
theorem nesting_eq_some_iff {depth level : Nat} {stretch : List Instruction} :
    nesting depth stretch = some level ↔
      (∀ length, (stretch.take length).count .loopEnd ≤
        depth + (stretch.take length).count .loopStart) ∧
      level + stretch.count .loopEnd = depth + stretch.count .loopStart := by
  induction stretch generalizing depth with
  | nil => simp [eq_comm]
  | cons instruction rest ih =>
      -- The condition on all beginnings is the one on the rest, as the empty beginning
      -- has no loop end.
      have beginnings (bound : Nat → Prop) (atZero : bound 0) :
          (∀ length, bound length) ↔ ∀ length, bound (length + 1) :=
        ⟨fun all length => all (length + 1), fun later length =>
          match length with
          | 0 => atZero
          | length + 1 => later length⟩
      rw [beginnings _ (by simp)]
      cases instruction with
      | action action => simp [ih]
      | loopStart =>
          simp only [nesting_loopStart, ih, List.take_succ_cons, List.count_cons]
          simp [Nat.add_assoc, Nat.add_comm 1]
      | loopEnd =>
          cases depth with
          | zero =>
              simp only [nesting_zero_loopEnd, reduceCtorEq, false_iff, not_and]
              intro bounded
              simpa [List.count_cons] using bounded 0
          | succ depth =>
              simp only [nesting_succ_loopEnd, ih, List.take_succ_cons, List.count_cons]
              simp [Nat.add_right_comm depth 1, ← Nat.add_assoc]

theorem balanced_iff_nesting {stretch : List Instruction} :
    Balanced stretch ↔ nesting 0 stretch = some 0 := by
  simp [Balanced, nesting_eq_some_iff]

/-- Reading a stretch once tells whether it is balanced. -/
instance (stretch : List Instruction) : Decidable (Balanced stretch) :=
  decidable_of_iff' _ balanced_iff_nesting

/-- Further loops that are open all the while stay open. -/
theorem nesting_add {depth level : Nat} {stretch : List Instruction} (further : Nat)
    (read : nesting depth stretch = some level) :
    nesting (depth + further) stretch = some (level + further) := by
  rw [nesting_eq_some_iff] at read ⊢
  obtain ⟨bounded, total⟩ := read
  exact ⟨fun length => Nat.le_trans (bounded length) (by omega), by omega⟩

/-! ## Balanced stretches -/

theorem balanced_nil : Balanced [] := by
  simp [balanced_iff_nesting]

theorem balanced_action {action : Action} {stretch : List Instruction} :
    Balanced (.action action :: stretch) ↔ Balanced stretch := by
  simp [balanced_iff_nesting]

theorem Balanced.append {first second : List Instruction} (balancedFirst : Balanced first)
    (balancedSecond : Balanced second) : Balanced (first ++ second) := by
  rw [balanced_iff_nesting] at *
  rw [nesting_append_of_eq_some second balancedFirst, balancedSecond]

/-- A loop around a balanced body is balanced. -/
theorem Balanced.loop {body : List Instruction} (balanced : Balanced body) :
    Balanced (.loopStart :: (body ++ [.loopEnd])) := by
  rw [balanced_iff_nesting] at *
  have inside := nesting_add 1 balanced
  simp [nesting_append_of_eq_some _ inside]

/-- Reading a balanced stretch leads back to the level where it began. -/
theorem Balanced.nesting_append {stretch : List Instruction} (balanced : Balanced stretch)
    (depth : Nat) (rest : List Instruction) :
    nesting depth (stretch ++ rest) = nesting depth rest := by
  have read := nesting_add depth (balanced_iff_nesting.mp balanced)
  rw [Nat.zero_add] at read
  exact nesting_append_of_eq_some rest read

/-! ## Partners inside a stretch -/

/-- A reading that ends on a lower level than `depth + level + 1`, where it began, comes
down from level `level + 1` somewhere; up to there it stays above `level`. -/
theorem exists_loopEnd_of_nesting {depth level last : Nat} {stretch : List Instruction}
    (read : nesting (depth + level + 1) stretch = some last) (lower : last ≤ level) :
    ∃ inside rest, stretch = inside ++ .loopEnd :: rest ∧
      nesting depth inside = some 0 ∧ nesting level rest = some last := by
  induction stretch generalizing depth with
  | nil =>
      simp only [nesting_nil, Option.some.injEq] at read
      omega
  | cons instruction stretch ih =>
      cases instruction with
      | action action =>
          obtain ⟨inside, rest, rfl, readInside, readRest⟩ := ih (by simpa using read)
          exact ⟨.action action :: inside, rest, rfl, by simpa using readInside, readRest⟩
      | loopStart =>
          rw [nesting_loopStart, Nat.add_right_comm depth level 1] at read
          obtain ⟨inside, rest, rfl, readInside, readRest⟩ := ih read
          exact ⟨.loopStart :: inside, rest, rfl, by simpa using readInside, readRest⟩
      | loopEnd =>
          cases depth with
          | zero => exact ⟨[], stretch, rfl, rfl, by simpa using read⟩
          | succ depth =>
              rw [nesting_succ_loopEnd, Nat.add_right_comm depth 1 level] at read
              obtain ⟨inside, rest, rfl, readInside, readRest⟩ := ih read
              exact ⟨.loopEnd :: inside, rest, rfl, by simpa using readInside, readRest⟩

/-- A reading that ends on a higher level than `level`, where it began or lower, goes up
from level `level` somewhere for the last time; from there on it stays above. -/
theorem exists_loopStart_of_nesting {first level depth : Nat} {stretch : List Instruction}
    (read : nesting first stretch = some (depth + level + 1)) (lower : first ≤ level) :
    ∃ before inside, stretch = before ++ .loopStart :: inside ∧
      nesting first before = some level ∧ nesting 0 inside = some depth := by
  -- The last instruction is looked at first, so the induction is from the right.
  induction stretch using List.reverseRecOn generalizing depth with
  | nil =>
      simp only [nesting_nil, Option.some.injEq] at read
      omega
  | append_singleton stretch instruction ih =>
      rw [RingTape.nesting_append, Option.bind_eq_some_iff] at read
      obtain ⟨middle, readStretch, readLast⟩ := read
      cases instruction with
      | action action =>
          simp only [nesting_action, nesting_nil, Option.some.injEq] at readLast
          subst readLast
          obtain ⟨before, inside, rfl, readBefore, readInside⟩ := ih readStretch
          refine ⟨before, inside ++ [.action action], by simp, readBefore, ?_⟩
          simp [nesting_append_of_eq_some _ readInside]
      | loopStart =>
          simp only [nesting_loopStart, nesting_nil, Option.some.injEq,
            Nat.add_right_cancel_iff] at readLast
          subst readLast
          cases depth with
          | zero => exact ⟨stretch, [], rfl, by simpa using readStretch, rfl⟩
          | succ depth =>
              rw [Nat.add_right_comm depth 1 level] at readStretch
              obtain ⟨before, inside, rfl, readBefore, readInside⟩ := ih readStretch
              refine ⟨before, inside ++ [.loopStart], by simp, readBefore, ?_⟩
              simp [nesting_append_of_eq_some _ readInside]
      | loopEnd =>
          cases middle with
          | zero => simp at readLast
          | succ middle =>
              simp only [nesting_succ_loopEnd, nesting_nil, Option.some.injEq] at readLast
              subst readLast
              rw [show depth + level + 1 + 1 = depth + 1 + level + 1 by omega] at readStretch
              obtain ⟨before, inside, rfl, readBefore, readInside⟩ := ih readStretch
              refine ⟨before, inside ++ [.loopEnd], by simp, readBefore, ?_⟩
              simp [nesting_append_of_eq_some _ readInside]

/-- In a balanced stretch every loop start has its loop end behind it. -/
theorem Balanced.exists_loopEnd {before after : List Instruction}
    (balanced : Balanced (before ++ .loopStart :: after)) :
    ∃ inside rest, after = inside ++ .loopEnd :: rest ∧ Balanced inside := by
  rw [balanced_iff_nesting, RingTape.nesting_append, Option.bind_eq_some_iff] at balanced
  obtain ⟨level, _, readAfter⟩ := balanced
  rw [nesting_loopStart, ← Nat.zero_add level] at readAfter
  obtain ⟨inside, rest, split, readInside, _⟩ :=
    exists_loopEnd_of_nesting readAfter (Nat.zero_le _)
  exact ⟨inside, rest, split, balanced_iff_nesting.mpr readInside⟩

/-- In a balanced stretch every loop end has its loop start before it. -/
theorem Balanced.exists_loopStart {before after : List Instruction}
    (balanced : Balanced (before ++ .loopEnd :: after)) :
    ∃ rest inside, before = rest ++ .loopStart :: inside ∧ Balanced inside := by
  rw [balanced_iff_nesting, RingTape.nesting_append, Option.bind_eq_some_iff] at balanced
  obtain ⟨level, readBefore, readAfter⟩ := balanced
  cases level with
  | zero => simp at readAfter
  | succ level =>
      rw [← Nat.zero_add level] at readBefore
      obtain ⟨rest, inside, split, _, readInside⟩ :=
        exists_loopStart_of_nesting readBefore (Nat.zero_le _)
      exact ⟨rest, inside, split, balanced_iff_nesting.mpr readInside⟩

/-- A balanced stretch that begins with a loop is that loop and a balanced rest. -/
theorem Balanced.exists_loop {stretch : List Instruction}
    (balanced : Balanced (.loopStart :: stretch)) :
    ∃ body rest, stretch = body ++ .loopEnd :: rest ∧ Balanced body ∧ Balanced rest := by
  have read : nesting (0 + 0 + 1) stretch = some 0 := balanced_iff_nesting.mp balanced
  obtain ⟨body, rest, split, readBody, readRest⟩ :=
    exists_loopEnd_of_nesting read (Nat.le_refl 0)
  exact ⟨body, rest, split, balanced_iff_nesting.mpr readBody,
    balanced_iff_nesting.mpr readRest⟩

end RingTape
