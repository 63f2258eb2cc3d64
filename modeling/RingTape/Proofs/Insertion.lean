/-
# Balanced texts inside a program

A balanced text somewhere in a program is transparent to the scans: brackets outside of it
belong together as they do in the program without it. So outside of it every step of the
program is a step of the program without it, at positions and with complaints that are
shifted by its length.
-/

import RingTape.Proofs.UnmatchedBrackets

namespace RingTape

/-- Where a position is found once a text of this length was inserted at `place`. -/
def shifted (place length position : Nat) : Nat :=
  if position < place then position else position + length

/-- The same fault with the place of a complaint about a bracket moved by a distance, if it is
not before `place`. -/
def Fault.shifted (place : Nat) (distance : Int) : Fault → Fault
  | unmatched bracket position =>
    unmatched bracket (if position < place then position else position + distance)
  | other => other

/-! ## Positions -/

section Positions

variable {place length first second : Nat}

theorem shifted_of_lt (inside : first < place) : shifted place length first = first :=
  if_pos inside

theorem shifted_of_le (behind : place ≤ first) : shifted place length first = first + length :=
  if_neg (Nat.not_lt.mpr behind)

theorem shifted_lt_shifted_iff :
    shifted place length first < shifted place length second ↔ first < second := by
  unfold shifted
  split <;> split <;> omega

/-- Every position that is not inside the inserted text is some position shifted. -/
theorem exists_eq_shifted {position : Nat}
    (outside : position < place ∨ place + length ≤ position) :
    ∃ original, position = shifted place length original := by
  rcases outside with inside | behind
  · exact ⟨position, (shifted_of_lt inside).symm⟩
  · refine ⟨position - length, ?_⟩
    rw [shifted_of_le (by omega), Nat.sub_add_cancel (by omega)]

/-- No shifted position is inside the inserted text. -/
theorem shifted_outside (place length position : Nat) :
    shifted place length position < place ∨ place + length ≤ shifted place length position := by
  unfold shifted
  split <;> omega

/-- A complaint is about the position at which the bracket was before it was shifted. -/
theorem Fault.shifted_unmatched (bracket : Bracket) (place length position : Nat) :
    (unmatched bracket position).shifted place length =
      unmatched bracket (RingTape.shifted place length position : Nat) := by
  simp only [Fault.shifted, RingTape.shifted, Int.ofNat_lt]
  split <;> simp

/-- A fault that is not about a bracket stays as it is. -/
theorem Fault.shifted_of_ne_unmatched {fault : Fault} (place : Nat) (distance : Int)
    (other : ∀ bracket position, fault ≠ .unmatched bracket position) :
    fault.shifted place distance = fault := by
  cases fault with
  | unmatched bracket position => exact absurd rfl (other bracket position)
  | stream message => rfl
  | manyCharacters length => rfl

end Positions

/-! ## Brackets -/

/-- A balanced text in a stretch makes no difference to whether the stretch is balanced. -/
theorem balanced_insert_iff {before inside after : List Instruction}
    (balanced : Balanced inside) :
    Balanced (before ++ (inside ++ after)) ↔ Balanced (before ++ after) := by
  rw [balanced_iff_nesting, balanced_iff_nesting, nesting_append, nesting_append]
  simp only [balanced.nesting_append]

namespace Program

variable {whole rest : Program} {before inside after : List Instruction}

section Insertion

variable (text : whole.toList = before ++ (inside ++ after))
  (restText : rest.toList = before ++ after)

include text restText

theorem getElem?_shifted (position : Nat) :
    whole[shifted before.length inside.length position]? = rest[position]? := by
  rw [← Array.getElem?_toList, ← Array.getElem?_toList, text, restText]
  by_cases lower : position < before.length
  · rw [shifted_of_lt lower, List.getElem?_append_left lower, List.getElem?_append_left lower]
  · have behind := Nat.le_of_not_lt lower
    rw [shifted_of_le behind, List.getElem?_append_right (by omega),
      List.getElem?_append_right (by omega), List.getElem?_append_right behind]
    congr 1
    omega

/-- The stretches between two positions and between the shifted ones differ by the inserted
text at most. -/
theorem balanced_between_shifted_iff (balanced : Balanced inside) {start finish : Nat}
    (ordered : start < finish) :
    Balanced (whole.between (shifted before.length inside.length start + 1)
        (shifted before.length inside.length finish)) ↔
      Balanced (rest.between (start + 1) finish) := by
  rw [between, between, text, restText]
  by_cases startLower : start < before.length
  · rw [shifted_of_lt startLower]
    by_cases finishLower : finish < before.length
    · -- Both positions are before the text.
      rw [shifted_of_lt finishLower, List.take_append_of_le_length (Nat.le_of_lt finishLower),
        List.take_append_of_le_length (Nat.le_of_lt finishLower)]
    · -- The text is between them.
      obtain ⟨distance, rfl⟩ := Nat.exists_eq_add_of_le (Nat.le_of_not_lt finishLower)
      rw [shifted_of_le (by omega), Nat.add_right_comm, Nat.add_assoc,
        List.take_length_add_append, List.take_length_add_append,
        List.take_length_add_append, List.drop_append_of_le_length startLower,
        List.drop_append_of_le_length startLower]
      exact balanced_insert_iff balanced
  · -- Both positions are behind the text.
    obtain ⟨first, rfl⟩ := Nat.exists_eq_add_of_le (Nat.le_of_not_lt startLower)
    obtain ⟨last, rfl⟩ := Nat.exists_eq_add_of_le
      (Nat.le_trans (Nat.le_of_not_lt startLower) (Nat.le_of_lt ordered))
    have regroup (distance : Nat) : before.length + distance + inside.length =
        before.length + (inside.length + distance) := by omega
    rw [shifted_of_le (by omega), shifted_of_le (by omega), regroup, regroup, Nat.add_assoc,
      Nat.add_assoc, Nat.add_assoc]
    simp only [List.take_length_add_append, List.drop_length_add_append]

theorem matched_shifted_iff (balanced : Balanced inside) {start finish : Nat} :
    whole.Matched (shifted before.length inside.length start)
        (shifted before.length inside.length finish) ↔ rest.Matched start finish := by
  rw [Matched, Matched, getElem?_shifted text restText, getElem?_shifted text restText,
    shifted_lt_shifted_iff]
  refine and_congr_right fun ordered => ?_
  rw [balanced_between_shifted_iff text restText balanced ordered]

omit restText in
theorem between_insertion :
    whole.between before.length (before.length + inside.length) = inside := by
  rw [between, text, List.take_length_add_append, List.take_left, List.drop_left]

/-- A bracket outside of a balanced text has its partner outside of it. -/
theorem exists_finish_of_matched (balanced : Balanced inside) {start finish : Nat}
    (matched : whole.Matched (shifted before.length inside.length start) finish) :
    ∃ original, finish = shifted before.length inside.length original ∧
      rest.Matched start original := by
  have size := congrArg List.length text
  simp only [List.length_append, Array.length_toList] at size
  have outside : finish < before.length ∨ before.length + inside.length ≤ finish := by
    by_contra within
    obtain ⟨other, lower, inner⟩ := exists_matched_of_loopEnd
      (by rwa [between_insertion text]) (by omega) (by omega) (by omega) matched.closing
    have same := inner.start_unique matched
    have ordered := matched.lt
    have startOutside := shifted_outside before.length inside.length start
    omega
  obtain ⟨original, rfl⟩ := exists_eq_shifted outside
  exact ⟨original, rfl, (matched_shifted_iff text restText balanced).mp matched⟩

theorem exists_start_of_matched (balanced : Balanced inside) {start finish : Nat}
    (matched : whole.Matched start (shifted before.length inside.length finish)) :
    ∃ original, start = shifted before.length inside.length original ∧
      rest.Matched original finish := by
  have size := congrArg List.length text
  simp only [List.length_append, Array.length_toList] at size
  have outside : start < before.length ∨ before.length + inside.length ≤ start := by
    by_contra within
    obtain ⟨other, upper, inner⟩ := exists_matched_of_loopStart
      (by rwa [between_insertion text]) (by omega) (by omega) (by omega) matched.opening
    have same := inner.finish_unique matched
    have ordered := matched.lt
    have finishOutside := shifted_outside before.length inside.length finish
    omega
  obtain ⟨original, rfl⟩ := exists_eq_shifted outside
  exact ⟨original, rfl, (matched_shifted_iff text restText balanced).mp matched⟩

end Insertion

end Program

/-! ## Steps -/

/-- What a step leads to once a text was inserted. A step that goes on goes on behind some
position, and behind that position it goes on once it is shifted: this is the beginning of the
text if that position is the last one before it. -/
def Progress.shifted {τ : Type} (place length : Nat) : Progress τ → Progress τ
  | ended ⟨position, workspace⟩ => ended ⟨RingTape.shifted place length position, workspace⟩
  | advanced ⟨position, workspace⟩ =>
    advanced ⟨RingTape.shifted place length (position - 1) + 1, workspace⟩
  | failed ⟨position, workspace⟩ fault =>
    failed ⟨RingTape.shifted place length position, workspace⟩ (fault.shifted place length)

namespace Machine

variable {τ : Type} [TapeLike τ] {whole rest : Program} {before inside after : List Instruction}

/-- Outside of a balanced text, a program steps as it does without the text. -/
theorem step_shifted (text : whole.toList = before ++ (inside ++ after))
    (restText : rest.toList = before ++ after) (balanced : Balanced inside) (position : Nat)
    (workspace : Workspace τ) :
    step whole ⟨shifted before.length inside.length position, workspace⟩ =
      (step rest ⟨position, workspace⟩).shifted before.length inside.length := by
  have same := Program.getElem?_shifted text restText position
  rw [step_eq_iff]
  have listed := step_spec rest ⟨position, workspace⟩
  generalize step rest ⟨position, workspace⟩ = progress at listed ⊢
  cases listed with
  | ended outside => exact .ended (same.trans outside)
  | acted here performed => exact .acted (same.trans here) performed
  | broken here performed =>
      rw [Progress.shifted, Fault.shifted_of_ne_unmatched before.length inside.length
        (Workspace.perform_ne_unmatched performed)]
      exact .broken (same.trans here) performed
  | entered here nonzero => exact .entered (same.trans here) nonzero
  | left here zero => exact .left (same.trans here) zero
  | skipped zero matched =>
      exact .skipped zero ((Program.matched_shifted_iff text restText balanced).mpr matched)
  | repeated nonzero matched =>
      exact .repeated nonzero ((Program.matched_shifted_iff text restText balanced).mpr matched)
  | unclosed here zero alone =>
      rw [Progress.shifted, Fault.shifted_unmatched]
      refine .unclosed (same.trans here) zero fun finish matched => ?_
      obtain ⟨original, _, found⟩ :=
        Program.exists_finish_of_matched text restText balanced matched
      exact alone original found
  | unopened here nonzero alone =>
      rw [Progress.shifted, Fault.shifted_unmatched]
      refine .unopened (same.trans here) nonzero fun start matched => ?_
      obtain ⟨original, _, found⟩ :=
        Program.exists_start_of_matched text restText balanced matched
      exact alone original found

end Machine

end RingTape
