/-
# The pass and the scans

One pass with a stack and the two scans pair the same brackets. The pass is followed
position by position: the loop starts on its stack enclose each other with balanced
stretches between them, and every bracket that has been seen is on the stack, in a pair,
or a stray.
-/

import RingTape.Proofs.Matching

namespace RingTape

namespace Program

/-- The positions are loop starts, the innermost first, and nothing but balanced
stretches lies between one and the next and between the innermost and `bound`. -/
def Enclosing (program : Program) : (bound : Nat) → List Nat → Prop
  | _, [] => True
  | bound, start :: outer =>
      start < bound ∧ program[start]? = some .loopStart ∧
        Balanced (program.between (start + 1) bound) ∧ Enclosing program start outer

/-- What a pass knows after the positions below `bound`. -/
structure SeenBy (program : Program) (bound : Nat) (pass : Pass) : Prop where
  /-- The open loop starts enclose each other. -/
  pending : program.Enclosing bound pass.pending
  /-- Only brackets that belong together are paired. -/
  pairs : ∀ start finish, (start, finish) ∈ pass.pairs →
    program.Matched start finish ∧ finish < bound
  /-- Every loop start was pushed, and is still there unless it has been paired. -/
  starts : ∀ start, start < bound → program[start]? = some .loopStart →
    start ∈ pass.pending ∨ ∃ finish, (start, finish) ∈ pass.pairs
  /-- Every loop end was paired unless it is a stray. -/
  ends : ∀ finish, finish < bound → program[finish]? = some .loopEnd →
    finish ∈ pass.strays ∨ ∃ start, (start, finish) ∈ pass.pairs
  /-- Strays are loop ends that belong to no loop start. -/
  strays : ∀ finish, finish ∈ pass.strays →
    program[finish]? = some .loopEnd ∧ ∀ start, ¬ program.Matched start finish

variable {program : Program}

/-- A balanced stretch added at the bound leaves the open loop starts open. -/
theorem Enclosing.extend {bound further : Nat} {openStarts : List Nat}
    (enclosing : program.Enclosing bound openStarts) (ordered : bound ≤ further)
    (inRange : further ≤ program.size)
    (balanced : Balanced (program.between bound further)) :
    program.Enclosing further openStarts := by
  cases openStarts with
  | nil => trivial
  | cons start outer =>
      obtain ⟨before, opening, inside, rest⟩ := enclosing
      refine ⟨by omega, opening, ?_, rest⟩
      rw [← between_append bound before ordered inRange]
      exact inside.append balanced

/-- The reading from behind an open loop start to the bound never falls below the level
where it began. -/
theorem Enclosing.exists_nesting {bound start : Nat} {openStarts : List Nat}
    (enclosing : program.Enclosing bound openStarts) (inRange : bound ≤ program.size)
    (member : start ∈ openStarts) :
    start < bound ∧ program[start]? = some .loopStart ∧
      ∃ level, nesting 0 (program.between (start + 1) bound) = some level := by
  induction openStarts generalizing bound with
  | nil => simp at member
  | cons innermost outer ih =>
      obtain ⟨before, opening, inside, rest⟩ := enclosing
      rcases List.mem_cons.mp member with rfl | member
      · exact ⟨before, opening, 0, balanced_iff_nesting.mp inside⟩
      · obtain ⟨earlier, openingStart, level, read⟩ := ih rest (by omega) member
        refine ⟨by omega, openingStart, level + 1, ?_⟩
        rw [← between_append innermost (by omega) (by omega) inRange,
          between_eq_cons before opening, nesting_append_of_eq_some _ read,
          nesting_loopStart, ← List.append_nil (program.between (innermost + 1) bound),
          inside.nesting_append, nesting_nil]

/-- An open loop start has no partner below the bound. -/
theorem Enclosing.not_matched {bound start finish : Nat} {openStarts : List Nat}
    (enclosing : program.Enclosing bound openStarts) (inRange : bound ≤ program.size)
    (member : start ∈ openStarts) (seen : finish < bound) : ¬ program.Matched start finish := by
  intro matched
  obtain ⟨_, _, level, read⟩ := enclosing.exists_nesting inRange member
  have after := matched.lt
  rw [← between_append finish (by omega) (by omega) inRange,
    matched.balanced.nesting_append, between_eq_cons seen matched.closing,
    nesting_zero_loopEnd] at read
  simp at read

/-- A bracket seen by now was seen before if something else stands at this position. -/
theorem lt_of_ne_instruction {position bracket : Nat} {instruction other : Instruction}
    (here : program[position]? = some instruction) (there : program[bracket]? = some other)
    (ne : other ≠ instruction) (below : bracket < position + 1) : bracket < position := by
  have apart : bracket ≠ position := by
    rintro rfl
    rw [here] at there
    exact ne (Option.some.inj there).symm
  exact Nat.lt_of_le_of_ne (Nat.le_of_lt_succ below) apart

theorem SeenBy.matched_of_mem_pairs {position start finish : Nat} {pass : Pass}
    (seen : program.SeenBy position pass) (paired : (start, finish) ∈ pass.pairs) :
    program.Matched start finish ∧ finish < position + 1 := by
  obtain ⟨matched, below⟩ := seen.pairs start finish paired
  exact ⟨matched, Nat.lt_succ_of_lt below⟩

theorem SeenBy.visit_action {position : Nat} {pass : Pass} {action : Action}
    (seen : program.SeenBy position pass)
    (here : program[position]? = some (.action action)) :
    program.SeenBy (position + 1) (pass.visit position (.action action)) := by
  have inRange := (Array.getElem?_eq_some_iff.mp here).1
  constructor
  · apply seen.pending.extend (Nat.le_succ position) inRange
    rw [between_succ (Nat.le_refl position) here, between_self]
    exact balanced_action.mpr balanced_nil
  · intro start finish paired
    exact seen.matched_of_mem_pairs paired
  · intro start below opening
    exact seen.starts start (lt_of_ne_instruction here opening (by simp) below) opening
  · intro finish below closing
    exact seen.ends finish (lt_of_ne_instruction here closing (by simp) below) closing
  · exact seen.strays

theorem SeenBy.visit_loopStart {position : Nat} {pass : Pass}
    (seen : program.SeenBy position pass)
    (here : program[position]? = some .loopStart) :
    program.SeenBy (position + 1) (pass.visit position .loopStart) := by
  constructor
  · refine ⟨Nat.lt_succ_self position, here, ?_, seen.pending⟩
    rw [between_self]
    exact balanced_nil
  · intro start finish paired
    exact seen.matched_of_mem_pairs paired
  · intro start below opening
    rcases Nat.lt_succ_iff_lt_or_eq.mp below with earlier | rfl
    · exact (seen.starts start earlier opening).imp_left (List.mem_cons_of_mem position)
    · exact .inl List.mem_cons_self
  · intro finish below closing
    exact seen.ends finish (lt_of_ne_instruction here closing (by simp) below) closing
  · exact seen.strays

/-- A loop end seen with an empty stack belongs to no loop start, as every earlier loop
start has found its partner. -/
theorem SeenBy.visit_loopEnd_of_nil {position : Nat} {pairs : List (Nat × Nat)}
    {strays : List Nat} (seen : program.SeenBy position ⟨[], pairs, strays⟩)
    (here : program[position]? = some .loopEnd) :
    program.SeenBy (position + 1) ⟨[], pairs, position :: strays⟩ := by
  constructor
  · trivial
  · intro start finish paired
    exact seen.matched_of_mem_pairs paired
  · intro start below opening
    exact seen.starts start (lt_of_ne_instruction here opening (by simp) below) opening
  · intro finish below closing
    rcases Nat.lt_succ_iff_lt_or_eq.mp below with earlier | rfl
    · exact (seen.ends finish earlier closing).imp_left (List.mem_cons_of_mem position)
    · exact .inl List.mem_cons_self
  · intro finish stray
    rcases List.mem_cons.mp stray with rfl | stray
    · refine ⟨here, fun start matched => ?_⟩
      rcases seen.starts start matched.lt matched.opening with pending | ⟨other, paired⟩
      · simp at pending
      · obtain ⟨otherwise, below⟩ := seen.pairs start other paired
        have same := otherwise.finish_unique matched
        omega
    · exact seen.strays finish stray

/-- A loop end seen with an open loop start belongs to the innermost one. -/
theorem SeenBy.visit_loopEnd_of_cons {position innermost : Nat} {outer : List Nat}
    {pairs : List (Nat × Nat)} {strays : List Nat}
    (seen : program.SeenBy position ⟨innermost :: outer, pairs, strays⟩)
    (here : program[position]? = some .loopEnd) :
    program.SeenBy (position + 1) ⟨outer, (innermost, position) :: pairs, strays⟩ := by
  have inRange := (Array.getElem?_eq_some_iff.mp here).1
  obtain ⟨before, opening, inside, rest⟩ := seen.pending
  constructor
  · apply rest.extend (Nat.le_of_lt (Nat.lt_succ_of_lt before)) inRange
    rw [between_eq_cons (Nat.lt_succ_of_lt before) opening, between_succ before here]
    exact inside.loop
  · intro start finish paired
    rcases List.mem_cons.mp paired with same | paired
    · obtain ⟨rfl, rfl⟩ := Prod.mk.inj same
      exact ⟨⟨before, opening, here, inside⟩, Nat.lt_succ_self _⟩
    · exact seen.matched_of_mem_pairs paired
  · intro start below openingStart
    have earlier := lt_of_ne_instruction here openingStart (by simp) below
    rcases seen.starts start earlier openingStart with pending | ⟨finish, paired⟩
    · rcases List.mem_cons.mp pending with rfl | pending
      · exact .inr ⟨position, List.mem_cons_self⟩
      · exact .inl pending
    · exact .inr ⟨finish, List.mem_cons_of_mem _ paired⟩
  · intro finish below closing
    rcases Nat.lt_succ_iff_lt_or_eq.mp below with earlier | rfl
    · rcases seen.ends finish earlier closing with stray | ⟨start, paired⟩
      · exact .inl stray
      · exact .inr ⟨start, List.mem_cons_of_mem _ paired⟩
    · exact .inr ⟨innermost, List.mem_cons_self⟩
  · exact seen.strays

/-- One more position keeps what a pass knows true. -/
theorem SeenBy.visit {position : Nat} {pass : Pass} {instruction : Instruction}
    (seen : program.SeenBy position pass) (here : program[position]? = some instruction) :
    program.SeenBy (position + 1) (pass.visit position instruction) := by
  cases instruction with
  | action action => exact seen.visit_action here
  | loopStart => exact seen.visit_loopStart here
  | loopEnd =>
      obtain ⟨pending, pairs, strays⟩ := pass
      cases pending with
      | nil => exact seen.visit_loopEnd_of_nil here
      | cons innermost outer => exact seen.visit_loopEnd_of_cons here

theorem seenBy_visitAll_take {bound : Nat} (inRange : bound ≤ program.size) :
    program.SeenBy bound (Pass.initial.visitAll 0 (program.toList.take bound)) := by
  induction bound with
  | zero =>
      constructor
      all_goals simp [Pass.initial, Enclosing]
  | succ position ih =>
      have here : program[position]? = some program[position] :=
        Array.getElem?_eq_getElem inRange
      have length : (program.toList.take position).length = position := by
        rw [List.length_take, Array.length_toList]
        omega
      have next : program.toList.take (position + 1) =
          program.toList.take position ++ [program[position]] := by
        rw [List.take_succ_eq_append_getElem (Array.length_toList ▸ inRange),
          Array.getElem_toList]
      rw [next, Pass.visitAll_append, length, Nat.zero_add, Pass.visitAll_cons,
        Pass.visitAll_nil]
      exact (ih (Nat.le_of_lt inRange)).visit here

/-- The whole program seen. -/
theorem seenBy_pass (program : Program) : program.SeenBy program.size program.pass := by
  have seen : program.SeenBy program.size
      (Pass.initial.visitAll 0 (program.toList.take program.size)) :=
    seenBy_visitAll_take (Nat.le_refl program.size)
  rwa [List.take_of_length_le (by simp)] at seen

theorem mem_pending_pass_iff {position : Nat} :
    position ∈ program.pass.pending ↔
      program[position]? = some .loopStart ∧ ∀ finish, ¬ program.Matched position finish := by
  have seen := program.seenBy_pass
  constructor
  · intro pending
    obtain ⟨_, opening, _⟩ := seen.pending.exists_nesting (Nat.le_refl _) pending
    refine ⟨opening, fun finish matched => ?_⟩
    exact seen.pending.not_matched (Nat.le_refl _) pending matched.finish_lt_size matched
  · rintro ⟨opening, alone⟩
    have inRange := (Array.getElem?_eq_some_iff.mp opening).1
    rcases seen.starts position inRange opening with pending | ⟨finish, paired⟩
    · exact pending
    · exact absurd (seen.pairs position finish paired).1 (alone finish)

theorem mem_strays_pass_iff {position : Nat} :
    position ∈ program.pass.strays ↔
      program[position]? = some .loopEnd ∧ ∀ start, ¬ program.Matched start position := by
  have seen := program.seenBy_pass
  constructor
  · exact seen.strays position
  · rintro ⟨closing, alone⟩
    have inRange := (Array.getElem?_eq_some_iff.mp closing).1
    rcases seen.ends position inRange closing with stray | ⟨start, paired⟩
    · exact stray
    · exact absurd (seen.pairs start position paired).1 (alone start)

/-- The pass pairs exactly the brackets with a balanced stretch between them. -/
theorem paired_iff_matched {start finish : Nat} :
    program.Paired start finish ↔ program.Matched start finish := by
  have seen := program.seenBy_pass
  constructor
  · exact fun paired => (seen.pairs start finish paired).1
  · intro matched
    have inRange := (Array.getElem?_eq_some_iff.mp matched.opening).1
    rcases seen.starts start inRange matched.opening with pending | ⟨other, paired⟩
    · exact absurd matched ((mem_pending_pass_iff.mp pending).2 finish)
    · rwa [matched.finish_unique (seen.pairs start other paired).1]

theorem unmatched_loopStart_iff {position : Nat}
    (opening : program[position]? = some .loopStart) :
    program.Unmatched position ↔ ∀ finish, ¬ program.Matched position finish := by
  rw [Unmatched, mem_pending_pass_iff, mem_strays_pass_iff]
  simp [opening]

theorem unmatched_loopEnd_iff {position : Nat}
    (closing : program[position]? = some .loopEnd) :
    program.Unmatched position ↔ ∀ start, ¬ program.Matched start position := by
  rw [Unmatched, mem_pending_pass_iff, mem_strays_pass_iff]
  simp [closing]

/-- Only brackets can be unmatched. -/
theorem Unmatched.isBracket {position : Nat} (unmatched : program.Unmatched position) :
    program[position]? = some .loopStart ∨ program[position]? = some .loopEnd :=
  unmatched.imp (fun pending => (mem_pending_pass_iff.mp pending).1)
    (fun stray => (mem_strays_pass_iff.mp stray).1)

theorem Unmatched.lt_size {position : Nat} (unmatched : program.Unmatched position) :
    position < program.size := by
  rcases unmatched.isBracket with opening | closing
  · exact (Array.getElem?_eq_some_iff.mp opening).1
  · exact (Array.getElem?_eq_some_iff.mp closing).1

/-- The scans and the pass compute one matching. At a loop start the forward scan gives
the loop end that the pass pairs with it, or complains about this very position when the
pass leaves it without a partner; the backward scan does the same at a loop end. So the
scans undo each other, and what they pair is laminar. -/
theorem scans_agree_with_pass (program : Program) :
    (∀ start : Nat, program[start]? = some .loopStart →
      (∀ finish, program.loopEnd start = .ok finish ↔ program.Paired start finish) ∧
      (∀ fault, program.loopEnd start = .error fault ↔
        fault = .unmatched .opening start ∧ program.Unmatched start)) ∧
    (∀ finish : Nat, program[finish]? = some .loopEnd →
      (∀ start, program.loopStart finish = .ok start ↔ program.Paired start finish) ∧
      (∀ fault, program.loopStart finish = .error fault ↔
        fault = .unmatched .closing finish ∧ program.Unmatched finish)) ∧
    (∀ start finish : Nat,
      program[start]? = some .loopStart → program[finish]? = some .loopEnd →
      (program.loopEnd start = .ok finish ↔ program.loopStart finish = .ok start)) ∧
    (∀ start finish otherStart otherFinish,
      program.Paired start finish → program.Paired otherStart otherFinish →
        start < finish ∧
        ((start = otherStart ∧ finish = otherFinish) ∨
          finish < otherStart ∨ otherFinish < start ∨
          (start < otherStart ∧ otherFinish < finish) ∨
          (otherStart < start ∧ finish < otherFinish))) := by
  refine ⟨fun start opening => ⟨fun finish => ?_, fun fault => ?_⟩,
    fun finish closing => ⟨fun start => ?_, fun fault => ?_⟩,
    fun start finish opening closing => ?_,
    fun start finish otherStart otherFinish paired other => ?_⟩
  · rw [loopEnd_eq_ok_iff_matched opening, paired_iff_matched]
  · rw [loopEnd_eq_error_iff, unmatched_loopStart_iff opening]
    simp [loopEnd_eq_ok_iff_matched opening]
  · rw [loopStart_eq_ok_iff_matched closing, paired_iff_matched]
  · rw [loopStart_eq_error_iff, unmatched_loopEnd_iff closing]
    simp [loopStart_eq_ok_iff_matched closing]
  · rw [loopEnd_eq_ok_iff_matched opening, loopStart_eq_ok_iff_matched closing]
  · have matched := paired_iff_matched.mp paired
    exact ⟨matched.lt, matched.laminar (paired_iff_matched.mp other)⟩

/-- The program `][[]`, in which brackets of both kinds lack a partner. -/
theorem scans_agree_with_pass_of_both_missing :
    let program : Program := #[.loopEnd, .loopStart, .loopStart, .loopEnd]
    program[2]? = some .loopStart ∧ program[3]? = some .loopEnd ∧ program.Paired 2 3 ∧
      program.loopEnd (2 : Nat) = .ok 3 ∧ program.loopStart (3 : Nat) = .ok 2 ∧
      program.loopEnd (1 : Nat) = .error (.unmatched .opening (1 : Nat)) ∧
      program.loopStart (0 : Nat) = .error (.unmatched .closing (0 : Nat)) := by
  intro program
  obtain ⟨forward, backward, inverse, _⟩ := scans_agree_with_pass program
  have paired : program.Paired 2 3 := by decide
  have found : program.loopEnd (2 : Nat) = .ok 3 :=
    ((forward 2 (by decide)).1 3).mpr paired
  exact ⟨by decide, by decide, paired, found,
    (inverse 2 3 (by decide) (by decide)).mp found,
    ((forward 1 (by decide)).2 _).mpr ⟨rfl, by decide⟩,
    ((backward 0 (by decide)).2 _).mpr ⟨rfl, by decide⟩⟩

end Program

end RingTape
