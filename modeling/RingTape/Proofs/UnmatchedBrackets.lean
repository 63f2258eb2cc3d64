/-
# Unmatched brackets at run time

A bracket without a partner lies outside every pair, so no jump crosses it: control comes
to it before anything behind it and never comes back. There it is a comment, or the run
ends with a complaint about just this position. Up to such a complaint a run is the run of
the program in which unmatched brackets are comments, and a balanced program has none.
-/

import RingTape.Proofs.Lockstep
import RingTape.Proofs.StackPass

namespace RingTape

namespace Program

variable {program : Program} {position start finish : Nat}

/-! ## Outside every pair -/

theorem Matched.not_unmatched_start (matched : program.Matched start finish) :
    ¬ program.Unmatched start := fun unmatched =>
  (unmatched_loopStart_iff matched.opening).mp unmatched finish matched

theorem Matched.not_unmatched_finish (matched : program.Matched start finish) :
    ¬ program.Unmatched finish := fun unmatched =>
  (unmatched_loopEnd_iff matched.closing).mp unmatched start matched

/-- In a balanced stretch every bracket has a partner. -/
theorem not_unmatched_of_balanced {first last : Nat}
    (balanced : Balanced (program.between first last)) (inRange : last ≤ program.size)
    (lower : first ≤ position) (upper : position < last) :
    ¬ program.Unmatched position := by
  intro unmatched
  rcases unmatched.isBracket with opening | closing
  · obtain ⟨finish, _, matched⟩ :=
      exists_matched_of_loopStart balanced inRange lower upper opening
    exact matched.not_unmatched_start unmatched
  · obtain ⟨start, _, matched⟩ :=
      exists_matched_of_loopEnd balanced inRange lower upper closing
    exact matched.not_unmatched_finish unmatched

/-- An unmatched bracket is before a pair or behind it. -/
theorem Unmatched.outside (unmatched : program.Unmatched position)
    (matched : program.Matched start finish) : position < start ∨ finish < position := by
  have notStart : position ≠ start := by
    rintro rfl
    exact matched.not_unmatched_start unmatched
  have notFinish : position ≠ finish := by
    rintro rfl
    exact matched.not_unmatched_finish unmatched
  have notInside : ¬ (start < position ∧ position < finish) := fun inside =>
    not_unmatched_of_balanced matched.balanced (Nat.le_of_lt matched.finish_lt_size)
      inside.1 inside.2 unmatched
  have ordered := matched.lt
  omega

theorem not_unmatched_of_action {action : Action}
    (here : program[position]? = some (.action action)) : ¬ program.Unmatched position := by
  intro unmatched
  rcases unmatched.isBracket with opening | closing
  · simp [here] at opening
  · simp [here] at closing

/-! ## The program with its unmatched brackets muted -/

theorem getElem?_muted (program : Program) (position : Nat) :
    program.muted[position]? = program[position]?.map fun instruction =>
      if program.Unmatched position then .action .comment else instruction := by
  simp [muted]

theorem getElem?_muted_of_unmatched (unmatched : program.Unmatched position) :
    program.muted[position]? = some (.action .comment) := by
  rw [getElem?_muted]
  rcases unmatched.isBracket with opening | closing
  · simp [opening, unmatched]
  · simp [closing, unmatched]

theorem getElem?_muted_of_not_unmatched (matched : ¬ program.Unmatched position) :
    program.muted[position]? = program[position]? := by
  simp [getElem?_muted, matched]

theorem getElem?_between (program : Program) (first last index : Nat) :
    (program.between first last)[index]? =
      if first + index < last then program[first + index]? else none := by
  simp [between, List.getElem?_take]

/-- A stretch without unmatched brackets is the same in the muted program. -/
theorem between_muted {first last : Nat}
    (matched : ∀ position, first ≤ position → position < last → ¬ program.Unmatched position) :
    program.muted.between first last = program.between first last := by
  apply List.ext_getElem?
  intro index
  rw [getElem?_between, getElem?_between]
  split
  · exact getElem?_muted_of_not_unmatched (matched _ (Nat.le_add_right _ _) ‹_›)
  · rfl

theorem Matched.muted (matched : program.Matched start finish) :
    program.muted.Matched start finish := by
  refine ⟨matched.lt, ?_, ?_, ?_⟩
  · rw [getElem?_muted_of_not_unmatched matched.not_unmatched_start]
    exact matched.opening
  · rw [getElem?_muted_of_not_unmatched matched.not_unmatched_finish]
    exact matched.closing
  · rw [between_muted]
    · exact matched.balanced
    · intro position lower upper
      exact not_unmatched_of_balanced matched.balanced
        (Nat.le_of_lt matched.finish_lt_size) lower upper

/-- The brackets of a balanced program all have partners. -/
theorem not_unmatched_of_balanced_toList (balanced : Balanced program.toList)
    (position : Nat) : ¬ program.Unmatched position := by
  intro unmatched
  rw [← between_zero_size] at balanced
  exact not_unmatched_of_balanced balanced (Nat.le_refl _) (Nat.zero_le _) unmatched.lt_size
    unmatched

end Program

/-! ## Faults of actions -/

theorem Chunk.delivered_ne_unmatched (chunk : Chunk) (bracket : Bracket) (position : Int) :
    chunk.delivered ≠ .error (.unmatched bracket position) := by
  intro failed
  rcases delivered_eq_error failed with ⟨_, _, other⟩ | ⟨_, _, _, other⟩ <;> cases other

theorem Sink.refusal_ne_unmatched (sink : Sink) (text : List Char) (bracket : Bracket)
    (position : Int) : sink.refusal text ≠ some (.unmatched bracket position) := by
  intro refused
  obtain ⟨_, _, other⟩ := refusal_eq_some refused
  cases other

namespace Workspace

variable {τ : Type} [TapeLike τ]

/-- An action can only fail because of a stream. -/
theorem perform_ne_unmatched {workspace last : Workspace τ} {action : Action} {fault : Fault}
    (performed : workspace.perform action = (last, some fault)) (bracket : Bracket)
    (position : Int) : fault ≠ .unmatched bracket position := by
  rintro rfl
  rcases perform_eq_fault performed with ⟨_, refused, _⟩ | ⟨_, failed, _⟩
  · exact workspace.sink.refusal_ne_unmatched _ bracket position refused
  · exact Chunk.delivered_ne_unmatched _ bracket position failed

end Workspace

namespace Machine

variable {τ : Type} [TapeLike τ] {program : Program} {bracket : Nat}

/-- The step fails with the complaint that the bracket at this very position has no
partner. -/
def Complains (program : Program) (machine : Machine τ) : Prop :=
  ∃ bracket, machine.step program = .failed machine (.unmatched bracket machine.position)

/-! ## Control and unmatched brackets -/

/-- A step leads behind an unmatched bracket from the bracket itself and from behind it, and
from nowhere else: no jump crosses it. -/
theorem lt_position_iff_of_step (unmatched : program.Unmatched bracket)
    {machine next : Machine τ} (stepped : machine.step program = .advanced next) :
    bracket < next.position ↔ bracket ≤ machine.position := by
  cases step_eq_iff.mp stepped with
  | acted | entered | left => exact Nat.lt_succ_iff
  | skipped zero matched =>
      have apart := unmatched.outside matched
      have ordered := matched.lt
      show bracket < _ + 1 ↔ _
      omega
  | repeated nonzero matched =>
      have apart := unmatched.outside matched
      have ordered := matched.lt
      show bracket < _ + 1 ↔ _
      omega

/-- What is behind an unmatched bracket stays behind it. -/
theorem lt_position_of_after (unmatched : program.Unmatched bracket) {count : Nat}
    {machine later : Machine τ} (behind : bracket < machine.position)
    (reached : machine.after program count = some later) : bracket < later.position := by
  induction count generalizing later with
  | zero =>
      obtain rfl := Option.some.inj reached
      exact behind
  | succ count ih =>
      obtain ⟨middle, reachedMiddle, stepped⟩ := after_succ_eq_some_iff.mp reached
      exact (lt_position_iff_of_step unmatched stepped).mpr (Nat.le_of_lt (ih reachedMiddle))

/-- Control that has passed an unmatched bracket has been at it. -/
theorem exists_visit_of_passed (unmatched : program.Unmatched bracket) {count : Nat}
    {machine later : Machine τ} (before : machine.position ≤ bracket)
    (reached : machine.after program count = some later) (passed : bracket < later.position) :
    ∃ earlier, earlier < count ∧
      ∃ visit, machine.after program earlier = some visit ∧ visit.position = bracket := by
  induction count generalizing later with
  | zero =>
      obtain rfl := Option.some.inj reached
      omega
  | succ count ih =>
      obtain ⟨middle, reachedMiddle, stepped⟩ := after_succ_eq_some_iff.mp reached
      have upTo := (lt_position_iff_of_step unmatched stepped).mp passed
      rcases Nat.eq_or_lt_of_le upTo with there | already
      · exact ⟨count, Nat.lt_succ_self count, middle, reachedMiddle, there.symm⟩
      · obtain ⟨earlier, within, visit⟩ := ih reachedMiddle already
        exact ⟨earlier, Nat.lt_succ_of_lt within, visit⟩

/-- After a visit to an unmatched bracket control is behind it. -/
theorem lt_position_of_visit (unmatched : program.Unmatched bracket) {first second : Nat}
    {machine visit later : Machine τ} (reached : machine.after program first = some visit)
    (there : visit.position = bracket) (ordered : first < second)
    (reachedLater : machine.after program second = some later) : bracket < later.position := by
  obtain ⟨middle, reachedMiddle, onwards⟩ :=
    exists_after_of_le reachedLater (Nat.succ_le_of_lt ordered)
  obtain ⟨same, reachedSame, stepped⟩ := after_succ_eq_some_iff.mp reachedMiddle
  rw [reached] at reachedSame
  obtain rfl := Option.some.inj reachedSame
  have behind := (lt_position_iff_of_step unmatched stepped).mpr (Nat.le_of_eq there.symm)
  exact lt_position_of_after unmatched behind onwards

/-! ## Complaints -/

/-- A complaint is about an unmatched bracket at the position of the machine, which its
test did not let pass. -/
theorem unmatched_of_step {machine last : Machine τ} {kind : Bracket} {position : Int}
    (failed : machine.step program = .failed last (.unmatched kind position)) :
    program.Unmatched machine.position ∧ position = machine.position ∧ last = machine ∧
      ((kind = .opening ∧ program[machine.position]? = some .loopStart ∧
          machine.workspace.current = 0) ∨
        (kind = .closing ∧ program[machine.position]? = some .loopEnd ∧
          machine.workspace.current ≠ 0)) := by
  -- An action that fails does so with another fault.
  generalize complaint : Fault.unmatched kind position = fault at failed
  cases step_eq_iff.mp failed with
  | broken here performed =>
      exact absurd complaint.symm (Workspace.perform_ne_unmatched performed kind position)
  | unclosed here zero alone =>
      obtain ⟨rfl, rfl⟩ := Fault.unmatched.inj complaint
      exact ⟨(Program.unmatched_loopStart_iff here).mpr alone, rfl, rfl,
        .inl ⟨rfl, here, zero⟩⟩
  | unopened here nonzero alone =>
      obtain ⟨rfl, rfl⟩ := Fault.unmatched.inj complaint
      exact ⟨(Program.unmatched_loopEnd_iff here).mpr alone, rfl, rfl,
        .inr ⟨rfl, here, nonzero⟩⟩

/-- A run that is broken off by a complaint stands at the bracket that it is about. -/
theorem complaint_of_run {machine last : Machine τ} {limit : Nat} {kind : Bracket}
    {position : Int}
    (stopped : machine.run program limit = some ⟨last, some (.unmatched kind position)⟩) :
    program.Unmatched last.position ∧ position = last.position := by
  obtain ⟨_, _, stuck, _, halted⟩ := run_eq_some_iff.mp stopped
  cases outcome : stuck.step program with
  | advanced next => simp [outcome, Progress.halt?] at halted
  | ended last => simp [outcome, Progress.halt?] at halted
  | failed last fault =>
      simp only [outcome, Progress.halt?, Option.some.injEq, Halt.mk.injEq] at halted
      obtain ⟨rfl, rfl⟩ := halted
      obtain ⟨unmatched, there, rfl, _⟩ := unmatched_of_step outcome
      exact ⟨unmatched, there⟩

/-- An unmatched loop start complains on a zero cell and does nothing on another. -/
theorem step_of_unmatched_loopStart {machine : Machine τ}
    (unmatched : program.Unmatched machine.position)
    (here : program[machine.position]? = some .loopStart) :
    machine.step program =
      if machine.workspace.current = 0 then
        .failed machine (.unmatched .opening machine.position)
      else .advanced ⟨machine.position + 1, machine.workspace⟩ := by
  rw [step_eq_iff]
  split
  · exact .unclosed here ‹_› ((Program.unmatched_loopStart_iff here).mp unmatched)
  · exact .entered here ‹_›

/-- An unmatched loop end does nothing on a zero cell and complains on another. -/
theorem step_of_unmatched_loopEnd {machine : Machine τ}
    (unmatched : program.Unmatched machine.position)
    (here : program[machine.position]? = some .loopEnd) :
    machine.step program =
      if machine.workspace.current = 0 then
        .advanced ⟨machine.position + 1, machine.workspace⟩
      else .failed machine (.unmatched .closing machine.position) := by
  rw [step_eq_iff]
  split
  · exact .left here ‹_›
  · exact .unopened here ‹_› ((Program.unmatched_loopEnd_iff here).mp unmatched)

/-- A bracket that lets control pass on is as good as a comment. -/
theorem step_muted_of_passed {machine : Machine τ}
    (isBracket : program[machine.position]? = some .loopStart ∧
        machine.workspace.current ≠ 0 ∨
      program[machine.position]? = some .loopEnd ∧ machine.workspace.current = 0) :
    Step program.muted machine (.advanced ⟨machine.position + 1, machine.workspace⟩) := by
  by_cases unmatched : program.Unmatched machine.position
  · exact .acted (Program.getElem?_muted_of_unmatched unmatched) rfl
  · have same := Program.getElem?_muted_of_not_unmatched unmatched
    rcases isBracket with ⟨here, nonzero⟩ | ⟨here, zero⟩
    · exact .entered (same.trans here) nonzero
    · exact .left (same.trans here) zero

/-- Without a complaint, a step is the step of the muted program. -/
theorem step_muted {machine : Machine τ} (quiet : ¬ machine.Complains program) :
    machine.step program.muted = machine.step program := by
  rw [step_eq_iff]
  have same {action : Action} (here : program[machine.position]? = some (.action action)) :
      program.muted[machine.position]? = some (.action action) := by
    rw [Program.getElem?_muted_of_not_unmatched (Program.not_unmatched_of_action here), here]
  have listed := step_spec program machine
  generalize stepped : machine.step program = progress at listed ⊢
  cases listed with
  | ended outside => exact .ended (by simp [Program.getElem?_muted, outside])
  | acted here performed => exact .acted (same here) performed
  | broken here performed => exact .broken (same here) performed
  | entered here nonzero => exact step_muted_of_passed (.inl ⟨here, nonzero⟩)
  | skipped zero matched => exact .skipped zero matched.muted
  | unclosed here zero alone => exact absurd ⟨.opening, stepped⟩ quiet
  | left here zero => exact step_muted_of_passed (.inr ⟨here, zero⟩)
  | repeated nonzero matched => exact .repeated nonzero matched.muted
  | unopened here nonzero alone => exact absurd ⟨.closing, stepped⟩ quiet

theorem Complains.unmatched {machine : Machine τ} (complains : machine.Complains program) :
    program.Unmatched machine.position := by
  obtain ⟨kind, failed⟩ := complains
  exact (unmatched_of_step failed).1

/-! ## The run of the muted program -/

/-- As long as nothing complains, a program and its muted form run in lockstep. -/
theorem lockstep_muted (program : Program) :
    Lockstep program program.muted (fun machine : Machine τ => ¬ machine.Complains program)
      (· = ·) := by
  rintro machine _ rfl quiet
  rw [step_muted quiet]
  exact .refl _

/-- What a run has got past did not complain. -/
theorem guarded_of_after {machine later : Machine τ} {count : Nat}
    (reached : machine.after program count = some later) :
    Guarded program (fun machine => ¬ machine.Complains program) machine count := by
  rintro earlier within middle reachedMiddle ⟨kind, failed⟩
  obtain ⟨next, reachedNext, _⟩ := exists_after_of_le reached (Nat.succ_le_of_lt within)
  obtain ⟨same, reachedSame, stepped⟩ := after_succ_eq_some_iff.mp reachedNext
  rw [reachedMiddle] at reachedSame
  obtain rfl := Option.some.inj reachedSame
  rw [failed] at stepped
  cases stepped

/-- Every state of a run is a state of the run of the muted program. -/
theorem after_muted {machine later : Machine τ} {count : Nat}
    (reached : machine.after program count = some later) :
    machine.after program.muted count = some later := by
  rw [← (lockstep_muted program).after_eq (guarded_of_after reached), reached]

/-- What is not the run of the muted program complains on the way. -/
theorem exists_complaint_of_not_guarded {machine : Machine τ} {limit : Nat}
    (unguarded : ¬ Guarded program (fun machine => ¬ machine.Complains program) machine limit) :
    ∃ count, count < limit ∧ ∃ stuck, machine.after program count = some stuck ∧
      machine.after program.muted count = some stuck ∧
      program.Unmatched stuck.position ∧ stuck.Complains program := by
  simp only [Guarded, not_forall, Classical.not_not] at unguarded
  obtain ⟨count, within, stuck, reached, complains⟩ := unguarded
  exact ⟨count, within, stuck, reached, after_muted reached, complains.unmatched, complains⟩

/-- Unmatched brackets are noticed late and exactly where they stand. Control gets past an
unmatched bracket only through it, never comes back from behind it, and so is at it once at
most. A loop start without a partner complains on a zero cell and a loop end without one on
a nonzero cell, with their own positions, and otherwise they do nothing; no other position
is ever complained about. Up to a complaint the run is the run of the program with comments
in place of its unmatched brackets, and where everything is balanced nothing complains. -/
theorem unmatched_brackets_complain_lazily (program : Program) (workspace : Workspace Tape) :
    (∀ bracket, program.Unmatched bracket →
      (∀ count later, (start workspace).after program count = some later →
        bracket < later.position → ∃ earlier, earlier < count ∧
          ∃ visit, (start workspace).after program earlier = some visit ∧
            visit.position = bracket) ∧
      (∀ count more reached later, (start workspace).after program count = some reached →
        bracket < reached.position → reached.after program more = some later →
          bracket < later.position) ∧
      (∀ first second visit again, (start workspace).after program first = some visit →
        (start workspace).after program second = some again →
          visit.position = bracket → again.position = bracket → first = second)) ∧
    (∀ machine : Machine Tape, program.Unmatched machine.position →
      (program[machine.position]? = some .loopStart →
        machine.step program =
          if machine.workspace.current = 0 then
            .failed machine (.unmatched .opening machine.position)
          else .advanced ⟨machine.position + 1, machine.workspace⟩) ∧
      (program[machine.position]? = some .loopEnd →
        machine.step program =
          if machine.workspace.current = 0 then
            .advanced ⟨machine.position + 1, machine.workspace⟩
          else .failed machine (.unmatched .closing machine.position))) ∧
    (∀ (machine last : Machine Tape) kind position,
      machine.step program = .failed last (.unmatched kind position) →
        program.Unmatched machine.position ∧ position = machine.position ∧ last = machine) ∧
    (∀ count reached, (start workspace).after program count = some reached →
      (start workspace).after program.muted count = some reached) ∧
    (∀ limit,
      ((start workspace).after program limit = (start workspace).after program.muted limit ∧
        (start workspace).run program limit = (start workspace).run program.muted limit) ∨
      ∃ count, count < limit ∧ ∃ stuck, (start workspace).after program count = some stuck ∧
        (start workspace).after program.muted count = some stuck ∧
        program.Unmatched stuck.position ∧ stuck.Complains program) ∧
    (Balanced program.toList → ∀ (machine last : Machine Tape) kind position,
      machine.step program ≠ .failed last (.unmatched kind position)) := by
  refine ⟨fun bracket unmatched => ⟨?_, ?_, ?_⟩, fun machine unmatched => ⟨?_, ?_⟩,
    ?_, ?_, ?_, ?_⟩
  · intro count later reached passed
    exact exists_visit_of_passed unmatched (Nat.zero_le bracket) reached passed
  · intro count more reached later _ behind onwards
    exact lt_position_of_after unmatched behind onwards
  · intro first second visit again reached reachedAgain there thereAgain
    rcases Nat.lt_trichotomy first second with before | same | behind
    · have passed := lt_position_of_visit unmatched reached there before reachedAgain
      omega
    · exact same
    · have passed := lt_position_of_visit unmatched reachedAgain thereAgain behind reached
      omega
  · exact step_of_unmatched_loopStart unmatched
  · exact step_of_unmatched_loopEnd unmatched
  · intro machine last kind position failed
    obtain ⟨unmatched, there, same, _⟩ := unmatched_of_step failed
    exact ⟨unmatched, there, same⟩
  · intro count reached
    exact after_muted
  · intro limit
    by_cases guarded :
        Guarded program (fun machine => ¬ machine.Complains program) (start workspace) limit
    · exact .inl ⟨(lockstep_muted program).after_eq guarded,
        (lockstep_muted program).run_eq guarded⟩
    · exact .inr (exists_complaint_of_not_guarded guarded)
  · intro balanced machine last kind position failed
    exact Program.not_unmatched_of_balanced_toList balanced machine.position
      (unmatched_of_step failed).1

/-- In `]+]` the first loop end is passed and the second one complains, after control has
been at the first; `[]` has nothing to complain about. -/
theorem unmatched_brackets_complain_lazily_of_two_closing :
    let program : Program := #[.loopEnd, .action .increment, .loopEnd]
    let workspace : Workspace Tape := ⟨.blank 1 Nat.one_pos, .empty, .plain⟩
    let stuck : Machine Tape := ⟨2, ⟨(Tape.blank 1 Nat.one_pos).put 1, .empty, .plain⟩⟩
    let loop : Program := #[.loopStart, .loopEnd]
    program.Unmatched 0 ∧ program.Unmatched stuck.position ∧
      (start workspace).after program 2 = some stuck ∧
      (∃ earlier, earlier < 2 ∧ ∃ visit,
        (start workspace).after program earlier = some visit ∧ visit.position = 0) ∧
      stuck.step program = .failed stuck (.unmatched .closing 2) ∧
      Balanced loop.toList ∧ (start workspace).step loop ≠
        .failed (start workspace) (.unmatched .opening 0) := by
  intro program workspace stuck loop
  obtain ⟨control, tests, _⟩ := unmatched_brackets_complain_lazily program workspace
  obtain ⟨_, _, _, _, _, quiet⟩ := unmatched_brackets_complain_lazily loop workspace
  have first : program.Unmatched 0 := by decide
  have second : program.Unmatched stuck.position := by decide
  have reached : (start workspace).after program 2 = some stuck := rfl
  have complains : stuck.step program = .failed stuck (.unmatched .closing 2) :=
    (tests stuck second).2 rfl
  have balanced : Balanced loop.toList := balanced_nil.loop
  exact ⟨first, second, reached, (control 0 first).1 2 stuck reached (by decide), complains,
    balanced, quiet balanced _ _ _ _⟩

end Machine

end RingTape
