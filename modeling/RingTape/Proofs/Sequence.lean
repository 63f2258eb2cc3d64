/-
# Programs one behind the other

A program in front of another one is run as by itself, as long as none of its loop starts looks
for a loop end behind it. Control that comes to its end goes on with the other program on the
workspace as it was left. There the second program is run as by itself, at positions behind the
first, unless one of its loop ends finds a loop start of the first that has no loop end there.
-/

import RingTape.Proofs.InRange
import RingTape.Proofs.Relocation

namespace RingTape

namespace Program

variable {first second : Program} {start finish : Nat}

/-! ## Brackets of the first program -/

theorem between_append_left {last : Nat} (inside : last ≤ first.size) :
    (first ++ second).between start last = first.between start last := by
  rw [between, between, Array.toList_append,
    List.take_append_of_le_length (by rwa [Array.length_toList])]

theorem matched_append_left_iff (inside : finish < first.size) :
    (first ++ second).Matched start finish ↔ first.Matched start finish := by
  refine and_congr_right fun ordered => ?_
  rw [Array.getElem?_append_left (Nat.lt_trans ordered inside),
    Array.getElem?_append_left inside, between_append_left (Nat.le_of_lt inside)]

theorem Matched.append (matched : first.Matched start finish) (second : Program) :
    (first ++ second).Matched start finish :=
  (matched_append_left_iff matched.finish_lt_size).mpr matched

/-! ## Brackets of the second program -/

theorem getElem?_append_add (first second : Program) (position : Nat) :
    (first ++ second)[first.size + position]? = second[position]? := by
  rw [Array.getElem?_append_right (Nat.le_add_right _ _), Nat.add_sub_cancel_left]

theorem between_append_add (first second : Program) (start finish : Nat) :
    (first ++ second).between (first.size + start) (first.size + finish) =
      second.between start finish := by
  rw [between, between, Array.toList_append, ← Array.length_toList,
    List.take_length_add_append, List.drop_length_add_append]

theorem matched_append_add_iff :
    (first ++ second).Matched (first.size + start) (first.size + finish) ↔
      second.Matched start finish := by
  rw [Matched, Matched, getElem?_append_add, getElem?_append_add, Nat.add_assoc first.size,
    between_append_add, Nat.add_lt_add_iff_left]

/-- No loop start of the program is left open at its end. -/
def Closed (program : Program) : Prop :=
  program.pass.pending = []

instance (program : Program) : Decidable program.Closed :=
  inferInstanceAs (Decidable (_ = _))

theorem Closed.exists_matched (closed : first.Closed)
    (opening : first[start]? = some .loopStart) : ∃ finish, first.Matched start finish := by
  by_contra alone
  have pending := mem_pending_pass_iff.mpr ⟨opening, not_exists.mp alone⟩
  rw [closed] at pending
  exact List.not_mem_nil pending

/-- A loop end behind a program without open loops belongs to a loop start behind it. -/
theorem Closed.size_le_of_matched (closed : first.Closed)
    (matched : (first ++ second).Matched start finish) (behind : first.size ≤ finish) :
    first.size ≤ start := by
  by_contra inside
  have opening := matched.opening
  rw [Array.getElem?_append_left (Nat.lt_of_not_le inside)] at opening
  obtain ⟨other, within⟩ := closed.exists_matched opening
  have same := (within.append second).finish_unique matched
  have upper := within.finish_lt_size
  omega

/-- Behind a program without open loops a program is found as it is. -/
theorem Closed.found (closed : first.Closed) (second : Program) :
    second.Found (first.size + ·) (fun _ => True) (first ++ second) where
  brackets := ⟨trivial, trivial⟩
  outside nothing := (getElem?_append_add first second _).trans nothing
  here here _ := (getElem?_append_add first second _).trans here
  next _ _ := rfl
  finish := by
    intro start _ finish
    constructor
    · intro matched
      obtain ⟨original, rfl⟩ := Nat.exists_eq_add_of_le
        (Nat.le_trans (Nat.le_add_right first.size start) (Nat.le_of_lt matched.lt))
      exact ⟨original, matched_append_add_iff.mp matched, rfl⟩
    · rintro ⟨original, matched, rfl⟩
      exact matched_append_add_iff.mpr matched
  start := by
    intro finish _ start
    constructor
    · intro matched
      obtain ⟨original, rfl⟩ := Nat.exists_eq_add_of_le
        (closed.size_le_of_matched matched (Nat.le_add_right first.size finish))
      exact ⟨original, matched_append_add_iff.mp matched, rfl⟩
    · rintro ⟨original, matched, rfl⟩
      exact matched_append_add_iff.mpr matched

end Program

namespace Machine

section First

variable {τ : Type} [TapeLike τ] {first : Program}

/-- In the first program a step is made as by itself, unless control is at its end or a loop
start looks for a loop end that it does not have. -/
theorem step_append {machine : Machine τ} {progress : Progress τ} (second : Program)
    (stepped : machine.step first = progress) (inside : ∀ last, progress ≠ .ended last)
    (closed : ∀ last position, progress ≠ .failed last (.unmatched .opening position)) :
    machine.step (first ++ second) = progress ∧
      machine.exchange (first ++ second) = machine.exchange first := by
  have there {instruction : Instruction} (here : first[machine.position]? = some instruction) :
      (first ++ second)[machine.position]? = some instruction := by
    rw [Array.getElem?_append_left (Array.getElem?_eq_some_iff.mp here).1, here]
  rw [step_eq_iff] at stepped ⊢
  constructor
  · cases stepped with
    | ended => exact absurd rfl (inside machine)
    | acted here performed => exact .acted (there here) performed
    | broken here performed => exact .broken (there here) performed
    | entered here nonzero => exact .entered (there here) nonzero
    | left here zero => exact .left (there here) zero
    | skipped zero matched => exact .skipped zero (matched.append second)
    | repeated nonzero matched => exact .repeated nonzero (matched.append second)
    | unclosed => exact absurd rfl (closed machine _)
    | unopened here nonzero alone =>
        refine .unopened (there here) nonzero fun start matched => alone start ?_
        have lower := (Array.getElem?_eq_some_iff.mp here).1
        exact (Program.matched_append_left_iff lower).mp matched
  · cases here : first[machine.position]? with
    | none =>
        have ended := step_eq_iff.mpr (.ended here)
        rw [step_eq_iff.mpr stepped] at ended
        exact absurd ended (inside machine)
    | some instruction => simp only [exchange, here, there here]

/-- Where the first program comes to its end, control is there in the sequence. -/
theorem Stops.reaches_append {machine last : Machine τ} {exchanged : List Exchange}
    (second : Program) (stops : Stops first machine exchanged ⟨last, none⟩) :
    Reaches (first ++ second) machine exchanged last := by
  obtain ⟨limit, stopped, rfl⟩ := stops
  induction limit generalizing machine with
  | zero => simp [run] at stopped
  | succ limit ih =>
      rw [run] at stopped
      cases outcome : machine.step first with
      | failed stuck fault => simp [outcome] at stopped
      | ended finished =>
          simp only [outcome, Option.some.injEq, Halt.mk.injEq, and_true] at stopped
          subst stopped
          rw [exchanges, outcome]
          cases step_eq_iff.mp outcome with
          | ended nothing =>
              rw [exchange_of_not_action (by simp [nothing])]
              exact .refl _ _
      | advanced next =>
          simp only [outcome] at stopped
          obtain ⟨stepped, same⟩ := step_append second outcome (by simp) (by simp)
          rw [exchanges_succ_of_advanced outcome, ← same]
          exact (Reaches.of_step stepped).trans (ih stopped)

/-- Where the first program breaks off, the sequence does, unless it is for a loop end that is
missing. -/
theorem Stops.append {machine last : Machine τ} {exchanged : List Exchange} {fault : Fault}
    (second : Program) (stops : Stops first machine exchanged ⟨last, some fault⟩)
    (closed : ∀ position, fault ≠ .unmatched .opening position) :
    Stops (first ++ second) machine exchanged ⟨last, some fault⟩ := by
  obtain ⟨limit, stopped, rfl⟩ := stops
  induction limit generalizing machine with
  | zero => simp [run] at stopped
  | succ limit ih =>
      rw [run] at stopped
      cases outcome : machine.step first with
      | ended finished => simp [outcome] at stopped
      | failed stuck broken =>
          simp only [outcome, Option.some.injEq, Halt.mk.injEq] at stopped
          obtain ⟨rfl, rfl⟩ := stopped
          obtain ⟨stepped, same⟩ := step_append second outcome (by simp)
            (fun _ position failed => closed position (Progress.failed.inj failed).2)
          rw [exchanges, outcome, List.append_nil, ← same]
          exact stops_of_failed stepped
      | advanced next =>
          simp only [outcome] at stopped
          obtain ⟨stepped, same⟩ := step_append second outcome (by simp) (by simp)
          rw [exchanges_succ_of_advanced outcome, ← same]
          exact (Reaches.of_step stepped).stops (ih stopped)

end First

/-- A run that ends without a fault ends just behind the program. -/
theorem position_of_ended {program : Program} {workspace : Workspace Tape} {limit : Nat}
    {last : Machine Tape} (stopped : (start workspace).run program limit = some ⟨last, none⟩) :
    last.position = program.size := by
  obtain ⟨count, _, machine, reached, halted⟩ := run_eq_some_iff.mp stopped
  have inRange := (inRange_start program workspace).after reached
  cases outcome : machine.step program with
  | advanced next => simp [outcome, Progress.halt?] at halted
  | failed stuck fault => simp [outcome, Progress.halt?] at halted
  | ended finished =>
      simp only [outcome, Progress.halt?, Option.some.injEq, Halt.mk.injEq, and_true] at halted
      subst halted
      cases step_eq_iff.mp outcome with
      | ended nothing =>
          exact Nat.le_antisymm inRange.position (Array.getElem?_eq_none_iff.mp nothing)

/-- Programs in sequence run one after the other. Where the first one, run by itself from any
tape, comes to its end, the sequence comes to the beginning of the second one with the same
workspace, after the same exchanges; where the first one breaks off because of a stream or of a
loop end that has no loop start, the sequence breaks off in the same state with the same fault.
From the beginning of the second one on, whatever the workspace is there, the sequence makes the
run of the second one, at positions that are further on by the size of the first, if every loop
start of the first has its loop end. -/
theorem parts_run_one_after_the_other (first second : Program) :
    (∀ (workspace : Workspace Tape) exchanged last,
      Stops first (start workspace) exchanged ⟨last, none⟩ →
        Reaches (first ++ second) (start workspace) exchanged ⟨first.size, last.workspace⟩) ∧
    (∀ (workspace : Workspace Tape) exchanged last fault,
      (∀ position, fault ≠ .unmatched .opening position) →
        Stops first (start workspace) exchanged ⟨last, some fault⟩ →
          Stops (first ++ second) (start workspace) exchanged ⟨last, some fault⟩) ∧
    (first.Closed → ∀ (workspace : Workspace Tape) count,
      let behind : Machine Tape := ⟨first.size, workspace⟩
      behind.after (first ++ second) count =
          ((start workspace).after second count).map (relocate (first.size + ·)) ∧
        behind.exchanges (first ++ second) count = (start workspace).exchanges second count ∧
        behind.run (first ++ second) count =
          ((start workspace).run second count).map (Halt.relocate (first.size + ·))) := by
  refine ⟨?_, ?_, ?_⟩
  · rintro workspace exchanged ⟨position, last⟩ stops
    have reaches := stops.reaches_append second
    obtain ⟨limit, stopped, _⟩ := stops
    have behind : position = first.size := position_of_ended stopped
    rwa [behind] at reaches
  · intro workspace exchanged last fault closed stops
    exact stops.append second closed
  · intro closed workspace count behind
    have found := closed.found second
    exact ⟨after_relocate found count (start workspace),
      exchanges_relocate found count (start workspace),
      run_relocate found count (start workspace)⟩

/-- The program `]+` has no loop start, and `+]` ends one. From a blank tape the first comes to
its end, and behind it the second complains about its loop end, at position 3. From a nonzero
cell the first complains. -/
theorem parts_run_one_after_the_other_of_strays :
    let first : Program := #[.loopEnd, .action .increment]
    let second : Program := #[.action .increment, .loopEnd]
    let blank : Workspace Tape := ⟨.blank 1 Nat.one_pos, .empty, .plain⟩
    let marked (cell : UInt8) : Workspace Tape :=
      ⟨(Tape.blank 1 Nat.one_pos).put cell, .empty, .plain⟩
    Stops first (start blank) [] ⟨⟨2, marked 1⟩, none⟩ ∧
      Reaches (first ++ second) (start blank) [] ⟨2, marked 1⟩ ∧
      (∀ position, Fault.unmatched .closing 0 ≠ .unmatched .opening position) ∧
      Stops (first ++ second) (start (marked 1)) []
        ⟨start (marked 1), some (.unmatched .closing 0)⟩ ∧
      first.Closed ∧
      run (first ++ second) 2 ⟨2, marked 1⟩ =
        some ⟨⟨3, marked 2⟩, some (.unmatched .closing 3)⟩ := by
  intro first second blank marked
  obtain ⟨through, broken, behind⟩ := parts_run_one_after_the_other first second
  have ends : Stops first (start blank) [] ⟨⟨2, marked 1⟩, none⟩ := ⟨3, rfl, rfl⟩
  have other : ∀ position, Fault.unmatched .closing 0 ≠ .unmatched .opening position := by simp
  have closed : first.Closed := by decide
  refine ⟨ends, through _ _ _ ends, other, broken _ _ _ _ other ⟨1, rfl, rfl⟩, closed, ?_⟩
  exact (behind closed (marked 1) 2).2.2

/-- Without its loop end a loop start takes that of the second program, which is then no longer
a stray. -/
example : Program.Unmatched #[.loopEnd] 0 ∧
    ¬ Program.Unmatched (#[.loopStart] ++ #[.loopEnd]) 1 := by
  decide

end Machine

end RingTape
