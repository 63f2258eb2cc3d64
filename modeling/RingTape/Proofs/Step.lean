/-
# Steps and runs

A step of a machine is one of eight things, and `Step` lists them with everything that
each presupposes; the targets of jumps are given by the matching of the brackets and not
by scans. A run is the repetition of steps: it stops as it does because of the step in
the state that it has reached by then.
-/

import RingTape.Machine
import RingTape.Proofs.Matching

namespace RingTape

namespace Machine

variable {τ : Type} [TapeLike τ] {program : Program}

/-- What a step of a machine can lead to, and when. -/
inductive Step (program : Program) (machine : Machine τ) : Progress τ → Prop
  | ended (outside : program[machine.position]? = none) :
      Step program machine (.ended machine)
  | acted {action : Action} {next : Workspace τ}
      (here : program[machine.position]? = some (.action action))
      (performed : machine.workspace.perform action = (next, none)) :
      Step program machine (.advanced ⟨machine.position + 1, next⟩)
  | broken {action : Action} {last : Workspace τ} {fault : Fault}
      (here : program[machine.position]? = some (.action action))
      (performed : machine.workspace.perform action = (last, some fault)) :
      Step program machine (.failed ⟨machine.position, last⟩ fault)
  /-- A loop is entered, or begun once more. -/
  | entered (here : program[machine.position]? = some .loopStart)
      (nonzero : machine.workspace.current ≠ 0) :
      Step program machine (.advanced ⟨machine.position + 1, machine.workspace⟩)
  | skipped {finish : Nat} (zero : machine.workspace.current = 0)
      (matched : program.Matched machine.position finish) :
      Step program machine (.advanced ⟨finish + 1, machine.workspace⟩)
  | unclosed (here : program[machine.position]? = some .loopStart)
      (zero : machine.workspace.current = 0)
      (alone : ∀ finish, ¬ program.Matched machine.position finish) :
      Step program machine (.failed machine (.unmatched .opening machine.position))
  /-- A loop is left. -/
  | left (here : program[machine.position]? = some .loopEnd)
      (zero : machine.workspace.current = 0) :
      Step program machine (.advanced ⟨machine.position + 1, machine.workspace⟩)
  | repeated {start : Nat} (nonzero : machine.workspace.current ≠ 0)
      (matched : program.Matched start machine.position) :
      Step program machine (.advanced ⟨start + 1, machine.workspace⟩)
  | unopened (here : program[machine.position]? = some .loopEnd)
      (nonzero : machine.workspace.current ≠ 0)
      (alone : ∀ start, ¬ program.Matched start machine.position) :
      Step program machine (.failed machine (.unmatched .closing machine.position))

theorem step_of_loopStart {machine : Machine τ}
    (here : program[machine.position]? = some .loopStart) :
    machine.step program =
      if machine.workspace.current = 0 then
        jump (program.loopEnd machine.position) machine.position machine.workspace
      else .advanced ⟨machine.position + 1, machine.workspace⟩ := by
  simp only [step_eq, here]

theorem step_of_loopEnd {machine : Machine τ}
    (here : program[machine.position]? = some .loopEnd) :
    machine.step program =
      if machine.workspace.current = 0 then
        .advanced ⟨machine.position + 1, machine.workspace⟩
      else jump (program.loopStart machine.position) machine.position machine.workspace := by
  simp only [step_eq, here]

/-- The steps listed are all that there are. -/
theorem step_spec (program : Program) (machine : Machine τ) :
    Step program machine (machine.step program) := by
  cases here : program[machine.position]? with
  | none =>
      have stopped : machine.step program = .ended machine := by simp only [step_eq, here]
      rw [stopped]
      exact .ended here
  | some instruction =>
      cases instruction with
      | action action =>
          simp only [step_eq, here]
          split
          · exact .acted here ‹_›
          · exact .broken here ‹_›
      | loopStart =>
          rw [step_of_loopStart here]
          split
          · cases found : program.loopEnd machine.position with
            | ok finish =>
                exact .skipped ‹_› ((Program.loopEnd_eq_ok_iff_matched here).mp found)
            | error fault =>
                obtain ⟨rfl, nothing⟩ := Program.loopEnd_eq_error_iff.mp found
                refine .unclosed here ‹_› fun finish matched => nothing finish ?_
                exact (Program.loopEnd_eq_ok_iff_matched here).mpr matched
          · exact .entered here ‹_›
      | loopEnd =>
          rw [step_of_loopEnd here]
          split
          · exact .left here ‹_›
          · cases found : program.loopStart machine.position with
            | ok start =>
                exact .repeated ‹_› ((Program.loopStart_eq_ok_iff_matched here).mp found)
            | error fault =>
                obtain ⟨rfl, nothing⟩ := Program.loopStart_eq_error_iff.mp found
                refine .unopened here ‹_› fun start matched => nothing start ?_
                exact (Program.loopStart_eq_ok_iff_matched here).mpr matched

theorem step_eq_iff {machine : Machine τ} {progress : Progress τ} :
    machine.step program = progress ↔ Step program machine progress := by
  refine ⟨fun stepped => stepped ▸ step_spec program machine, fun listed => ?_⟩
  cases listed with
  | ended outside => simp only [step_eq, outside]
  | acted here performed => simp only [step_eq, here, performed]
  | broken here performed => simp only [step_eq, here, performed]
  | entered here nonzero => rw [step_of_loopStart here, if_neg nonzero]
  | skipped zero matched =>
      rw [step_of_loopStart matched.opening, if_pos zero,
        (Program.loopEnd_eq_ok_iff_matched matched.opening).mpr matched, jump]
  | unclosed here zero alone =>
      have nothing := Program.loopEnd_eq_error_iff.mpr
        ⟨rfl, fun finish found =>
          alone finish ((Program.loopEnd_eq_ok_iff_matched here).mp found)⟩
      rw [step_of_loopStart here, if_pos zero, nothing, jump]
  | left here zero => rw [step_of_loopEnd here, if_pos zero]
  | repeated nonzero matched =>
      rw [step_of_loopEnd matched.closing, if_neg nonzero,
        (Program.loopStart_eq_ok_iff_matched matched.closing).mpr matched, jump]
  | unopened here nonzero alone =>
      have nothing := Program.loopStart_eq_error_iff.mpr
        ⟨rfl, fun start found =>
          alone start ((Program.loopStart_eq_ok_iff_matched here).mp found)⟩
      rw [step_of_loopEnd here, if_neg nonzero, nothing, jump]

/-! ## Runs -/

@[simp]
theorem after_zero (program : Program) (machine : Machine τ) :
    machine.after program 0 = some machine := rfl

theorem after_succ_of_advanced {machine next : Machine τ}
    (stepped : machine.step program = .advanced next) (count : Nat) :
    machine.after program (count + 1) = next.after program count := by
  rw [after, stepped]

/-- A run of one step more is a run and then one step. -/
theorem after_succ_eq_some_iff {machine later : Machine τ} {count : Nat} :
    machine.after program (count + 1) = some later ↔
      ∃ middle, machine.after program count = some middle ∧
        middle.step program = .advanced later := by
  induction count generalizing machine with
  | zero =>
      cases outcome : machine.step program <;> simp [after, outcome]
  | succ count ih =>
      rw [after]
      cases outcome : machine.step program with
      | ended last => simp [after, outcome]
      | failed last fault => simp [after, outcome]
      | advanced next => rw [after_succ_of_advanced outcome, ih]

/-- A run passes through a state at every earlier number of steps. -/
theorem exists_after_of_le {machine later : Machine τ} {earlier count : Nat}
    (reached : machine.after program count = some later) (within : earlier ≤ count) :
    ∃ middle, machine.after program earlier = some middle ∧
      middle.after program (count - earlier) = some later := by
  induction within generalizing later with
  | refl => exact ⟨later, reached, by rw [Nat.sub_self, after_zero]⟩
  | @step count within ih =>
      obtain ⟨last, reachedLast, stepped⟩ := after_succ_eq_some_iff.mp reached
      obtain ⟨middle, reachedMiddle, onwards⟩ := ih reachedLast
      refine ⟨middle, reachedMiddle, ?_⟩
      rw [Nat.succ_sub within]
      exact after_succ_eq_some_iff.mpr ⟨last, onwards, stepped⟩

/-- After the first step of a run that stops, fewer steps remain. -/
theorem exists_run_of_advanced {machine next : Machine τ} {limit : Nat} {halt : Halt τ}
    (stopped : machine.run program limit = some halt)
    (stepped : machine.step program = .advanced next) :
    ∃ fewer, fewer < limit ∧ next.run program fewer = some halt := by
  cases limit with
  | zero => simp [run] at stopped
  | succ fewer =>
      rw [run, stepped] at stopped
      exact ⟨fewer, Nat.lt_succ_self fewer, stopped⟩

end Machine

/-- How a run stops with this step, if it does. -/
def Progress.halt? {τ : Type} : Progress τ → Option (Halt τ)
  | ended last => some ⟨last, none⟩
  | advanced _ => none
  | failed last fault => some ⟨last, some fault⟩

namespace Machine

variable {τ : Type} [TapeLike τ] {program : Program}

/-- A run stops within a number of steps when it reaches a state whose step stops it. -/
theorem run_eq_some_iff {machine : Machine τ} {limit : Nat} {halt : Halt τ} :
    machine.run program limit = some halt ↔
      ∃ count, count < limit ∧ ∃ last, machine.after program count = some last ∧
        (last.step program).halt? = some halt := by
  induction limit generalizing machine with
  | zero => simp [run]
  | succ limit ih =>
      constructor
      · intro stopped
        rw [run] at stopped
        cases outcome : machine.step program with
        | ended last =>
            exact ⟨0, by omega, machine, rfl, by simpa [outcome, Progress.halt?] using stopped⟩
        | failed last fault =>
            exact ⟨0, by omega, machine, rfl, by simpa [outcome, Progress.halt?] using stopped⟩
        | advanced next =>
            simp only [outcome] at stopped
            obtain ⟨count, within, last, reached, halted⟩ := ih.mp stopped
            refine ⟨count + 1, by omega, last, ?_, halted⟩
            rwa [after_succ_of_advanced outcome]
      · rintro ⟨count, within, last, reached, halted⟩
        rw [run]
        cases count with
        | zero =>
            obtain rfl := Option.some.inj reached
            cases outcome : machine.step program with
            | ended last => simpa [outcome, Progress.halt?] using halted
            | failed last fault => simpa [outcome, Progress.halt?] using halted
            | advanced next => simp [outcome, Progress.halt?] at halted
        | succ count =>
            cases outcome : machine.step program with
            | ended last => simp [after, outcome] at reached
            | failed last fault => simp [after, outcome] at reached
            | advanced next =>
                rw [after_succ_of_advanced outcome] at reached
                exact ih.mpr ⟨count, by omega, last, reached, halted⟩

/-- A run that has not stopped so far has not stopped before. -/
theorem run_eq_none_of_after {machine later : Machine τ} {limit count : Nat}
    (reached : machine.after program count = some later) (within : limit ≤ count) :
    machine.run program limit = none := by
  rw [Option.eq_none_iff_forall_ne_some]
  intro halt stopped
  obtain ⟨earlier, before, last, reachedLast, halted⟩ := run_eq_some_iff.mp stopped
  obtain ⟨next, reachedNext, _⟩ :=
    exists_after_of_le reached (Nat.le_trans (Nat.succ_le_of_lt before) within)
  obtain ⟨middle, reachedMiddle, stepped⟩ := after_succ_eq_some_iff.mp reachedNext
  rw [reachedLast] at reachedMiddle
  obtain rfl := Option.some.inj reachedMiddle
  simp [stepped, Progress.halt?] at halted

/-! ## Rings -/

theorem size_of_advanced {machine next : Machine Tape}
    (stepped : machine.step program = .advanced next) :
    next.workspace.tape.size = machine.workspace.tape.size := by
  cases step_eq_iff.mp stepped with
  | @acted action next here performed =>
      have size := Workspace.size_perform action machine.workspace
      rwa [performed] at size
  | entered | left | skipped | repeated => rfl

/-- No run changes the number of cells of a ring. -/
theorem size_of_after {machine later : Machine Tape} {count : Nat}
    (reached : machine.after program count = some later) :
    later.workspace.tape.size = machine.workspace.tape.size := by
  induction count generalizing later with
  | zero =>
      obtain rfl := Option.some.inj reached
      rfl
  | succ count ih =>
      obtain ⟨middle, reachedMiddle, stepped⟩ := after_succ_eq_some_iff.mp reached
      rw [size_of_advanced stepped, ih reachedMiddle]

end Machine

end RingTape
