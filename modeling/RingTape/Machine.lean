/-
# The machine

A machine is a position in a program together with a workspace. One step carries
out the instruction at the position; a run repeats steps until the position leaves
the program or a fault breaks the run off.
-/

import RingTape.Exchange
import RingTape.Program

namespace RingTape

/-- The state of a run. -/
structure Machine (τ : Type) where
  position : Nat
  workspace : Workspace τ

/-- What one step leads to. -/
inductive Progress (τ : Type)
  /-- The position is past the last instruction. -/
  | ended (last : Machine τ)
  | advanced (next : Machine τ)
  | failed (last : Machine τ) (fault : Fault)

/-- What is told of a step that leads there. -/
def Progress.told {τ : Type} : Progress τ → List Event
  | failed _ fault => (Event.ofFault fault).toList
  | _ => []

/-- How a run stopped: the last state, and the fault if there was one. -/
structure Halt (τ : Type) where
  machine : Machine τ
  fault : Option Fault

/-- What a run that stopped in this way has told. -/
def Halt.told {τ : Type} (halt : Halt τ) : List Event :=
  (halt.fault.bind Event.ofFault).toList

namespace Machine

variable {τ : Type} [TapeLike τ]

/-- The start of a run. -/
def start (workspace : Workspace τ) : Machine τ :=
  ⟨0, workspace⟩

/-- Go on behind the partner of a bracket, which is not tested again. -/
@[inline]
def jump (partner : Except Fault Nat) (position : Nat) (workspace : Workspace τ) : Progress τ :=
  match partner with
  | .ok target => .advanced ⟨target + 1, workspace⟩
  | .error fault => .failed ⟨position, workspace⟩ fault

/-- Carry out the instruction at the position, and tell what is to be told. A loop start
jumps when the cell under the head is zero, a loop end when it is not. -/
@[specialize]
def stepTelling (program : Program) : Machine τ → Progress τ × List Event
  | ⟨position, workspace⟩ =>
    match program[position]? with
    | none => (.ended ⟨position, workspace⟩, [])
    | some .loopStart =>
      if workspace.current = 0 then
        let search := program.searchForward position
        (jump search.result position workspace, search.told)
      else (.advanced ⟨position + 1, workspace⟩, [])
    | some .loopEnd =>
      if workspace.current = 0 then (.advanced ⟨position + 1, workspace⟩, [])
      else
        let search := program.searchBackward position
        (jump search.result position workspace, search.told)
    | some (.action action) =>
      match workspace.perform action with
      | (next, none) => (.advanced ⟨position + 1, next⟩, [])
      | (last, some fault) => (.failed ⟨position, last⟩ fault, [])

/-- Step until the run stops, `limit` steps at most, and collect what is told behind what
was told before; `none` when it has not stopped by then. -/
@[specialize]
def runTelling (program : Program) :
    (limit : Nat) → Machine τ → (told : List Event) → Option (Halt τ × List Event)
  | 0, _, _ => none
  | limit + 1, machine, told =>
    match machine.stepTelling program with
    | (.ended last, more) => some (⟨last, none⟩, told ++ more)
    | (.advanced next, more) => runTelling program limit next (told ++ more)
    | (.failed last fault, more) => some (⟨last, some fault⟩, told ++ more)

/-- What a step leads to, apart from what it tells. -/
def step (program : Program) (machine : Machine τ) : Progress τ :=
  (machine.stepTelling program).1

/-- Step until the run stops, `limit` steps at most; `none` when it has not
stopped by then. -/
@[specialize]
def run (program : Program) : (limit : Nat) → Machine τ → Option (Halt τ)
  | 0, _ => none
  | limit + 1, machine =>
    match machine.step program with
    | .ended last => some ⟨last, none⟩
    | .advanced next => run program limit next
    | .failed last fault => some ⟨last, some fault⟩

/-- The state after exactly `count` steps, if the run gets that far. -/
def after (program : Program) : (count : Nat) → Machine τ → Option (Machine τ)
  | 0, machine => some machine
  | count + 1, machine =>
    match machine.step program with
    | .advanced next => after program count next
    | _ => none

/-- The exchange that the next step makes, if it makes one. -/
def exchange (program : Program) (machine : Machine τ) : Option Exchange :=
  match program[machine.position]? with
  | some (.action action) => machine.workspace.exchange action
  | _ => none

/-- The exchanges of the first `count` steps, or of all when there are fewer. -/
def exchanges (program : Program) : (count : Nat) → Machine τ → List Exchange
  | 0, _ => []
  | count + 1, machine =>
    (machine.exchange program).toList ++
      match machine.step program with
      | .advanced next => exchanges program count next
      | _ => []

theorem step_eq (program : Program) (machine : Machine τ) :
    machine.step program =
      match program[machine.position]? with
      | none => .ended machine
      | some .loopStart =>
        if machine.workspace.current = 0 then
          jump (program.loopEnd machine.position) machine.position machine.workspace
        else .advanced ⟨machine.position + 1, machine.workspace⟩
      | some .loopEnd =>
        if machine.workspace.current = 0 then
          .advanced ⟨machine.position + 1, machine.workspace⟩
        else jump (program.loopStart machine.position) machine.position machine.workspace
      | some (.action action) =>
        match machine.workspace.perform action with
        | (next, none) => .advanced ⟨machine.position + 1, next⟩
        | (last, some fault) => .failed ⟨machine.position, last⟩ fault := by
  obtain ⟨position, workspace⟩ := machine
  simp only [step, stepTelling]
  cases program[position]? with
  | none => rfl
  | some instruction =>
      cases instruction with
      | loopStart => simp only [apply_ite Prod.fst]; rfl
      | loopEnd => simp only [apply_ite Prod.fst]; rfl
      | action action =>
          simp only
          split <;> rfl

omit [TapeLike τ] in
theorem told_jump (search : Program.Search) (position : Nat) (workspace : Workspace τ)
    (accounts : search.told =
      match search.result with
      | .ok _ => []
      | .error fault => (Event.ofFault fault).toList) :
    search.told = (jump search.result position workspace).told := by
  rw [accounts]
  cases search.result <;> rfl

/-- A step that fails because of a bracket tells so, and no other step tells anything. -/
theorem stepTelling_eq (program : Program) (machine : Machine τ) :
    machine.stepTelling program = (machine.step program, (machine.step program).told) := by
  have told : (machine.stepTelling program).2 = (machine.step program).told := by
    obtain ⟨position, workspace⟩ := machine
    simp only [step, stepTelling]
    cases program[position]? with
    | none => rfl
    | some instruction =>
        cases instruction with
        | loopStart =>
            simp only
            split
            · exact told_jump _ _ _ Program.Search.told_ofFound
            · rfl
        | loopEnd =>
            simp only
            split
            · rfl
            · exact told_jump _ _ _ Program.Search.told_ofFound
        | action action =>
            simp only
            split
            · rfl
            · rename_i performed
              simp [Progress.told, Workspace.ofFault_of_perform performed]
  exact Prod.ext rfl told

/-- What is told along a run is told of its fault. -/
theorem runTelling_eq (program : Program) (limit : Nat) (machine : Machine τ)
    (told : List Event) :
    machine.runTelling program limit told =
      (machine.run program limit).map fun halt => (halt, told ++ halt.told) := by
  induction limit generalizing machine told with
  | zero => rfl
  | succ limit ih =>
      rw [runTelling, run, stepTelling_eq]
      cases machine.step program with
      | ended last => rfl
      | failed last fault => rfl
      | advanced next =>
          simp only [Progress.told, List.append_nil]
          exact ih next told

/-- A larger limit does not change how a run stops. -/
theorem run_succ_of_run {program : Program} {halt : Halt τ} :
    ∀ {limit : Nat} {machine : Machine τ},
      machine.run program limit = some halt → machine.run program (limit + 1) = some halt
  | 0, _, stopped => by simp [run] at stopped
  | limit + 1, machine, stopped => by
    rw [run] at stopped ⊢
    cases outcome : machine.step program with
    | ended last => simpa [outcome] using stopped
    | failed last fault => simpa [outcome] using stopped
    | advanced next =>
        simp only [outcome] at stopped ⊢
        exact run_succ_of_run stopped

/-- A run that stops within `limit` steps stops in the same way within any
number of steps that is at least as large. -/
theorem run_of_le {program : Program} {machine : Machine τ} {halt : Halt τ}
    {limit larger : Nat} (within : limit ≤ larger)
    (stopped : machine.run program limit = some halt) :
    machine.run program larger = some halt := by
  induction within with
  | refl => exact stopped
  | step _ ih => exact run_succ_of_run ih

/-- Steps can be counted in two parts. -/
theorem after_add {program : Program} {middle : Machine τ} :
    ∀ {count : Nat} {machine : Machine τ} (more : Nat),
      machine.after program count = some middle →
        machine.after program (count + more) = middle.after program more
  | 0, machine, more, reached => by
    simp only [after, Option.some.injEq] at reached
    simp [reached]
  | count + 1, machine, more, reached => by
    rw [after] at reached
    rw [Nat.add_right_comm, after]
    cases outcome : machine.step program with
    | ended last => simp [outcome] at reached
    | failed last fault => simp [outcome] at reached
    | advanced next =>
        simp only [outcome] at reached ⊢
        exact after_add more reached

/-- A run can be cut in two after any number of its steps. -/
theorem run_add {program : Program} {later : Machine τ} :
    ∀ {count : Nat} {machine : Machine τ} (limit : Nat),
      machine.after program count = some later →
        machine.run program (count + limit) = later.run program limit
  | 0, machine, limit, reached => by
    simp only [after, Option.some.injEq] at reached
    simp [reached]
  | count + 1, machine, limit, reached => by
    rw [after] at reached
    rw [Nat.add_right_comm, run]
    cases outcome : machine.step program with
    | ended last => simp [outcome] at reached
    | failed last fault => simp [outcome] at reached
    | advanced next =>
        simp only [outcome] at reached ⊢
        exact run_add limit reached

end Machine

end RingTape
