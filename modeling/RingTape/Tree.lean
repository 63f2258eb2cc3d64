/-
# Structured programs

A program whose brackets are balanced is the text of a tree, in which a loop has a
body. On trees a loop means what it says: while the cell under the head is not zero,
carry out the body. No position and no jump occurs in that.
-/

import RingTape.Exchange

namespace RingTape

/-- An action, or a loop around a body. -/
inductive Tree
  | leaf (action : Action)
  | loop (body : List Tree)

namespace Tree

mutual

/-- The instructions that write a tree. -/
def instructions : Tree → List Instruction
  | leaf action => [.action action]
  | loop body => .loopStart :: (allInstructions body ++ [.loopEnd])

/-- The instructions that write several trees, one after the other. -/
def allInstructions : List Tree → List Instruction
  | [] => []
  | tree :: trees => instructions tree ++ allInstructions trees

end

variable {τ : Type} [TapeLike τ]

/-- Carry out trees in order. The answer is the workspace at the end and the fault if
one broke the execution off; `none` when `fuel` did not suffice. -/
def execute : (fuel : Nat) → List Tree → Workspace τ → Option (Workspace τ × Option Fault)
  | 0, _, _ => none
  | _ + 1, [], workspace => some (workspace, none)
  | fuel + 1, leaf action :: trees, workspace =>
    match workspace.perform action with
    | (next, none) => execute fuel trees next
    | (last, some fault) => some (last, some fault)
  | fuel + 1, loop body :: trees, workspace =>
    if workspace.current = 0 then execute fuel trees workspace
    else
      match execute fuel body workspace with
      | some (next, none) => execute fuel (loop body :: trees) next
      | stopped => stopped

/-- The exchanges that carrying out trees with this fuel makes. -/
def exchanges : (fuel : Nat) → List Tree → Workspace τ → List Exchange
  | 0, _, _ => []
  | _ + 1, [], _ => []
  | fuel + 1, leaf action :: trees, workspace =>
    (workspace.exchange action).toList ++
      match workspace.perform action with
      | (next, none) => exchanges fuel trees next
      | _ => []
  | fuel + 1, loop body :: trees, workspace =>
    if workspace.current = 0 then exchanges fuel trees workspace
    else
      exchanges fuel body workspace ++
        match execute fuel body workspace with
        | some (next, none) => exchanges fuel (loop body :: trees) next
        | _ => []

/-- More fuel does not change how an execution stops. -/
theorem execute_succ_of_execute {fuel : Nat} {trees : List Tree} {workspace : Workspace τ}
    {answer : Workspace τ × Option Fault} (stopped : execute fuel trees workspace = some answer) :
    execute (fuel + 1) trees workspace = some answer := by
  induction fuel generalizing trees workspace answer with
  | zero => simp [execute] at stopped
  | succ fuel ih =>
      cases trees with
      | nil => simpa [execute] using stopped
      | cons tree trees =>
          cases tree with
          | leaf action =>
              rw [execute] at stopped ⊢
              split at stopped
              · exact ih stopped
              · exact stopped
          | loop body =>
              rw [execute] at stopped ⊢
              split at stopped
              · rename_i zero
                rw [if_pos zero]
                exact ih stopped
              · rename_i nonzero
                rw [if_neg nonzero]
                cases bodyRun : execute fuel body workspace with
                | none => simp [bodyRun] at stopped
                | some middle =>
                    obtain ⟨next, fault⟩ := middle
                    rw [ih bodyRun]
                    cases fault with
                    | none =>
                        simp only [bodyRun] at stopped ⊢
                        exact ih stopped
                    | some fault => simpa [bodyRun] using stopped

/-- An execution that stops with some fuel stops in the same way with more. -/
theorem execute_of_le {fuel larger : Nat} {trees : List Tree} {workspace : Workspace τ}
    {answer : Workspace τ × Option Fault} (within : fuel ≤ larger)
    (stopped : execute fuel trees workspace = some answer) :
    execute larger trees workspace = some answer := by
  induction within with
  | refl => exact stopped
  | step _ ih => exact execute_succ_of_execute ih

end Tree

end RingTape
