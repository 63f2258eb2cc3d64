/-
# Bracketings

Which brackets of a program belong together can be said in two ways that do not
mention scans. A stretch of a program is balanced when no part of it from its
beginning has more loop ends than loop starts, and both are equally many in the
whole; two brackets belong together when the stretch between them is balanced. And one
pass from left to right that remembers the open loop starts pairs every loop end with
the innermost of them; what finds no partner is unmatched.
-/

import RingTape.Program

namespace RingTape

/-- Every loop that begins in a stretch of instructions ends in it, and the other
way round. -/
def Balanced (stretch : List Instruction) : Prop :=
  (∀ length, (stretch.take length).count .loopEnd ≤ (stretch.take length).count .loopStart) ∧
    stretch.count .loopEnd = stretch.count .loopStart

/-- What a pass remembers: the loop starts that are open, innermost first, the pairs
it has found, and the loop ends for which none was open. -/
structure Pass where
  pending : List Nat
  pairs : List (Nat × Nat)
  strays : List Nat

namespace Pass

/-- Nothing seen yet. -/
def initial : Pass := ⟨[], [], []⟩

/-- See one instruction: push at a loop start, pop at a loop end. -/
def visit (pass : Pass) (position : Nat) : Instruction → Pass
  | .action _ => pass
  | .loopStart => { pass with pending := position :: pass.pending }
  | .loopEnd =>
    match pass.pending with
    | [] => { pass with strays := position :: pass.strays }
    | start :: pending => ⟨pending, (start, position) :: pass.pairs, pass.strays⟩

/-- See the instructions of a stretch that begins at `position`. -/
def visitAll (pass : Pass) : (position : Nat) → List Instruction → Pass
  | _, [] => pass
  | position, instruction :: stretch =>
    visitAll (pass.visit position instruction) (position + 1) stretch

@[simp]
theorem visitAll_nil (pass : Pass) (position : Nat) : pass.visitAll position [] = pass := rfl

@[simp]
theorem visitAll_cons (pass : Pass) (position : Nat) (instruction : Instruction)
    (stretch : List Instruction) :
    pass.visitAll position (instruction :: stretch) =
      (pass.visit position instruction).visitAll (position + 1) stretch := rfl

/-- Passing over two stretches is passing over one and then over the other. -/
theorem visitAll_append (pass : Pass) (position : Nat) (first second : List Instruction) :
    pass.visitAll position (first ++ second) =
      (pass.visitAll position first).visitAll (position + first.length) second := by
  induction first generalizing pass position with
  | nil => rfl
  | cons instruction rest ih =>
      simp [ih, Nat.add_assoc, Nat.add_comm 1]

end Pass

namespace Program

/-- The instructions from position `first` on, up to and without position `last`. -/
def between (program : Program) (first last : Nat) : List Instruction :=
  (program.toList.take last).drop first

/-- A loop start and a loop end with a balanced stretch between them. -/
def Matched (program : Program) (start finish : Nat) : Prop :=
  start < finish ∧ program[start]? = some .loopStart ∧ program[finish]? = some .loopEnd ∧
    Balanced (program.between (start + 1) finish)

/-- One pass over the whole program. -/
def pass (program : Program) : Pass :=
  Pass.initial.visitAll 0 program.toList

/-- The loop start and the loop end at these positions belong together. -/
def Paired (program : Program) (start finish : Nat) : Prop :=
  (start, finish) ∈ program.pass.pairs

/-- The bracket at this position has no partner. -/
def Unmatched (program : Program) (position : Nat) : Prop :=
  position ∈ program.pass.pending ∨ position ∈ program.pass.strays

instance (program : Program) (start finish : Nat) : Decidable (program.Paired start finish) :=
  inferInstanceAs (Decidable (_ ∈ _))

instance (program : Program) (position : Nat) : Decidable (program.Unmatched position) :=
  inferInstanceAs (Decidable (_ ∨ _))

/-- The program with a comment in place of every unmatched bracket. -/
def muted (program : Program) : Program :=
  program.mapIdx fun position instruction =>
    if program.Unmatched position then .action .comment else instruction

@[simp]
theorem size_muted (program : Program) : program.muted.size = program.size := by
  simp [muted]

end Program

end RingTape
