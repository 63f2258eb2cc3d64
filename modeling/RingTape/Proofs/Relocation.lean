/-
# Runs at other places

A program may be found in another one at other places: its instructions, or those of some kinds,
stand there one behind the other, and the partner of a bracket stands at the place of its
partner. Then the other program does there what the program does, and who sees only the streams
cannot tell them apart. All that changes are positions, those of complaints included.
-/

import RingTape.Interpreter
import RingTape.Proofs.Exchanges
import RingTape.Proofs.UnmatchedBrackets

namespace RingTape

variable {τ : Type} {place : Nat → Nat}

/-! ## Other places -/

/-- The same fault with the bracket that it complains about at another place. -/
def Fault.relocate (place : Nat → Nat) : Fault → Fault
  | unmatched bracket position => unmatched bracket (place position.toNat)
  | other => other

/-- The same machine at another place. -/
def Machine.relocate (place : Nat → Nat) (machine : Machine τ) : Machine τ :=
  ⟨place machine.position, machine.workspace⟩

/-- The same step at another place. -/
def Progress.relocate (place : Nat → Nat) : Progress τ → Progress τ
  | ended last => ended (last.relocate place)
  | advanced next => advanced (next.relocate place)
  | failed last fault => failed (last.relocate place) (fault.relocate place)

/-- The same end of a run at another place. -/
def Halt.relocate (place : Nat → Nat) (halt : Halt τ) : Halt τ :=
  ⟨halt.machine.relocate place, halt.fault.map (Fault.relocate place)⟩

/-- A fault that is not about a bracket has no place. -/
theorem Fault.relocate_of_ne_unmatched {fault : Fault} (place : Nat → Nat)
    (other : ∀ bracket position, fault ≠ .unmatched bracket position) :
    fault.relocate place = fault := by
  cases fault with
  | unmatched bracket position => exact absurd rfl (other bracket position)
  | stream message => rfl
  | manyCharacters length => rfl

theorem Fault.relocate_unmatched (place : Nat → Nat) (bracket : Bracket) (position : Nat) :
    (unmatched bracket position).relocate place = unmatched bracket (place position) := rfl

/-! ## Reports -/

/-- The same event with what it tells of positions and of the length of a program changed. -/
def Event.relocate (place : Nat → Nat) : Event → Event
  | running instructions memory => running (place instructions) memory
  | unmatched bracket position => unmatched bracket (place position.toNat)
  | other => other

/-- The same failure with the bracket that it complains about at another place. -/
def Failure.relocate (place : Nat → Nat) : Failure → Failure
  | brokenOff fault => brokenOff (fault.relocate place)
  | other => other

/-- The same report on a program at other places. -/
def Report.relocate (place : Nat → Nat) (report : Report) : Report :=
  { report with
    events := report.events.map (Event.relocate place)
    failure := report.failure.map (Failure.relocate place) }

/-- A failure that is not a complaint about a bracket has no place. -/
theorem Failure.relocate_of_ne_unmatched {failure : Failure} (place : Nat → Nat)
    (other : ∀ bracket position, failure ≠ .brokenOff (.unmatched bracket position)) :
    failure.relocate place = failure := by
  cases failure with
  | brokenOff fault =>
      refine congrArg brokenOff (fault.relocate_of_ne_unmatched place ?_)
      rintro bracket position rfl
      exact other bracket position rfl
  | _ => rfl

theorem Failure.relocate_eq_unmatched_iff {failure : Failure} {place : Nat → Nat}
    {bracket : Bracket} {position : Int} :
    failure.relocate place = .brokenOff (.unmatched bracket position) ↔
      ∃ original, failure = .brokenOff (.unmatched bracket original) ∧
        place original.toNat = position := by
  constructor
  · intro relocated
    cases failure with
    | brokenOff fault =>
        cases fault with
        | unmatched kind original =>
            simp only [relocate, Fault.relocate, brokenOff.injEq, Fault.unmatched.injEq]
              at relocated
            obtain ⟨rfl, same⟩ := relocated
            exact ⟨original, rfl, same⟩
        | stream error => simp [relocate, Fault.relocate] at relocated
        | manyCharacters length => simp [relocate, Fault.relocate] at relocated
    | _ => simp [relocate] at relocated
  · rintro ⟨original, rfl, rfl⟩
    rfl

/-- The report on a run at another place is the report on the run, at another place. -/
theorem Interpreter.conclude_relocate (place : Nat → Nat) (instructions memory : Nat)
    (halt : Halt τ) :
    conclude (.running (place instructions) memory) (halt.relocate place) =
      (conclude (.running instructions memory) halt).relocate place := by
  obtain ⟨⟨position, tape, source, sink⟩, fault⟩ := halt
  cases fault with
  | some fault => cases fault <;> rfl
  | none =>
      simp only [Halt.relocate, Machine.relocate, Option.map_none, conclude_of_ended, finish]
      cases flushed : sink.flush with
      | mk failed sink =>
          cases failed with
          | none => rfl
          | some fault =>
              -- A flush fails as a stream does, and not with a complaint.
              obtain ⟨error, _, rfl⟩ := Sink.flush_eq_some (congrArg Prod.fst flushed)
              rfl

/-! ## A program found in another -/

/-- The instructions of these kinds, brackets among them, are found in `other` at their places:
control passes on from each to the next place, and the partner of a bracket is at the place of
its partner. -/
structure Program.Found (place : Nat → Nat) (kept : Instruction → Prop)
    (program other : Program) : Prop where
  brackets : kept .loopStart ∧ kept .loopEnd
  outside : ∀ {position}, program[position]? = none → other[place position]? = none
  here : ∀ {position instruction}, program[position]? = some instruction → kept instruction →
    other[place position]? = some instruction
  next : ∀ {position instruction}, program[position]? = some instruction → kept instruction →
    place (position + 1) = place position + 1
  finish : ∀ {position}, program[position]? = some .loopStart → ∀ finish,
    other.Matched (place position) finish ↔
      ∃ original, program.Matched position original ∧ place original = finish
  start : ∀ {position}, program[position]? = some .loopEnd → ∀ start,
    other.Matched start (place position) ↔
      ∃ original, program.Matched original position ∧ place original = start

/-- Control passes on behind the place of an instruction. -/
theorem Program.Found.advanced {kept : Instruction → Prop} {program other : Program}
    (found : program.Found place kept other) {position : Nat} {instruction : Instruction}
    (here : program[position]? = some instruction) (isKept : kept instruction)
    (workspace : Workspace τ) :
    (Progress.advanced ⟨position + 1, workspace⟩).relocate place =
      .advanced ⟨place position + 1, workspace⟩ := by
  rw [Progress.relocate, Machine.relocate, found.next here isKept]

namespace Machine

variable [TapeLike τ] {kept : Instruction → Prop} {program other : Program}

/-- A step is made at the place of an instruction of these kinds, or of the end, as it is made by
the program itself. -/
theorem step_relocate (found : program.Found place kept other) {machine : Machine τ}
    (atKept : ∀ instruction, program[machine.position]? = some instruction → kept instruction) :
    (machine.relocate place).step other = (machine.step program).relocate place := by
  rw [step_eq_iff]
  have listed := step_spec program machine
  generalize machine.step program = progress at listed ⊢
  have there {instruction : Instruction}
      (here : program[machine.position]? = some instruction) :
      other[place machine.position]? = some instruction :=
    found.here here (atKept instruction here)
  cases listed with
  | ended nothing => exact .ended (found.outside nothing)
  | acted here performed =>
      rw [found.advanced here (atKept _ here)]
      exact .acted (there here) performed
  | broken here performed =>
      rw [Progress.relocate, Fault.relocate_of_ne_unmatched place
        (Workspace.perform_ne_unmatched performed)]
      exact .broken (there here) performed
  | entered here nonzero =>
      rw [found.advanced here (atKept _ here)]
      exact .entered (there here) nonzero
  | left here zero =>
      rw [found.advanced here (atKept _ here)]
      exact .left (there here) zero
  | skipped zero matched =>
      rw [found.advanced matched.closing found.brackets.2]
      exact .skipped zero ((found.finish matched.opening _).mpr ⟨_, matched, rfl⟩)
  | repeated nonzero matched =>
      rw [found.advanced matched.opening found.brackets.1]
      exact .repeated nonzero ((found.start matched.closing _).mpr ⟨_, matched, rfl⟩)
  | unclosed here zero alone =>
      rw [Progress.relocate, Fault.relocate_unmatched]
      refine .unclosed (there here) zero fun finish matched => ?_
      obtain ⟨original, inside, _⟩ := (found.finish here finish).mp matched
      exact alone original inside
  | unopened here nonzero alone =>
      rw [Progress.relocate, Fault.relocate_unmatched]
      refine .unopened (there here) nonzero fun start matched => ?_
      obtain ⟨original, inside, _⟩ := (found.start here start).mp matched
      exact alone original inside

theorem exchange_relocate (found : program.Found place kept other) {machine : Machine τ}
    (atKept : ∀ instruction, program[machine.position]? = some instruction → kept instruction) :
    (machine.relocate place).exchange other = machine.exchange program := by
  obtain ⟨position, workspace⟩ := machine
  cases here : program[position]? with
  | none =>
      have there := found.outside here
      simp only [exchange, relocate, here, there]
  | some instruction =>
      have there := found.here here (atKept instruction here)
      simp only [exchange, relocate, here, there]

/-! ## Step by step -/

section Everything

variable (found : program.Found place (fun _ => True) other)

include found

/-- Where all instructions are found, the other run goes along step by step. -/
theorem after_relocate (count : Nat) (machine : Machine τ) :
    (machine.relocate place).after other count =
      (machine.after program count).map (relocate place) := by
  induction count generalizing machine with
  | zero => rfl
  | succ count ih =>
      rw [after, after, step_relocate found fun _ _ => trivial]
      cases machine.step program with
      | advanced next => exact ih next
      | ended last => rfl
      | failed last fault => rfl

theorem run_relocate (limit : Nat) (machine : Machine τ) :
    (machine.relocate place).run other limit =
      (machine.run program limit).map (Halt.relocate place) := by
  induction limit generalizing machine with
  | zero => rfl
  | succ limit ih =>
      rw [run, run, step_relocate found fun _ _ => trivial]
      cases machine.step program with
      | advanced next => exact ih next
      | ended last => rfl
      | failed last fault => rfl

theorem exchanges_relocate (count : Nat) (machine : Machine τ) :
    (machine.relocate place).exchanges other count = machine.exchanges program count := by
  induction count generalizing machine with
  | zero => rfl
  | succ count ih =>
      rw [exchanges, exchanges, step_relocate found fun _ _ => trivial,
        exchange_relocate found fun _ _ => trivial]
      cases machine.step program with
      | advanced next => exact congrArg (_ ++ ·) (ih next)
      | ended last => rfl
      | failed last fault => rfl

end Everything

end Machine

end RingTape
