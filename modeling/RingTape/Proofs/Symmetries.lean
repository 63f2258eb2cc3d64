/-
# Symmetries of runs

No cell of a ring is distinguished for a machine, and neither is a direction. On a ring that
is turned a run is the same, but for the turn; on a ring that is seen from the other side the
program with right and left exchanged makes the same run, but for the side. A blank ring looks
the same after both, so moves in front of a program make no difference but to the positions,
and neither does the exchange of right and left.
-/

import RingTape.Proofs.EndlessTape
import RingTape.Proofs.Sequence
import RingTape.Tape.Symmetry

namespace RingTape

/-! ## Turning and looking from the other side -/

/-- The second ring is the first one turned right. -/
def Tape.IsTurned (distance : Nat) (tape turned : Tape) : Prop :=
  turned = tape.rotate distance

/-- The second ring is the first one seen from the other side. -/
def Tape.IsReflected (tape reflected : Tape) : Prop :=
  reflected = tape.reflect

/-- What is done on a ring is done on the turned ring, turned. -/
theorem Tape.tapeSimulation_isTurned (distance : Nat) :
    TapeSimulation (fun _ => True) (IsTurned distance) where
  current := by
    rintro tape _ rfl _
    exact (tape.current_rotate distance).symm
  put := by
    rintro value tape _ rfl _
    exact (put_rotate value distance tape).symm
  moveRight := by
    rintro tape _ rfl _
    exact (tape.moveRight_rotate distance).symm
  moveLeft := by
    rintro tape _ rfl _
    exact (tape.moveLeft_rotate distance).symm

/-- The reflected action does on a reflected ring what the action does on the ring. -/
theorem Workspace.perform_reflected (action : Action) {first second : Workspace Tape}
    (inRelation : first.Alike Tape.IsReflected second) :
    (first.perform action).1.Alike Tape.IsReflected (second.perform action.reflected).1 ∧
      (first.perform action).2 = (second.perform action.reflected).2 := by
  obtain ⟨tape, source, sink⟩ := first
  obtain ⟨_, _, _⟩ := second
  obtain ⟨rfl, rfl, rfl⟩ := inRelation
  have alike : Alike Tape.IsReflected ⟨tape, source, sink⟩ ⟨tape.reflect, source, sink⟩ :=
    ⟨rfl, rfl, rfl⟩
  cases action with
  | right => exact ⟨⟨tape.moveRight_reflect.symm, rfl, rfl⟩, rfl⟩
  | left => exact ⟨⟨tape.moveLeft_reflect.symm, rfl, rfl⟩, rfl⟩
  | _ =>
      exact alike.perform tape.current_reflect.symm
        (fun value => (Tape.put_reflect value tape).symm) (by simp)

namespace Machine

/-- A program and the reflected one run in lockstep on a ring and the reflected one. -/
theorem lockstep_reflected (program : Program) :
    Lockstep program program.reflected (fun _ => True) (Alike Tape.IsReflected) := by
  have zero {first second : Workspace Tape}
      (inRelation : first.Alike Tape.IsReflected second) :
      first.current = 0 ↔ second.current = 0 := by
    have seen : second.current = first.current := by
      rw [Workspace.current, inRelation.tape]
      exact first.tape.current_reflect
    rw [seen]
  have lockstep : Lockstep program program.reflected (fun _ => True)
      (Together (Workspace.Alike Tape.IsReflected)) :=
    .of_mapAction Action.reflected (fun inRelation _ => zero inRelation)
      fun {_ _ _ action} inRelation _ _ => Workspace.perform_reflected action inRelation
  intro first second inRelation guarded
  have stepped := lockstep first second ⟨inRelation.position, inRelation.workspace⟩ guarded
  exact stepped.imp fun _ _ together => ⟨together.position, together.workspace⟩

theorem exchange_reflected {program : Program} {first second : Machine Tape}
    (inRelation : first.Alike Tape.IsReflected second) :
    first.exchange program = second.exchange program.reflected := by
  obtain ⟨position, tape, source, sink⟩ := first
  obtain ⟨_, _, _, _⟩ := second
  obtain ⟨rfl, rfl, rfl, rfl⟩ := inRelation
  have current : TapeLike.current tape.reflect = TapeLike.current tape := tape.current_reflect
  simp only [exchange, Program.reflected, Array.getElem?_map]
  rcases program[position]? with _ | (action | _ | _)
  · rfl
  · cases action <;>
      simp only [Option.map_some, Instruction.mapAction, Action.reflected, Workspace.exchange,
        Workspace.symbol, Workspace.current, current]
  · rfl
  · rfl

/-- One run goes alongside another: after any number of steps both are at the same position
with the same streams and related tapes, they have made the same exchanges, and they stop
together and in the same way. -/
structure Alongside {σ τ : Type} [TapeLike σ] [TapeLike τ] (alike : σ → τ → Prop)
    (program : Program) (first : Machine σ) (other : Program) (second : Machine τ) : Prop where
  after : ∀ count,
    Option.Rel (Alike alike) (first.after program count) (second.after other count)
  exchanges : ∀ count, first.exchanges program count = second.exchanges other count
  run : ∀ limit,
    Option.Rel (Halt.Related (Alike alike)) (first.run program limit) (second.run other limit)

/-- Machines in lockstep without a guard, which make the same exchanges, go alongside. -/
theorem Alongside.of_lockstep {σ τ : Type} [TapeLike σ] [TapeLike τ] {alike : σ → τ → Prop}
    {program other : Program} {first : Machine σ} {second : Machine τ}
    (lockstep : Lockstep program other (fun _ => True) (Alike alike))
    (exchange : ∀ machine counterpart, Alike alike machine counterpart → True →
      machine.exchange program = counterpart.exchange other)
    (inRelation : first.Alike alike second) : Alongside alike program first other second where
  after _ := lockstep.after inRelation fun _ _ _ _ => trivial
  exchanges _ := lockstep.exchanges exchange inRelation fun _ _ _ _ => trivial
  run _ := lockstep.run inRelation fun _ _ _ _ => trivial

variable (program : Program) (position : Nat) (tape : Tape) (source : Source) (sink : Sink)

/-- On a turned ring the run is the same. -/
theorem alongside_rotate (distance : Nat) :
    Alongside (Tape.IsTurned distance)
      program ⟨position, tape, source, sink⟩
      program ⟨position, tape.rotate distance, source, sink⟩ := by
  have simulation := Tape.tapeSimulation_isTurned distance
  apply Alongside.of_lockstep (simulation.lockstep program)
  · intro machine counterpart inRelation guarded
    exact simulation.exchange_eq inRelation guarded
  · exact ⟨rfl, rfl, rfl, rfl⟩

/-- From the other side the run of the exchanged program is the same. -/
theorem alongside_reflect :
    Alongside Tape.IsReflected
      program ⟨position, tape, source, sink⟩
      program.reflected ⟨position, tape.reflect, source, sink⟩ := by
  apply Alongside.of_lockstep (lockstep_reflected program)
  · intro machine counterpart inRelation _
    exact exchange_reflected inRelation
  · exact ⟨rfl, rfl, rfl, rfl⟩

/-- A blank ring looks the same from the other side. -/
theorem alongside_circular {size : Nat} (positive : 0 < size) (source : Source) (sink : Sink) :
    Alongside Tape.IsReflected program (circular size positive source sink)
      program.reflected (circular size positive source sink) := by
  have alongside := alongside_reflect program 0 (Tape.blank size positive) source sink
  rwa [Tape.reflect_blank] at alongside

end Machine

/-! ## Moves in front of a program -/

/-- The program consists of moves. -/
def Program.OnlyMoves (moves : Program) : Prop :=
  ∀ move ∈ moves, move = .action .right ∨ move = .action .left

instance (moves : Program) : Decidable moves.OnlyMoves :=
  inferInstanceAs (Decidable (∀ move ∈ moves, move = .action .right ∨ move = .action .left))

namespace Program.OnlyMoves

open Machine (circular start)

variable {moves : Program} (onlyMoves : moves.OnlyMoves)

include onlyMoves

theorem closed : moves.Closed := by
  refine List.eq_nil_iff_forall_not_mem.mpr fun position pending => ?_
  have opening := (mem_pending_pass_iff.mp pending).1
  have listed := Array.mem_of_getElem? opening
  rcases onlyMoves _ listed with same | same <;> cases same

/-- Moves lead on to what is behind them and leave the cells as they are, without an exchange. -/
theorem after (program : Program) (tape : Tape) (source : Source) (sink : Sink) {count : Nat}
    (within : count ≤ moves.size) :
    ∃ later : Tape, later.cells = tape.cells ∧
      (start ⟨tape, source, sink⟩).after (moves ++ program) count =
        some ⟨count, later, source, sink⟩ ∧
      (start ⟨tape, source, sink⟩).exchanges (moves ++ program) count = [] := by
  induction count with
  | zero => exact ⟨tape, rfl, rfl, rfl⟩
  | succ count ih =>
      obtain ⟨middle, cells, reached, silent⟩ := ih (Nat.le_of_succ_le within)
      have here : (moves ++ program)[count]? = some moves[count] := by
        rw [Array.getElem?_append_left within, Array.getElem?_eq_getElem within]
      have quiet : Machine.exchange (moves ++ program) ⟨count, middle, source, sink⟩ = none := by
        rcases onlyMoves _ (Array.getElem_mem within) with move | move <;>
          simp [Machine.exchange, here, move, Workspace.exchange]
      have stillSilent : (start ⟨tape, source, sink⟩).exchanges (moves ++ program) (count + 1) =
          [] := by
        rw [Machine.exchanges_succ, silent, reached, Option.bind_some, quiet]
        rfl
      rcases onlyMoves _ (Array.getElem_mem within) with move | move
      · rw [move] at here
        refine ⟨middle.moveRight, middle.cells_moveRight.trans cells, ?_, stillSilent⟩
        exact Machine.after_succ_eq_some_iff.mpr
          ⟨_, reached, Machine.step_eq_iff.mpr (.acted here rfl)⟩
      · rw [move] at here
        refine ⟨middle.moveLeft, middle.cells_moveLeft.trans cells, ?_, stillSilent⟩
        exact Machine.after_succ_eq_some_iff.mpr
          ⟨_, reached, Machine.step_eq_iff.mpr (.acted here rfl)⟩

section Blank

variable (program : Program) {size : Nat} (positive : 0 < size) (source : Source) (sink : Sink)

/-- Moves turn a blank ring, and control comes to the beginning of the program. -/
theorem after_circular :
    ∃ distance turned,
      (circular size positive source sink).after (moves ++ program) moves.size =
        some (Machine.relocate (moves.size + ·) turned) ∧
      (circular size positive source sink).exchanges (moves ++ program) moves.size = [] ∧
      Machine.Alongside (Tape.IsTurned distance)
        program (circular size positive source sink) program turned := by
  obtain ⟨later, cells, reached, silent⟩ :=
    onlyMoves.after program (Tape.blank size positive) source sink (Nat.le_refl moves.size)
  have alongside :=
    Machine.alongside_rotate program 0 (Tape.blank size positive) source sink later.head
  rw [← Tape.eq_rotate_blank cells] at alongside
  exact ⟨later.head, start ⟨later, source, sink⟩, reached, silent, alongside⟩

/-- From a blank ring the program behind the moves makes its exchanges. -/
theorem exchanges_circular (count : Nat) :
    (circular size positive source sink).exchanges (moves ++ program) (moves.size + count) =
      (circular size positive source sink).exchanges program count := by
  obtain ⟨_, _, reached, silent, alongside⟩ :=
    onlyMoves.after_circular program positive source sink
  rw [Machine.exchanges_add reached, silent, List.nil_append,
    Machine.exchanges_relocate (onlyMoves.closed.found program), alongside.exchanges]

/-- From a blank ring the program behind the moves has its report, at other positions. -/
theorem report_circular (limit : Nat) :
    ((circular size positive source sink).run (moves ++ program) (moves.size + limit)).map
        (Interpreter.conclude (.running (moves ++ program).size size)) =
      (((circular size positive source sink).run program limit).map
        (Interpreter.conclude (.running program.size size))).map
          (Report.relocate (moves.size + ·)) := by
  obtain ⟨_, _, reached, _, alongside⟩ :=
    onlyMoves.after_circular program positive source sink
  have reported := Interpreter.map_conclude_eq_of_related (alongside.run limit)
    (.running program.size size)
  have relocated := funext fun halt : Halt Tape =>
    Interpreter.conclude_relocate (moves.size + ·) program.size size halt
  rw [Machine.run_add limit reached, Machine.run_relocate (onlyMoves.closed.found program),
    Array.size_append, Option.map_map, Function.comp_def, relocated, reported, Option.map_map]
  rfl

end Blank

end Program.OnlyMoves

namespace Interpreter

open Machine (Alongside circular)

variable {code otherCode : Code} {program moves : Program}

/-- Moves in front of a program change nothing but positions. -/
theorem interpret_behind_moves (onlyMoves : moves.OnlyMoves)
    (given : code.program = .ok program) (otherGiven : otherCode.program = .ok (moves ++ program))
    (limit : Nat) (size : Value) (source : Source) (sink : Sink) :
    interpret (moves.size + limit) otherCode size source sink =
      (interpret limit code size source sink).map (Report.relocate (moves.size + ·)) := by
  rcases prepare_alike given otherGiven size with
    ⟨cells, tape, prepared, otherPrepared⟩ | ⟨failure, refused, otherRefused, sound⟩
  · obtain ⟨_, _, rfl⟩ := prepare_eq_ok prepared
    rw [interpret_of_prepare prepared, interpret_of_prepare otherPrepared]
    exact onlyMoves.report_circular program cells.property source sink limit
  · rw [interpret_of_refuse refused, interpret_of_refuse otherRefused]
    have unplaced := failure.relocate_of_ne_unmatched (moves.size + ·)
      fun bracket position => sound (.unmatched bracket position)
    simp [Report.relocate, unplaced]

/-- A program and the reflected one have the same report. -/
theorem interpret_reflected (given : code.program = .ok program)
    (otherGiven : otherCode.program = .ok program.reflected) (limit : Nat) (size : Value)
    (source : Source) (sink : Sink) :
    interpret limit otherCode size source sink = interpret limit code size source sink := by
  rcases prepare_alike given otherGiven size with
    ⟨cells, tape, prepared, otherPrepared⟩ | ⟨failure, refused, otherRefused, _⟩
  · obtain ⟨_, _, rfl⟩ := prepare_eq_ok prepared
    have alongside := Machine.alongside_circular program cells.property source sink
    rw [interpret_of_prepare prepared, interpret_of_prepare otherPrepared,
      Program.size_reflected]
    exact (map_conclude_eq_of_related (alongside.run limit) _).symm
  · rw [interpret_of_refuse refused, interpret_of_refuse otherRefused]

/-- The ring has no seam: on a turned ring every program makes the same run, turned, so from a
blank one moves in front of a program only put its positions further on, by their number. And it
has no sides: on a reflected ring the program with right and left exchanged makes the same run,
reflected, so from a blank one the two cannot be told apart, complaints included. -/
theorem ring_has_no_seam_and_no_sides (program : Program) :
    (∀ distance position tape source sink,
      Alongside (Tape.IsTurned distance) program ⟨position, tape, source, sink⟩
        program ⟨position, tape.rotate distance, source, sink⟩) ∧
    (∀ moves : Program, moves.OnlyMoves →
      (∀ size positive source sink count,
        (circular size positive source sink).exchanges (moves ++ program) (moves.size + count) =
          (circular size positive source sink).exchanges program count) ∧
      ∀ code otherCode, code.program = .ok program → otherCode.program = .ok (moves ++ program) →
        ∀ limit size source sink,
          interpret (moves.size + limit) otherCode size source sink =
            (interpret limit code size source sink).map (Report.relocate (moves.size + ·))) ∧
    (∀ position tape source sink,
      Alongside Tape.IsReflected program ⟨position, tape, source, sink⟩
        program.reflected ⟨position, tape.reflect, source, sink⟩) ∧
    (∀ size positive source sink count,
      (circular size positive source sink).exchanges program.reflected count =
        (circular size positive source sink).exchanges program count) ∧
    ∀ code otherCode, code.program = .ok program → otherCode.program = .ok program.reflected →
      ∀ limit size source sink,
        interpret limit otherCode size source sink = interpret limit code size source sink := by
  refine ⟨?_, ?_, ?_, ?_, ?_⟩
  · intro distance position tape source sink
    exact Machine.alongside_rotate program position tape source sink distance
  · intro moves onlyMoves
    constructor
    · intro size positive source sink count
      exact onlyMoves.exchanges_circular program positive source sink count
    · intro code otherCode given otherGiven limit size source sink
      exact interpret_behind_moves onlyMoves given otherGiven limit size source sink
  · intro position tape source sink
    exact Machine.alongside_reflect program position tape source sink
  · intro size positive source sink count
    have alongside := Machine.alongside_circular program positive source sink
    exact (alongside.exchanges count).symm
  · intro code otherCode given otherGiven limit size source sink
    exact interpret_reflected given otherGiven limit size source sink

/-- On three cells `<+]` goes around the seam and complains about its bracket at position 2.
Behind three moves the bracket is at position 5, and with right and left exchanged it is at
position 2 again. -/
theorem ring_has_no_seam_and_no_sides_of_stray :
    let program : Program := #[.action .left, .action .increment, .loopEnd]
    let moves : Program := #[.action .right, .action .right, .action .left]
    let complaint (position : Int) : Option (Option Failure) :=
      some (some (.brokenOff (.unmatched .closing position)))
    let failureOf (limit : Nat) (text : String) : Option (Option Failure) :=
      (interpret limit (.text text) (.integer 3) .empty .plain).map Report.failure
    moves.OnlyMoves ∧ Code.program (.text "<+]") = .ok program ∧
      Code.program (.text ">><<+]") = .ok (moves ++ program) ∧
      Code.program (.text ">+]") = .ok program.reflected ∧
      failureOf 3 "<+]" = complaint 2 ∧ failureOf (3 + 3) ">><<+]" = complaint 5 ∧
      failureOf 3 ">+]" = complaint 2 := by
  intro program moves complaint failureOf
  have onlyMoves : moves.OnlyMoves := by decide
  have given : Code.program (.text "<+]") = .ok program := rfl
  have behind : Code.program (.text ">><<+]") = .ok (moves ++ program) := rfl
  have exchanged : Code.program (.text ">+]") = .ok program.reflected := by
    simp [program, Program.reflected, Instruction.mapAction, Action.reflected, Code.program,
      Program.ofText, Instruction.ofChar]
  have alone : failureOf 3 "<+]" = complaint 2 := rfl
  obtain ⟨_, turned, _, _, reflected⟩ := ring_has_no_seam_and_no_sides program
  obtain ⟨_, further⟩ := turned moves onlyMoves
  refine ⟨onlyMoves, given, behind, exchanged, alone, ?_, ?_⟩
  · exact congrArg (Option.map Report.failure)
      (further _ _ given behind 3 (.integer 3) .empty .plain)
  · exact (congrArg (Option.map Report.failure)
      (reflected _ _ given exchanged 3 (.integer 3) .empty .plain)).trans alone

end Interpreter

end RingTape
