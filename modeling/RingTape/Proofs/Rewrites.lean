/-
# Rewrites

What an optimiser may take out of a program or put in its place. Stretches that undo themselves
do nothing; a cell is cleared by counting up as well as by counting down; and behind a loop, as at
the very beginning of a program, the cell is zero and a loop is jumped over. All this holds
wherever in a program it stands, because what stands there does the same by itself; only at the
beginning it depends on the blank tape.
-/

import RingTape.Proofs.Comments
import RingTape.Proofs.CountingLoops
import RingTape.Proofs.Replacement
import RingTape.Proofs.Sequence

namespace RingTape

/-! ## What stands in the way -/

/-- Stretches that do nothing on a ring of so many cells. -/
def Program.idle (cells : Nat) : List Program :=
  [ofText "+-", ofText "-+", ofText "><", ofText "<>",
    Array.replicate 256 (.action .increment), Array.replicate 256 (.action .decrement),
    Array.replicate cells (.action .right), Array.replicate cells (.action .left)]

/-- With memory of this size both programs come to an end on the same streams, and then they
leave both streams in the same state and fail in the same way or not at all. Only a complaint
about a bracket is about a place that is moved by a distance, if it is not before `place`. -/
def Interpreter.Interchangeable (size : Value) (place : Nat) (distance : Int)
    (program other : Program) : Prop :=
  ∀ code otherCode, code.program = .ok program → otherCode.program = .ok other →
    ∀ source sink,
      ((∃ limit report, interpret limit code size source sink = some report) ↔
        ∃ limit report, interpret limit otherCode size source sink = some report) ∧
      ∀ limit report larger alternative,
        interpret limit code size source sink = some report →
        interpret larger otherCode size source sink = some alternative →
          report.Shifted place distance alternative

/-! ## Stretches that do nothing -/

section Replicated

variable (size : Nat) (offset : Int) (instruction : Instruction) (count : Nat)

theorem displacement_replicate :
    displacement (List.replicate count instruction) = count * instruction.move := by
  induction count with
  | zero => simp
  | succ count ih =>
      rw [List.replicate_succ', displacement_concat, ih, Int.natCast_add_one, Int.add_mul,
        Int.one_mul]

/-- Changes without moves between them are all made on one cell. -/
theorem gain_replicate (still : instruction.move = 0) :
    gain size offset (List.replicate count instruction) =
      if 0 = offset % size then count * instruction.raise else 0 := by
  induction count with
  | zero => simp
  | succ count ih =>
      rw [List.replicate_succ', gain_concat, displacement_replicate, ih, still, Int.mul_zero,
        Int.zero_emod]
      split
      · rw [Int.natCast_add_one, Int.add_mul, Int.one_mul]
      · rfl

/-- Moves change no cell. -/
theorem gain_replicate_of_raise (moves : instruction.raise = 0) :
    gain size offset (List.replicate count instruction) = 0 := by
  induction count with
  | zero => rfl
  | succ count ih => rw [List.replicate_succ', gain_concat, ih, moves, ite_self]; rfl

end Replicated

/-- A stretch does nothing when it leads back and adds to every cell a multiple of 256. -/
theorem Tape.through_eq_self {tape : Tape} {stretch : List Instruction}
    (returns : displacement stretch % tape.size = 0)
    (nothing : ∀ offset, gain tape.size offset stretch % 256 = 0) :
    tape.through stretch = tape := by
  refine ext_value (tape.size_through stretch) ?_ ?_
  · exact head_rounds 1 returns
  · intro index
    rw [value_through, ← Int.add_emod_emod, nothing, Int.add_zero, value_emod_256]

namespace Program

variable {cells : Nat}

theorem straight_of_mem_idle {nothing : Program} (listed : nothing ∈ idle cells) :
    Straight nothing.toList := by
  have alike (count : Nat) {instruction : Instruction} (quiet : instruction.isQuiet) :
      Straight (Array.replicate count instruction).toList := by
    intro other member
    rw [Array.toList_replicate] at member
    rwa [List.eq_of_mem_replicate member]
  simp only [idle, List.mem_cons, List.not_mem_nil, or_false] at listed
  rcases listed with rfl | rfl | rfl | rfl | rfl | rfl | rfl | rfl
  · decide
  · decide
  · decide
  · decide
  all_goals exact alike _ rfl

theorem through_of_mem_idle {nothing : Program} (listed : nothing ∈ idle cells) {tape : Tape}
    (size : tape.size = cells) : tape.through nothing.toList = tape := by
  -- A full turn of the cell, or of the ring.
  have changes {instruction : Instruction} (still : instruction.move = 0) :
      tape.through (Array.replicate 256 instruction).toList = tape := by
    rw [Array.toList_replicate]
    apply Tape.through_eq_self
    · rw [displacement_replicate, still, Int.mul_zero, Int.zero_emod]
    · intro offset
      rw [gain_replicate _ _ _ _ still]
      split
      · exact Int.mul_emod_right 256 _
      · rfl
  have moves {instruction : Instruction} (silent : instruction.raise = 0) :
      tape.through (Array.replicate cells instruction).toList = tape := by
    rw [Array.toList_replicate]
    apply Tape.through_eq_self
    · rw [displacement_replicate, size]
      exact Int.mul_emod_right _ _
    · intro offset
      rw [gain_replicate_of_raise _ _ _ _ silent, Int.zero_emod]
  simp only [idle, List.mem_cons, List.not_mem_nil, or_false] at listed
  rcases listed with rfl | rfl | rfl | rfl | rfl | rfl | rfl | rfl
  · simp [ofText, Instruction.ofChar, Tape.through, Tape.follow]
  · simp [ofText, Instruction.ofChar, Tape.through, Tape.follow]
  · simp [ofText, Instruction.ofChar, Tape.through, Tape.follow]
  · simp [ofText, Instruction.ofChar, Tape.through, Tape.follow]
  · exact changes rfl
  · exact changes rfl
  · exact moves rfl
  · exact moves rfl

/-- A straight program comes to its end with what its text makes of the tape. -/
theorem stopsIn_of_straight {program : Program} (straight : Straight program.toList)
    (tape : Tape) (source : Source) (sink : Sink) :
    program.StopsIn ⟨tape, source, sink⟩ ⟨tape.through program.toList, source, sink⟩ none := by
  have text : program.toList = [] ++ (program.toList ++ []) := by simp
  obtain ⟨reached, silent⟩ :=
    Machine.after_straight text straight tape source sink _ (Nat.le_refl _)
  rw [List.take_length, List.length_nil, Nat.zero_add, Array.length_toList] at reached
  obtain ⟨limit, stopped, _⟩ := Machine.Reaches.stops ⟨_, reached, silent⟩
    (Machine.stops_of_ended (Tree.step_at_size program _))
  exact ⟨limit, _, stopped⟩

/-- A stretch that does nothing is as good as none. -/
theorem equivalent_of_mem_idle {nothing : Program} (listed : nothing ∈ idle cells) :
    Equivalent cells nothing #[] := by
  rintro ⟨tape, source, sink⟩ size
  have stops := stopsIn_of_straight (straight_of_mem_idle listed) tape source sink
  rw [through_of_mem_idle listed size] at stops
  have empty : Straight (#[] : Program).toList := by decide
  exact .inl ⟨_, none, stops, stopsIn_of_straight empty tape source sink⟩

/-! ## Loops that clear a cell -/

/-- A loop that changes no cell but the one it tests clears this cell, when the change has nothing
in common with 256. -/
theorem stopsIn_clearing {body : Program} {tape : Tape} (straight : Straight body.toList)
    (returns : displacement body.toList % tape.size = 0)
    (alone : ∀ offset : Int, offset % tape.size ≠ 0 → gain tape.size offset body.toList = 0)
    (unit : Int.gcd (gain tape.size 0 body.toList) 256 = 1) (source : Source) (sink : Sink) :
    body.loop.StopsIn ⟨tape, source, sink⟩ ⟨tape.put 0, source, sink⟩ none := by
  have reachable : ∃ count,
      Expires (tape.value tape.head) (gain tape.size 0 body.toList) count := by
    rw [exists_expires_iff, unit]
    exact Int.one_dvd _
  obtain ⟨count, zero, limit, stopped, _⟩ :=
    Machine.exists_stops_of_expires straight returns source sink reachable
  have head := Tape.head_rounds count returns
  have cleared : tape.rounds body.toList count = tape.put 0 := by
    refine Tape.ext_value ?_ head ?_
    · rw [Tape.size_rounds, Tape.size_put]
    · intro index
      by_cases here : index % tape.size = tape.head
      · have same : index % (tape.rounds body.toList count).size =
            (tape.rounds body.toList count).head % (tape.rounds body.toList count).size := by
          rw [Tape.size_rounds, head, here, Tape.head_emod_size]
        rw [Tape.value_put, if_pos here, Tape.value_congr _ same, Tape.value_head, zero]
      · have elsewhere : (index - tape.head) % tape.size ≠ 0 := by
          intro distance
          apply here
          rw [Int.emod_eq_emod_iff_emod_sub_eq_zero.mpr distance, Tape.head_emod_size]
        rw [Tape.value_put, if_neg here, Tape.value_rounds count returns, alone _ elsewhere,
          Int.mul_zero, Int.add_zero, Tape.value_emod_256]
  rw [cleared] at stopped
  exact ⟨limit, _, stopped⟩

/-- Counting by one, up or down, clears a cell. -/
theorem stopsIn_loop_of_unit (instruction : Instruction) (quiet : instruction.isQuiet)
    (still : instruction.move = 0) (unit : Int.gcd instruction.raise 256 = 1) (tape : Tape)
    (source : Source) (sink : Sink) :
    (loop #[instruction]).StopsIn ⟨tape, source, sink⟩ ⟨tape.put 0, source, sink⟩ none := by
  have change (offset : Int) : gain tape.size offset (#[instruction] : Program).toList =
      if 0 = offset % tape.size then instruction.raise else 0 := by
    have once := gain_replicate tape.size offset instruction 1 still
    rwa [Int.natCast_one, Int.one_mul] at once
  apply stopsIn_clearing
  · simpa [Straight] using quiet
  · have once := displacement_replicate instruction 1
    rw [still, Int.mul_zero] at once
    exact (congrArg (· % (tape.size : Int)) once).trans (Int.zero_emod _)
  · intro offset elsewhere
    rw [change, if_neg elsewhere.symm]
  · rwa [change, Int.zero_emod, if_pos rfl]

/-- A cell is cleared by counting down or by counting up. -/
theorem equivalent_clearing (cells : Nat) :
    Equivalent cells (ofText "[-]") (ofText "[+]") := by
  rintro ⟨tape, source, sink⟩ _
  have down := stopsIn_loop_of_unit (.action .decrement) rfl rfl rfl tape source sink
  have up := stopsIn_loop_of_unit (.action .increment) rfl rfl rfl tape source sink
  exact .inl ⟨_, none, down, up⟩

end Program

/-! ## Loops that are never entered -/

namespace Tree

variable {τ : Type} [TapeLike τ] {body dead trees : List Tree} {workspace : Workspace τ}
  {answer : Workspace τ × Option Fault}

/-- A loop leaves a zero cell behind, so a second loop right behind it does nothing. -/
theorem execute_of_dead {fuel : Nat}
    (executed : execute fuel (.loop body :: .loop dead :: trees) workspace = some answer) :
    execute fuel (.loop body :: trees) workspace = some answer := by
  induction fuel generalizing workspace with
  | zero => simp [execute] at executed
  | succ fuel ih =>
      rw [execute] at executed ⊢
      split at executed
      · rename_i zero
        rw [if_pos zero]
        cases fuel with
        | zero => simp [execute] at executed
        | succ fuel =>
            rw [execute, if_pos zero] at executed
            exact execute_succ_of_execute executed
      · rename_i nonzero
        rw [if_neg nonzero]
        cases bodyRun : execute fuel body workspace with
        | none => simp [bodyRun] at executed
        | some middle =>
            obtain ⟨next, fault⟩ := middle
            simp only [bodyRun] at executed ⊢
            cases fault with
            | none => exact ih executed
            | some fault => exact executed

theorem execute_dead {fuel : Nat}
    (executed : execute fuel (.loop body :: trees) workspace = some answer) :
    execute (fuel + 1) (.loop body :: .loop dead :: trees) workspace = some answer := by
  induction fuel generalizing workspace with
  | zero => simp [execute] at executed
  | succ fuel ih =>
      rw [execute] at executed ⊢
      split at executed
      · rename_i zero
        rw [if_pos zero, execute, if_pos zero]
        exact executed
      · rename_i nonzero
        rw [if_neg nonzero]
        cases bodyRun : execute fuel body workspace with
        | none => simp [bodyRun] at executed
        | some middle =>
            obtain ⟨next, fault⟩ := middle
            rw [execute_succ_of_execute bodyRun]
            simp only [bodyRun] at executed ⊢
            cases fault with
            | none => exact ih executed
            | some fault => exact executed

end Tree

namespace Program

/-- A balanced program stops as some execution of its trees does. -/
theorem stopsIn_iff_execute {program : Program} {trees : List Tree}
    (text : Tree.allInstructions trees = program.toList) {workspace last : Workspace Tape}
    {fault : Option Fault} :
    program.StopsIn workspace last fault ↔
      ∃ fuel, Tree.execute fuel trees workspace = some (last, fault) := by
  constructor
  · rintro ⟨limit, position, stopped⟩
    obtain ⟨fuel, executed, _⟩ := Tree.exists_execute_of_stops text ⟨limit, stopped, rfl⟩
    exact ⟨fuel, executed⟩
  · rintro ⟨fuel, executed⟩
    obtain ⟨position, _, limit, stopped, _⟩ := Tree.exists_stops_of_execute text executed
    exact ⟨limit, position, stopped⟩

/-- Programs that stop in the same ways are equivalent. -/
theorem equivalent_of_stopsIn_iff {cells : Nat} {first second : Program}
    (alike : ∀ workspace last fault,
      first.StopsIn workspace last fault ↔ second.StopsIn workspace last fault) :
    Equivalent cells first second := by
  intro workspace _
  by_cases stops : ∃ last fault, first.StopsIn workspace last fault
  · obtain ⟨last, fault, stopsFirst⟩ := stops
    exact .inl ⟨last, fault, stopsFirst, (alike _ _ _).mp stopsFirst⟩
  · refine .inr fun last fault => ⟨fun first => stops ⟨last, fault, first⟩, fun second => ?_⟩
    exact stops ⟨last, fault, (alike _ _ _).mpr second⟩

theorem balanced_loop {body : Program} (balanced : Balanced body.toList) :
    Balanced body.loop.toList := by
  rw [toList_loop]
  exact balanced.loop

/-- A loop right behind a loop is never entered. -/
theorem equivalent_of_loop_behind_loop {body dead : Program} (balanced : Balanced body.toList)
    (balancedDead : Balanced dead.toList) (cells : Nat) :
    Equivalent cells (body.loop ++ dead.loop) body.loop := by
  obtain ⟨trees, spelled⟩ := Tree.exists_allInstructions_eq balanced
  obtain ⟨deadTrees, deadSpelled⟩ := Tree.exists_allInstructions_eq balancedDead
  have text : Tree.allInstructions [.loop trees] = body.loop.toList := by
    simp [Tree.allInstructions, Tree.instructions, toList_loop, spelled]
  have bothText : Tree.allInstructions [.loop trees, .loop deadTrees] =
      (body.loop ++ dead.loop).toList := by
    simp [Tree.allInstructions, Tree.instructions, toList_loop, spelled, deadSpelled]
  apply equivalent_of_stopsIn_iff
  intro workspace last fault
  rw [stopsIn_iff_execute text, stopsIn_iff_execute bothText]
  constructor
  · rintro ⟨fuel, executed⟩
    exact ⟨fuel, Tree.execute_of_dead executed⟩
  · rintro ⟨fuel, executed⟩
    exact ⟨fuel + 1, Tree.execute_dead executed⟩

theorem Closed.of_balanced {program : Program} (balanced : Balanced program.toList) :
    program.Closed := by
  apply List.eq_nil_iff_forall_not_mem.mpr
  intro position pending
  obtain ⟨opening, alone⟩ := mem_pending_pass_iff.mp pending
  exact not_unmatched_of_balanced_toList balanced position
    ((unmatched_loopStart_iff opening).mpr alone)

end Program

namespace Machine

/-- A loop at the very beginning is jumped over on a zero cell, and what follows it is run as by
itself. -/
theorem run_behind_loop {body after : Program} (balanced : Balanced body.toList)
    {workspace : Workspace Tape} (zero : workspace.current = 0) (limit : Nat) :
    (start workspace).run (body.loop ++ after) (limit + 1) =
      ((start workspace).run after limit).map (Halt.relocate (body.loop.size + ·)) := by
  have matched := (Program.matched_loop balanced).append after
  have skipped : (start workspace).step (body.loop ++ after) =
      .advanced ⟨body.loop.size, workspace⟩ := by
    rw [Program.size_loop]
    exact step_eq_iff.mpr (.skipped zero matched)
  have closed := Program.Closed.of_balanced (Program.balanced_loop balanced)
  rw [run, skipped]
  exact run_relocate (closed.found after) limit (start workspace)

end Machine

/-! ## Interpretations -/

/-- A failure that is not a complaint about a bracket stays as it is. -/
theorem Failure.shifted_of_ne_unmatched {failure : Failure} (place : Nat) (distance : Int)
    (other : ∀ bracket position, failure ≠ .brokenOff (.unmatched bracket position)) :
    failure.shifted place distance = failure := by
  cases failure with
  | brokenOff fault =>
      refine congrArg brokenOff (fault.shifted_of_ne_unmatched place distance ?_)
      rintro bracket position rfl
      exact other bracket position rfl
  | _ => rfl

namespace Interpreter

variable {code otherCode : Code} {program other before inside substitute after body : Program}
  {size : Value} {cells : { cells : Nat // 0 < cells }} {place : Nat} {distance : Int}

/-- What comes to an end within some steps does so with one step more. -/
theorem interpret_succ_of_interpret {limit : Nat} {source : Source} {sink : Sink}
    {report : Report} (interpreted : interpret limit code size source sink = some report) :
    interpret (limit + 1) code size source sink = some report := by
  cases prepared : prepare code size with
  | error failure =>
      rwa [interpret_of_refuse prepared] at interpreted ⊢
  | ok made =>
      obtain ⟨cells, tape, program⟩ := made
      rw [interpret_of_prepare prepared, Option.map_eq_some_iff] at interpreted ⊢
      obtain ⟨halt, stopped, concluded⟩ := interpreted
      exact ⟨halt, Machine.run_succ_of_run stopped, concluded⟩

/-- It is enough that each of the programs comes to an end where the other one does, and that one
pair of reports agrees, as there is only one. -/
theorem Interchangeable.of_exists
    (forth : ∀ code otherCode, code.program = .ok program → otherCode.program = .ok other →
      ∀ source sink limit report, interpret limit code size source sink = some report →
        ∃ larger alternative, interpret larger otherCode size source sink = some alternative ∧
          report.Shifted place distance alternative)
    (back : ∀ code otherCode, code.program = .ok program → otherCode.program = .ok other →
      ∀ source sink limit alternative,
        interpret limit otherCode size source sink = some alternative →
          ∃ larger report, interpret larger code size source sink = some report) :
    Interchangeable size place distance program other := by
  intro code otherCode given otherGiven source sink
  refine ⟨⟨?_, ?_⟩, ?_⟩
  · rintro ⟨limit, report, interpreted⟩
    obtain ⟨larger, alternative, otherwise, _⟩ :=
      forth code otherCode given otherGiven source sink limit report interpreted
    exact ⟨larger, alternative, otherwise⟩
  · rintro ⟨limit, alternative, interpreted⟩
    exact back code otherCode given otherGiven source sink limit alternative interpreted
  · intro limit report larger alternative interpreted otherwise
    obtain ⟨enough, found, again, alike⟩ :=
      forth code otherCode given otherGiven source sink limit report interpreted
    rwa [interpret_unique again otherwise] at alike

/-- What does the same by itself can stand for each other. -/
theorem Interchangeable.of_equivalent (before after : Program)
    (checked : MemorySize.check size = .ok cells)
    (balanced : Balanced inside.toList) (otherBalanced : Balanced substitute.toList)
    (equivalent : Program.Equivalent cells.val inside substitute) :
    Interchangeable size (before.size + inside.size) (substitute.size - inside.size)
      (before ++ inside ++ after) (before ++ substitute ++ after) := by
  apply Interchangeable.of_exists
  · intro code otherCode given otherGiven source sink limit report interpreted
    exact exists_interpret_of_equivalent given otherGiven checked balanced otherBalanced
      equivalent interpreted
  · intro code otherCode given otherGiven source sink limit alternative interpreted
    obtain ⟨larger, report, otherwise, _⟩ := exists_interpret_of_equivalent otherGiven given
      checked otherBalanced balanced equivalent.symm interpreted
    exact ⟨larger, report, otherwise⟩

/-- A loop at the very beginning makes one step, over it. -/
theorem interpret_behind_loop (balanced : Balanced body.toList)
    (given : code.program = .ok (body.loop ++ after)) (otherGiven : otherCode.program = .ok after)
    (limit : Nat) (size : Value) (source : Source) (sink : Sink) :
    interpret (limit + 1) code size source sink =
      (interpret limit otherCode size source sink).map
        (Report.relocate (body.loop.size + ·)) := by
  rcases prepare_alike given otherGiven size with
    ⟨cells, tape, prepared, otherPrepared⟩ | ⟨failure, refused, otherRefused, sound⟩
  · obtain ⟨_, _, blank⟩ := prepare_eq_ok prepared
    have zero : (⟨tape, source, sink⟩ : Workspace Tape).current = 0 := by
      rw [blank]
      exact Tape.current_blank cells.val cells.property
    rw [interpret_of_prepare prepared, interpret_of_prepare otherPrepared,
      Machine.run_behind_loop balanced zero, Option.map_map, Option.map_map, Array.size_append]
    congr 1
    funext halt
    exact conclude_relocate (body.loop.size + ·) after.size cells.val halt
  · rw [interpret_of_refuse refused, interpret_of_refuse otherRefused]
    have unplaced := failure.relocate_of_ne_unmatched (body.loop.size + ·)
      fun bracket position => sound (.unmatched bracket position)
    simp [Report.relocate, unplaced]

/-- A report at places further on is the report but for the places of complaints. -/
theorem shifted_relocate (given : code.program = .ok program) {limit : Nat} {source : Source}
    {sink : Sink} {report : Report}
    (interpreted : interpret limit code size source sink = some report) (length : Nat) :
    (report.relocate (length + ·)).Shifted length (-length) report := by
  refine ⟨rfl, rfl, ?_⟩
  simp only [Report.relocate, Option.map_map]
  cases failed : report.failure with
  | none => rfl
  | some failure =>
      by_cases complaint : ∃ bracket position, failure = .brokenOff (.unmatched bracket position)
      · obtain ⟨kind, position, rfl⟩ := complaint
        obtain ⟨bracket, rfl, _⟩ := exists_bracket_of_interpret given interpreted failed
        have behind : ¬ ((length + bracket : Nat) : Int) < length := by omega
        have back : ((length + bracket : Nat) : Int) + -length = bracket := by omega
        simp only [Option.map_some, Function.comp_apply, Failure.relocate, Failure.shifted,
          Fault.relocate, Fault.shifted, Int.toNat_natCast, if_neg behind, back]
      · simp only [not_exists] at complaint
        rw [Option.map_some, Function.comp_apply, failure.relocate_of_ne_unmatched _ complaint,
          failure.shifted_of_ne_unmatched _ _ complaint]

theorem Interchangeable.of_loop_first (balanced : Balanced body.toList) :
    Interchangeable size body.loop.size (-body.loop.size) (body.loop ++ after) after := by
  apply Interchangeable.of_exists
  · intro code otherCode given otherGiven source sink limit report interpreted
    have behind := interpret_behind_loop balanced given otherGiven limit size source sink
    rw [interpret_succ_of_interpret interpreted] at behind
    obtain ⟨alternative, otherwise, rfl⟩ := Option.map_eq_some_iff.mp behind.symm
    exact ⟨limit, alternative, otherwise, shifted_relocate otherGiven otherwise _⟩
  · intro code otherCode given otherGiven source sink limit alternative interpreted
    have behind := interpret_behind_loop balanced given otherGiven limit size source sink
    rw [interpreted] at behind
    exact ⟨limit + 1, _, behind⟩

/-- What an optimiser may do. In every place of every program, whose own brackets may belong
together around it or not at all, a stretch that undoes itself can be left out, counting down to
zero can be exchanged for counting up, and a loop right behind a loop can be left out; and from a
blank tape so can a loop at the very beginning. With the same memory, of any size, the
interpretations come to an end on the same streams, and then they leave both streams in the same
states and fail in the same way or not at all; but the places of complaints about brackets behind
what is left out are as much smaller as it is long. -/
theorem optimiser_rewrites_are_sound (before after : Program) (size : Value)
    (cells : { cells : Nat // 0 < cells }) (checked : MemorySize.check size = .ok cells) :
    (∀ nothing ∈ Program.idle cells.val,
      Interchangeable size (before.size + nothing.size) (-nothing.size)
        (before ++ nothing ++ after) (before ++ after)) ∧
    Interchangeable size (before.size + 3) 0
      (before ++ .ofText "[-]" ++ after) (before ++ .ofText "[+]" ++ after) ∧
    (∀ body dead : Program, Balanced body.toList → Balanced dead.toList →
      Interchangeable size (before.size + (body.loop ++ dead.loop).size) (-dead.loop.size)
        (before ++ (body.loop ++ dead.loop) ++ after) (before ++ body.loop ++ after)) ∧
    ∀ body : Program, Balanced body.toList →
      Interchangeable size body.loop.size (-body.loop.size) (body.loop ++ after) after := by
  refine ⟨?_, ?_, ?_, ?_⟩
  · intro nothing listed
    have interchangeable := Interchangeable.of_equivalent before after checked
      (Program.straight_of_mem_idle listed).balanced balanced_nil
      (Program.equivalent_of_mem_idle listed)
    rw [Array.append_empty] at interchangeable
    simpa using interchangeable
  · have down : Balanced (Program.ofText "[-]").toList :=
      (balanced_action.mpr balanced_nil).loop
    have up : Balanced (Program.ofText "[+]").toList := (balanced_action.mpr balanced_nil).loop
    exact .of_equivalent before after checked down up (Program.equivalent_clearing cells.val)
  · intro body dead balanced balancedDead
    have both := (Program.balanced_loop balanced).append (Program.balanced_loop balancedDead)
    rw [← Array.toList_append] at both
    have interchangeable := Interchangeable.of_equivalent before after checked both
      (Program.balanced_loop balanced)
      (Program.equivalent_of_loop_behind_loop balanced balancedDead cells.val)
    have shorter : (body.loop.size - (body.loop ++ dead.loop).size : Int) = -dead.loop.size := by
      rw [Array.size_append]
      omega
    rwa [shorter] at interchangeable
  · intro body balanced
    exact .of_loop_first balanced

/-- On two cells two moves to the right lead nowhere, and behind `[-]` the loop `[.]` is never
entered. Without them `+[>>-]+]` and `+[-][.]+]` are both `+[-]+]`, which complains about its
last bracket; so do they, at places that are two and three further on. -/
theorem optimiser_rewrites_are_sound_of_stray :
    let two : { cells : Nat // 0 < cells } := ⟨2, Nat.two_pos⟩
    let moves : Program := Array.replicate 2 (.action .right)
    let body : Program := #[.action .decrement]
    let dead : Program := #[.action .write]
    let complaint (position : Int) : Option Failure :=
      some (.brokenOff (.unmatched .closing position))
    MemorySize.check (.integer 2) = .ok two ∧ moves ∈ Program.idle two.val ∧
      Balanced body.toList ∧ Balanced dead.toList ∧
      ∃ moving unreached short,
        interpret 9 (.text "+[>>-]+]") (.integer 2) .empty .plain = some moving ∧
        interpret 9 (.text "+[-][.]+]") (.integer 2) .empty .plain = some unreached ∧
        interpret 9 (.text "+[-]+]") (.integer 2) .empty .plain = some short ∧
        moving.failure = complaint 7 ∧ moving.Shifted 4 (-2) short ∧
        unreached.failure = complaint 8 ∧ unreached.Shifted 7 (-3) short := by
  intro two moves body dead complaint
  have checked : MemorySize.check (.integer 2) = .ok two := rfl
  have listed : moves ∈ Program.idle two.val := by simp [Program.idle, moves, two]
  have balanced : Balanced body.toList := balanced_action.mpr balanced_nil
  have balancedDead : Balanced dead.toList := balanced_action.mpr balanced_nil
  have moving : interpret 9 (.text "+[>>-]+]") (.integer 2) .empty .plain = some _ := rfl
  have unreached : interpret 9 (.text "+[-][.]+]") (.integer 2) .empty .plain = some _ := rfl
  have short : interpret 9 (.text "+[-]+]") (.integer 2) .empty .plain = some _ := rfl
  have unreachedGiven : (Code.text "+[-][.]+]").program =
      .ok (Program.ofText "+" ++ (body.loop ++ dead.loop) ++ Program.ofText "+]") := by
    simp [Code.program, Program.ofText, Instruction.ofChar, Program.loop, body, dead]
  have shortGiven : (Code.text "+[-]+]").program =
      .ok (Program.ofText "+[" ++ Program.ofText "-]+]") := rfl
  have shortBehind : (Code.text "+[-]+]").program =
      .ok (Program.ofText "+" ++ body.loop ++ Program.ofText "+]") := rfl
  obtain ⟨idle, _⟩ := optimiser_rewrites_are_sound (.ofText "+[") (.ofText "-]+]") (.integer 2)
    two checked
  obtain ⟨_, alike⟩ :=
    idle moves listed (.text "+[>>-]+]") (.text "+[-]+]") rfl shortGiven .empty .plain
  obtain ⟨_, _, behind, _⟩ := optimiser_rewrites_are_sound (.ofText "+") (.ofText "+]")
    (.integer 2) two checked
  obtain ⟨_, alikeBehind⟩ := behind body dead balanced balancedDead (.text "+[-][.]+]")
    (.text "+[-]+]") unreachedGiven shortBehind .empty .plain
  exact ⟨checked, listed, balanced, balancedDead, _, _, _, moving, unreached, short, rfl,
    alike 9 _ 9 _ moving short, rfl, alikeBehind 9 _ 9 _ unreached short⟩

end Interpreter

end RingTape
