/-
# Straight stretches on the machine

Where control comes to a straight stretch, it goes through it one instruction a step, and no
stream is touched. The head is then as far on as the stretch leads, around the ring, and every
cell has gained modulo 256 what the text of the stretch says. So everything about the run of a
program that is straight from its beginning to its end can be told by counting in its text.
-/

import Mathlib.Data.List.Induction
import RingTape.Proofs.Exchanges
import RingTape.Straight

namespace RingTape

/-! ## Texts, one instruction longer -/

section Texts

variable (size : Nat) (offset : Int) (stretch : List Instruction) (last : Instruction)

@[simp]
theorem displacement_nil : displacement [] = 0 := rfl

theorem displacement_concat :
    displacement (stretch ++ [last]) = displacement stretch + last.move := by
  cases last with
  | loopStart | loopEnd => simp [displacement, Instruction.move]
  | action action =>
      cases action <;> simp [displacement, Instruction.move] <;> omega

/-- Only the last place is new. -/
theorem occurrences_concat (instruction : Instruction) :
    occurrences size offset instruction (stretch ++ [last]) =
      occurrences size offset instruction stretch +
        if last = instruction ∧ displacement stretch % size = offset % size then 1 else 0 := by
  have before : ∀ place ∈ List.range stretch.length,
      ((stretch ++ [last])[place]? = some instruction ∧
          displacement ((stretch ++ [last]).take place) % size = offset % size ↔
        stretch[place]? = some instruction ∧
          displacement (stretch.take place) % size = offset % size) := by
    intro place inside
    have within := List.mem_range.mp inside
    rw [List.getElem?_append_left within, List.take_append_of_le_length (Nat.le_of_lt within)]
  rw [occurrences, List.length_append, List.length_singleton, List.range_succ,
    List.countP_append, occurrences]
  congr 1
  · exact List.countP_congr (by simpa using before)
  · simp [List.countP_cons]

@[simp]
theorem gain_nil : gain size offset [] = 0 := rfl

theorem gain_concat :
    gain size offset (stretch ++ [last]) = gain size offset stretch +
      if displacement stretch % size = offset % size then last.raise else 0 := by
  rw [gain, gain, occurrences_concat, occurrences_concat]
  by_cases there : displacement stretch % size = offset % size
  · cases last with
    | loopStart | loopEnd => simp [Instruction.raise]
    | action action =>
        cases action <;> simp [there, Instruction.raise] <;> omega
  · simp [there]

end Texts

/-! ## Tapes -/

namespace Tape

variable (tape : Tape) (instruction : Instruction) (stretch : List Instruction)

@[simp]
theorem size_moveRight : tape.moveRight.size = tape.size :=
  congrArg Array.size tape.cells_moveRight

@[simp]
theorem size_moveLeft : tape.moveLeft.size = tape.size :=
  congrArg Array.size tape.cells_moveLeft

/-- The cell under the head has the index of the head. -/
theorem head_emod_size : (tape.head : Int) % tape.size = tape.head := by
  have inRange : tape.head < tape.size := tape.head_lt_size
  rw [← Int.natCast_emod, Nat.mod_eq_of_lt inRange]

@[simp]
theorem size_follow : (tape.follow instruction).size = tape.size := by
  cases instruction with
  | loopStart | loopEnd => rfl
  | action action => cases action <;> simp [follow]

theorem head_follow :
    ((tape.follow instruction).head : Int) = (tape.head + instruction.move) % tape.size := by
  have positive := tape.size_pos
  cases instruction with
  | loopStart | loopEnd => simp [follow, Instruction.move, head_emod_size]
  | action action =>
      cases action with
      | right => simp [follow, Instruction.move, head_moveRight]
      | left =>
          have back : ((tape.head + tape.size - 1 : Nat) : Int) =
              tape.head + -1 + tape.size := by omega
          rw [follow, Instruction.move, head_moveLeft, Int.natCast_emod, back,
            Int.add_emod_right]
      | increment | decrement | write | read | comment =>
          simp [follow, Instruction.move, head_emod_size]

/-- An instruction changes the cell under the head and no other. -/
theorem value_follow (index : Int) :
    (tape.follow instruction).value index =
      (tape.value index +
        if index % tape.size = tape.head then instruction.raise else 0) % 256 := by
  have here (there : index % tape.size = tape.head) :
      tape.value index = tape.current.toNat := by
    rw [← value_head]
    exact tape.value_congr (by rw [there, head_emod_size])
  cases instruction with
  | loopStart | loopEnd => simp [follow, Instruction.raise]
  | action action =>
      cases action with
      | increment =>
          rw [follow, value_put, Instruction.raise]
          split
          · have one : (1 : UInt8).toNat = 1 := rfl
            rw [here ‹_›, UInt8.toNat_add, one]
            omega
          · simp
      | decrement =>
          rw [follow, value_put, Instruction.raise]
          split
          · have one : (1 : UInt8).toNat = 1 := rfl
            have small := UInt8.toNat_lt tape.current
            rw [here ‹_›, UInt8.toNat_sub, one]
            omega
          · simp
      | right | left | write | read | comment => simp [follow, Instruction.raise]

@[simp]
theorem through_nil : through [] tape = tape := rfl

theorem through_concat :
    through (stretch ++ [instruction]) tape = (through stretch tape).follow instruction := by
  simp [through]

@[simp]
theorem size_through : (through stretch tape).size = tape.size := by
  induction stretch using List.reverseRecOn with
  | nil => rfl
  | append_singleton stretch last ih => rw [through_concat, size_follow, ih]

/-- A straight stretch leads the head on by its displacement, around the ring. -/
theorem head_through :
    ((through stretch tape).head : Int) = (tape.head + displacement stretch) % tape.size := by
  induction stretch using List.reverseRecOn with
  | nil => simp [head_emod_size]
  | append_singleton stretch last ih =>
      rw [through_concat, head_follow, ih, size_through, Int.emod_add_emod,
        displacement_concat, Int.add_assoc]

/-- The head is over a cell when the moves have led to the offset of the cell. -/
theorem over_iff (index : Int) :
    index % tape.size = (through stretch tape).head ↔
      displacement stretch % tape.size = (index - tape.head) % tape.size := by
  rw [head_through, Int.emod_eq_emod_iff_emod_sub_eq_zero,
    Int.emod_eq_emod_iff_emod_sub_eq_zero, ← Int.dvd_iff_emod_eq_zero,
    ← Int.dvd_iff_emod_eq_zero, ← Int.dvd_neg]
  have opposite : -(index - (tape.head + displacement stretch)) =
      displacement stretch - (index - tape.head) := by omega
  rw [opposite]

/-- Every cell gains what the text of a straight stretch says. -/
theorem value_through (index : Int) :
    (through stretch tape).value index =
      (tape.value index + gain tape.size (index - tape.head) stretch) % 256 := by
  induction stretch using List.reverseRecOn with
  | nil => simp
  | append_singleton stretch last ih =>
      rw [through_concat, value_follow, ih, size_through, Int.emod_add_emod, gain_concat,
        Int.add_assoc]
      simp only [over_iff]

end Tape

/-- Nothing in a straight stretch is a bracket. -/
theorem Straight.balanced {stretch : List Instruction} (straight : Straight stretch) :
    Balanced stretch := by
  induction stretch with
  | nil => exact balanced_nil
  | cons instruction rest ih =>
      obtain ⟨quiet, straightRest⟩ := List.forall_mem_cons.mp straight
      cases instruction with
      | loopStart | loopEnd => cases quiet
      | action action => exact balanced_action.mpr (ih straightRest)

/-! ## Runs -/

namespace Machine

variable {whole : Program} {before stretch rest : List Instruction}

/-- An instruction that leaves the streams alone changes the tape and lets control pass on. -/
theorem step_of_isQuiet {position : Nat} {instruction : Instruction}
    (here : whole[position]? = some instruction) (quiet : instruction.isQuiet)
    (tape : Tape) (source : Source) (sink : Sink) :
    step whole ⟨position, tape, source, sink⟩ =
        .advanced ⟨position + 1, tape.follow instruction, source, sink⟩ ∧
      exchange whole ⟨position, tape, source, sink⟩ = none := by
  cases instruction with
  | loopStart | loopEnd => cases quiet
  | action action =>
      have made : exchange whole ⟨position, tape, source, sink⟩ = _ := exchange_of_action here
      cases action with
      | write | read => cases quiet
      | right | left | increment | decrement | comment =>
          exact ⟨step_eq_iff.mpr (.acted here rfl), made⟩

/-- Control goes through a straight stretch one instruction a step, in silence. -/
theorem after_straight (text : whole.toList = before ++ (stretch ++ rest))
    (straight : Straight stretch) (tape : Tape) (source : Source) (sink : Sink) (count : Nat)
    (within : count ≤ stretch.length) :
    after whole count ⟨before.length, tape, source, sink⟩ =
        some ⟨before.length + count, tape.through (stretch.take count), source, sink⟩ ∧
      exchanges whole count ⟨before.length, tape, source, sink⟩ = [] := by
  induction count with
  | zero => exact ⟨rfl, rfl⟩
  | succ count ih =>
      obtain ⟨reached, silent⟩ := ih (Nat.le_of_succ_le within)
      have inside : stretch[count]? = some stretch[count] := List.getElem?_eq_getElem within
      have here : whole[before.length + count]? = some stretch[count] := by
        rw [← Array.getElem?_toList, text, List.getElem?_append_right (Nat.le_add_right _ _),
          Nat.add_sub_cancel_left, List.getElem?_append_left within, inside]
      obtain ⟨stepped, made⟩ := step_of_isQuiet here (straight _ (List.getElem_mem within))
        (tape.through (stretch.take count)) source sink
      rw [← Tape.through_concat, ← List.take_succ_eq_append_getElem within] at stepped
      constructor
      · exact after_succ_eq_some_iff.mpr ⟨_, reached, stepped⟩
      · rw [exchanges_succ, reached, Option.bind_some, silent, made]
        rfl

/-! ## Straight programs -/

section Programs

variable {program : Program} (straight : Straight program.toList) (tape : Tape) (source : Source)
  (sink : Sink)

include straight

/-- Up to its last position a straight program is carried out one position a step. -/
theorem after_straight_program {count : Nat} (within : count ≤ program.size) :
    (start ⟨tape, source, sink⟩).after program count =
        some ⟨count, tape.through (program.toList.take count), source, sink⟩ ∧
      (start ⟨tape, source, sink⟩).exchanges program count = [] := by
  have text : program.toList = [] ++ (program.toList ++ []) := by simp
  have gone := after_straight text straight tape source sink count (by simpa using within)
  rwa [List.length_nil, Nat.zero_add] at gone

/-- Having gone through the whole text, it comes to its end and not before. -/
theorem run_straight_program (limit : Nat) :
    (start ⟨tape, source, sink⟩).run program limit =
      if limit ≤ program.size then none
      else some ⟨⟨program.size, tape.through program.toList, source, sink⟩, none⟩ := by
  obtain ⟨reached, _⟩ :=
    after_straight_program straight tape source sink (Nat.le_refl program.size)
  rw [List.take_of_length_le (by simp)] at reached
  have outside : program[program.size]? = none := Array.getElem?_eq_none (Nat.le_refl _)
  have ended : step program ⟨program.size, tape.through program.toList, source, sink⟩ =
      .ended ⟨program.size, tape.through program.toList, source, sink⟩ :=
    step_eq_iff.mpr (.ended outside)
  split
  · exact run_eq_none_of_after reached ‹_›
  · have behind := Nat.lt_of_not_le ‹_›
    exact run_eq_some_iff.mpr ⟨program.size, behind, _, reached, by rw [ended]; rfl⟩

/-- No limit is so large that a straight program makes an exchange. -/
theorem exchanges_straight_program (limit : Nat) :
    (start ⟨tape, source, sink⟩).exchanges program limit = [] := by
  by_cases within : limit ≤ program.size
  · exact (after_straight_program straight tape source sink within).2
  · have stopped := run_straight_program straight tape source sink (program.size + 1)
    rw [if_neg (Nat.not_succ_le_self _)] at stopped
    obtain ⟨reached, silent⟩ :=
      after_straight_program straight tape source sink (Nat.le_refl program.size)
    obtain ⟨more, rfl⟩ := Nat.exists_eq_add_of_le (Nat.lt_of_not_le within)
    rw [exchanges_add_of_run stopped, exchanges_succ, silent, reached, Option.bind_some,
      exchange_of_not_action (by simp)]
    rfl

end Programs

/-- A straight program, run on any ring from any content of its cells and any position of the head,
is over after as many steps as it has positions, comments included, and not before; it reads and
writes nothing. By then the head has moved around the ring by as many cells to the right as there
are more moves to the right than to the left, and every cell has gained modulo 256 what is added
less what is taken away at the positions before which the moves have led the head to the cell. -/
theorem straight_program_adds_up (program : Program) (straight : Straight program.toList)
    (tape : Tape) (source : Source) (sink : Sink) :
    let machine := start ⟨tape, source, sink⟩
    (∀ count, (∃ later, machine.after program count = some later) ↔ count ≤ program.size) ∧
    (∀ limit, machine.exchanges program limit = []) ∧
    ∃ last : Tape,
      machine.after program program.size = some ⟨program.size, last, source, sink⟩ ∧
      (∀ limit, machine.run program limit =
        if limit ≤ program.size then none else some ⟨⟨program.size, last, source, sink⟩, none⟩) ∧
      last.size = tape.size ∧
      (last.head : Int) = (tape.head + program.toList.count (.action .right) -
        program.toList.count (.action .left)) % tape.size ∧
      ∀ index : Int, last.value index =
        (tape.value index + gain tape.size (index - tape.head) program.toList) % 256 := by
  intro machine
  have run := run_straight_program straight tape source sink
  have steps {count : Nat} (within : count ≤ program.size) :=
    (after_straight_program straight tape source sink within).1
  refine ⟨fun count => ⟨?_, fun within => ⟨_, steps within⟩⟩,
    exchanges_straight_program straight tape source sink,
    tape.through program.toList, ?_, run, tape.size_through _, ?_,
    fun index => tape.value_through _ index⟩
  · rintro ⟨later, reached⟩
    by_contra beyond
    have running := run_eq_none_of_after reached (Nat.lt_of_not_le beyond)
    rw [run, if_neg (Nat.not_succ_le_self _)] at running
    cases running
  · have reached := steps (Nat.le_refl program.size)
    rwa [List.take_of_length_le (by simp)] at reached
  · rw [Tape.head_through, displacement, Int.add_sub_assoc]

/-- The program `-<<<x+` goes one and a half times around a ring of two cells: it takes one from the
cell where it begins, which wraps around, and so does the other one when one is added to it. -/
theorem straight_program_adds_up_of_turns :
    let program : Program := .ofText "-<<<x+"
    let tape : Tape := ⟨#[0, 255], 0, by decide⟩
    Straight program.toList ∧
      ∃ last : Tape,
        (start ⟨tape, .empty, .plain⟩).run program 7 =
          some ⟨⟨6, last, .empty, .plain⟩, none⟩ ∧
        last.head = 1 ∧ last.value 0 = 255 ∧ last.value 1 = 0 := by
  intro program tape
  have straight : Straight program.toList := by decide
  obtain ⟨_, _, last, _, run, _, head, values⟩ :=
    straight_program_adds_up program straight tape .empty .plain
  refine ⟨straight, last, run 7, ?_, (values 0).trans (by decide), (values 1).trans (by decide)⟩
  exact Int.natCast_inj.mp (head.trans (by decide))

end Machine

end RingTape
