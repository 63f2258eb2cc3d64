/-
# Programs without their comments

When the comments are taken out of a program, every other instruction is found again at its
rank, the number of instructions before it, and brackets keep their partners, as comments do
not count when a stretch is balanced. The run of the stripped program is the run of the program
without the steps over comments. So who sees only the streams cannot tell them apart, and a
complaint about a bracket is about the same instruction, counted without comments.
-/

import RingTape.Proofs.Interpretation
import RingTape.Proofs.Relocation

namespace RingTape

/-! ## Lists with elements left out -/

/-- What is left of a list has at an index the element that as many others of them stand
before. -/
theorem getElem?_filter_eq_some_iff {α : Type} {chosen : α → Bool} {list : List α} {index : Nat}
    {element : α} :
    (list.filter chosen)[index]? = some element ↔
      ∃ position, list[position]? = some element ∧ chosen element ∧
        (list.take position).countP chosen = index := by
  induction list generalizing index with
  | nil => simp
  | cons first rest ih =>
      rw [← Nat.or_exists_add_one]
      by_cases kept : chosen first
      · rw [List.filter_cons_of_pos kept]
        cases index with
        | zero =>
            simp only [List.getElem?_cons_zero, List.take_zero, List.countP_nil,
              List.take_succ_cons, List.countP_cons_of_pos kept, Nat.succ_ne_zero, and_false,
              exists_false, or_false, and_true, Option.some.injEq]
            exact ⟨fun same => ⟨same, same ▸ kept⟩, And.left⟩
        | succ index => simp [kept, ih]
      · rw [List.filter_cons_of_neg kept, ih]
        have notFirst : ¬ ((first :: rest)[0]? = some element ∧ chosen element = true ∧
            ((first :: rest).take 0).countP chosen = index) := by
          rintro ⟨same, chosenElement, _⟩
          exact kept (Option.some.inj same ▸ chosenElement)
        rw [or_iff_right notFirst]
        simp [kept]

/-- What is left of a list is what is left of a beginning and then of the rest. -/
theorem filter_take_append_filter_drop {α : Type} (chosen : α → Bool) (list : List α)
    (length : Nat) :
    (list.take length).filter chosen ++ (list.drop length).filter chosen =
      list.filter chosen := by
  rw [← List.filter_append, List.take_append_drop]

/-- As many elements as a beginning has chosen ones are what is left of the beginning. -/
theorem take_countP_filter {α : Type} (chosen : α → Bool) (list : List α) (length : Nat) :
    (list.filter chosen).take ((list.take length).countP chosen) =
      (list.take length).filter chosen := by
  rw [← filter_take_append_filter_drop chosen list length, List.countP_eq_length_filter,
    List.take_left]

theorem drop_countP_filter {α : Type} (chosen : α → Bool) (list : List α) (length : Nat) :
    (list.filter chosen).drop ((list.take length).countP chosen) =
      (list.drop length).filter chosen := by
  rw [← filter_take_append_filter_drop chosen list length, List.countP_eq_length_filter,
    List.drop_left]

/-! ## Comments and nesting -/

/-- Reading over comments leads to no other level. -/
theorem nesting_filter_isProper (depth : Nat) (stretch : List Instruction) :
    nesting depth (stretch.filter Instruction.isProper) = nesting depth stretch := by
  induction stretch generalizing depth with
  | nil => rfl
  | cons instruction rest ih =>
      cases instruction with
      | action action => cases action <;> simp [Instruction.isProper, ih]
      | loopStart => simp [Instruction.isProper, ih]
      | loopEnd => cases depth <;> simp [Instruction.isProper, ih]

theorem balanced_filter_isProper_iff {stretch : List Instruction} :
    Balanced (stretch.filter Instruction.isProper) ↔ Balanced stretch := by
  rw [balanced_iff_nesting, balanced_iff_nesting, nesting_filter_isProper]

namespace Program

variable {program : Program} {position start finish : Nat} {instruction : Instruction}

/-! ## Ranks -/

/-- The number of instructions before a position that are no comments. -/
def rank (program : Program) (position : Nat) : Nat :=
  (program.toList.take position).countP Instruction.isProper

theorem rank_succ (here : program[position]? = some instruction) :
    program.rank (position + 1) =
      program.rank position + if instruction.isProper then 1 else 0 := by
  rw [rank, rank, List.take_add_one, Array.getElem?_toList, here, List.countP_append,
    Option.toList_some, List.countP_singleton]

theorem rank_succ_of_isProper (here : program[position]? = some instruction)
    (isProper : instruction.isProper) :
    program.rank (position + 1) = program.rank position + 1 := by
  rw [rank_succ here, if_pos isProper]

theorem rank_succ_of_comment (here : program[position]? = some (.action .comment)) :
    program.rank (position + 1) = program.rank position :=
  rank_succ here

theorem toList_stripped (program : Program) :
    program.stripped.toList = program.toList.filter Instruction.isProper :=
  Array.toList_filter

/-- At the end of the program the rank is the size of the stripped program. -/
theorem rank_size (program : Program) : program.rank program.size = program.stripped.size := by
  rw [rank, ← Array.length_toList, List.take_length, ← Array.length_toList, toList_stripped,
    List.countP_eq_length_filter]

/-- The stripped program has each instruction at its rank. -/
theorem getElem?_stripped_eq_some_iff {index : Nat} :
    program.stripped[index]? = some instruction ↔
      ∃ position, program[position]? = some instruction ∧ instruction.isProper ∧
        program.rank position = index := by
  rw [← Array.getElem?_toList, toList_stripped, getElem?_filter_eq_some_iff]
  simp only [Array.getElem?_toList, rank]

theorem rank_mono (program : Program) (ordered : start ≤ finish) :
    program.rank start ≤ program.rank finish :=
  List.Sublist.countP_le (List.take_sublist_take_left ordered)

theorem between_stripped (ordered : start ≤ finish) :
    program.stripped.between (program.rank start) (program.rank finish) =
      (program.between start finish).filter Instruction.isProper := by
  have before : program.rank start =
      ((program.toList.take finish).take start).countP Instruction.isProper := by
    rw [List.take_take, Nat.min_eq_left ordered, rank]
  rw [between, between, before, toList_stripped, rank, take_countP_filter, drop_countP_filter]

theorem rank_lt_rank_iff (here : program[start]? = some instruction)
    (isProper : instruction.isProper) :
    program.rank start < program.rank finish ↔ start < finish := by
  constructor
  · intro lower
    by_contra behind
    have upper := program.rank_mono (Nat.le_of_not_lt behind)
    omega
  · intro ordered
    have upper := program.rank_mono (Nat.succ_le_of_lt ordered)
    rw [rank_succ_of_isProper here isProper] at upper
    omega

/-- Brackets belong together in the stripped program if they do in the program. -/
theorem matched_stripped_iff (opening : program[start]? = some .loopStart)
    (closing : program[finish]? = some .loopEnd) :
    program.stripped.Matched (program.rank start) (program.rank finish) ↔
      program.Matched start finish := by
  have openingThere : program.stripped[program.rank start]? = some .loopStart :=
    getElem?_stripped_eq_some_iff.mpr ⟨start, opening, rfl, rfl⟩
  have closingThere : program.stripped[program.rank finish]? = some .loopEnd :=
    getElem?_stripped_eq_some_iff.mpr ⟨finish, closing, rfl, rfl⟩
  rw [Matched, Matched, rank_lt_rank_iff opening rfl]
  refine and_congr_right fun ordered => ?_
  rw [← rank_succ_of_isProper opening rfl, between_stripped (Nat.succ_le_of_lt ordered),
    balanced_filter_isProper_iff]
  simp only [opening, closing, openingThere, closingThere]

/-- The program is found in the stripped program, but for its comments. -/
theorem found_stripped (program : Program) :
    program.Found program.rank (fun instruction => instruction.isProper) program.stripped where
  brackets := ⟨rfl, rfl⟩
  outside := by
    intro position nothing
    have behind := program.rank_mono (Array.getElem?_eq_none_iff.mp nothing)
    rw [rank_size] at behind
    exact Array.getElem?_eq_none behind
  here here isProper := getElem?_stripped_eq_some_iff.mpr ⟨_, here, isProper, rfl⟩
  next here isProper := rank_succ_of_isProper here isProper
  finish := by
    intro start opening finish
    constructor
    · intro matched
      obtain ⟨original, closing, _, rfl⟩ := getElem?_stripped_eq_some_iff.mp matched.closing
      exact ⟨original, (matched_stripped_iff opening closing).mp matched, rfl⟩
    · rintro ⟨original, matched, rfl⟩
      exact (matched_stripped_iff matched.opening matched.closing).mpr matched
  start := by
    intro finish closing start
    constructor
    · intro matched
      obtain ⟨original, opening, _, rfl⟩ := getElem?_stripped_eq_some_iff.mp matched.opening
      exact ⟨original, (matched_stripped_iff opening closing).mp matched, rfl⟩
    · rintro ⟨original, matched, rfl⟩
      exact (matched_stripped_iff matched.opening matched.closing).mpr matched

/-- Among the positions before one, as many are listed as its rank says. -/
theorem countP_range_eq_rank (inRange : position ≤ program.size) :
    (List.range position).countP
      (fun earlier => (program[earlier]?.map Instruction.isProper).getD false) =
        program.rank position := by
  induction position with
  | zero => rfl
  | succ position ih =>
      have here : program[position]? = some program[position] :=
        Array.getElem?_eq_getElem inRange
      rw [List.range_succ, List.countP_append, ih (Nat.le_of_lt inRange), rank_succ here,
        List.countP_singleton, here]
      rfl

theorem properPositions_getElem?_eq_some_iff {index : Nat} :
    program.properPositions[index]? = some position ↔
      ∃ instruction, program[position]? = some instruction ∧ instruction.isProper ∧
        program.rank position = index := by
  have listed (other : Nat) : (List.range program.size)[other]? = some position ↔
      other = position ∧ position < program.size := by
    simp only [List.getElem?_eq_some_iff, List.getElem_range, List.length_range, exists_prop]
    constructor
    · rintro ⟨inRange, rfl⟩
      exact ⟨rfl, inRange⟩
    · rintro ⟨rfl, inRange⟩
      exact ⟨inRange, rfl⟩
  have counted (inRange : position < program.size) :
      ((List.range program.size).take position).countP
        (fun earlier => (program[earlier]?.map Instruction.isProper).getD false) =
          program.rank position := by
    rw [List.take_range, Nat.min_eq_left (Nat.le_of_lt inRange),
      countP_range_eq_rank (Nat.le_of_lt inRange)]
  rw [properPositions, getElem?_filter_eq_some_iff]
  constructor
  · rintro ⟨other, there, chosen, ranked⟩
    obtain ⟨rfl, inRange⟩ := (listed other).mp there
    rw [counted inRange] at ranked
    have here := Array.getElem?_eq_getElem inRange
    rw [here] at chosen
    exact ⟨_, here, chosen, ranked⟩
  · rintro ⟨instruction, here, isProper, ranked⟩
    have inRange := (Array.getElem?_eq_some_iff.mp here).1
    rw [← counted inRange] at ranked
    refine ⟨position, (listed position).mpr ⟨rfl, inRange⟩, ?_, ranked⟩
    rw [here]
    exact isProper

end Program

/-! ## Runs -/

namespace Machine

variable {τ : Type} [TapeLike τ] {program : Program} {machine later : Machine τ}
  {exchanged : List Exchange}

/-- Over a comment control passes on, and in the stripped program it stays where it is. -/
theorem advanced_of_comment (here : program[machine.position]? = some (.action .comment)) :
    machine.step program = .advanced ⟨machine.position + 1, machine.workspace⟩ ∧
      machine.exchange program = none ∧
      relocate program.rank ⟨machine.position + 1, machine.workspace⟩ =
        machine.relocate program.rank := by
  refine ⟨step_eq_iff.mpr (.acted here rfl), ?_, ?_⟩
  · rw [exchange_of_action here]
    rfl
  · simp only [relocate, Program.rank_succ_of_comment here]

/-- Any position is one of a comment or one that the stripped program has, too. -/
theorem comment_or_isProper (program : Program) (position : Nat) :
    program[position]? = some (.action .comment) ∨
      ∀ instruction, program[position]? = some instruction → instruction.isProper := by
  by_cases comment : program[position]? = some (.action .comment)
  · exact .inl comment
  · refine .inr fun instruction here => ?_
    rw [Instruction.isProper, decide_eq_true_iff]
    rintro rfl
    exact comment here

/-- The stripped program makes the step, too, or it has made it already. -/
theorem reaches_stripped_of_step (stepped : machine.step program = .advanced later) :
    Reaches program.stripped (machine.relocate program.rank) (machine.exchange program).toList
      (later.relocate program.rank) := by
  rcases comment_or_isProper program machine.position with comment | isProper
  · obtain ⟨passed, silent, same⟩ := advanced_of_comment comment
    rw [stepped, Progress.advanced.injEq] at passed
    rw [silent, passed, same]
    exact .refl _ _
  · have found := program.found_stripped
    rw [← exchange_relocate found isProper]
    exact .of_step (by rw [step_relocate found isProper, stepped]; rfl)

theorem Reaches.stripped (reaches : Reaches program machine exchanged later) :
    Reaches program.stripped (machine.relocate program.rank) exchanged
      (later.relocate program.rank) := by
  obtain ⟨count, reached, rfl⟩ := reaches
  induction count generalizing machine with
  | zero =>
      obtain rfl := Option.some.inj reached
      exact .refl _ _
  | succ count ih =>
      rw [after] at reached
      cases outcome : machine.step program with
      | ended last => simp [outcome] at reached
      | failed last fault => simp [outcome] at reached
      | advanced next =>
          simp only [outcome] at reached
          rw [exchanges_succ_of_advanced outcome]
          exact (reaches_stripped_of_step outcome).trans (ih reached)

/-- Where no step leads on there is no comment. -/
theorem isProper_of_not_advanced {progress : Progress τ}
    (stepped : machine.step program = progress) (stuck : ∀ next, progress ≠ .advanced next)
    (instruction : Instruction) (here : program[machine.position]? = some instruction) :
    instruction.isProper := by
  rcases comment_or_isProper program machine.position with comment | isProper
  · exact absurd (stepped.symm.trans (advanced_of_comment comment).1) (stuck _)
  · exact isProper instruction here

theorem Stops.stripped {halt : Halt τ} (stops : Stops program machine exchanged halt) :
    Stops program.stripped (machine.relocate program.rank) exchanged
      (halt.relocate program.rank) := by
  obtain ⟨limit, stopped, rfl⟩ := stops
  have found := program.found_stripped
  induction limit generalizing machine with
  | zero => simp [run] at stopped
  | succ limit ih =>
      rw [run] at stopped
      cases outcome : machine.step program with
      | ended last =>
          have isProper := isProper_of_not_advanced outcome (by simp)
          have stepped := step_relocate found isProper
          simp only [outcome, Option.some.injEq] at stopped stepped
          rw [exchanges, outcome, List.append_nil, ← exchange_relocate found isProper, ← stopped]
          exact stops_of_ended stepped
      | failed last fault =>
          have isProper := isProper_of_not_advanced outcome (by simp)
          have stepped := step_relocate found isProper
          simp only [outcome, Option.some.injEq] at stopped stepped
          rw [exchanges, outcome, List.append_nil, ← exchange_relocate found isProper, ← stopped]
          exact stops_of_failed stepped
      | advanced next =>
          simp only [outcome] at stopped
          rw [exchanges_succ_of_advanced outcome]
          exact (reaches_stripped_of_step outcome).stops (ih stopped)

/-! ## Back to the comments -/

/-- Control gets over the comments in front of it, to an instruction or to the end. -/
theorem exists_settled (program : Program) (machine : Machine τ) :
    ∃ settled, Reaches program machine [] settled ∧
      settled.relocate program.rank = machine.relocate program.rank ∧
      ∀ instruction, program[settled.position]? = some instruction → instruction.isProper := by
  -- The number of positions to the end of the program decreases.
  induction distance : program.size - machine.position generalizing machine with
  | zero =>
      refine ⟨machine, .refl _ _, rfl, fun instruction here => ?_⟩
      have inside := (Array.getElem?_eq_some_iff.mp here).1
      omega
  | succ distance ih =>
      rcases comment_or_isProper program machine.position with comment | isProper
      · obtain ⟨passed, silent, same⟩ := advanced_of_comment comment
        obtain ⟨settled, reaches, unmoved, isProper⟩ :=
          ih ⟨machine.position + 1, machine.workspace⟩ (by simp only; omega)
        have reachesNext := Reaches.of_step passed
        rw [silent] at reachesNext
        exact ⟨settled, reachesNext.trans reaches, unmoved.trans same, isProper⟩
      · exact ⟨machine, .refl _ _, rfl, isProper⟩

/-- Every state that the stripped program gets to is one that the program gets to. -/
theorem exists_reaches_of_stripped (machine : Machine τ) {target : Machine τ}
    (reaches : Reaches program.stripped (machine.relocate program.rank) exchanged target) :
    ∃ later, Reaches program machine exchanged later ∧
      later.relocate program.rank = target := by
  obtain ⟨count, reached, rfl⟩ := reaches
  have found := program.found_stripped
  induction count generalizing machine with
  | zero => exact ⟨machine, .refl _ _, Option.some.inj reached⟩
  | succ count ih =>
      obtain ⟨settled, reachesSettled, same, isProper⟩ := exists_settled program machine
      have stepped := step_relocate found isProper
      rw [← same, after, stepped] at reached
      cases outcome : settled.step program with
      | ended last => simp [outcome, Progress.relocate] at reached
      | failed last fault => simp [outcome, Progress.relocate] at reached
      | advanced next =>
          rw [outcome] at reached stepped
          obtain ⟨later, onwards, place⟩ := ih next reached
          rw [← same, exchanges_succ_of_advanced stepped, exchange_relocate found isProper]
          exact ⟨later, reachesSettled.trans ((Reaches.of_step outcome).trans onwards), place⟩

theorem exists_stops_of_stripped (machine : Machine τ) {halt : Halt τ}
    (stops : Stops program.stripped (machine.relocate program.rank) exchanged halt) :
    ∃ original, Stops program machine exchanged original ∧
      original.relocate program.rank = halt := by
  obtain ⟨limit, stopped, rfl⟩ := stops
  have found := program.found_stripped
  induction limit generalizing machine with
  | zero => simp [run] at stopped
  | succ limit ih =>
      obtain ⟨settled, reachesSettled, same, isProper⟩ := exists_settled program machine
      have stepped := step_relocate found isProper
      rw [← same, run, stepped] at stopped
      rw [← same, exchanges, stepped, exchange_relocate found isProper]
      cases outcome : settled.step program with
      | ended last =>
          simp only [outcome, Progress.relocate, Option.some.injEq, List.append_nil] at stopped ⊢
          exact ⟨_, reachesSettled.stops (stops_of_ended outcome), stopped⟩
      | failed last fault =>
          simp only [outcome, Progress.relocate, Option.some.injEq, List.append_nil] at stopped ⊢
          exact ⟨_, reachesSettled.stops (stops_of_failed outcome), stopped⟩
      | advanced next =>
          rw [outcome] at stopped
          obtain ⟨original, onwards, place⟩ := ih next stopped
          exact ⟨original, reachesSettled.stops ((Reaches.of_step outcome).stops onwards), place⟩

/-- With comments and without, the same exchanges are made, and in the same order. -/
theorem exists_exchanges_stripped_iff {workspace : Workspace τ} :
    (∃ count, (start workspace).exchanges program count = exchanged) ↔
      ∃ count, (start workspace).exchanges program.stripped count = exchanged := by
  constructor
  · rintro ⟨count, rfl⟩
    rcases reaches_or_stops program count (start workspace) with ⟨later, reaches⟩ | ⟨halt, stops⟩
    · obtain ⟨fewer, _, same⟩ := reaches.stripped
      exact ⟨fewer, same⟩
    · obtain ⟨fewer, _, same⟩ := stops.stripped
      exact ⟨fewer, same⟩
  · rintro ⟨count, rfl⟩
    rcases reaches_or_stops program.stripped count (start workspace) with
      ⟨target, reaches⟩ | ⟨halt, stops⟩
    · obtain ⟨later, ⟨more, _, same⟩, _⟩ :=
        exists_reaches_of_stripped (start workspace) reaches
      exact ⟨more, same⟩
    · obtain ⟨original, ⟨more, _, same⟩, _⟩ :=
        exists_stops_of_stripped (start workspace) stops
      exact ⟨more, same⟩

end Machine

namespace Interpreter

open Machine (start Stops)

variable {code : Code} {program : Program} {size : Value} {source : Source} {sink : Sink}

/-- The interpretation of the stripped code comes to an end as that of the code does. -/
theorem exists_interpret_stripped (given : code.program = .ok program) {limit : Nat}
    {report : Report} (interpreted : interpret limit code size source sink = some report) :
    ∃ larger, interpret larger code.stripped size source sink =
      some (report.relocate program.rank) := by
  rcases prepare_alike given (Code.program_stripped given) size with
    ⟨cells, tape, prepared, otherPrepared⟩ | ⟨failure, refused, otherRefused, before⟩
  · obtain ⟨exchanged, halt, stops, rfl⟩ :=
      (exists_interpret_iff prepared).mp ⟨limit, interpreted⟩
    refine (exists_interpret_iff otherPrepared).mpr
      ⟨exchanged, halt.relocate program.rank, stops.stripped, ?_⟩
    rw [← conclude_relocate, Program.rank_size]
  · rw [interpret_of_refuse refused, Option.some.injEq] at interpreted
    subst interpreted
    refine ⟨limit, ?_⟩
    rw [interpret_of_refuse otherRefused, Report.relocate, Option.map_some,
      Failure.relocate_of_ne_unmatched _ fun _ _ => before _]
    rfl

theorem exists_interpret_of_stripped (given : code.program = .ok program) {limit : Nat}
    {report : Report}
    (interpreted : interpret limit code.stripped size source sink = some report) :
    ∃ larger original, interpret larger code size source sink = some original := by
  rcases prepare_alike given (Code.program_stripped given) size with
    ⟨cells, tape, prepared, otherPrepared⟩ | ⟨failure, refused, _, _⟩
  · obtain ⟨exchanged, halt, stops, rfl⟩ :=
      (exists_interpret_iff otherPrepared).mp ⟨limit, interpreted⟩
    obtain ⟨original, stopsOriginal, _⟩ :=
      Machine.exists_stops_of_stripped (start ⟨tape, source, sink⟩) stops
    obtain ⟨larger, found⟩ :=
      (exists_interpret_iff prepared).mpr ⟨exchanged, original, stopsOriginal, rfl⟩
    exact ⟨larger, _, found⟩
  · exact ⟨limit, _, interpret_of_refuse refused limit source sink⟩

/-- A complaint is about a bracket that the program has. -/
theorem exists_bracket_of_interpret (given : code.program = .ok program) {limit : Nat}
    {report : Report} (interpreted : interpret limit code size source sink = some report)
    {kind : Bracket} {position : Int}
    (complaint : report.failure = some (.brokenOff (.unmatched kind position))) :
    ∃ bracket : Nat, position = bracket ∧ program.Unmatched bracket := by
  rcases prepare_alike given given size with
    ⟨cells, tape, prepared, _⟩ | ⟨failure, refused, _, before⟩
  · obtain ⟨exchanged, ⟨last, fault⟩, ⟨enough, stopped, _⟩, rfl⟩ :=
      (exists_interpret_iff prepared).mp ⟨limit, interpreted⟩
    rw [failure_conclude, Option.map_eq_some_iff] at complaint
    obtain ⟨broken, found, same⟩ := complaint
    obtain rfl := Failure.brokenOff.inj same
    cases fault with
    | some fault =>
        obtain rfl := Option.some.inj found
        obtain ⟨unmatched, rfl⟩ := Machine.complaint_of_run stopped
        exact ⟨last.position, rfl, unmatched⟩
    | none =>
        obtain ⟨_, _, other⟩ := Sink.flush_eq_some found
        cases other
  · rw [interpret_of_refuse refused, Option.some.injEq] at interpreted
    subst interpreted
    exact absurd (Option.some.inj complaint) (before _)

/-- What the stripped code fails with is what the code fails with, a complaint about a bracket
being about the same instruction. -/
theorem failure_relocate_iff (given : code.program = .ok program) {limit : Nat}
    {report : Report} (interpreted : interpret limit code size source sink = some report)
    (bracket : Bracket) (index : Nat) :
    (report.relocate program.rank).failure =
        some (.brokenOff (.unmatched bracket index)) ↔
      ∃ position : Nat, program.properPositions[index]? = some position ∧
        report.failure = some (.brokenOff (.unmatched bracket position)) := by
  rw [Report.relocate, Option.map_eq_some_iff]
  simp only [Failure.relocate_eq_unmatched_iff, Int.ofNat_inj]
  constructor
  · rintro ⟨_, failed, original, rfl, ranked⟩
    obtain ⟨position, rfl, unmatched⟩ := exists_bracket_of_interpret given interpreted failed
    rw [Int.toNat_natCast] at ranked
    refine ⟨position, Program.properPositions_getElem?_eq_some_iff.mpr ?_, failed⟩
    rcases unmatched.isBracket with opening | closing
    · exact ⟨_, opening, rfl, ranked⟩
    · exact ⟨_, closing, rfl, ranked⟩
  · rintro ⟨position, listed, failed⟩
    obtain ⟨_, _, _, ranked⟩ := Program.properPositions_getElem?_eq_some_iff.mp listed
    exact ⟨_, failed, position, rfl, ranked⟩

/-- Any other failure, and its absence, does not depend on places. -/
theorem failure_relocate_of_ne {place : Nat → Nat} {report : Report} {failure : Option Failure}
    (other : ∀ bracket position, failure ≠ some (.brokenOff (.unmatched bracket position))) :
    (report.relocate place).failure = failure ↔ report.failure = failure := by
  rw [Report.relocate]
  cases failed : report.failure with
  | none => rfl
  | some reason =>
      by_cases complaint : ∃ bracket position, reason = .brokenOff (.unmatched bracket position)
      · obtain ⟨bracket, position, rfl⟩ := complaint
        have notBefore := (other bracket position).symm
        have notAfter := (other bracket (place position.toNat)).symm
        exact iff_of_false notAfter notBefore
      · simp only [not_exists] at complaint
        rw [Option.map_some, Failure.relocate_of_ne_unmatched place complaint]

/-- Comments make no difference. When every element of some code that is not exactly one of the
eight instructions is taken out, the sequence of reads and writes stays the same, whether it
ends or not; the interpretation comes to an end with the comments if and only if it does without
them, and then the source and the sink are in the same states, flushes included, and it fails in
the same way or not at all. Only a complaint is about another position: the stripped code
complains about an index when the code complains about the position of its instruction of that
index. -/
theorem comments_make_no_difference (code : Code) (program : Program)
    (given : code.program = .ok program) (size : Value) (source : Source) (sink : Sink) :
    code.stripped.program = .ok program.stripped ∧
    (∀ (workspace : Workspace Tape) exchanged,
      (∃ count, (start workspace).exchanges program count = exchanged) ↔
        ∃ count, (start workspace).exchanges program.stripped count = exchanged) ∧
    ((∃ limit report, interpret limit code size source sink = some report) ↔
      ∃ limit report, interpret limit code.stripped size source sink = some report) ∧
    ∀ limit report larger other,
      interpret limit code size source sink = some report →
      interpret larger code.stripped size source sink = some other →
        other.source = report.source ∧ other.sink = report.sink ∧
        (∀ bracket (index : Nat),
          other.failure = some (.brokenOff (.unmatched bracket index)) ↔
            ∃ position : Nat, program.properPositions[index]? = some position ∧
              report.failure = some (.brokenOff (.unmatched bracket position))) ∧
        ∀ failure,
          (∀ bracket position, failure ≠ some (.brokenOff (.unmatched bracket position))) →
            (other.failure = failure ↔ report.failure = failure) := by
  refine ⟨Code.program_stripped given, ?_, ⟨?_, ?_⟩, ?_⟩
  · intro workspace exchanged
    exact Machine.exists_exchanges_stripped_iff
  · rintro ⟨limit, report, interpreted⟩
    obtain ⟨larger, found⟩ := exists_interpret_stripped given interpreted
    exact ⟨larger, _, found⟩
  · rintro ⟨limit, report, interpreted⟩
    exact exists_interpret_of_stripped given interpreted
  · intro limit report larger other interpreted otherwise
    obtain ⟨enough, found⟩ := exists_interpret_stripped given interpreted
    obtain rfl := interpret_unique found otherwise
    exact ⟨rfl, rfl, failure_relocate_iff given interpreted, fun _ => failure_relocate_of_ne⟩

/-- In the list of `+`, `++`, `[[`, nothing, a number, no value and `]` two pieces are
instructions. The list complains about the last of its pieces, and without the comments it
complains about the second. -/
theorem comments_make_no_difference_of_pieces :
    let code := Code.pieces
      [.text "+", .text "++", .text "[[", .text "", .integer 3, .null, .text "]"]
    let comment := Instruction.action .comment
    let program : Program :=
      #[.action .increment, comment, comment, comment, comment, comment, .loopEnd]
    code.program = .ok program ∧ code.stripped = .pieces [.text "+", .text "]"] ∧
      program.properPositions[1]? = some 6 ∧
      (interpret 7 code (.integer 1) .empty .plain).map Report.failure =
        some (some (.brokenOff (.unmatched .closing 6))) ∧
      ∃ limit other, interpret limit code.stripped (.integer 1) .empty .plain = some other ∧
        other.failure = some (.brokenOff (.unmatched .closing 1)) := by
  intro code comment program
  have given : code.program = .ok program := rfl
  have interpreted : interpret 7 code (.integer 1) .empty .plain = some _ := rfl
  obtain ⟨_, _, ends, same⟩ :=
    comments_make_no_difference code program given (.integer 1) .empty .plain
  obtain ⟨limit, other, otherwise⟩ := ends.mp ⟨7, _, interpreted⟩
  obtain ⟨_, _, complaints, _⟩ := same 7 _ limit other interpreted otherwise
  exact ⟨given, rfl, rfl, rfl, limit, other, otherwise,
    (complaints .closing 1).mpr ⟨6, rfl, rfl⟩⟩

end Interpreter

end RingTape
