/-
# Replacing a part of a program

Two balanced programs that do the same on a ring of some size, whatever is on it and in the
streams, can stand for each other inside of any other program: within loops whose brackets are
on either side of them, entered any number of times, and jumped over. The whole programs stop
on the same inputs and leave the same behind, although it takes them different numbers of steps.
-/

import RingTape.Proofs.Insertion
import RingTape.Proofs.Interpretation
import RingTape.Proofs.Structured

namespace RingTape

/-! ## What a program does by itself -/

namespace Program

/-- Run from its start, the program stops in this workspace, with this fault if there is one. -/
def StopsIn (program : Program) (workspace last : Workspace Tape) (fault : Option Fault) : Prop :=
  ∃ limit position,
    (Machine.start workspace).run program limit = some ⟨⟨position, last⟩, fault⟩

/-- On every ring of so many cells, from every content of its cells, every position of the head
and every state of the streams, both programs stop in the same workspace and with the same
fault if there is one, or neither ever stops. -/
def Equivalent (cells : Nat) (first second : Program) : Prop :=
  ∀ workspace : Workspace Tape, workspace.tape.size = cells →
    (∃ last fault, first.StopsIn workspace last fault ∧ second.StopsIn workspace last fault) ∨
      ∀ last fault, ¬ first.StopsIn workspace last fault ∧ ¬ second.StopsIn workspace last fault

variable {program first second : Program} {workspace last other : Workspace Tape}
  {fault otherFault : Option Fault}

/-- A program stops in one way only. -/
theorem StopsIn.unique (stops : program.StopsIn workspace last fault)
    (otherwise : program.StopsIn workspace other otherFault) :
    last = other ∧ fault = otherFault := by
  obtain ⟨limit, position, stopped⟩ := stops
  obtain ⟨larger, elsewhere, stoppedLater⟩ := otherwise
  obtain ⟨_, same⟩ := Machine.Stops.unique ⟨limit, stopped, rfl⟩ ⟨larger, stoppedLater, rfl⟩
  simp only [Halt.mk.injEq, Machine.mk.injEq] at same
  exact ⟨same.1.2, same.2⟩

theorem Equivalent.symm {cells : Nat} (equivalent : Equivalent cells first second) :
    Equivalent cells second first := by
  intro workspace size
  rcases equivalent workspace size with ⟨last, fault, stopsFirst, stopsSecond⟩ | never
  · exact .inl ⟨last, fault, stopsSecond, stopsFirst⟩
  · exact .inr fun last fault => (never last fault).symm

theorem Equivalent.stopsIn (equivalent : Equivalent workspace.tape.size first second)
    (stops : first.StopsIn workspace last fault) : second.StopsIn workspace last fault := by
  rcases equivalent workspace rfl with ⟨last, fault, stopsFirst, stopsSecond⟩ | never
  · obtain ⟨rfl, rfl⟩ := stops.unique stopsFirst
    exact stopsSecond
  · exact absurd stops (never last fault).1

/-- A balanced program does not complain about brackets. -/
theorem StopsIn.ne_unmatched {fault : Fault} (balanced : Balanced program.toList)
    (stops : program.StopsIn workspace last (some fault)) (bracket : Bracket) (position : Int) :
    fault ≠ .unmatched bracket position := by
  rintro rfl
  obtain ⟨limit, _, stopped⟩ := stops
  exact not_unmatched_of_balanced_toList balanced _ (Machine.complaint_of_run stopped).1

end Program

/-! ## A program inside another -/

namespace Machine

section Fragments

variable {whole inside : Program} {before after : List Instruction}
  (text : whole.toList = before ++ (inside.toList ++ after)) (balanced : Balanced inside.toList)

include text balanced

/-- A balanced program does inside of another what it does by itself. -/
theorem answers_of_stopsIn {workspace last : Workspace Tape} {fault : Option Fault}
    (stops : inside.StopsIn workspace last fault) :
    ∃ exchanged, Tree.Answers whole ⟨before.length, workspace⟩ exchanged
      (before.length + inside.toList.length) (last, fault) := by
  obtain ⟨trees, spelled⟩ := Tree.exists_allInstructions_eq balanced
  obtain ⟨limit, position, stopped⟩ := stops
  obtain ⟨fuel, executed, _⟩ := Tree.exists_execute_of_stops spelled ⟨limit, stopped, rfl⟩
  rw [← spelled] at text ⊢
  exact ⟨_, Tree.simulated whole fuel text rfl rfl executed⟩

/-- Where the whole program stops, the program inside of it stops by itself. -/
theorem exists_stopsIn_of_run {workspace : Workspace Tape} {limit : Nat} {halt : Halt Tape}
    (stopped : run whole limit ⟨before.length, workspace⟩ = some halt) :
    ∃ last fault, inside.StopsIn workspace last fault := by
  obtain ⟨trees, spelled⟩ := Tree.exists_allInstructions_eq balanced
  rw [← spelled] at text
  obtain ⟨fuel, ⟨last, fault⟩, executed⟩ := Tree.terminated whole limit text stopped
  obtain ⟨position, _, enough, stops, _⟩ := Tree.exists_stops_of_execute spelled executed
  exact ⟨last, fault, enough, position, stops⟩

end Fragments

end Machine

/-! ## Replacement -/

/-- Positions of the same instruction in two programs that have texts of different lengths at
`place`, or the beginning of both texts. -/
inductive Facing (place length otherLength : Nat) : Nat → Nat → Prop
  | entry : Facing place length otherLength place place
  | outside (position : Nat) : Facing place length otherLength
      (shifted place length position) (shifted place otherLength position)

theorem Facing.start (place length otherLength : Nat) : Facing place length otherLength 0 0 := by
  have outside : Facing place length otherLength _ _ := .outside 0
  cases place with
  | zero => exact .entry
  | succ place => rwa [shifted_of_lt (Nat.succ_pos place), shifted_of_lt (Nat.succ_pos place)]
      at outside

/-- Behind an instruction outside of the texts, both programs are at their texts or outside of
them again. -/
theorem Facing.next (place length otherLength position : Nat) :
    Facing place length otherLength (shifted place length position + 1)
      (shifted place otherLength position + 1) := by
  have outside : Facing place length otherLength _ _ := .outside (position + 1)
  rcases Nat.lt_trichotomy (position + 1) place with before | last | behind
  · rw [shifted_of_lt before, shifted_of_lt before] at outside
    rwa [shifted_of_lt (Nat.lt_of_succ_lt before), shifted_of_lt (Nat.lt_of_succ_lt before)]
  · have lower : position < place := Nat.lt_of_succ_le (Nat.le_of_eq last)
    rw [shifted_of_lt lower, shifted_of_lt lower, last]
    exact .entry
  · have upper := Nat.le_of_lt_succ behind
    rw [shifted_of_le (Nat.le_of_lt behind), shifted_of_le (Nat.le_of_lt behind),
      Nat.add_right_comm position 1 length, Nat.add_right_comm position 1 otherLength] at outside
    rwa [shifted_of_le upper, shifted_of_le upper]

/-- What was shifted by one length is shifted by the other when the difference is added. -/
theorem Fault.shifted_shifted (place length otherLength : Nat) (fault : Fault) :
    (fault.shifted place length).shifted (place + length) (otherLength - length) =
      fault.shifted place otherLength := by
  cases fault with
  | stream message => rfl
  | manyCharacters length => rfl
  | unmatched bracket position =>
      simp only [Fault.shifted, Fault.unmatched.injEq, true_and]
      split <;> split <;> omega

/-- Two runs that stopped in the same workspace, and with the same fault but for the place of
a complaint. -/
structure Halt.Shifted (place : Nat) (distance : Int) (halt other : Halt Tape) : Prop where
  workspace : other.machine.workspace = halt.machine.workspace
  fault : other.fault = halt.fault.map (Fault.shifted place distance)

namespace Machine

section Replacement

variable {cells : Nat} {whole replaced inside substitute : Program}
  {before after : List Instruction}

/-- What stops within `limit` steps outside of the text that is replaced, or at its beginning,
stops at the same place of the other program. -/
def Imitated (cells : Nat) (whole replaced : Program) (place length otherLength limit : Nat) :
    Prop :=
  ∀ {position facing : Nat} {workspace : Workspace Tape} {halt : Halt Tape},
    workspace.tape.size = cells → Facing place length otherLength position facing →
      run whole limit ⟨position, workspace⟩ = some halt →
        ∃ larger other, run replaced larger ⟨facing, workspace⟩ = some other ∧
          halt.Shifted (place + length) (otherLength - length) other

variable (text : whole.toList = before ++ (inside.toList ++ after))
  (otherText : replaced.toList = before ++ (substitute.toList ++ after))
  (balanced : Balanced inside.toList) (otherBalanced : Balanced substitute.toList)

include text otherText balanced otherBalanced

/-- Outside of the texts both programs make the step of the program without them. -/
theorem exists_run_of_outside {limit : Nat}
    (smaller : ∀ fewer, fewer < limit → Imitated cells whole replaced before.length
      inside.toList.length substitute.toList.length fewer)
    {position : Nat} {workspace : Workspace Tape} {halt : Halt Tape}
    (size : workspace.tape.size = cells)
    (stopped : run whole limit
      ⟨shifted before.length inside.toList.length position, workspace⟩ = some halt) :
    ∃ larger other,
      run replaced larger
        ⟨shifted before.length substitute.toList.length position, workspace⟩ = some other ∧
      halt.Shifted (before.length + inside.toList.length)
        (substitute.toList.length - inside.toList.length) other := by
  have restText : (before ++ after).toArray.toList = before ++ after := rfl
  have stepped := step_shifted text restText balanced position workspace
  have otherStepped := step_shifted otherText restText otherBalanced position workspace
  cases limit with
  | zero => simp [run] at stopped
  | succ limit =>
      rw [run, stepped] at stopped
      cases outcome : step (before ++ after).toArray ⟨position, workspace⟩ with
      | ended last =>
          rw [outcome] at stopped otherStepped
          obtain rfl := Option.some.inj stopped
          refine ⟨1, ⟨⟨shifted before.length substitute.toList.length last.position,
            last.workspace⟩, none⟩, ?_, rfl, rfl⟩
          rw [run, otherStepped]
          rfl
      | failed last fault =>
          rw [outcome] at stopped otherStepped
          obtain rfl := Option.some.inj stopped
          refine ⟨1, ⟨⟨shifted before.length substitute.toList.length last.position,
            last.workspace⟩, some (fault.shifted before.length substitute.toList.length)⟩,
            ?_, rfl, congrArg some (Fault.shifted_shifted _ _ _ fault).symm⟩
          rw [run, otherStepped]
          rfl
      | advanced next =>
          rw [outcome] at stopped otherStepped
          have stays := (size_of_advanced outcome).trans size
          obtain ⟨larger, other, otherStopped, alike⟩ :=
            smaller limit (Nat.lt_succ_self limit) stays (.next _ _ _ _) stopped
          exact ⟨larger + 1, other, by rw [run, otherStepped]; exact otherStopped, alike⟩

/-- Where one text is run through, the other one is, and to the same effect. -/
theorem exists_run_of_entry (equivalent : Program.Equivalent cells inside substitute)
    {limit : Nat}
    (smaller : ∀ fewer, fewer < limit → Imitated cells whole replaced before.length
      inside.toList.length substitute.toList.length fewer)
    {workspace : Workspace Tape} {halt : Halt Tape} (size : workspace.tape.size = cells)
    (stopped : run whole limit ⟨before.length, workspace⟩ = some halt) :
    ∃ larger other, run replaced larger ⟨before.length, workspace⟩ = some other ∧
      halt.Shifted (before.length + inside.toList.length)
        (substitute.toList.length - inside.toList.length) other := by
  obtain ⟨last, fault, stops⟩ := exists_stopsIn_of_run text balanced stopped
  have otherStops : substitute.StopsIn workspace last fault := by
    subst size
    exact equivalent.stopsIn stops
  obtain ⟨_, answers⟩ := answers_of_stopsIn text balanced stops
  obtain ⟨_, otherAnswers⟩ := answers_of_stopsIn otherText otherBalanced otherStops
  cases fault with
  | none =>
      -- Behind the text the run has no more steps than from its beginning.
      have behind := Reaches.run answers stopped
      obtain ⟨_, through, _⟩ := answers
      have stays := (size_of_after through).trans size
      rw [← shifted_of_le (Nat.le_refl before.length)] at behind
      obtain ⟨larger, other, otherStopped, alike⟩ :=
        exists_run_of_outside text otherText balanced otherBalanced smaller stays behind
      rw [shifted_of_le (Nat.le_refl before.length)] at otherStopped
      obtain ⟨count, reached, _⟩ := otherAnswers
      exact ⟨count + larger, other, (run_add larger reached).trans otherStopped, alike⟩
  | some fault =>
      obtain ⟨position, brokenOff⟩ := answers
      obtain ⟨_, rfl⟩ := brokenOff.unique ⟨limit, stopped, rfl⟩
      obtain ⟨otherPosition, enough, otherStopped, _⟩ := otherAnswers
      refine ⟨enough, _, otherStopped, rfl, ?_⟩
      rw [Option.map_some, Fault.shifted_of_ne_unmatched _ _ (stops.ne_unmatched balanced)]

/-- The replaced program stops wherever the whole program does. The induction is on the number
of steps that the whole program has. -/
theorem imitated (equivalent : Program.Equivalent cells inside substitute) (limit : Nat) :
    Imitated cells whole replaced before.length inside.toList.length substitute.toList.length
      limit := by
  induction limit using Nat.strongRecOn with
  | ind limit ih =>
      intro position facing workspace halt size faces stopped
      cases faces with
      | entry =>
          exact exists_run_of_entry text otherText balanced otherBalanced equivalent ih size
            stopped
      | outside position =>
          exact exists_run_of_outside text otherText balanced otherBalanced ih size stopped

end Replacement

end Machine

/-- The same failure with the place of a complaint about a bracket moved by a distance, if it is
not before `place`. -/
def Failure.shifted (place : Nat) (distance : Int) : Failure → Failure
  | brokenOff fault => brokenOff (fault.shifted place distance)
  | other => other

/-- Two reports that agree on the streams, and on the failure but for the place of a
complaint. -/
structure Report.Shifted (place : Nat) (distance : Int) (report other : Report) : Prop where
  source : other.source = report.source
  sink : other.sink = report.sink
  failure : other.failure = report.failure.map (Failure.shifted place distance)

namespace Interpreter

theorem conclude_shifted {place : Nat} {distance : Int} {halt other : Halt Tape}
    (alike : halt.Shifted place distance other) (begun otherBegun : Event) :
    (conclude begun halt).Shifted place distance (conclude otherBegun other) := by
  obtain ⟨⟨position, workspace⟩, fault⟩ := halt
  obtain ⟨⟨otherPosition, otherWorkspace⟩, otherFault⟩ := other
  obtain ⟨sameWorkspace, sameFault⟩ := alike
  simp only at sameWorkspace sameFault
  subst sameWorkspace sameFault
  cases fault with
  | some fault => exact ⟨rfl, rfl, rfl⟩
  | none =>
      simp only [conclude_of_ended, finish, Option.map_none]
      cases flushed : otherWorkspace.sink.flush with
      | mk failed sink =>
          cases failed with
          | none => exact ⟨rfl, rfl, rfl⟩
          | some fault =>
              -- A flush fails as a stream does, and not with a complaint.
              obtain ⟨error, _, rfl⟩ := Sink.flush_eq_some (congrArg Prod.fst flushed)
              exact ⟨rfl, rfl, rfl⟩

section Replacement

variable {before inside substitute after : Program} {code otherCode : Code} {size : Value}
  {cells : { cells : Nat // 0 < cells }}

/-- Where one code comes to an end, the other does. -/
theorem exists_interpret_of_equivalent
    (given : code.program = .ok (before ++ inside ++ after))
    (otherGiven : otherCode.program = .ok (before ++ substitute ++ after))
    (checked : MemorySize.check size = .ok cells)
    (balanced : Balanced inside.toList) (otherBalanced : Balanced substitute.toList)
    (equivalent : Program.Equivalent cells.val inside substitute)
    {limit : Nat} {source : Source} {sink : Sink} {report : Report}
    (interpreted : interpret limit code size source sink = some report) :
    ∃ larger other, interpret larger otherCode size source sink = some other ∧
      report.Shifted (before.size + inside.size) (substitute.size - inside.size) other := by
  have prepared := prepare_of_check given checked
  have otherPrepared := prepare_of_check otherGiven checked
  cases made : MemorySize.allocate cells with
  | error failure =>
      rw [made] at prepared otherPrepared
      rw [interpret_of_refuse prepared] at interpreted
      obtain rfl := Option.some.inj interpreted
      refine ⟨0, _, interpret_of_refuse otherPrepared 0 source sink, rfl, rfl, ?_⟩
      rcases MemorySize.allocate_eq_error made with rfl | rfl <;> rfl
  | ok tape =>
      rw [made] at prepared otherPrepared
      rw [interpret_of_prepare prepared, Option.map_eq_some_iff] at interpreted
      obtain ⟨halt, stopped, rfl⟩ := interpreted
      have fits : tape.size = cells.val := by
        rw [MemorySize.eq_blank_of_allocate made, Tape.size_blank]
      have text : (before ++ inside ++ after).toList =
          before.toList ++ (inside.toList ++ after.toList) := by simp
      have otherText : (before ++ substitute ++ after).toList =
          before.toList ++ (substitute.toList ++ after.toList) := by simp
      obtain ⟨larger, other, otherStopped, alike⟩ :=
        Machine.imitated text otherText balanced otherBalanced equivalent limit fits
          (.start _ _ _) stopped
      simp only [Array.length_toList] at alike
      have otherInterpreted := interpret_of_prepare otherPrepared larger source sink
      rw [Machine.start, otherStopped, Option.map_some] at otherInterpreted
      exact ⟨larger, _, otherInterpreted, conclude_shifted alike _ _⟩

end Replacement

/-- Balanced programs that do the same on a ring of some size can stand for each other inside
of any program, whose own brackets may belong together around them or not at all: the
interpretation comes to an end with the one if and only if it does with the other, and then it
leaves the source and the sink in the same states and fails in the same way or not at all. Only
complaints about brackets behind the replaced part are about places that are as much further
on as the substitute is longer. -/
theorem equivalent_parts_are_interchangeable (before inside substitute after : Program)
    (code otherCode : Code) (size : Value) (cells : { cells : Nat // 0 < cells })
    (given : code.program = .ok (before ++ inside ++ after))
    (otherGiven : otherCode.program = .ok (before ++ substitute ++ after))
    (checked : MemorySize.check size = .ok cells)
    (balanced : Balanced inside.toList) (otherBalanced : Balanced substitute.toList)
    (equivalent : Program.Equivalent cells.val inside substitute)
    (source : Source) (sink : Sink) :
    ((∃ limit report, interpret limit code size source sink = some report) ↔
      ∃ limit report, interpret limit otherCode size source sink = some report) ∧
    ∀ limit report larger other,
      interpret limit code size source sink = some report →
      interpret larger otherCode size source sink = some other →
        report.Shifted (before.size + inside.size) (substitute.size - inside.size) other := by
  refine ⟨⟨?_, ?_⟩, ?_⟩
  · rintro ⟨limit, report, interpreted⟩
    obtain ⟨larger, other, otherwise, _⟩ := exists_interpret_of_equivalent given otherGiven
      checked balanced otherBalanced equivalent interpreted
    exact ⟨larger, other, otherwise⟩
  · rintro ⟨limit, report, interpreted⟩
    obtain ⟨larger, other, otherwise, _⟩ := exists_interpret_of_equivalent otherGiven given
      checked otherBalanced balanced equivalent.symm interpreted
    exact ⟨larger, other, otherwise⟩
  · intro limit report larger other interpreted otherwise
    obtain ⟨enough, found, again, alike⟩ := exists_interpret_of_equivalent given otherGiven
      checked balanced otherBalanced equivalent interpreted
    rwa [interpret_unique again otherwise] at alike

/-- On a ring of one cell a move leads nowhere. So `+[->]+]` and `+[-]+]` do the same on it, and
complain about their last bracket, which is the seventh instruction of the one and the sixth of
the other. -/
theorem equivalent_parts_are_interchangeable_of_move :
    let one : { cells : Nat // 0 < cells } := ⟨1, Nat.one_pos⟩
    let before : Program := #[.action .increment, .loopStart, .action .decrement]
    let move : Program := #[.action .right]
    let nothing : Program := #[]
    let after : Program := #[.loopEnd, .action .increment, .loopEnd]
    let code := Code.text "+[->]+]"
    let otherCode := Code.text "+[-]+]"
    code.program = .ok (before ++ move ++ after) ∧
      otherCode.program = .ok (before ++ nothing ++ after) ∧
      MemorySize.check (.integer 1) = .ok one ∧
      Balanced move.toList ∧ Balanced nothing.toList ∧
      Program.Equivalent one.val move nothing ∧
      ∃ report other,
        interpret 7 code (.integer 1) .empty .plain = some report ∧
        report.failure = some (.brokenOff (.unmatched .closing 6)) ∧
        interpret 6 otherCode (.integer 1) .empty .plain = some other ∧
        report.Shifted 4 (-1) other := by
  intro one before move nothing after code otherCode
  have given : code.program = .ok (before ++ move ++ after) := rfl
  have otherGiven : otherCode.program = .ok (before ++ nothing ++ after) := rfl
  have checked : MemorySize.check (.integer 1) = .ok one := rfl
  have balanced : Balanced move.toList := balanced_action.mpr balanced_nil
  have equivalent : Program.Equivalent one.val move nothing := by
    rintro ⟨tape, source, sink⟩ single
    refine .inl ⟨⟨tape, source, sink⟩, none, ⟨2, 1, ?_⟩, 1, 0, rfl⟩
    have moved : (Machine.start ⟨tape, source, sink⟩).run move 2 =
        some ⟨⟨1, ⟨tape.moveRight, source, sink⟩⟩, none⟩ := rfl
    rw [moved, Tape.moveRight_of_size_eq_one single]
  have interpreted : interpret 7 code (.integer 1) .empty .plain = some _ := rfl
  have otherInterpreted : interpret 6 otherCode (.integer 1) .empty .plain = some _ := rfl
  obtain ⟨_, shifted⟩ := equivalent_parts_are_interchangeable before move nothing after code
    otherCode (.integer 1) one given otherGiven checked balanced balanced_nil equivalent
    .empty .plain
  exact ⟨given, otherGiven, checked, balanced, balanced_nil, equivalent, _, _, interpreted, rfl,
    otherInterpreted, shifted 7 _ 6 _ interpreted otherInterpreted⟩

end Interpreter

end RingTape
