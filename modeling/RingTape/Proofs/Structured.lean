/-
# Structured programs on the machine

The brackets of a balanced program are those of a list of trees. This module proves that
the machine, which knows positions and finds the ends of loops by scanning, does on the
program what carrying out the trees does: it stops where that stops, in the same workspace,
with the same fault and after the same exchanges, and it runs forever where no amount of
fuel suffices.
-/

import RingTape.Proofs.Exchanges
import RingTape.Tree

namespace RingTape

/-! ## Texts of trees -/

namespace Tree

mutual

theorem balanced_instructions (tree : Tree) : Balanced tree.instructions := by
  cases tree with
  | leaf action =>
      rw [instructions, balanced_action]
      exact balanced_nil
  | loop body =>
      rw [instructions]
      exact (balanced_allInstructions body).loop

theorem balanced_allInstructions (trees : List Tree) : Balanced (allInstructions trees) := by
  cases trees with
  | nil => exact balanced_nil
  | cons tree trees =>
      rw [allInstructions]
      exact (balanced_instructions tree).append (balanced_allInstructions trees)

end

/-- Every balanced text is the text of some trees. -/
theorem exists_allInstructions_eq {text : List Instruction} (balanced : Balanced text) :
    ∃ trees, allInstructions trees = text := by
  -- The body of a loop and what follows it are both shorter than the loop.
  induction length : text.length using Nat.strongRecOn generalizing text with
  | ind size ih =>
      cases text with
      | nil => exact ⟨[], rfl⟩
      | cons instruction rest =>
          rw [List.length_cons] at length
          cases instruction with
          | action action =>
              obtain ⟨trees, rfl⟩ := ih _ (by omega) (balanced_action.mp balanced) rfl
              exact ⟨leaf action :: trees, rfl⟩
          | loopStart =>
              obtain ⟨bodyText, restText, rfl, balancedBody, balancedRest⟩ :=
                balanced.exists_loop
              rw [List.length_append, List.length_cons] at length
              obtain ⟨body, rfl⟩ := ih _ (by omega) balancedBody rfl
              obtain ⟨trees, rfl⟩ := ih _ (by omega) balancedRest rfl
              exact ⟨loop body :: trees, by simp [allInstructions, instructions]⟩
          | loopEnd =>
              rw [balanced_iff_nesting, nesting_zero_loopEnd] at balanced
              simp at balanced

end Tree

namespace Program

variable {program : Program} {before inside after : List Instruction}

theorem getElem?_of_toList_eq {instruction : Instruction}
    (text : program.toList = before ++ instruction :: after) :
    program[before.length]? = some instruction := by
  rw [← Array.getElem?_toList, text]
  simp

/-- Brackets around a balanced text belong together. -/
theorem matched_of_toList_eq
    (text : program.toList = before ++ .loopStart :: (inside ++ .loopEnd :: after))
    (balanced : Balanced inside) :
    program.Matched before.length (before.length + 1 + inside.length) := by
  have upToEnd : program.toList = (before ++ [.loopStart] ++ inside) ++ .loopEnd :: after := by
    simp [text]
  have finish : (before ++ [Instruction.loopStart] ++ inside).length =
      before.length + 1 + inside.length := by
    rw [List.length_append, List.length_append, List.length_singleton]
  have stretch : program.between (before.length + 1) (before.length + 1 + inside.length) =
      inside := by
    rw [between, upToEnd, ← finish, List.take_left]
    have start : (before ++ [Instruction.loopStart]).length = before.length + 1 := by
      rw [List.length_append, List.length_singleton]
    rw [← start, List.drop_left]
  refine ⟨by omega, getElem?_of_toList_eq text, ?_, ?_⟩
  · rw [← finish]
    exact getElem?_of_toList_eq upToEnd
  · rwa [stretch]

end Program

/-! ## The end of a loop -/

namespace Machine

variable {τ : Type} [TapeLike τ] {program : Program} {start finish : Nat}

/-- A loop end leads where its loop start would lead. -/
theorem step_of_matched (matched : program.Matched start finish) (workspace : Workspace τ) :
    step program ⟨finish, workspace⟩ = step program ⟨start, workspace⟩ := by
  by_cases zero : workspace.current = 0
  · have left : step program ⟨finish, workspace⟩ = .advanced ⟨finish + 1, workspace⟩ :=
      step_eq_iff.mpr (.left matched.closing zero)
    have skipped : step program ⟨start, workspace⟩ = .advanced ⟨finish + 1, workspace⟩ :=
      step_eq_iff.mpr (.skipped zero matched)
    rw [left, skipped]
  · have repeated : step program ⟨finish, workspace⟩ = .advanced ⟨start + 1, workspace⟩ :=
      step_eq_iff.mpr (.repeated zero matched)
    have entered : step program ⟨start, workspace⟩ = .advanced ⟨start + 1, workspace⟩ :=
      step_eq_iff.mpr (.entered matched.opening zero)
    rw [repeated, entered]

theorem exchange_of_loopStart {machine : Machine τ}
    (here : program[machine.position]? = some .loopStart) : machine.exchange program = none :=
  exchange_of_not_action (by simp [here])

theorem exchange_of_loopEnd {machine : Machine τ}
    (here : program[machine.position]? = some .loopEnd) : machine.exchange program = none :=
  exchange_of_not_action (by simp [here])

theorem run_of_matched (matched : program.Matched start finish) (workspace : Workspace τ)
    (limit : Nat) :
    run program limit ⟨finish, workspace⟩ = run program limit ⟨start, workspace⟩ := by
  cases limit with
  | zero => rfl
  | succ limit => rw [run, run, step_of_matched matched]

theorem exchanges_of_matched (matched : program.Matched start finish)
    (workspace : Workspace τ) (count : Nat) :
    exchanges program count ⟨finish, workspace⟩ =
      exchanges program count ⟨start, workspace⟩ := by
  cases count with
  | zero => rfl
  | succ count =>
      rw [exchanges, exchanges, step_of_matched matched, exchange_of_loopEnd matched.closing,
        exchange_of_loopStart matched.opening]

/-- A run that leaves a loop start can as well begin at its loop end. -/
theorem Reaches.of_matched (matched : program.Matched start finish) {workspace : Workspace τ}
    {exchanges : List Exchange} {later : Machine τ}
    (reaches : Reaches program ⟨start, workspace⟩ exchanges later)
    (leaves : later.position ≠ start) :
    Reaches program ⟨finish, workspace⟩ exchanges later := by
  obtain ⟨count, reached, rfl⟩ := reaches
  refine ⟨count, ?_, exchanges_of_matched matched workspace count⟩
  cases count with
  | zero =>
      obtain rfl := Option.some.inj reached
      exact absurd rfl leaves
  | succ count =>
      rw [after] at reached ⊢
      rwa [step_of_matched matched]

theorem Stops.of_matched (matched : program.Matched start finish) {workspace : Workspace τ}
    {exchanges : List Exchange} {halt : Halt τ}
    (stops : Stops program ⟨start, workspace⟩ exchanges halt) :
    Stops program ⟨finish, workspace⟩ exchanges halt := by
  obtain ⟨limit, stopped, rfl⟩ := stops
  exact ⟨limit, (run_of_matched matched workspace limit).trans stopped,
    exchanges_of_matched matched workspace limit⟩

end Machine

/-! ## Simulation -/

namespace Tree

open Machine (Reaches Stops)

variable {τ : Type} [TapeLike τ] {program : Program} {before after : List Instruction}

theorem allInstructions_leaf_append (action : Action) (trees : List Tree) :
    allInstructions (leaf action :: trees) ++ after =
      .action action :: (allInstructions trees ++ after) := by
  simp [allInstructions, instructions]

theorem allInstructions_loop_append (body trees : List Tree) :
    allInstructions (loop body :: trees) ++ after =
      .loopStart :: (allInstructions body ++ .loopEnd :: (allInstructions trees ++ after)) := by
  simp [allInstructions, instructions]

theorem length_instructions_loop (body : List Tree) :
    (instructions (loop body)).length = (allInstructions body).length + 2 := by
  simp [instructions]

theorem step_of_leaf {action : Action} {rest : List Instruction} {workspace next : Workspace τ}
    (text : program.toList = before ++ .action action :: rest)
    (performed : workspace.perform action = (next, none)) :
    Machine.step program ⟨before.length, workspace⟩ = .advanced ⟨before.length + 1, next⟩ :=
  have here : program[before.length]? = some (.action action) :=
    Program.getElem?_of_toList_eq text
  Machine.step_eq_iff.mpr (.acted here performed)

/-- A loop start on a nonzero cell leads into the body. -/
theorem step_of_loop_of_nonzero {rest : List Instruction} {workspace : Workspace τ}
    (text : program.toList = before ++ .loopStart :: rest)
    (nonzero : workspace.current ≠ 0) :
    Machine.step program ⟨before.length, workspace⟩ =
      .advanced ⟨before.length + 1, workspace⟩ :=
  have here : program[before.length]? = some .loopStart := Program.getElem?_of_toList_eq text
  Machine.step_eq_iff.mpr (.entered here nonzero)

/-- A loop start on a zero cell leads behind the loop. -/
theorem step_of_loop_of_zero {body : List Tree} {rest : List Instruction}
    {workspace : Workspace τ}
    (text : program.toList =
      before ++ .loopStart :: (allInstructions body ++ .loopEnd :: rest))
    (zero : workspace.current = 0) :
    Machine.step program ⟨before.length, workspace⟩ =
      .advanced ⟨before.length + (instructions (loop body)).length, workspace⟩ := by
  have matched := Program.matched_of_toList_eq text (balanced_allInstructions body)
  have behind : before.length + (instructions (loop body)).length =
      before.length + 1 + (allInstructions body).length + 1 := by
    rw [length_instructions_loop]
    omega
  rw [behind]
  exact Machine.step_eq_iff.mpr (.skipped zero matched)

/-- The machine does what the answer of an execution says: it gets to the position
`finish` in that workspace, or it stops somewhere with that fault. -/
def Answers (program : Program) (machine : Machine τ) (exchanges : List Exchange)
    (finish : Nat) : Workspace τ × Option Fault → Prop
  | (last, none) => Reaches program machine exchanges ⟨finish, last⟩
  | (last, some fault) =>
      ∃ position, Stops program machine exchanges ⟨⟨position, last⟩, some fault⟩

theorem Answers.of_reaches {machine middle : Machine τ} {first second : List Exchange}
    {finish : Nat} {answer : Workspace τ × Option Fault}
    (toMiddle : Reaches program machine first middle)
    (answers : Answers program middle second finish answer) :
    Answers program machine (first ++ second) finish answer := by
  obtain ⟨last, fault⟩ := answer
  cases fault with
  | none => exact toMiddle.trans answers
  | some fault =>
      obtain ⟨position, stops⟩ := answers
      exact ⟨position, toMiddle.stops stops⟩

theorem Answers.of_matched {loopStart loopEnd finish : Nat}
    (matched : program.Matched loopStart loopEnd) {workspace : Workspace τ}
    {exchanges : List Exchange} {answer : Workspace τ × Option Fault}
    (behind : finish ≠ loopStart)
    (answers : Answers program ⟨loopStart, workspace⟩ exchanges finish answer) :
    Answers program ⟨loopEnd, workspace⟩ exchanges finish answer := by
  obtain ⟨last, fault⟩ := answer
  cases fault with
  | none => exact Reaches.of_matched matched answers behind
  | some fault =>
      obtain ⟨position, stops⟩ := answers
      exact ⟨position, stops.of_matched matched⟩

/-- Wherever in the program a text of trees stands, the machine does there what an
execution of the trees with this fuel says. -/
def Simulated (program : Program) (τ : Type) [TapeLike τ] (fuel : Nat) : Prop :=
  ∀ {before after : List Instruction} {trees : List Tree} {workspace : Workspace τ}
    {answer : Workspace τ × Option Fault} {start finish : Nat},
    program.toList = before ++ (allInstructions trees ++ after) → before.length = start →
      start + (allInstructions trees).length = finish →
        execute fuel trees workspace = some answer →
          Answers program ⟨start, workspace⟩ (exchanges fuel trees workspace) finish answer

theorem Simulated.leaf {fuel : Nat} (simulated : Simulated program τ fuel) {action : Action}
    {trees : List Tree} {workspace : Workspace τ} {answer : Workspace τ × Option Fault}
    {start finish : Nat}
    (text : program.toList = before ++ (allInstructions (leaf action :: trees) ++ after))
    (begins : before.length = start)
    (ends : start + (allInstructions (leaf action :: trees)).length = finish)
    (executed : execute (fuel + 1) (leaf action :: trees) workspace = some answer) :
    Answers program ⟨start, workspace⟩ (exchanges (fuel + 1) (leaf action :: trees) workspace)
      finish answer := by
  rw [allInstructions_leaf_append] at text
  rw [allInstructions, List.length_append, instructions, List.length_singleton] at ends
  rw [execute] at executed
  rw [exchanges]
  have here := Program.getElem?_of_toList_eq text
  cases performed : workspace.perform action with
  | mk next fault =>
      simp only [performed] at executed ⊢
      cases fault with
      | some fault =>
          obtain rfl := Option.some.inj executed
          rw [begins] at here
          have stepped : Machine.step program ⟨start, workspace⟩ =
              .failed ⟨start, next⟩ fault :=
            Machine.step_eq_iff.mpr (.broken here performed)
          have stops := Machine.stops_of_failed stepped
          rw [Machine.exchange_of_action here] at stops
          exact ⟨start, by simpa using stops⟩
      | none =>
          have reaches := Reaches.of_step (step_of_leaf text performed)
          rw [Machine.exchange_of_action here, begins] at reaches
          have textRest : program.toList =
              (before ++ [.action action]) ++ (allInstructions trees ++ after) := by
            simp [text]
          exact .of_reaches reaches
            (simulated textRest (by simp [begins]) (by omega) executed)

theorem Simulated.loop {fuel : Nat} (simulated : Simulated program τ fuel)
    {body trees : List Tree} {workspace : Workspace τ} {answer : Workspace τ × Option Fault}
    {start finish : Nat}
    (text : program.toList = before ++ (allInstructions (.loop body :: trees) ++ after))
    (begins : before.length = start)
    (ends : start + (allInstructions (.loop body :: trees)).length = finish)
    (executed : execute (fuel + 1) (.loop body :: trees) workspace = some answer) :
    Answers program ⟨start, workspace⟩ (exchanges (fuel + 1) (.loop body :: trees) workspace)
      finish answer := by
  have textHere := text
  rw [allInstructions_loop_append] at textHere
  have endsHere := ends
  rw [allInstructions, List.length_append, length_instructions_loop] at endsHere
  have matched := Program.matched_of_toList_eq textHere (balanced_allInstructions body)
  rw [execute] at executed
  rw [exchanges]
  split at executed
  · rename_i zero
    have skips := Reaches.of_step (step_of_loop_of_zero textHere zero)
    rw [Machine.exchange_of_loopStart matched.opening, begins] at skips
    have textRest : program.toList = (before ++ instructions (.loop body)) ++
        (allInstructions trees ++ after) := by
      simp [textHere, instructions]
    rw [if_pos zero]
    refine .of_reaches skips (simulated textRest ?_ ?_ executed)
    · rw [List.length_append, begins]
    · rw [length_instructions_loop]
      omega
  · rename_i nonzero
    have enters := Reaches.of_step (step_of_loop_of_nonzero textHere nonzero)
    rw [Machine.exchange_of_loopStart matched.opening, begins] at enters
    rw [begins] at matched
    have textBody : program.toList = (before ++ [.loopStart]) ++
        (allInstructions body ++ .loopEnd :: (allInstructions trees ++ after)) := by
      simp [textHere]
    rw [if_neg nonzero]
    cases bodyRun : execute fuel body workspace with
    | none => simp [bodyRun] at executed
    | some middle =>
        have inside := Answers.of_reaches enters
          (simulated textBody (by simp [begins]) rfl bodyRun)
        obtain ⟨next, fault⟩ := middle
        simp only [bodyRun] at executed ⊢
        cases fault with
        | some fault =>
            obtain rfl := Option.some.inj executed
            rw [List.append_nil]
            exact inside
        | none =>
            -- The loop end goes on as the loop start would, so the loop is begun again.
            have again : Answers program ⟨start, next⟩
                (exchanges fuel (.loop body :: trees) next) finish answer :=
              simulated text begins ends executed
            exact .of_reaches inside (again.of_matched matched (by omega))

/-- Where carrying out trees comes to its end, the machine comes to the end of their text,
in the same workspace and after the same exchanges; where a fault breaks it off, the same
fault stops the machine. -/
theorem simulated (program : Program) (fuel : Nat) : Simulated program τ fuel := by
  induction fuel with
  | zero =>
      intro before after trees workspace answer start finish text begins ends executed
      simp [execute] at executed
  | succ fuel ih =>
      intro before after trees workspace answer start finish text begins ends executed
      cases trees with
      | nil =>
          simp only [execute, Option.some.injEq] at executed
          subst executed ends
          exact Reaches.refl program _
      | cons tree trees =>
          cases tree with
          | leaf action => exact ih.leaf text begins ends executed
          | loop body => exact ih.loop text begins ends executed

/-- Once through the body and then the loop again. -/
theorem execute_loop_of_body {fuel more : Nat} {body trees : List Tree}
    {workspace next : Workspace τ} {answer : Workspace τ × Option Fault}
    (nonzero : workspace.current ≠ 0)
    (bodyRun : execute fuel body workspace = some (next, none))
    (again : execute more (.loop body :: trees) next = some answer) :
    execute (fuel + more + 1) (.loop body :: trees) workspace = some answer := by
  rw [execute, if_neg nonzero, execute_of_le (Nat.le_add_right fuel more) bodyRun]
  exact execute_of_le (Nat.le_add_left more fuel) again

/-- Wherever in the program a text of trees stands on which the machine stops within this
many steps, some fuel suffices for the trees. -/
def Terminated (program : Program) (τ : Type) [TapeLike τ] (limit : Nat) : Prop :=
  ∀ {before after : List Instruction} {trees : List Tree} {workspace : Workspace τ}
    {halt : Halt τ}, program.toList = before ++ (allInstructions trees ++ after) →
      Machine.run program limit ⟨before.length, workspace⟩ = some halt →
        ∃ fuel answer, execute fuel trees workspace = some answer

theorem Terminated.leaf {limit : Nat}
    (terminated : ∀ fewer, fewer < limit → Terminated program τ fewer) {action : Action}
    {trees : List Tree} {workspace : Workspace τ} {halt : Halt τ}
    (text : program.toList = before ++ (allInstructions (leaf action :: trees) ++ after))
    (stopped : Machine.run program limit ⟨before.length, workspace⟩ = some halt) :
    ∃ fuel answer, execute fuel (leaf action :: trees) workspace = some answer := by
  rw [allInstructions_leaf_append] at text
  cases performed : workspace.perform action with
  | mk next fault =>
      cases fault with
      | some fault => exact ⟨1, (next, some fault), by simp only [execute, performed]⟩
      | none =>
          obtain ⟨fewer, within, stoppedNext⟩ :=
            Machine.exists_run_of_advanced stopped (step_of_leaf text performed)
          have textRest : program.toList = (before ++ [.action action]) ++
              (allInstructions trees ++ after) := by
            simp [text]
          have length : (before ++ [Instruction.action action]).length = before.length + 1 :=
            List.length_append
          rw [← length] at stoppedNext
          obtain ⟨fuel, answer, executed⟩ := terminated fewer within textRest stoppedNext
          exact ⟨fuel + 1, answer, by simpa only [execute, performed] using executed⟩

theorem Terminated.loop {limit : Nat}
    (terminated : ∀ fewer, fewer < limit → Terminated program τ fewer)
    {body trees : List Tree} {workspace : Workspace τ} {halt : Halt τ}
    (text : program.toList = before ++ (allInstructions (.loop body :: trees) ++ after))
    (stopped : Machine.run program limit ⟨before.length, workspace⟩ = some halt) :
    ∃ fuel answer, execute fuel (.loop body :: trees) workspace = some answer := by
  have textHere := text
  rw [allInstructions_loop_append] at textHere
  by_cases zero : workspace.current = 0
  · obtain ⟨fewer, within, stoppedNext⟩ :=
      Machine.exists_run_of_advanced stopped (step_of_loop_of_zero textHere zero)
    have textRest : program.toList = (before ++ instructions (.loop body)) ++
        (allInstructions trees ++ after) := by
      simp [textHere, instructions]
    rw [← List.length_append] at stoppedNext
    obtain ⟨fuel, answer, executed⟩ := terminated fewer within textRest stoppedNext
    exact ⟨fuel + 1, answer, by rwa [execute, if_pos zero]⟩
  · obtain ⟨fewer, within, stoppedBody⟩ :=
      Machine.exists_run_of_advanced stopped (step_of_loop_of_nonzero textHere zero)
    have textBody : program.toList = (before ++ [.loopStart]) ++
        (allInstructions body ++ .loopEnd :: (allInstructions trees ++ after)) := by
      simp [textHere]
    have length : (before ++ [Instruction.loopStart]).length = before.length + 1 :=
      List.length_append
    have stoppedInside := stoppedBody
    rw [← length] at stoppedInside
    obtain ⟨fuel, ⟨next, fault⟩, bodyRun⟩ := terminated fewer within textBody stoppedInside
    cases fault with
    | some fault =>
        exact ⟨fuel + 1, (next, some fault), by rw [execute, if_neg zero, bodyRun]⟩
    | none =>
        -- What is left of the run behind the body begins at the loop end, which goes on as
        -- the loop start would.
        have through : Reaches program ⟨before.length + 1, workspace⟩ _
            ⟨before.length + 1 + (allInstructions body).length, next⟩ :=
          simulated program fuel textBody length rfl bodyRun
        have matched :=
          Program.matched_of_toList_eq textHere (balanced_allInstructions body)
        have stoppedAgain := through.run stoppedBody
        rw [Machine.run_of_matched matched] at stoppedAgain
        obtain ⟨more, answer, again⟩ := terminated fewer within text stoppedAgain
        exact ⟨fuel + more + 1, answer, execute_loop_of_body zero bodyRun again⟩

/-- Where the machine stops on a text, some fuel suffices for the trees. The induction is on
the number of steps that the machine has: the first of them leads to the rest of the text,
or into a body from whose end the loop is begun again with fewer steps to go. -/
theorem terminated (program : Program) (limit : Nat) : Terminated program τ limit := by
  induction limit using Nat.strongRecOn with
  | ind limit ih =>
      intro before after trees workspace halt text stopped
      cases trees with
      | nil => exact ⟨1, (workspace, none), rfl⟩
      | cons tree trees =>
          cases tree with
          | leaf action => exact Terminated.leaf ih text stopped
          | loop body => exact Terminated.loop ih text stopped

/-! ## Whole programs -/

theorem step_at_size (program : Program) (workspace : Workspace τ) :
    Machine.step program ⟨program.size, workspace⟩ = .ended ⟨program.size, workspace⟩ := by
  have outside : program[program.size]? = none := Array.getElem?_eq_none (Nat.le_refl _)
  exact Machine.step_eq_iff.mpr (.ended outside)

/-- What an execution answers, the machine stops with. -/
theorem exists_stops_of_execute {fuel : Nat} {trees : List Tree} {workspace last : Workspace τ}
    {fault : Option Fault} (text : allInstructions trees = program.toList)
    (executed : execute fuel trees workspace = some (last, fault)) :
    ∃ position, (fault = none → position = program.size) ∧
      Stops program (.start workspace) (exchanges fuel trees workspace)
        ⟨⟨position, last⟩, fault⟩ := by
  have placed : program.toList = [] ++ (allInstructions trees ++ []) := by
    simp [text]
  have ends : 0 + (allInstructions trees).length = program.size := by
    simp [text]
  have answers := simulated program fuel placed rfl ends executed
  cases fault with
  | some fault =>
      obtain ⟨position, stops⟩ := answers
      exact ⟨position, by simp, stops⟩
  | none =>
      refine ⟨program.size, fun _ => rfl, ?_⟩
      have stops := Reaches.stops answers (Machine.stops_of_ended (step_at_size program last))
      have silent : Machine.exchange program ⟨program.size, last⟩ = none := by
        simp [Machine.exchange]
      rwa [silent, Option.toList_none, List.append_nil] at stops

/-- What the machine stops with, some execution answers. -/
theorem exists_execute_of_stops {trees : List Tree} {workspace last : Workspace τ}
    {fault : Option Fault} {exchanged : List Exchange} {position : Nat}
    (text : allInstructions trees = program.toList)
    (stops : Stops program (.start workspace) exchanged ⟨⟨position, last⟩, fault⟩) :
    ∃ fuel, execute fuel trees workspace = some (last, fault) ∧
      exchanges fuel trees workspace = exchanged := by
  have placed : program.toList = [] ++ (allInstructions trees ++ []) := by
    simp [text]
  have ⟨limit, stopped, _⟩ := stops
  obtain ⟨fuel, ⟨other, otherFault⟩, executed⟩ := terminated program limit placed stopped
  obtain ⟨_, _, otherwise⟩ := exists_stops_of_execute text executed
  obtain ⟨sameExchanges, sameHalt⟩ := stops.unique otherwise
  simp only [Halt.mk.injEq, Machine.mk.injEq] at sameHalt
  obtain ⟨⟨_, rfl⟩, rfl⟩ := sameHalt
  exact ⟨fuel, executed, sameExchanges.symm⟩

/-- The machine runs a balanced program as its trees say, on every ring, from every content
of its cells and position of the head, with every source and sink. It comes to the end of
the program exactly when carrying out the trees comes to its end, with the same tape and the
same streams and after the same exchanges in the same order; a fault breaks it off exactly
when the same fault breaks the trees off, after the same exchanges; and it runs forever
exactly when no fuel suffices for the trees. -/
theorem run_agrees_with_execute (program : Program) (balanced : Balanced program.toList) :
    (∃ trees, allInstructions trees = program.toList) ∧
    ∀ trees, allInstructions trees = program.toList → ∀ workspace : Workspace Tape,
      (∀ exchanged last,
        Stops program (.start workspace) exchanged ⟨⟨program.size, last⟩, none⟩ ↔
          ∃ fuel, execute fuel trees workspace = some (last, none) ∧
            exchanges fuel trees workspace = exchanged) ∧
      (∀ exchanged last fault,
        (∃ position,
          Stops program (.start workspace) exchanged ⟨⟨position, last⟩, some fault⟩) ↔
            ∃ fuel, execute fuel trees workspace = some (last, some fault) ∧
              exchanges fuel trees workspace = exchanged) ∧
      ((∀ limit, (Machine.start workspace).run program limit = none) ↔
        ∀ fuel, execute fuel trees workspace = none) := by
  refine ⟨exists_allInstructions_eq balanced, fun trees text workspace => ⟨?_, ?_, ?_⟩⟩
  · intro exchanged last
    refine ⟨exists_execute_of_stops text, ?_⟩
    rintro ⟨fuel, executed, rfl⟩
    obtain ⟨position, atEnd, stops⟩ := exists_stops_of_execute text executed
    rwa [atEnd rfl] at stops
  · intro exchanged last fault
    constructor
    · rintro ⟨position, stops⟩
      exact exists_execute_of_stops text stops
    · rintro ⟨fuel, executed, rfl⟩
      obtain ⟨position, _, stops⟩ := exists_stops_of_execute text executed
      exact ⟨position, stops⟩
  · constructor
    · intro forever fuel
      rw [Option.eq_none_iff_forall_ne_some]
      rintro ⟨last, fault⟩ executed
      obtain ⟨position, _, limit, stopped, _⟩ := exists_stops_of_execute text executed
      simp [forever limit] at stopped
    · intro forever limit
      rw [Option.eq_none_iff_forall_ne_some]
      rintro ⟨⟨position, last⟩, fault⟩ stopped
      obtain ⟨fuel, executed, _⟩ := exists_execute_of_stops text ⟨limit, stopped, rfl⟩
      simp [forever fuel] at executed

/-- The program `[,.]` on a ring of one cell that holds 1: it writes what it reads until it
reads a zero. Its second write finds no room. -/
theorem run_agrees_with_execute_of_copying :
    let program : Program := #[.loopStart, .action .read, .action .write, .loopEnd]
    let trees : List Tree := [.loop [.leaf .read, .leaf .write]]
    let tape : Tape := (Tape.blank 1 Nat.one_pos).put 1
    let source : Source := .ofBytes [65, 66]
    let full : StreamError := ⟨.os, "full"⟩
    let sink : Sink := .create (some ⟨1, full⟩) .absent
    Balanced program.toList ∧ allInstructions trees = program.toList ∧
      ∃ position, Stops program (.start ⟨tape, source, sink⟩)
        [.read (.ok 65), .write 'A' none, .read (.ok 66), .write 'B' (some (.stream full))]
        ⟨⟨position, ⟨tape.put 66, ⟨source.answers, 2⟩, (sink.take ['A']).refuse⟩⟩,
          some (.stream full)⟩ := by
  intro program trees tape source full sink
  have text : allInstructions trees = program.toList := rfl
  have balanced : Balanced program.toList := text ▸ balanced_allInstructions trees
  obtain ⟨_, agrees⟩ := run_agrees_with_execute program balanced
  obtain ⟨_, broken, _⟩ := agrees trees text ⟨tape, source, sink⟩
  exact ⟨balanced, text, (broken _ _ _).mpr ⟨6, rfl, rfl⟩⟩

end Tree

end RingTape
