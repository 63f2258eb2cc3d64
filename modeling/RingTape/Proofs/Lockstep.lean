/-
# Runs in lockstep

Two machines, perhaps on different programs and different kinds of tape, run in lockstep
when steps from related states lead to related states and stop in the same way. Then
everything that one run goes through has its counterpart in the other after the same
number of steps. A guard on the states of the first machine limits this to the part of
the run on which it holds.
-/

import RingTape.Program.Symmetry
import RingTape.Proofs.Step

namespace RingTape

variable {σ τ : Type} {related : Machine σ → Machine τ → Prop}

/-- Two steps that go the same way, with the same fault if there is one. -/
inductive Progress.Related (related : Machine σ → Machine τ → Prop) :
    Progress σ → Progress τ → Prop
  | ended {first : Machine σ} {second : Machine τ} (inRelation : related first second) :
      Related related (.ended first) (.ended second)
  | advanced {first : Machine σ} {second : Machine τ} (inRelation : related first second) :
      Related related (.advanced first) (.advanced second)
  | failed {first : Machine σ} {second : Machine τ} {fault : Fault}
      (inRelation : related first second) :
      Related related (.failed first fault) (.failed second fault)

theorem Progress.Related.refl (progress : Progress τ) :
    Progress.Related (· = ·) progress progress := by
  cases progress with
  | ended last => exact .ended rfl
  | advanced next => exact .advanced rfl
  | failed last fault => exact .failed rfl

theorem Progress.Related.imp {other : Machine σ → Machine τ → Prop} {first : Progress σ}
    {second : Progress τ} (weaker : ∀ machine counterpart, related machine counterpart →
      other machine counterpart) (inRelation : first.Related related second) :
    first.Related other second := by
  cases inRelation with
  | ended last => exact .ended (weaker _ _ last)
  | advanced next => exact .advanced (weaker _ _ next)
  | failed last => exact .failed (weaker _ _ last)

/-- Two runs that stopped in the same way. -/
structure Halt.Related (related : Machine σ → Machine τ → Prop) (first : Halt σ)
    (second : Halt τ) : Prop where
  machine : related first.machine second.machine
  fault : first.fault = second.fault

theorem Halt.Related.eq {first second : Halt τ}
    (inRelation : Halt.Related (· = ·) first second) : first = second := by
  obtain ⟨machine, fault⟩ := inRelation
  cases first
  cases second
  simp_all

theorem Halt.map_fault_eq_of_related {first : Option (Halt σ)} {second : Option (Halt τ)}
    (inRelation : Option.Rel (Halt.Related related) first second) :
    first.map Halt.fault = second.map Halt.fault := by
  cases inRelation with
  | none => rfl
  | some halted => exact congrArg some halted.fault

variable [TapeLike σ] [TapeLike τ] {program other : Program} {guard : Machine σ → Prop}

/-- Wherever the guard holds, related states lead to related states. -/
def Lockstep (program other : Program) (guard : Machine σ → Prop)
    (related : Machine σ → Machine τ → Prop) : Prop :=
  ∀ first second, related first second → guard first →
    (first.step program).Related related (second.step other)

/-- The guard holds in every state that the machine gets to in fewer than `count` steps. -/
def Guarded (program : Program) (guard : Machine σ → Prop) (machine : Machine σ)
    (count : Nat) : Prop :=
  ∀ earlier, earlier < count → ∀ middle, machine.after program earlier = some middle →
    guard middle

theorem Guarded.first {machine : Machine σ} {count : Nat}
    (guarded : Guarded program guard machine (count + 1)) : guard machine :=
  guarded 0 (Nat.succ_pos count) machine rfl

theorem Guarded.next {machine next : Machine σ} {count : Nat}
    (guarded : Guarded program guard machine (count + 1))
    (stepped : machine.step program = .advanced next) :
    Guarded program guard next count := by
  intro earlier within middle reached
  apply guarded (earlier + 1) (by omega) middle
  rwa [Machine.after_succ_of_advanced stepped]

theorem Guarded.of_le {machine : Machine σ} {count fewer : Nat}
    (guarded : Guarded program guard machine count) (within : fewer ≤ count) :
    Guarded program guard machine fewer :=
  fun earlier before => guarded earlier (Nat.lt_of_lt_of_le before within)

theorem guarded_succ_iff {machine next : Machine σ} {count : Nat}
    (stepped : machine.step program = .advanced next) :
    Guarded program guard machine (count + 1) ↔
      guard machine ∧ Guarded program guard next count := by
  refine ⟨fun guarded => ⟨guarded.first, guarded.next stepped⟩, ?_⟩
  rintro ⟨here, onwards⟩ earlier within middle reached
  cases earlier with
  | zero =>
      obtain rfl := Option.some.inj reached
      exact here
  | succ earlier =>
      rw [Machine.after_succ_of_advanced stepped] at reached
      exact onwards earlier (Nat.lt_of_succ_lt_succ within) middle reached

/-- Where the run stops at once, the guard is asked for nothing else. -/
theorem guarded_succ_iff_of_stops {machine : Machine σ} {count : Nat} {halt : Halt σ}
    (stops : (machine.step program).halt? = some halt) :
    Guarded program guard machine (count + 1) ↔ guard machine := by
  refine ⟨Guarded.first, ?_⟩
  intro here earlier within middle reached
  cases earlier with
  | zero =>
      obtain rfl := Option.some.inj reached
      exact here
  | succ earlier =>
      rw [Machine.after] at reached
      cases outcome : machine.step program with
      | advanced next => simp [outcome, Progress.halt?] at stops
      | ended last => simp [outcome] at reached
      | failed last fault => simp [outcome] at reached

/-- A guard that can be tested can be tested along a run. -/
instance Guarded.decidable [DecidablePred guard] : (machine : Machine σ) → (count : Nat) →
    Decidable (Guarded program guard machine count)
  | _, 0 => .isTrue fun earlier within => absurd within (Nat.not_lt_zero earlier)
  | machine, count + 1 =>
    match outcome : machine.step program with
    | .advanced next =>
      have := Guarded.decidable next count
      decidable_of_iff' _ (guarded_succ_iff outcome)
    | .ended last =>
      have stops : (machine.step program).halt? = some ⟨last, none⟩ := by rw [outcome]; rfl
      decidable_of_iff' _ (guarded_succ_iff_of_stops stops)
    | .failed last fault =>
      have stops : (machine.step program).halt? = some ⟨last, some fault⟩ := by rw [outcome]; rfl
      decidable_of_iff' _ (guarded_succ_iff_of_stops stops)

/-- Machines in lockstep are in related states after any number of steps. -/
theorem Lockstep.after (lockstep : Lockstep program other guard related) {count : Nat}
    {first : Machine σ} {second : Machine τ} (inRelation : related first second)
    (guarded : Guarded program guard first count) :
    Option.Rel related (first.after program count) (second.after other count) := by
  induction count generalizing first second with
  | zero => exact .some inRelation
  | succ count ih =>
      have stepped := lockstep first second inRelation guarded.first
      rw [Machine.after, Machine.after]
      generalize second.step other = answer at stepped ⊢
      cases outcome : first.step program with
      | advanced next =>
          rw [outcome] at stepped
          cases stepped with
          | advanced nextInRelation => exact ih nextInRelation (guarded.next outcome)
      | ended last =>
          rw [outcome] at stepped
          cases stepped
          exact .none
      | failed last fault =>
          rw [outcome] at stepped
          cases stepped
          exact .none

/-- Machines in lockstep stop after the same number of steps and in the same way. -/
theorem Lockstep.run (lockstep : Lockstep program other guard related) {limit : Nat}
    {first : Machine σ} {second : Machine τ} (inRelation : related first second)
    (guarded : Guarded program guard first limit) :
    Option.Rel (Halt.Related related) (first.run program limit)
      (second.run other limit) := by
  induction limit generalizing first second with
  | zero => exact .none
  | succ limit ih =>
      have stepped := lockstep first second inRelation guarded.first
      rw [Machine.run, Machine.run]
      generalize second.step other = answer at stepped ⊢
      cases outcome : first.step program with
      | advanced next =>
          rw [outcome] at stepped
          cases stepped with
          | advanced nextInRelation => exact ih nextInRelation (guarded.next outcome)
      | ended last =>
          rw [outcome] at stepped
          cases stepped with
          | ended lastInRelation => exact .some ⟨lastInRelation, rfl⟩
      | failed last fault =>
          rw [outcome] at stepped
          cases stepped with
          | failed lastInRelation => exact .some ⟨lastInRelation, rfl⟩

/-- Machines in lockstep make exchanges that correspond if they do so in related states. -/
theorem Lockstep.map_exchanges (lockstep : Lockstep program other guard related)
    (change : Exchange → Exchange)
    (alike : ∀ first second, related first second → guard first →
      second.exchange other = (first.exchange program).map change)
    {count : Nat} {first : Machine σ} {second : Machine τ} (inRelation : related first second)
    (guarded : Guarded program guard first count) :
    second.exchanges other count = (first.exchanges program count).map change := by
  induction count generalizing first second with
  | zero => rfl
  | succ count ih =>
      have stepped := lockstep first second inRelation guarded.first
      rw [Machine.exchanges, Machine.exchanges, alike first second inRelation guarded.first,
        List.map_append, Option.toList_map]
      generalize second.step other = answer at stepped ⊢
      cases outcome : first.step program with
      | advanced next =>
          rw [outcome] at stepped
          cases stepped with
          | advanced nextInRelation =>
              simp only
              rw [ih nextInRelation (guarded.next outcome)]
      | ended last =>
          rw [outcome] at stepped
          cases stepped
          rfl
      | failed last fault =>
          rw [outcome] at stepped
          cases stepped
          rfl

/-- Machines in lockstep make the same exchanges if they do so in related states. -/
theorem Lockstep.exchanges (lockstep : Lockstep program other guard related)
    (alike : ∀ first second, related first second → guard first →
      first.exchange program = second.exchange other)
    {count : Nat} {first : Machine σ} {second : Machine τ} (inRelation : related first second)
    (guarded : Guarded program guard first count) :
    first.exchanges program count = second.exchanges other count := by
  have corresponding := lockstep.map_exchanges id
    (fun first second inRelation guarded => by
      rw [Option.map_id, id, alike first second inRelation guarded])
    inRelation guarded
  rw [corresponding, List.map_id]

/-- In lockstep with equality two programs make the same run of a machine. -/
theorem Lockstep.after_eq {guard : Machine τ → Prop}
    (lockstep : Lockstep program other guard (· = ·)) {count : Nat} {machine : Machine τ}
    (guarded : Guarded program guard machine count) :
    machine.after program count = machine.after other count := by
  have inRelation := lockstep.after rfl guarded
  generalize machine.after program count = first at inRelation ⊢
  generalize machine.after other count = second at inRelation ⊢
  cases inRelation with
  | none => rfl
  | some same => rw [same]

theorem Lockstep.run_eq {guard : Machine τ → Prop}
    (lockstep : Lockstep program other guard (· = ·)) {limit : Nat} {machine : Machine τ}
    (guarded : Guarded program guard machine limit) :
    machine.run program limit = machine.run other limit := by
  have inRelation := lockstep.run rfl guarded
  generalize machine.run program limit = first at inRelation ⊢
  generalize machine.run other limit = second at inRelation ⊢
  cases inRelation with
  | none => rfl
  | some same => rw [same.eq]

/-! ## Two kinds of workspace -/

/-- Machines at the same position with related workspaces. -/
structure Machine.Together (alike : Workspace σ → Workspace τ → Prop) (first : Machine σ)
    (second : Machine τ) : Prop where
  position : first.position = second.position
  workspace : alike first.workspace second.workspace

/-- A program and the one with its actions changed run in lockstep, if the loops test related
cells alike, and if a changed action does to one workspace what the action does to the other. -/
theorem Lockstep.of_mapAction (change : Action → Action)
    {alike : Workspace σ → Workspace τ → Prop}
    (zero : ∀ {position first second}, alike first second → guard ⟨position, first⟩ →
      (first.current = 0 ↔ second.current = 0))
    (perform : ∀ {position first second action}, alike first second → guard ⟨position, first⟩ →
      program[position]? = some (.action action) →
        alike (first.perform action).1 (second.perform (change action)).1 ∧
          (first.perform action).2 = (second.perform (change action)).2) :
    Lockstep program (program.map (Instruction.mapAction change)) guard
      (Machine.Together alike) := by
  rintro ⟨position, first⟩ ⟨_, second⟩ ⟨rfl, inRelation⟩ guarded
  have tested := zero inRelation guarded
  simp only [Machine.step_eq, Array.getElem?_map]
  cases here : program[position]? with
  | none => exact .ended ⟨rfl, inRelation⟩
  | some instruction =>
      cases instruction with
      | action action =>
          have performed := perform inRelation guarded here
          simp only [Option.map_some, Instruction.mapAction] at performed ⊢
          generalize first.perform action = answer at performed ⊢
          generalize second.perform (change action) = otherAnswer at performed ⊢
          obtain ⟨next, fault⟩ := answer
          obtain ⟨otherNext, _⟩ := otherAnswer
          obtain ⟨workspaces, rfl⟩ := performed
          cases fault with
          | none => exact .advanced ⟨rfl, workspaces⟩
          | some fault => exact .failed ⟨rfl, workspaces⟩
      | loopStart =>
          simp only [Option.map_some, Instruction.mapAction, tested,
            Program.loopEnd_map_mapAction]
          split
          · cases program.loopEnd position with
            | ok target => exact .advanced ⟨rfl, inRelation⟩
            | error fault => exact .failed ⟨rfl, inRelation⟩
          · exact .advanced ⟨rfl, inRelation⟩
      | loopEnd =>
          simp only [Option.map_some, Instruction.mapAction, tested,
            Program.loopStart_map_mapAction]
          split
          · exact .advanced ⟨rfl, inRelation⟩
          · cases program.loopStart position with
            | ok target => exact .advanced ⟨rfl, inRelation⟩
            | error fault => exact .failed ⟨rfl, inRelation⟩

/-- Where the guard holds, a program cannot tell related workspaces apart, and what it does to
them leaves them related. -/
structure WorkspaceSimulation (program : Program) (guard : Machine σ → Prop)
    (alike : Workspace σ → Workspace τ → Prop) : Prop where
  current : ∀ {position first second}, alike first second → guard ⟨position, first⟩ →
    first.current = second.current
  perform : ∀ {position first second action}, alike first second → guard ⟨position, first⟩ →
    program[position]? = some (.action action) →
      alike (first.perform action).1 (second.perform action).1 ∧
        (first.perform action).2 = (second.perform action).2

/-- One program runs in lockstep on related workspaces. -/
theorem WorkspaceSimulation.lockstep {alike : Workspace σ → Workspace τ → Prop}
    (simulation : WorkspaceSimulation program guard alike) :
    Lockstep program program guard (Machine.Together alike) := by
  have unchanged : program.map (Instruction.mapAction id) = program := by simp
  have lockstep := Lockstep.of_mapAction id
    (fun inRelation guarded => by rw [simulation.current inRelation guarded])
    simulation.perform
  rwa [unchanged] at lockstep

/-! ## One program on two kinds of tape -/

/-- What is done to related tapes leaves them related, as long as the guard holds of the
first, and a machine cannot tell them apart. -/
structure TapeSimulation (guard : σ → Prop) (alike : σ → τ → Prop) : Prop where
  current : ∀ first second, alike first second → guard first →
    TapeLike.current first = TapeLike.current second
  put : ∀ value first second, alike first second → guard first →
    alike (TapeLike.put value first) (TapeLike.put value second)
  moveRight : ∀ first second, alike first second → guard first →
    alike (TapeLike.moveRight first) (TapeLike.moveRight second)
  moveLeft : ∀ first second, alike first second → guard first →
    alike (TapeLike.moveLeft first) (TapeLike.moveLeft second)

/-- Workspaces with related tapes and the same streams. -/
structure Workspace.Alike (alike : σ → τ → Prop) (first : Workspace σ)
    (second : Workspace τ) : Prop where
  tape : alike first.tape second.tape
  source : first.source = second.source
  sink : first.sink = second.sink

/-- Machines at the same position with related tapes and the same streams. -/
structure Machine.Alike (alike : σ → τ → Prop) (first : Machine σ)
    (second : Machine τ) : Prop where
  position : first.position = second.position
  workspace : Workspace.Alike alike first.workspace second.workspace

/-- An action that is no move works in the same way on both workspaces, if a machine sees the
same cell on both tapes and whatever is put there leaves them related. -/
theorem Workspace.Alike.perform {alike : σ → τ → Prop} {first : Workspace σ}
    {second : Workspace τ} {action : Action} (inRelation : first.Alike alike second)
    (current : TapeLike.current first.tape = TapeLike.current second.tape)
    (put : ∀ value, alike (TapeLike.put value first.tape) (TapeLike.put value second.tape))
    (stays : action ≠ .right ∧ action ≠ .left) :
    (first.perform action).1.Alike alike (second.perform action).1 ∧
      (first.perform action).2 = (second.perform action).2 := by
  obtain ⟨tape, source, sink⟩ := first
  obtain ⟨otherTape, _, _⟩ := second
  obtain ⟨tapes, rfl, rfl⟩ := inRelation
  simp only at current put
  cases action with
  | right => exact absurd rfl stays.1
  | left => exact absurd rfl stays.2
  | increment =>
      rw [Workspace.perform, Workspace.perform, ← current]
      exact ⟨⟨put _, rfl, rfl⟩, rfl⟩
  | decrement =>
      rw [Workspace.perform, Workspace.perform, ← current]
      exact ⟨⟨put _, rfl, rfl⟩, rfl⟩
  | write =>
      simp only [Workspace.perform, ← current]
      exact ⟨⟨tapes, rfl, rfl⟩, trivial⟩
  | read =>
      simp only [Workspace.perform]
      obtain ⟨result, rest⟩ := source.read
      cases result with
      | error fault => exact ⟨⟨tapes, rfl, rfl⟩, rfl⟩
      | ok byte => exact ⟨⟨put byte, rfl, rfl⟩, rfl⟩
  | comment => exact ⟨⟨tapes, rfl, rfl⟩, rfl⟩

namespace TapeSimulation

variable {within : σ → Prop} {alike : σ → τ → Prop}

/-- An action works in the same way on both workspaces. -/
theorem perform (simulation : TapeSimulation within alike) (action : Action)
    {first : Workspace σ} {second : Workspace τ} (inRelation : first.Alike alike second)
    (guarded : within first.tape) :
    (first.perform action).1.Alike alike (second.perform action).1 ∧
      (first.perform action).2 = (second.perform action).2 := by
  have tapes := inRelation.tape
  have current := simulation.current _ _ tapes guarded
  have put := fun value => simulation.put value _ _ tapes guarded
  have moveRight := simulation.moveRight _ _ tapes guarded
  have moveLeft := simulation.moveLeft _ _ tapes guarded
  cases action with
  | right => exact ⟨⟨moveRight, inRelation.source, inRelation.sink⟩, rfl⟩
  | left => exact ⟨⟨moveLeft, inRelation.source, inRelation.sink⟩, rfl⟩
  | _ => exact inRelation.perform current put (by simp)

theorem workspaces (simulation : TapeSimulation within alike) (program : Program) :
    WorkspaceSimulation program (fun machine => within machine.workspace.tape)
      (Workspace.Alike alike) where
  current inRelation guarded := simulation.current _ _ inRelation.tape guarded
  perform inRelation guarded _ := simulation.perform _ inRelation guarded

/-- One program runs in lockstep on related tapes. -/
theorem lockstep (simulation : TapeSimulation within alike) (program : Program) :
    Lockstep program program (fun machine => within machine.workspace.tape)
      (Machine.Alike alike) := by
  intro first second ⟨position, workspace⟩ guarded
  have stepped :=
    (simulation.workspaces program).lockstep first second ⟨position, workspace⟩ guarded
  exact stepped.imp fun _ _ together => ⟨together.position, together.workspace⟩

/-- Machines on related tapes make the same exchange. -/
theorem exchange_eq (simulation : TapeSimulation within alike) {first : Machine σ}
    {second : Machine τ} (inRelation : first.Alike alike second)
    (guarded : within first.workspace.tape) :
    first.exchange program = second.exchange program := by
  obtain ⟨position, tape, source, sink⟩ := first
  obtain ⟨_, otherTape, _, _⟩ := second
  obtain ⟨rfl, tapes, rfl, rfl⟩ := inRelation
  have current := simulation.current tape otherTape tapes guarded
  simp only [Machine.exchange, Workspace.exchange, Workspace.symbol, Workspace.current, current]

end TapeSimulation

end RingTape
