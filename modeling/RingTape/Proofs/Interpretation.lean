/-
# Interpretations and their runs

Whether code is run does not depend on what it says, as long as it is a sequence: the size alone
is looked at before. What is run then comes to an end exactly when its run stops, in one way
only, and the report tells what the run has left behind.
-/

import RingTape.Interpreter
import RingTape.Proofs.Exchanges
import RingTape.Proofs.Lockstep

namespace RingTape.Interpreter

open Machine (start Stops)

variable {code otherCode : Code} {program other : Program} {size : Value}
  {cells : { cells : Nat // 0 < cells }} {tape : Tape} {source : Source} {sink : Sink}

/-- The size is refused before the code is looked at, whatever can be allocated. -/
theorem prepareWith_of_check_error {failure : Failure}
    (refused : MemorySize.check size = .error failure) (allocate : MemorySize.Allocator)
    (code : Code) : prepareWith allocate code size = .error failure := by
  rw [prepareWith, refused]
  rfl

theorem prepare_of_check_error {failure : Failure}
    (refused : MemorySize.check size = .error failure) (code : Code) :
    prepare code size = .error failure :=
  prepareWith_of_check_error refused MemorySize.allocate code

/-- A size that is taken is allocated, and then the code is looked at. -/
theorem prepareWith_of_check (checked : MemorySize.check size = .ok cells)
    (allocate : MemorySize.Allocator) (code : Code) :
    prepareWith allocate code size = do
      let tape ← allocate cells
      let program ← code.program
      return (cells, tape, program) := by
  rw [prepareWith, checked]
  rfl

theorem prepare_of_check (given : code.program = .ok program)
    (checked : MemorySize.check size = .ok cells) :
    prepare code size =
      (MemorySize.allocate cells).map fun tape => (cells, tape, program) := by
  rw [prepare, prepareWith_of_check checked, given]
  rfl

/-- Two codes that are sequences are both run on the same blank tape, or they are refused for one
reason, which is not that a run was broken off. -/
theorem prepare_alike (given : code.program = .ok program)
    (otherGiven : otherCode.program = .ok other) (size : Value) :
    (∃ cells tape, prepare code size = .ok (cells, tape, program) ∧
      prepare otherCode size = .ok (cells, tape, other)) ∨
    ∃ failure, prepare code size = .error failure ∧ prepare otherCode size = .error failure ∧
      ∀ fault, failure ≠ .brokenOff fault := by
  cases checked : MemorySize.check size with
  | error failure =>
      refine .inr ⟨failure, prepare_of_check_error checked code,
        prepare_of_check_error checked otherCode, ?_⟩
      rw [MemorySize.check_eq_error checked]
      simp
  | ok cells =>
      have prepared := prepare_of_check given checked
      have otherPrepared := prepare_of_check otherGiven checked
      cases made : MemorySize.allocate cells with
      | ok tape =>
          rw [made] at prepared otherPrepared
          exact .inl ⟨cells, tape, prepared, otherPrepared⟩
      | error failure =>
          rw [made] at prepared otherPrepared
          refine .inr ⟨failure, prepared, otherPrepared, ?_⟩
          rcases MemorySize.allocate_eq_error made with rfl | rfl <;> simp

/-- An interpretation comes to an end when its run stops. -/
theorem exists_interpret_iff (prepared : prepare code size = .ok (cells, tape, program))
    {report : Report} :
    (∃ limit, interpret limit code size source sink = some report) ↔
      ∃ exchanged halt, Stops program (start ⟨tape, source, sink⟩) exchanged halt ∧
        conclude (.running program.size cells.val) halt = report := by
  simp only [interpret_of_prepare prepared, Option.map_eq_some_iff]
  constructor
  · rintro ⟨limit, halt, stopped, concluded⟩
    exact ⟨_, halt, ⟨limit, stopped, rfl⟩, concluded⟩
  · rintro ⟨_, halt, ⟨limit, stopped, _⟩, concluded⟩
    exact ⟨limit, halt, stopped, concluded⟩

/-- A run that comes to its end is concluded by a flush. What the report says of the streams is what
the exchanges of the run tell. -/
theorem interpret_of_run (prepared : prepare code size = .ok (cells, tape, program)) {limit : Nat}
    {last : Machine Tape}
    (stopped : (start ⟨tape, source, sink⟩).run program limit = some ⟨last, none⟩)
    (flushed : sink.flush.1 = none) :
    let exchanged := (start ⟨tape, source, sink⟩).exchanges program limit
    interpret limit code size source sink =
      some ⟨(source.readMany (Exchange.results exchanged).length).2,
        sink.flush.2.took exchanged, [.running program.size cells.val, .finished], none⟩ := by
  obtain ⟨_, sourceTold, sinkTold⟩ := Machine.ledger_run stopped
  rw [interpret_of_prepare prepared, stopped, Option.map_some, conclude_of_ended, sourceTold,
    sinkTold, finish, Sink.flush_took, start, flushed]
  rfl

theorem exists_interpret_of_stops (prepared : prepare code size = .ok (cells, tape, program))
    {exchanged : List Exchange} {last : Machine Tape}
    (stops : Stops program (start ⟨tape, source, sink⟩) exchanged ⟨last, none⟩)
    (flushed : sink.flush.1 = none) :
    ∃ limit, exchanges limit code size source sink = exchanged ∧
      interpret limit code size source sink =
        some ⟨(source.readMany (Exchange.results exchanged).length).2,
          sink.flush.2.took exchanged, [.running program.size cells.val, .finished], none⟩ := by
  obtain ⟨limit, stopped, rfl⟩ := stops
  exact ⟨limit, by rw [exchanges, prepared], interpret_of_run prepared stopped flushed⟩

/-- Related machines that stopped leave the same streams and the same failure behind. -/
theorem conclude_eq_of_related {σ τ : Type} {alike : σ → τ → Prop} {first : Halt σ}
    {second : Halt τ} (inRelation : Halt.Related (Machine.Alike alike) first second)
    (begun : Event) : conclude begun first = conclude begun second := by
  obtain ⟨⟨position, tape, source, sink⟩, fault⟩ := first
  obtain ⟨⟨_, otherTape, _, _⟩, _⟩ := second
  obtain ⟨⟨rfl, _, rfl, rfl⟩, rfl⟩ := inRelation
  cases fault <;> rfl

theorem map_conclude_eq_of_related {σ τ : Type} {alike : σ → τ → Prop}
    {first : Option (Halt σ)} {second : Option (Halt τ)}
    (inRelation : Option.Rel (Halt.Related (Machine.Alike alike)) first second)
    (begun : Event) : first.map (conclude begun) = second.map (conclude begun) := by
  cases inRelation with
  | none => rfl
  | some related => exact congrArg some (conclude_eq_of_related related begun)

/-- Interpretations of one code on the same streams that come to an end are the same. -/
theorem interpret_unique {limit larger : Nat} {report other : Report}
    (interpreted : interpret limit code size source sink = some report)
    (otherwise : interpret larger code size source sink = some other) : report = other := by
  cases prepared : prepare code size with
  | error failure =>
      rw [interpret_of_refuse prepared] at interpreted otherwise
      exact Option.some.inj (interpreted.symm.trans otherwise)
  | ok made =>
      obtain ⟨cells, tape, program⟩ := made
      rw [interpret_of_prepare prepared, Option.map_eq_some_iff] at interpreted otherwise
      obtain ⟨halt, stopped, rfl⟩ := interpreted
      obtain ⟨last, stoppedLater, rfl⟩ := otherwise
      rw [(Stops.unique ⟨limit, stopped, rfl⟩ ⟨larger, stoppedLater, rfl⟩).2]

end RingTape.Interpreter
