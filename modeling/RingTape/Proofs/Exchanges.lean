/-
# Runs with their exchanges

A run that gets from one state to another makes certain exchanges on the way, and a run
that stops makes certain exchanges before it does. Such runs can be put together, and what
a run makes of its exchanges does not depend on how many steps it is allowed. The exchanges
are a ledger of the streams: they tell how often the source was read, what it delivered,
and what came into the sink.
-/

import RingTape.Proofs.Step

namespace RingTape.Machine

variable {τ : Type} [TapeLike τ] {program : Program}

/-- The run gets from one state to another and makes these exchanges on the way. -/
def Reaches (program : Program) (machine : Machine τ) (exchanges : List Exchange)
    (later : Machine τ) : Prop :=
  ∃ count, machine.after program count = some later ∧
    machine.exchanges program count = exchanges

/-- The run stops in this way and makes these exchanges before it does. -/
def Stops (program : Program) (machine : Machine τ) (exchanges : List Exchange)
    (halt : Halt τ) : Prop :=
  ∃ limit, machine.run program limit = some halt ∧
    machine.exchanges program limit = exchanges

theorem exchanges_succ_of_advanced {machine next : Machine τ}
    (stepped : machine.step program = .advanced next) (count : Nat) :
    machine.exchanges program (count + 1) =
      (machine.exchange program).toList ++ next.exchanges program count := by
  rw [exchanges, stepped]

/-- Exchanges can be listed in two parts. -/
theorem exchanges_add {count : Nat} {machine middle : Machine τ}
    (reached : machine.after program count = some middle) (more : Nat) :
    machine.exchanges program (count + more) =
      machine.exchanges program count ++ middle.exchanges program more := by
  induction count generalizing machine with
  | zero =>
      obtain rfl := Option.some.inj reached
      simp [exchanges]
  | succ count ih =>
      rw [after] at reached
      cases outcome : machine.step program with
      | ended last => simp [outcome] at reached
      | failed last fault => simp [outcome] at reached
      | advanced next =>
          simp only [outcome] at reached
          rw [Nat.add_right_comm, exchanges_succ_of_advanced outcome, ih reached,
            exchanges_succ_of_advanced outcome, List.append_assoc]

/-- One step more adds the exchange of the state reached by then. -/
theorem exchanges_succ (program : Program) (count : Nat) (machine : Machine τ) :
    machine.exchanges program (count + 1) = machine.exchanges program count ++
      ((machine.after program count).bind (exchange program)).toList := by
  induction count generalizing machine with
  | zero =>
      rw [exchanges]
      cases outcome : machine.step program <;> simp [exchanges, outcome]
  | succ count ih =>
      rw [exchanges, exchanges, after]
      cases machine.step program with
      | ended last => simp
      | failed last fault => simp
      | advanced next => simp only [ih, List.append_assoc]

/-- A step makes one exchange at most. -/
theorem length_exchanges_le (program : Program) (count : Nat) (machine : Machine τ) :
    (machine.exchanges program count).length ≤ count := by
  induction count with
  | zero => exact Nat.le_refl 0
  | succ count ih =>
      rw [exchanges_succ, List.length_append]
      exact Nat.add_le_add ih Option.length_toList_le

/-- The exchanges of a run include those up to a state it gets to and that state's own. -/
theorem exists_exchanges_eq_append {machine middle : Machine τ} {earlier count : Nat}
    (reached : machine.after program earlier = some middle) (within : earlier < count) :
    ∃ rest, machine.exchanges program count =
      machine.exchanges program earlier ++ (middle.exchange program).toList ++ rest := by
  induction within with
  | refl =>
      refine ⟨[], ?_⟩
      rw [exchanges_succ, reached, Option.bind_some, List.append_nil]
  | step within ih =>
      obtain ⟨rest, split⟩ := ih
      rw [exchanges_succ, split, List.append_assoc]
      exact ⟨_, rfl⟩

/-- A run with more than `bound` exchanges of some kind gets to the state that makes the next
one after the first `bound`. -/
theorem exists_exchange_of_lt_length {α : Type} (kind : Exchange → Option α) {bound count : Nat}
    {machine : Machine τ}
    (more : bound < ((machine.exchanges program count).filterMap kind).length) :
    ∃ earlier, earlier < count ∧ ∃ before, machine.after program earlier = some before ∧
      ((machine.exchanges program earlier).filterMap kind).length = bound ∧
      ∃ exchange, before.exchange program = some exchange ∧ (kind exchange).isSome := by
  induction count with
  | zero => simp [exchanges] at more
  | succ count ih =>
      by_cases already : bound < ((machine.exchanges program count).filterMap kind).length
      · obtain ⟨earlier, within, before⟩ := ih already
        exact ⟨earlier, Nat.lt_succ_of_lt within, before⟩
      · -- So the last step made an exchange of this kind, and just `bound` came before it.
        rw [exchanges_succ, List.filterMap_append, List.length_append] at more
        generalize last : (machine.after program count).bind (exchange program) = made at more
        have single := Nat.le_trans (List.length_filterMap_le kind made.toList)
          Option.length_toList_le
        obtain ⟨item, chosen⟩ : ∃ item, item ∈ made.toList.filterMap kind :=
          List.exists_mem_of_length_pos (by omega)
        obtain ⟨exchange, here, chosen⟩ := List.mem_filterMap.mp chosen
        rw [Option.mem_toList.mp here] at last
        obtain ⟨before, reached, makes⟩ := Option.bind_eq_some_iff.mp last
        exact ⟨count, Nat.lt_succ_self count, before, reached, by omega, exchange, makes,
          by rw [chosen, Option.isSome_some]⟩

/-- A run that has stopped makes no more exchanges. -/
theorem exchanges_add_of_run {limit : Nat} {machine : Machine τ} {halt : Halt τ}
    (stopped : machine.run program limit = some halt) (more : Nat) :
    machine.exchanges program (limit + more) = machine.exchanges program limit := by
  induction limit generalizing machine with
  | zero => simp [run] at stopped
  | succ limit ih =>
      rw [run] at stopped
      rw [Nat.add_right_comm, exchanges, exchanges]
      cases outcome : machine.step program with
      | ended last => rfl
      | failed last fault => rfl
      | advanced next =>
          simp only [outcome] at stopped ⊢
          rw [ih stopped]

theorem Reaches.refl (program : Program) (machine : Machine τ) :
    Reaches program machine [] machine :=
  ⟨0, rfl, rfl⟩

theorem Reaches.of_step {machine next : Machine τ}
    (stepped : machine.step program = .advanced next) :
    Reaches program machine (machine.exchange program).toList next := by
  refine ⟨1, after_succ_of_advanced stepped 0, ?_⟩
  rw [exchanges_succ_of_advanced stepped, exchanges, List.append_nil]

theorem Reaches.trans {first middle last : Machine τ} {before after : List Exchange}
    (toMiddle : Reaches program first before middle)
    (onwards : Reaches program middle after last) :
    Reaches program first (before ++ after) last := by
  obtain ⟨count, reached, rfl⟩ := toMiddle
  obtain ⟨more, reachedLast, rfl⟩ := onwards
  exact ⟨count + more, (after_add more reached).trans reachedLast, exchanges_add reached more⟩

theorem Reaches.stops {first middle : Machine τ} {before after : List Exchange}
    {halt : Halt τ} (toMiddle : Reaches program first before middle)
    (onwards : Stops program middle after halt) :
    Stops program first (before ++ after) halt := by
  obtain ⟨count, reached, rfl⟩ := toMiddle
  obtain ⟨limit, stopped, rfl⟩ := onwards
  exact ⟨count + limit, (run_add limit reached).trans stopped, exchanges_add reached limit⟩

/-- A run that stops, stops in the same way from every state it gets to. -/
theorem Reaches.run {machine later : Machine τ} {exchanges : List Exchange} {limit : Nat}
    {halt : Halt τ} (reaches : Reaches program machine exchanges later)
    (stopped : machine.run program limit = some halt) :
    later.run program limit = some halt := by
  obtain ⟨count, reached, _⟩ := reaches
  rw [← run_add limit reached]
  exact run_of_le (Nat.le_add_left limit count) stopped

theorem stops_of_ended {machine last : Machine τ}
    (stepped : machine.step program = .ended last) :
    Stops program machine (machine.exchange program).toList ⟨last, none⟩ := by
  refine ⟨1, ?_, ?_⟩
  · rw [run, stepped]
  · rw [exchanges, stepped, List.append_nil]

theorem stops_of_failed {machine last : Machine τ} {fault : Fault}
    (stepped : machine.step program = .failed last fault) :
    Stops program machine (machine.exchange program).toList ⟨last, some fault⟩ := by
  refine ⟨1, ?_, ?_⟩
  · rw [run, stepped]
  · rw [exchanges, stepped, List.append_nil]

/-- Some steps lead somewhere, or the run stops before it has made them. -/
theorem reaches_or_stops (program : Program) (count : Nat) (machine : Machine τ) :
    (∃ later, Reaches program machine (machine.exchanges program count) later) ∨
      ∃ halt, Stops program machine (machine.exchanges program count) halt := by
  induction count generalizing machine with
  | zero => exact .inl ⟨machine, .refl program machine⟩
  | succ count ih =>
      cases outcome : machine.step program with
      | ended last =>
          rw [exchanges, outcome, List.append_nil]
          exact .inr ⟨_, stops_of_ended outcome⟩
      | failed last fault =>
          rw [exchanges, outcome, List.append_nil]
          exact .inr ⟨_, stops_of_failed outcome⟩
      | advanced next =>
          rw [exchanges_succ_of_advanced outcome]
          rcases ih next with ⟨later, onwards⟩ | ⟨halt, onwards⟩
          · exact .inl ⟨later, (Reaches.of_step outcome).trans onwards⟩
          · exact .inr ⟨halt, (Reaches.of_step outcome).stops onwards⟩

/-- A run stops in one way only, after one list of exchanges. -/
theorem Stops.unique {machine : Machine τ} {first second : List Exchange}
    {halt other : Halt τ} (stops : Stops program machine first halt)
    (otherwise : Stops program machine second other) : first = second ∧ halt = other := by
  obtain ⟨limit, stopped, rfl⟩ := stops
  obtain ⟨larger, stoppedLater, rfl⟩ := otherwise
  constructor
  · rw [← exchanges_add_of_run stopped larger, Nat.add_comm limit larger,
      exchanges_add_of_run stoppedLater limit]
  · have common := run_of_le (Nat.le_add_right limit larger) stopped
    rw [run_of_le (Nat.le_add_left larger limit) stoppedLater] at common
    exact (Option.some.inj common).symm

end RingTape.Machine

namespace RingTape

variable {τ : Type}

/-! ## Ledgers -/

/-- The exchanges tell how the streams of the first workspace became those of the last: the
source was read once for each result, with just these results, and the sink took the writes. -/
structure Workspace.Ledger (exchanged : List Exchange) (first last : Workspace τ) : Prop where
  results : Exchange.results exchanged =
    (first.source.readMany (Exchange.results exchanged).length).1
  source : last.source = (first.source.readMany (Exchange.results exchanged).length).2
  sink : last.sink = first.sink.took exchanged

namespace Workspace

theorem Ledger.of_silent {first last : Workspace τ} (source : last.source = first.source)
    (sink : last.sink = first.sink) : Ledger [] first last :=
  ⟨rfl, source, sink⟩

theorem Ledger.refl (workspace : Workspace τ) : Ledger [] workspace workspace :=
  .of_silent rfl rfl

theorem Ledger.append {first middle last : Workspace τ} {before after : List Exchange}
    (toMiddle : Ledger before first middle) (onwards : Ledger after middle last) :
    Ledger (before ++ after) first last := by
  have results := onwards.results
  have source := onwards.source
  rw [toMiddle.source] at results source
  constructor
  · rw [Exchange.results_append, List.length_append, Source.readMany_add, ← results,
      ← toMiddle.results]
  · rw [Exchange.results_append, List.length_append, Source.readMany_add]
    exact source
  · rw [Sink.took_append, ← toMiddle.sink]
    exact onwards.sink

theorem Ledger.reads {first last : Workspace τ} {exchanged : List Exchange}
    (ledger : Ledger exchanged first last) :
    last.source.reads = first.source.reads + (Exchange.results exchanged).length := by
  rw [ledger.source, Source.reads_readMany]

theorem Ledger.written {first last : Workspace τ} {exchanged : List Exchange}
    (ledger : Ledger exchanged first last) :
    last.sink.written.toList =
      first.sink.written.toList ++ Exchange.characters exchanged := by
  rw [ledger.sink, Sink.toList_written_took]

variable [TapeLike τ]

/-- An action is accounted for by the exchange that it makes. -/
theorem ledger_perform (action : Action) (workspace : Workspace τ) :
    Ledger (workspace.exchange action).toList workspace (workspace.perform action).1 := by
  obtain ⟨tape, source, sink⟩ := workspace
  cases action with
  | right | left | increment | decrement | comment => exact .of_silent rfl rfl
  | write =>
      rw [perform_write, exchange]
      cases refused : sink.refusal (symbol ⟨tape, source, sink⟩) with
      | some fault => exact ⟨rfl, rfl, congrArg Prod.snd (Sink.write_of_refusal refused)⟩
      | none => exact ⟨rfl, rfl, congrArg Prod.snd (Sink.write_of_taken refused)⟩
  | read =>
      simp only [exchange, perform]
      cases outcome : source.read with
      | mk result rest =>
          have accounted (last : Workspace τ) (sameSource : last.source = rest)
              (sameSink : last.sink = sink) :
              Ledger [.read result] ⟨tape, source, sink⟩ last := by
            refine ⟨?_, ?_, ?_⟩
            · simp [Exchange.results, Exchange.result?, Source.readMany, outcome]
            · simp [Exchange.results, Exchange.result?, Source.readMany, outcome, sameSource]
            · exact sameSink
          cases result with
          | ok byte => exact accounted _ rfl rfl
          | error fault => exact accounted _ rfl rfl

end Workspace

namespace Machine

open Workspace (Ledger)

variable [TapeLike τ] {program : Program}

theorem exchange_of_action {machine : Machine τ} {action : Action}
    (here : program[machine.position]? = some (.action action)) :
    machine.exchange program = machine.workspace.exchange action := by
  simp only [exchange, here]

/-- Only an action makes an exchange. -/
theorem exchange_of_not_action {machine : Machine τ}
    (other : ∀ action, program[machine.position]? ≠ some (.action action)) :
    machine.exchange program = none := by
  rw [exchange]
  split
  · exact absurd ‹_› (other _)
  · rfl

theorem ledger_of_advanced {machine next : Machine τ}
    (stepped : machine.step program = .advanced next) :
    Ledger (machine.exchange program).toList machine.workspace next.workspace := by
  cases step_eq_iff.mp stepped with
  | @acted action next here performed =>
      rw [exchange_of_action here]
      have ledger := Workspace.ledger_perform action machine.workspace
      rwa [performed] at ledger
  | entered here | left here =>
      rw [exchange_of_not_action (by simp [here])]
      exact .refl _
  | skipped zero matched =>
      rw [exchange_of_not_action (by simp [matched.opening])]
      exact .refl _
  | repeated nonzero matched =>
      rw [exchange_of_not_action (by simp [matched.closing])]
      exact .refl _

theorem ledger_of_failed {machine last : Machine τ} {fault : Fault}
    (stepped : machine.step program = .failed last fault) :
    Ledger (machine.exchange program).toList machine.workspace last.workspace := by
  cases step_eq_iff.mp stepped with
  | @broken action last fault here performed =>
      rw [exchange_of_action here]
      have ledger := Workspace.ledger_perform action machine.workspace
      rwa [performed] at ledger
  | unclosed here | unopened here =>
      rw [exchange_of_not_action (by simp [here])]
      exact .refl _

theorem ledger_of_ended {machine last : Machine τ}
    (stepped : machine.step program = .ended last) :
    Ledger (machine.exchange program).toList machine.workspace last.workspace := by
  cases step_eq_iff.mp stepped with
  | ended outside =>
      rw [exchange_of_not_action (by simp [outside])]
      exact .refl _

/-- The exchanges of a run account for its streams as far as it has got. -/
theorem ledger_after {count : Nat} {machine later : Machine τ}
    (reached : machine.after program count = some later) :
    Ledger (machine.exchanges program count) machine.workspace later.workspace := by
  induction count generalizing machine with
  | zero =>
      obtain rfl := Option.some.inj reached
      exact .refl _
  | succ count ih =>
      rw [after] at reached
      cases outcome : machine.step program with
      | ended last => simp [outcome] at reached
      | failed last fault => simp [outcome] at reached
      | advanced next =>
          simp only [outcome] at reached
          rw [exchanges_succ_of_advanced outcome]
          exact (ledger_of_advanced outcome).append (ih reached)

/-- The exchanges of a run that stops account for its streams altogether. -/
theorem ledger_run {limit : Nat} {machine : Machine τ} {halt : Halt τ}
    (stopped : machine.run program limit = some halt) :
    Ledger (machine.exchanges program limit) machine.workspace halt.machine.workspace := by
  induction limit generalizing machine with
  | zero => simp [run] at stopped
  | succ limit ih =>
      rw [run] at stopped
      rw [exchanges]
      cases outcome : machine.step program with
      | ended last =>
          simp only [outcome, Option.some.injEq] at stopped
          subst stopped
          rw [List.append_nil]
          exact ledger_of_ended outcome
      | failed last fault =>
          simp only [outcome, Option.some.injEq] at stopped
          subst stopped
          rw [List.append_nil]
          exact ledger_of_failed outcome
      | advanced next =>
          simp only [outcome] at stopped ⊢
          exact (ledger_of_advanced outcome).append (ih stopped)

end Machine

end RingTape
