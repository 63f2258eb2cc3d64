/-
# Counting loops

The body of a counting loop is a straight stretch that leads the head back to the cell where it
began. Each time it changes this cell, which the brackets test, by the same amount modulo 256. So
the loop comes to its end exactly when some multiple of the amount takes the cell to zero, and
the least one tells how many times the body is carried out and what it has done by then to every
other cell.
-/

import Mathlib.Data.Int.GCD
import Mathlib.Data.Nat.Find
import Mathlib.Tactic.Ring
import RingTape.Proofs.StraightCode
import RingTape.Proofs.Structured

namespace RingTape

/-! ## Counters -/

section Counters

variable {counter change : Int}

theorem expires_iff_dvd {rounds : Nat} :
    Expires counter change rounds ↔ (256 : Int) ∣ counter + rounds * change :=
  Int.dvd_iff_emod_eq_zero.symm

/-- What the change and 256 have in common divides every value that a counter has on its way to
zero. Conversely a combination of the change and 256 is their divisor, and a multiple of it takes
the counter to zero. -/
theorem exists_expires_iff :
    (∃ rounds, Expires counter change rounds) ↔ (Int.gcd change 256 : Int) ∣ counter := by
  constructor
  · rintro ⟨rounds, expires⟩
    have total : (Int.gcd change 256 : Int) ∣ counter + rounds * change :=
      Int.dvd_trans (Int.gcd_dvd_right change 256) (expires_iff_dvd.mp expires)
    have part : (Int.gcd change 256 : Int) ∣ rounds * change :=
      Int.dvd_trans (Int.gcd_dvd_left change 256) (Int.dvd_mul_left _ _)
    exact (Int.dvd_iff_dvd_of_dvd_add total).mpr part
  · rintro ⟨multiple, rfl⟩
    obtain ⟨wanted, exact⟩ : ∃ wanted, wanted = -(multiple * Int.gcdA change 256) := ⟨_, rfl⟩
    have nonnegative : 0 ≤ wanted % 256 := Int.emod_nonneg _ (by decide)
    refine ⟨(wanted % 256).toNat, expires_iff_dvd.mpr ?_⟩
    rw [Int.toNat_of_nonneg nonnegative, Int.emod_def, Int.gcd_eq_gcd_ab]
    refine ⟨multiple * Int.gcdB change 256 - wanted / 256 * change, ?_⟩
    calc (change * Int.gcdA change 256 + 256 * Int.gcdB change 256) * multiple +
          (wanted - 256 * (wanted / 256)) * change
      _ = 256 * (multiple * Int.gcdB change 256 - wanted / 256 * change) +
          (multiple * Int.gcdA change 256 + wanted) * change := by ring
      _ = 256 * (multiple * Int.gcdB change 256 - wanted / 256 * change) := by
          rw [exact, Int.add_right_neg, Int.zero_mul, Int.add_zero]

end Counters

/-! ## Rounds -/

namespace Tape

variable (tape : Tape) (stretch : List Instruction) (count : Nat)

@[simp]
theorem rounds_zero : tape.rounds stretch 0 = tape := rfl

theorem rounds_succ :
    tape.rounds stretch (count + 1) = through stretch (tape.rounds stretch count) :=
  Function.iterate_succ_apply' _ _ _

@[simp]
theorem size_rounds : (tape.rounds stretch count).size = tape.size := by
  induction count with
  | zero => rfl
  | succ count ih => rw [rounds_succ, size_through, ih]

variable {tape stretch} (returns : displacement stretch % tape.size = 0)

include returns

/-- A stretch that leads around the ring a whole number of times leads back. -/
theorem head_rounds : (tape.rounds stretch count).head = tape.head := by
  induction count with
  | zero => rfl
  | succ count ih =>
      apply Int.natCast_inj.mp
      calc ((tape.rounds stretch (count + 1)).head : Int)
        _ = (tape.head + displacement stretch) % tape.size := by
            rw [rounds_succ, head_through, size_rounds, ih]
        _ = tape.head := by
            rw [← Int.add_emod_emod, returns, Int.add_zero, head_emod_size]

/-- Every round adds the same to a cell. -/
theorem value_rounds (index : Int) :
    (tape.rounds stretch count).value index =
      (tape.value index + count * gain tape.size (index - tape.head) stretch) % 256 := by
  induction count with
  | zero => simp
  | succ count ih =>
      rw [rounds_succ, value_through, size_rounds, head_rounds count returns, ih,
        Int.emod_add_emod, Int.natCast_add_one, Int.add_mul, Int.one_mul, Int.add_assoc]

/-- The cell that the brackets test is a counter. -/
theorem current_rounds_eq_zero_iff :
    (tape.rounds stretch count).current = 0 ↔
      Expires (tape.value tape.head) (gain tape.size 0 stretch) count := by
  rw [current_eq_zero_iff, head_rounds count returns, value_rounds count returns, Int.sub_self,
    Expires]

end Tape

/-! ## Loops -/

namespace Program

variable {body : Program}

theorem toList_loop (body : Program) :
    body.loop.toList = [.loopStart] ++ (body.toList ++ [.loopEnd]) := by
  simp [loop]

theorem size_loop (body : Program) : body.loop.size = body.size + 1 + 1 := by
  simp [loop, Nat.add_comm]

/-- The two brackets around a balanced body belong together. -/
theorem matched_loop (balanced : Balanced body.toList) : body.loop.Matched 0 (body.size + 1) := by
  have text : body.loop.toList = [] ++ .loopStart :: (body.toList ++ .loopEnd :: []) :=
    toList_loop body
  have matched := matched_of_toList_eq text balanced
  rwa [List.length_nil, Nat.zero_add, Array.length_toList, Nat.add_comm] at matched

end Program

namespace Machine

section Loops

variable {body : Program} (straight : Straight body.toList) (tape : Tape) (source : Source)
  (sink : Sink)

include straight

/-- A bracket of the loop leads into the body while the cell is not zero, and the body leads to
the loop end. -/
theorem after_body {position : Nat} (bracket : position = 0 ∨ position = body.size + 1)
    (nonzero : tape.current ≠ 0) {place : Nat} (within : place ≤ body.size) :
    after body.loop (place + 1) ⟨position, tape, source, sink⟩ =
        some ⟨place + 1, tape.through (body.toList.take place), source, sink⟩ ∧
      exchanges body.loop (place + 1) ⟨position, tape, source, sink⟩ = [] := by
  have matched := Program.matched_loop straight.balanced
  obtain ⟨stepped, silent⟩ :
      step body.loop ⟨position, tape, source, sink⟩ = .advanced ⟨1, tape, source, sink⟩ ∧
        exchange body.loop ⟨position, tape, source, sink⟩ = none := by
    rcases bracket with rfl | rfl
    · exact ⟨step_eq_iff.mpr (.entered matched.opening nonzero),
        exchange_of_loopStart matched.opening⟩
    · exact ⟨step_eq_iff.mpr (.repeated nonzero matched), exchange_of_loopEnd matched.closing⟩
  obtain ⟨reached, quiet⟩ :=
    after_straight (Program.toList_loop body) straight tape source sink place within
  rw [List.length_singleton] at reached quiet
  constructor
  · rw [after_succ_of_advanced stepped, reached, Nat.add_comm]
  · rw [exchanges_succ_of_advanced stepped, quiet, silent]
    rfl

/-- A bracket of the loop leads behind it once the cell is zero. -/
theorem step_of_zero {position : Nat} (bracket : position = 0 ∨ position = body.size + 1)
    (zero : tape.current = 0) :
    step body.loop ⟨position, tape, source, sink⟩ =
        .advanced ⟨body.loop.size, tape, source, sink⟩ ∧
      exchange body.loop ⟨position, tape, source, sink⟩ = none := by
  have matched := Program.matched_loop straight.balanced
  rw [Program.size_loop]
  rcases bracket with rfl | rfl
  · exact ⟨step_eq_iff.mpr (.skipped zero matched), exchange_of_loopStart matched.opening⟩
  · exact ⟨step_eq_iff.mpr (.left matched.closing zero), exchange_of_loopEnd matched.closing⟩

variable {tape} {count : Nat}
  (nonzero : ∀ fewer, fewer < count → (tape.rounds body.toList fewer).current ≠ 0)

include nonzero

/-- After each round control is at a bracket, as long as the cell has not been zero there. -/
theorem after_rounds :
    ∃ position, (position = 0 ∨ position = body.size + 1) ∧
      (start ⟨tape, source, sink⟩).after body.loop (count * (body.size + 1)) =
        some ⟨position, tape.rounds body.toList count, source, sink⟩ ∧
      (start ⟨tape, source, sink⟩).exchanges body.loop (count * (body.size + 1)) = [] := by
  induction count with
  | zero => exact ⟨0, .inl rfl, by rw [Nat.zero_mul]; rfl, by rw [Nat.zero_mul]; rfl⟩
  | succ count ih =>
      obtain ⟨position, bracket, reached, silent⟩ :=
        ih fun fewer before => nonzero fewer (Nat.lt_succ_of_lt before)
      obtain ⟨onwards, quiet⟩ := after_body straight _ source sink bracket
        (nonzero count (Nat.lt_succ_self count)) (Nat.le_refl body.size)
      rw [← Array.length_toList, List.take_length, ← Tape.rounds_succ,
        Array.length_toList] at onwards
      refine ⟨body.size + 1, .inr rfl, ?_, ?_⟩
      · rw [Nat.succ_mul, after_add _ reached, onwards]
      · rw [Nat.succ_mul, exchanges_add reached, silent, quiet]
        rfl

/-- The body begins anew in each of these rounds and at no other time before the last of them
is over. -/
theorem position_in_rounds {steps : Nat} (within : steps < count * (body.size + 1)) :
    ∃ later : Machine Tape,
      (start ⟨tape, source, sink⟩).after body.loop (steps + 1) = some later ∧
        later.position = steps % (body.size + 1) + 1 := by
  have length : 0 < body.size + 1 := Nat.succ_pos _
  have round : steps / (body.size + 1) < count := (Nat.div_lt_iff_lt_mul length).mpr within
  obtain ⟨position, bracket, reached, _⟩ := after_rounds straight source sink
    fun fewer before => nonzero fewer (Nat.lt_trans before round)
  obtain ⟨onwards, _⟩ := after_body straight _ source sink bracket (nonzero _ round)
    (Nat.le_of_lt_succ (Nat.mod_lt steps length))
  have parts : steps + 1 =
      steps / (body.size + 1) * (body.size + 1) + (steps % (body.size + 1) + 1) := by
    rw [← Nat.add_assoc, Nat.div_add_mod']
  exact ⟨_, by rw [parts, after_add _ reached, onwards], rfl⟩

variable (zero : (tape.rounds body.toList count).current = 0)

include zero

/-- Once the cell is zero at a bracket the loop is left, one step later. -/
theorem after_last_round :
    (start ⟨tape, source, sink⟩).after body.loop (count * (body.size + 1) + 1) =
        some ⟨body.loop.size, tape.rounds body.toList count, source, sink⟩ ∧
      (start ⟨tape, source, sink⟩).exchanges body.loop (count * (body.size + 1) + 1) = [] := by
  obtain ⟨position, bracket, reached, silent⟩ := after_rounds straight source sink nonzero
  obtain ⟨stepped, quiet⟩ := step_of_zero straight _ source sink bracket zero
  refine ⟨after_succ_eq_some_iff.mpr ⟨_, reached, stepped⟩, ?_⟩
  rw [exchanges_succ, reached, Option.bind_some, silent, quiet]
  rfl

theorem stops_after_last_round :
    Stops body.loop (start ⟨tape, source, sink⟩) []
      ⟨⟨body.loop.size, tape.rounds body.toList count, source, sink⟩, none⟩ := by
  obtain ⟨reached, silent⟩ := after_last_round straight source sink nonzero zero
  have ended := stops_of_ended (Tree.step_at_size body.loop
    (⟨tape.rounds body.toList count, source, sink⟩ : Workspace Tape))
  rw [exchange_of_not_action (by simp)] at ended
  exact Reaches.stops ⟨_, reached, silent⟩ ended

/-- The body is begun once for each round. -/
theorem begins_body_iff (steps : Nat) :
    (∃ workspace, (start ⟨tape, source, sink⟩).after body.loop steps = some ⟨1, workspace⟩) ↔
      ∃ round, round < count ∧ steps = round * (body.size + 1) + 1 := by
  constructor
  · rintro ⟨workspace, reached⟩
    cases steps with
    | zero => simp [start] at reached
    | succ steps =>
        rcases Nat.lt_or_ge steps (count * (body.size + 1)) with within | beyond
        · obtain ⟨later, reachedLater, position⟩ :=
            position_in_rounds straight source sink nonzero within
          rw [reached] at reachedLater
          obtain rfl := Option.some.inj reachedLater
          have whole : steps % (body.size + 1) = 0 := Nat.succ.inj position.symm
          refine ⟨steps / (body.size + 1),
            (Nat.div_lt_iff_lt_mul (Nat.succ_pos _)).mpr within, ?_⟩
          rw [Nat.div_mul_cancel (Nat.dvd_of_mod_eq_zero whole)]
        · -- By then the loop has been left, and no step leads back.
          obtain ⟨left, _⟩ := after_last_round straight source sink nonzero zero
          obtain ⟨more, rfl⟩ := Nat.exists_eq_add_of_le beyond
          rw [Nat.add_right_comm, after_add more left] at reached
          cases more with
          | zero =>
              have behind := congrArg position (Option.some.inj reached)
              simp [Program.loop] at behind
          | succ more => simp [after, Tree.step_at_size] at reached
  · rintro ⟨round, before, rfl⟩
    have within : round * (body.size + 1) < count * (body.size + 1) :=
      Nat.mul_lt_mul_of_pos_right before (Nat.succ_pos _)
    obtain ⟨⟨place, workspace⟩, reached, position⟩ :=
      position_in_rounds straight source sink nonzero within
    rw [Nat.mul_mod_left] at position
    obtain rfl : place = 1 := position
    exact ⟨workspace, reached⟩

end Loops

/-- A counter that never is zero keeps the loop going. -/
theorem run_loop_eq_none {body : Program} (straight : Straight body.toList) {tape : Tape}
    (source : Source) (sink : Sink)
    (nonzero : ∀ count, (tape.rounds body.toList count).current ≠ 0) (limit : Nat) :
    (start ⟨tape, source, sink⟩).run body.loop limit = none := by
  obtain ⟨_, _, reached, _⟩ := after_rounds straight source sink
    fun fewer (_ : fewer < limit) => nonzero fewer
  exact run_eq_none_of_after reached (Nat.le_mul_of_pos_right limit (Nat.succ_pos _))

/-- A counter that some time is zero ends the loop, when it is zero at a bracket for the first
time. -/
theorem exists_stops_of_expires {body : Program} (straight : Straight body.toList) {tape : Tape}
    (returns : displacement body.toList % tape.size = 0) (source : Source) (sink : Sink)
    (reachable : ∃ count, Expires (tape.value tape.head) (gain tape.size 0 body.toList) count) :
    ∃ count, (tape.rounds body.toList count).current = 0 ∧
      Stops body.loop (start ⟨tape, source, sink⟩) []
        ⟨⟨body.loop.size, tape.rounds body.toList count, source, sink⟩, none⟩ := by
  have zero_iff (count : Nat) := Tape.current_rounds_eq_zero_iff count returns
  have zero := (zero_iff _).mpr (Nat.find_spec reachable)
  have nonzero (fewer : Nat) (before : fewer < Nat.find reachable) :
      (tape.rounds body.toList fewer).current ≠ 0 :=
    mt (zero_iff fewer).mp (Nat.find_min reachable before)
  exact ⟨_, zero, stops_after_last_round straight source sink nonzero zero⟩

/-- A loop around a straight stretch that leads back to the cell where it began, run on any ring
from any content of its cells and any position of the head, comes to its end exactly when some
number of changes takes the tested cell to zero modulo 256, that is, when whatever divides the
change and 256 divides the cell. The body is then begun, and carried out, as many times as the
least such number says, one time right behind the other, and every cell has changed by as many
times what the body adds to it; the head is where it was, over a zero cell, and nothing has been
read or written. Otherwise the run never ends. -/
theorem loop_counts_to_zero (body : Program) (straight : Straight body.toList) (tape : Tape)
    (returns : displacement body.toList % tape.size = 0) (source : Source) (sink : Sink) :
    let change (offset : Int) := gain tape.size offset body.toList
    let counter := tape.value tape.head
    let machine := start ⟨tape, source, sink⟩
    ((∃ limit last, machine.run body.loop limit = some ⟨last, none⟩) ↔
        ∃ count, Expires counter (change 0) count) ∧
      ((∃ count, Expires counter (change 0) count) ↔
        (Int.gcd (change 0) 256 : Int) ∣ counter) ∧
      (∀ count, Expires counter (change 0) count →
        (∀ fewer, fewer < count → ¬ Expires counter (change 0) fewer) →
        (∀ steps,
          (∃ workspace, machine.after body.loop steps = some ⟨1, workspace⟩) ↔
            ∃ round, round < count ∧ steps = round * (body.size + 1) + 1) ∧
        ∃ last : Tape,
          machine.after body.loop (count * (body.size + 1) + 1) =
            some ⟨body.loop.size, last, source, sink⟩ ∧
          Stops body.loop machine [] ⟨⟨body.loop.size, last, source, sink⟩, none⟩ ∧
          last.head = tape.head ∧ last.current = 0 ∧
          ∀ offset : Int, last.value (tape.head + offset) =
            (tape.value (tape.head + offset) + count * change offset) % 256) ∧
      ((¬ ∃ count, Expires counter (change 0) count) →
        ∀ limit, machine.run body.loop limit = none) := by
  intro change counter machine
  have zero_iff (count : Nat) :
      (tape.rounds body.toList count).current = 0 ↔ Expires counter (change 0) count :=
    Tape.current_rounds_eq_zero_iff count returns
  have forever (never : ¬ ∃ count, Expires counter (change 0) count) (limit : Nat) :
      machine.run body.loop limit = none := by
    apply run_loop_eq_none straight
    intro count zero
    exact never ⟨count, (zero_iff count).mp zero⟩
  refine ⟨⟨?_, ?_⟩, exists_expires_iff, ?_, forever⟩
  · rintro ⟨limit, last, stopped⟩
    by_contra never
    simp [forever never limit] at stopped
  · intro reachable
    obtain ⟨_, _, limit, stopped, _⟩ :=
      exists_stops_of_expires straight returns source sink reachable
    exact ⟨limit, _, stopped⟩
  · intro count expires least
    have nonzero (fewer : Nat) (before : fewer < count) :
        (tape.rounds body.toList fewer).current ≠ 0 :=
      mt (zero_iff fewer).mp (least fewer before)
    have zero := (zero_iff count).mpr expires
    obtain ⟨reached, _⟩ := after_last_round straight source sink nonzero zero
    refine ⟨begins_body_iff straight source sink nonzero zero, tape.rounds body.toList count,
      reached, stops_after_last_round straight source sink nonzero zero,
      Tape.head_rounds count returns, zero, ?_⟩
    intro offset
    have distance : (tape.head : Int) + offset - tape.head = offset := by omega
    rw [Tape.value_rounds count returns, distance]

/-- The body `>+>++` leads once around a ring of two cells, adding 2 to the cell where it began
and 1 to the other. From 250 that cell is zero after three rounds; from an odd number it never
is. -/
theorem loop_counts_to_zero_of_wrapping :
    let body : Program := #[.action .right, .action .increment, .action .right,
      .action .increment, .action .increment]
    let even : Tape := ⟨#[250, 7], 0, by decide⟩
    let odd : Tape := ⟨#[251, 7], 0, by decide⟩
    Straight body.toList ∧ displacement body.toList % even.size = 0 ∧
      Expires (even.value even.head) (gain even.size 0 body.toList) 3 ∧
      (∀ fewer, fewer < 3 → ¬ Expires (even.value even.head) (gain even.size 0 body.toList) fewer) ∧
      (∃ last : Tape,
        Stops body.loop (start ⟨even, .empty, .plain⟩) [] ⟨⟨7, last, .empty, .plain⟩, none⟩ ∧
          last.current = 0 ∧ last.value 1 = 10) ∧
      ¬ (Int.gcd (gain odd.size 0 body.toList) 256 : Int) ∣ odd.value odd.head ∧
      ∀ limit, (start ⟨odd, .empty, .plain⟩).run body.loop limit = none := by
  intro body even odd
  have straight : Straight body.toList := by decide
  have returns : displacement body.toList % even.size = 0 := by decide
  have expires : Expires (even.value even.head) (gain even.size 0 body.toList) 3 := by decide
  have least : ∀ fewer, fewer < 3 →
      ¬ Expires (even.value even.head) (gain even.size 0 body.toList) fewer := by decide
  have indivisible : ¬ (Int.gcd (gain odd.size 0 body.toList) 256 : Int) ∣
      odd.value odd.head := by decide
  obtain ⟨_, _, ended, _⟩ := loop_counts_to_zero body straight even returns .empty .plain
  obtain ⟨_, last, _, stops, _, zero, values⟩ := ended 3 expires least
  have other : last.value 1 = 10 := (values 1).trans (by decide)
  obtain ⟨_, reachable, _, forever⟩ := loop_counts_to_zero body straight odd returns .empty .plain
  exact ⟨straight, returns, expires, least, ⟨last, stops, zero, other⟩, indivisible,
    forever (mt reachable.mp indivisible)⟩

end Machine

end RingTape
