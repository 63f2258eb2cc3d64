/-
# Rings and the endless tape

Modulo the number of its cells, a line is wound around a ring: every index has its slot on
the ring, and as many consecutive indices as there are cells have different slots. As long
as the head of the line stays in such a window, no two cells in use share a slot, and the
machine on the ring does what the machine on the line does, whatever the number of cells.
-/

import RingTape.Proofs.Interpretation
import RingTape.Tape.Line

namespace RingTape

namespace Line

/-- The head is over one of the `width` cells from index `low` on. -/
def Within (low : Int) (width : Nat) (line : Line) : Prop :=
  low ≤ line.head ∧ line.head < low + width

instance (low : Int) (width : Nat) (line : Line) : Decidable (line.Within low width) :=
  inferInstanceAs (Decidable (_ ∧ _))

theorem Within.of_le {line : Line} {low : Int} {width size : Nat}
    (inWindow : line.Within low width) (within : width ≤ size) : line.Within low size := by
  obtain ⟨lower, upper⟩ := inWindow
  exact ⟨lower, by omega⟩

/-- The slot of an index on a ring of `size` cells. -/
def slot (size : Nat) (index : Int) : Nat :=
  (index % size).toNat

theorem slot_cast {size : Nat} (positive : 0 < size) (index : Int) :
    (slot size index : Int) = index % size := by
  have nonzero : (size : Int) ≠ 0 := by omega
  exact Int.toNat_of_nonneg (Int.emod_nonneg index nonzero)

theorem slot_lt {size : Nat} (positive : 0 < size) (index : Int) : slot size index < size := by
  have remainder := Int.emod_lt_of_pos index (show (0 : Int) < size by omega)
  rw [← slot_cast positive index] at remainder
  exact_mod_cast remainder

/-- The indices of a window as long as the ring have different slots. -/
theorem slot_injective {size : Nat} {low first second : Int} (lower : low ≤ first)
    (upper : first < low + size) (otherLower : low ≤ second) (otherUpper : second < low + size)
    (same : slot size first = slot size second) : first = second := by
  have positive : 0 < size := by omega
  have remainders : first % size = second % size := by
    rw [← slot_cast positive, ← slot_cast positive, same]
  have divides : (size : Int) ∣ first - second :=
    Int.dvd_of_emod_eq_zero (Int.emod_eq_emod_iff_emod_sub_eq_zero.mp remainders)
  have close : (first - second).natAbs < (size : Int).natAbs := by omega
  have equal := Int.eq_zero_of_dvd_of_natAbs_lt_natAbs divides close
  omega

/-- The line and a ring of `size` cells: the head of the ring is in the slot of the head of
the line, and the slot of every index in the window from `low` on holds the cell of that
index. -/
structure Wound (low : Int) (size : Nat) (line : Line) (tape : Tape) : Prop where
  size_eq : tape.size = size
  head : (tape.head : Int) = line.head % size
  cells : ∀ index, low ≤ index → index < low + size →
    tape.cells[slot size index]? = some (line.cells index)

namespace Wound

variable {low : Int} {size : Nat} {line : Line} {tape : Tape}

theorem positive (wound : Wound low size line tape) : 0 < size := by
  have inRange : tape.head < tape.size := tape.head_lt_size
  have length := wound.size_eq
  omega

theorem head_eq_slot (wound : Wound low size line tape) : tape.head = slot size line.head := by
  have cast := slot_cast wound.positive line.head
  rw [← wound.head] at cast
  exact_mod_cast cast.symm

/-- Both machines see the same cell. -/
theorem current (wound : Wound low size line tape) (inWindow : line.Within low size) :
    line.current = tape.current := by
  have here := wound.cells line.head inWindow.1 inWindow.2
  rw [← wound.head_eq_slot, Array.getElem?_eq_getElem tape.head_lt_size] at here
  exact (Option.some.inj here).symm

/-- What is put under the head appears in its slot and in no other of the window. -/
theorem put (wound : Wound low size line tape) (inWindow : line.Within low size)
    (value : UInt8) : Wound low size (line.put value) (tape.put value) := by
  have placed : (tape.put value).cells = tape.cells.set tape.head value tape.head_lt_size := rfl
  refine ⟨(Tape.size_put value tape).trans wound.size_eq, wound.head, ?_⟩
  intro index lower upper
  rw [placed]
  by_cases here : index = line.head
  · subst here
    rw [← wound.head_eq_slot, Array.getElem?_set_self]
    exact congrArg some (line.current_put value).symm
  · have elsewhere : tape.head ≠ slot size index := by
      intro same
      rw [wound.head_eq_slot] at same
      exact here (slot_injective lower upper inWindow.1 inWindow.2 same.symm)
    rw [Array.getElem?_set_ne _ elsewhere, line.cells_put_of_ne value here]
    exact wound.cells index lower upper

theorem moveRight (wound : Wound low size line tape) :
    Wound low size line.moveRight tape.moveRight := by
  have sameCells := tape.cells_moveRight
  refine ⟨?_, ?_, ?_⟩
  · rw [Tape.size, sameCells]
    exact wound.size_eq
  · rw [tape.head_moveRight, wound.size_eq]
    push_cast
    rw [wound.head, Int.emod_add_emod]
    rfl
  · rw [sameCells]
    exact wound.cells

/-- From slot 0 the head goes to the last one, which is the slot of index -1. -/
theorem moveLeft (wound : Wound low size line tape) :
    Wound low size line.moveLeft tape.moveLeft := by
  have sameCells := tape.cells_moveLeft
  have positive := wound.positive
  refine ⟨?_, ?_, ?_⟩
  · rw [Tape.size, sameCells]
    exact wound.size_eq
  · have around : ((tape.head + size - 1 : Nat) : Int) = (tape.head : Int) - 1 + size := by
      omega
    rw [tape.head_moveLeft, wound.size_eq, Int.natCast_emod, around, Int.add_emod_right,
      wound.head, Int.emod_sub_emod]
    rfl
  · rw [sameCells]
    exact wound.cells

end Wound

/-- The blank line is wound around the blank ring, with any window. -/
theorem wound_blank (low : Int) {size : Nat} (positive : 0 < size) :
    Wound low size blank (Tape.blank size positive) := by
  refine ⟨Tape.size_blank size positive, (Int.zero_emod _).symm, ?_⟩
  intro index _ _
  rw [Tape.blank, Array.getElem?_replicate, if_pos (slot_lt positive index)]
  rfl

/-- In its window the line behaves as the ring does. -/
theorem tapeSimulation (low : Int) (size : Nat) :
    TapeSimulation (Within low size) (Wound low size) where
  current _ _ wound inWindow := wound.current inWindow
  put value _ _ wound inWindow := wound.put inWindow value
  moveRight _ _ wound _ := wound.moveRight
  moveLeft _ _ wound _ := wound.moveLeft

end Line

namespace Machine

/-- The machine on the endless tape, before its first step. -/
def endless (source : Source) (sink : Sink) : Machine Line :=
  .start ⟨.blank, source, sink⟩

/-- The machine on a blank ring, before its first step. -/
def circular (size : Nat) (positive : 0 < size) (source : Source) (sink : Sink) :
    Machine Tape :=
  .start ⟨.blank size positive, source, sink⟩

theorem alike_endless_circular (low : Int) {size : Nat} (positive : 0 < size)
    (source : Source) (sink : Sink) :
    Alike (Line.Wound low size) (endless source sink) (circular size positive source sink) :=
  ⟨rfl, Line.wound_blank low positive, rfl, rfl⟩

/-- As long as the endless run stays in a window, a ring of its width goes along with it. -/
theorem circular_follows_endless {program : Program} {source : Source} {sink : Sink} {low : Int}
    {size count : Nat} (positive : 0 < size)
    (guarded : Guarded program (fun machine => machine.workspace.tape.Within low size)
      (endless source sink) count) :
    (∀ earlier, earlier ≤ count →
      Option.Rel (Alike (Line.Wound low size)) ((endless source sink).after program earlier)
        ((circular size positive source sink).after program earlier)) ∧
    (endless source sink).exchanges program count =
      (circular size positive source sink).exchanges program count ∧
    Option.Rel (Halt.Related (Alike (Line.Wound low size)))
      ((endless source sink).run program count)
      ((circular size positive source sink).run program count) := by
  have simulation := Line.tapeSimulation low size
  have lockstep := simulation.lockstep program
  have inRelation := alike_endless_circular low positive source sink
  refine ⟨?_, ?_, ?_⟩
  · intro earlier within
    exact lockstep.after inRelation (guarded.of_le within)
  · apply lockstep.exchanges _ inRelation guarded
    intro first second related inWindow
    exact simulation.exchange_eq related inWindow
  · exact lockstep.run inRelation guarded

/-- The machine on a ring does what the machine on the endless tape does as long as the head
stays on as many consecutive cells as the ring has. Up to then the two are at the same
positions, with the same streams, the head of the ring in the slot of the endless head and
the cells of the window in theirs, after the same exchanges, and they stop together and in
the same way. Where the whole endless run stays on some consecutive cells, an interpretation
leaves behind what the endless run does, on every ring of at least so many cells that can be
made: only the event that tells of the size depends on the size. -/
theorem circular_agrees_with_endless (program : Program) (source : Source) (sink : Sink) :
    (∀ low size count (positive : 0 < size),
      Guarded program (fun machine => machine.workspace.tape.Within low size)
        (endless source sink) count →
      (∀ earlier, earlier ≤ count →
        Option.Rel (Alike (Line.Wound low size)) ((endless source sink).after program earlier)
          ((circular size positive source sink).after program earlier)) ∧
      (endless source sink).exchanges program count =
        (circular size positive source sink).exchanges program count ∧
      Option.Rel (Halt.Related (Alike (Line.Wound low size)))
        ((endless source sink).run program count)
        ((circular size positive source sink).run program count)) ∧
    (∀ low width,
      (∀ count later, (endless source sink).after program count = some later →
        later.workspace.tape.Within low width) →
      ∀ code size cells, code.program = .ok program → MemorySize.check size = .ok cells →
        width ≤ cells.val → cells.val < MemorySize.memoryBound →
        (∀ count, (endless source sink).exchanges program count =
          (circular cells.val cells.property source sink).exchanges program count) ∧
        ∀ limit, Interpreter.interpret limit code size source sink =
          ((endless source sink).run program limit).map
            (Interpreter.conclude (.running program.size cells.val))) := by
  constructor
  · intro low size count positive guarded
    exact circular_follows_endless positive guarded
  · intro low width inWindow code size cells given checked wide fits
    have guarded : ∀ count, Guarded program
        (fun machine => machine.workspace.tape.Within low cells.val) (endless source sink) count :=
      fun count earlier _ middle reached => (inWindow earlier middle reached).of_le wide
    constructor
    · intro count
      exact (circular_follows_endless cells.property (guarded count)).2.1
    · intro limit
      have related := (circular_follows_endless cells.property (guarded limit)).2.2
      rw [Interpreter.interpret_eq_run given checked fits]
      exact (Interpreter.map_conclude_eq_of_related related _).symm

/-- The program `<,.` goes left from cell 0, on two cells and on three, and writes from there
what it has read. -/
theorem circular_agrees_with_endless_of_left :
    let program : Program := #[.action .left, .action .read, .action .write]
    let source : Source := .ofBytes [65]
    (∀ count later, (endless source .plain).after program count = some later →
      later.workspace.tape.Within (-1) 2) ∧
    (∃ last, (circular 2 (by decide) source .plain).after program 3 = some last ∧
      last.position = 3 ∧ (last.workspace.tape.head : Int) = -1 % 2 ∧
      last.workspace.tape.cells[1]? = some 65) ∧
    (Interpreter.interpret 4 (.text "<,.") (.integer 3) source .plain).map Report.sink =
      some { Sink.plain with written := #['A'], writes := 1, flushes := 1 } := by
  intro program source
  have inWindow : ∀ count later, (endless source .plain).after program count = some later →
      later.workspace.tape.Within (-1) 2 := by
    rintro (_ | _ | _ | _ | count) later reached
    -- The run has three steps, so there is no later state.
    on_goal 5 => cases reached
    all_goals
      obtain rfl := Option.some.inj reached
      decide
  obtain ⟨prefixes, whole⟩ := circular_agrees_with_endless program source .plain
  refine ⟨inWindow, ?_, ?_⟩
  · obtain ⟨visits, _⟩ := prefixes (-1) 2 3 (by decide)
      (fun earlier _ middle reached => inWindow earlier middle reached)
    have reached : Option.Rel _ (some _) ((circular 2 _ source .plain).after program 3) :=
      visits 3 (Nat.le_refl 3)
    generalize (circular 2 _ source .plain).after program 3 = answer at reached ⊢
    cases reached with
    | @some _ last related =>
        obtain ⟨position, ⟨_, head, cells⟩, _, _⟩ := related
        have slotted : Line.slot 2 (-1) = 1 := by decide
        have cell := cells (-1) (by decide) (by decide)
        rw [slotted] at cell
        exact ⟨last, rfl, position.symm, head, cell⟩
  · obtain ⟨_, interpreted⟩ := whole (-1) 2 inWindow (.text "<,.") (.integer 3) ⟨3, by decide⟩
      rfl rfl (by decide) (by decide)
    rw [interpreted]
    rfl

end Machine

end RingTape
