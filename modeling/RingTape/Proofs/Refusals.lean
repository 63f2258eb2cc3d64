/-
# Refusals

What cannot be interpreted is refused in a fixed order: because of the size, for want of memory,
and last because of the code. Nothing has happened to the streams then. Which tapes can be made
is left open here; the sizes that are held are those of any allocator. A size that is taken
counts as the whole number that it stands for and as nothing else, and a file that cannot be
loaded is refused before its size is looked at.
-/

import RingTape.Proofs.Interpretation
import RingTape.Session

namespace RingTape

/-! ## Allocators -/

namespace MemorySize

/-- The allocator makes blank tapes of the sizes that are held. For want of memory it refuses the
others, and those that cannot be numbered because of their dimension. -/
structure Limited (holds : Nat → Prop) (allocate : Allocator) : Prop where
  held : ∀ size, holds size.val → allocate size = .ok (.blank size.val size.property)
  lacking : ∀ size, ¬ holds size.val → size.val < dimensionBound →
    allocate size = .error .outOfMemory
  beyond : ∀ size, ¬ holds size.val → dimensionBound ≤ size.val →
    allocate size = .error .dimension

theorem limited_allocate : Limited (· < memoryBound) allocate where
  held _ fits := allocate_of_lt fits
  lacking size lacking numbered := by
    rw [allocate, if_neg (Nat.not_le.mpr numbered), if_pos (Nat.not_lt.mp lacking)]
  beyond size _ beyond := by rw [allocate, if_pos beyond]

/-! ## Unfit sizes -/

/-- A value that gives no size: a truth value, one that does not convert to a whole number, or
one whose whole number is below one. -/
inductive Unfit : Value → Prop
  | boolean (truth : Bool) : Unfit (.boolean truth)
  | fixedBoolean (truth : Bool) : Unfit (.fixedBoolean truth)
  | noIndex {size : Value} (none : size.toIndex? = none) : Unfit size
  | small {size : Value} {number : Int} (stands : size.toIndex? = some number)
      (small : number < 1) : Unfit size

/-- The value is no truth value and converts to this whole number. -/
def Stands (size : Value) (number : Int) : Prop :=
  size.isBoolean = false ∧ size.toIndex? = some number

theorem check_of_unfit {size : Value} (unfit : Unfit size) :
    check size = .error (.memorySize size) := by
  cases unfit with
  | boolean | fixedBoolean => rfl
  | noIndex none => rw [check, none, ite_self]
  | @small size number stands small =>
      have least : ¬ 0 < number := by omega
      simp only [check, stands, least, dif_neg, not_false_eq_true, ite_self]

theorem unfit_or_stands (size : Value) :
    Unfit size ∨ ∃ cells : { cells : Nat // 0 < cells }, Stands size cells.val := by
  by_cases boolean : size.isBoolean
  · cases size with
    | boolean truth => exact .inl (.boolean truth)
    | fixedBoolean truth => exact .inl (.fixedBoolean truth)
    | null | integer | floating | text | list | record | index | fixedInteger
    | fixedFloating => cases boolean
  · have number : size.isBoolean = false := by simpa using boolean
    cases converts : size.toIndex? with
    | none => exact .inl (.noIndex converts)
    | some index =>
        by_cases small : index < 1
        · exact .inl (.small converts small)
        · have whole : ((index.toNat : Nat) : Int) = index := by omega
          exact .inr ⟨⟨index.toNat, by omega⟩, number, by rw [converts, whole]⟩

end MemorySize

/-! ## Sessions -/

namespace Session

/-- To set an element to what it is changes nothing, within the bounds and beyond them. -/
theorem setIfInBounds_getD {α : Type} (elements : Array α) (index : Nat) (default : α) :
    elements.setIfInBounds index (elements[index]?.getD default) = elements := by
  apply Array.ext_getElem?
  intro other
  rw [Array.getElem?_setIfInBounds]
  by_cases here : index = other
  · subst here
    by_cases inside : index < elements.size <;> simp [inside]
  · rw [if_neg here]

theorem putSource_source (session : Session) : session.putSource session.source = session := by
  obtain ⟨sources, sinks, standardInput, standardOutput, input, output⟩ := session
  cases input with
  | standard => rfl
  | given index => simp only [putSource, source, setIfInBounds_getD]

theorem putSink_sink (session : Session) : session.putSink session.sink = session := by
  obtain ⟨sources, sinks, standardInput, standardOutput, input, output⟩ := session
  cases output with
  | standard => rfl
  | given index => simp only [putSink, sink, setIfInBounds_getD]

/-- A report that leaves the selected streams as they are leaves the whole session as it is. -/
theorem absorb_unchanged (session : Session) (events : List Event) (failure : Option Failure) :
    session.absorb ⟨session.source, session.sink, events, failure⟩ = (session, failure) := by
  rw [absorb, putSource_source, putSink_sink]

end Session

/-! ## The order of refusals -/

namespace Interpreter

open MemorySize (Allocator Limited Stands Unfit)

/-- What is wrong with the code and the size: what comes first decides. -/
inductive Refuses (holds : Nat → Prop) (code : Code) (size : Value) : Failure → Prop
  | size (unfit : Unfit size) : Refuses holds code size (.memorySize size)
  | memory {cells : { cells : Nat // 0 < cells }} (stands : Stands size cells.val)
      (lacking : ¬ holds cells.val) (numbered : cells.val < MemorySize.dimensionBound) :
      Refuses holds code size .outOfMemory
  | dimension {cells : { cells : Nat // 0 < cells }}
      (stands : Stands size cells.val) (lacking : ¬ holds cells.val)
      (beyond : MemorySize.dimensionBound ≤ cells.val) : Refuses holds code size .dimension
  | code {cells : { cells : Nat // 0 < cells }} {kind : Unsized}
      (stands : Stands size cells.val) (held : holds cells.val)
      (unsized : code = .unsized kind) : Refuses holds code size (.unsized kind)

variable {holds : Nat → Prop} {allocate : Allocator} {code : Code} {size : Value}

theorem prepareWith_of_stands {cells : { cells : Nat // 0 < cells }}
    (stands : Stands size cells.val) (allocate : Allocator) (code : Code) :
    prepareWith allocate code size =
      (allocate cells).bind fun tape =>
        code.program.map fun program => (cells, tape, program) := by
  rw [prepareWith_of_check (MemorySize.check_eq_ok_iff.mpr stands)]
  rfl

theorem prepareWith_of_refuses (limited : Limited holds allocate) {failure : Failure}
    (refuses : Refuses holds code size failure) :
    prepareWith allocate code size = .error failure := by
  cases refuses with
  | size unfit => exact prepareWith_of_check_error (MemorySize.check_of_unfit unfit) _ code
  | memory stands lacking numbered =>
      rw [prepareWith_of_stands stands, limited.lacking _ lacking numbered]
      rfl
  | dimension stands lacking beyond =>
      rw [prepareWith_of_stands stands, limited.beyond _ lacking beyond]
      rfl
  | code stands held unsized =>
      rw [prepareWith_of_stands stands, limited.held _ held, unsized]
      rfl

/-- Where nothing is wrong, a run is prepared. -/
theorem refuses_or_prepared (limited : Limited holds allocate) (code : Code) (size : Value) :
    (∃ failure, Refuses holds code size failure) ∨
      ∃ made, prepareWith allocate code size = .ok made := by
  rcases MemorySize.unfit_or_stands size with unfit | ⟨cells, stands⟩
  · exact .inl ⟨_, .size unfit⟩
  · by_cases held : holds cells.val
    · have prepared := prepareWith_of_stands stands allocate code
      rw [limited.held cells held] at prepared
      cases code with
      | unsized kind => exact .inl ⟨_, .code stands held rfl⟩
      | text | pieces | bytes => exact .inr ⟨_, prepared⟩
    · by_cases numbered : cells.val < MemorySize.dimensionBound
      · exact .inl ⟨_, .memory stands held numbered⟩
      · exact .inl ⟨_, .dimension stands held (Nat.not_lt.mp numbered)⟩

theorem refuses_iff_prepareWith (limited : Limited holds allocate) {failure : Failure} :
    Refuses holds code size failure ↔ prepareWith allocate code size = .error failure := by
  refine ⟨prepareWith_of_refuses limited, fun refused => ?_⟩
  rcases refuses_or_prepared limited code size with ⟨first, refuses⟩ | ⟨made, prepared⟩
  · have same := prepareWith_of_refuses limited refuses
    rw [refused] at same
    exact Except.error.inj same ▸ refuses
  · rw [refused] at prepared
    cases prepared

/-- What is refused leaves the streams as they are. -/
theorem interpretWith_of_refuses (limited : Limited holds allocate) {failure : Failure}
    (refuses : Refuses holds code size failure) (limit : Nat) (source : Source) (sink : Sink) :
    interpretWith allocate limit code size source sink =
      some ⟨source, sink, [], some failure⟩ :=
  interpretWith_of_refuse (prepareWith_of_refuses limited refuses) limit source sink

/-- An interpretation fails because it is refused, or because its run is broken off. -/
theorem refuses_of_failure (limited : Limited holds allocate) {limit : Nat} {source : Source}
    {sink : Sink} {report : Report} {failure : Failure}
    (interpreted : interpretWith allocate limit code size source sink = some report)
    (failed : report.failure = some failure) :
    Refuses holds code size failure ∨ ∃ fault, failure = .brokenOff fault := by
  cases prepared : prepareWith allocate code size with
  | error first =>
      rw [interpretWith_of_refuse prepared] at interpreted
      obtain rfl := Option.some.inj interpreted
      obtain rfl := Option.some.inj failed
      exact .inl ((refuses_iff_prepareWith limited).mpr prepared)
  | ok made =>
      obtain ⟨cells, tape, program⟩ := made
      rw [interpretWith_of_prepareWith prepared, Option.map_eq_some_iff] at interpreted
      obtain ⟨halt, _, rfl⟩ := interpreted
      rw [failure_conclude, Option.map_eq_some_iff] at failed
      obtain ⟨fault, _, same⟩ := failed
      exact .inr ⟨fault, same.symm⟩

/-- A size that is taken counts as the whole number that it stands for. -/
theorem prepareWith_integer {number : Int} (stands : Stands size number)
    (positive : 0 < number) :
    prepareWith allocate code size = prepareWith allocate code (.integer number) := by
  obtain ⟨cells, rfl⟩ : ∃ cells : { cells : Nat // 0 < cells }, number = cells.val :=
    ⟨⟨number.toNat, by omega⟩, by simp only [Int.toNat_of_nonneg (Int.le_of_lt positive)]⟩
  have plain : Stands (.integer cells.val) cells.val := ⟨rfl, rfl⟩
  rw [prepareWith_of_stands stands, prepareWith_of_stands plain]

end Interpreter

end RingTape
