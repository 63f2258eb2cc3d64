/-
# Matching brackets

What the two scans find is said here without scanning: the forward scan finds the loop
end, and the backward scan the loop start, that is separated from its bracket by a
balanced stretch. A bracket has at most one such partner, two pairs never cross, and no
bracket inside a pair has its partner outside.
-/

import RingTape.Proofs.Nesting

namespace RingTape

/-! ## Reading backwards -/

/-- The bracket of the other kind. -/
def Instruction.opposite : Instruction → Instruction
  | action same => action same
  | loopStart => loopEnd
  | loopEnd => loopStart

/-- A stretch as it looks to someone who reads it from right to left. -/
def backwards (stretch : List Instruction) : List Instruction :=
  (stretch.map Instruction.opposite).reverse

@[simp]
theorem backwards_nil : backwards [] = [] := rfl

@[simp]
theorem backwards_append (first second : List Instruction) :
    backwards (first ++ second) = backwards second ++ backwards first := by
  simp [backwards]

@[simp]
theorem backwards_singleton (instruction : Instruction) :
    backwards [instruction] = [instruction.opposite] := rfl

@[simp]
theorem backwards_backwards (stretch : List Instruction) :
    backwards (backwards stretch) = stretch := by
  have twice (instruction : Instruction) : instruction.opposite.opposite = instruction := by
    cases instruction <;> rfl
  simp [backwards, Function.comp_def, twice]

/-- Reading backwards leads from the last level back to the first. -/
theorem nesting_backwards {depth level : Nat} {stretch : List Instruction}
    (read : nesting depth stretch = some level) :
    nesting level (backwards stretch) = some depth := by
  induction stretch generalizing depth with
  | nil =>
      simp only [nesting_nil, Option.some.injEq] at read
      simp [read]
  | cons instruction rest ih =>
      rw [← List.singleton_append, backwards_append, backwards_singleton]
      cases instruction with
      | action action =>
          rw [nesting_append_of_eq_some _ (ih (by simpa using read))]
          simp [Instruction.opposite]
      | loopStart =>
          rw [nesting_append_of_eq_some _ (ih (by simpa using read))]
          simp [Instruction.opposite]
      | loopEnd =>
          cases depth with
          | zero => simp at read
          | succ depth =>
              rw [nesting_append_of_eq_some _ (ih (by simpa using read))]
              simp [Instruction.opposite]

theorem nesting_zero_backwards_iff {stretch : List Instruction} :
    nesting 0 (backwards stretch) = some 0 ↔ Balanced stretch := by
  rw [balanced_iff_nesting]
  refine ⟨fun read => ?_, nesting_backwards⟩
  have again := nesting_backwards read
  rwa [backwards_backwards] at again

namespace Program

/-! ## Stretches of a program -/

variable {program : Program}

@[simp]
theorem between_self (program : Program) (position : Nat) :
    program.between position position = [] := by
  simp [between]

theorem between_zero_size (program : Program) :
    program.between 0 program.size = program.toList := by
  rw [between, List.drop_zero, List.take_of_length_le (by simp)]

/-- A stretch read from its first instruction on. -/
theorem between_eq_cons {first last : Nat} {instruction : Instruction} (ordered : first < last)
    (here : program[first]? = some instruction) :
    program.between first last = instruction :: program.between (first + 1) last := by
  obtain ⟨inRange, here⟩ := Array.getElem?_eq_some_iff.mp here
  have long : first < (program.toList.take last).length := by
    rw [List.length_take, Array.length_toList]
    omega
  rw [between, List.drop_eq_getElem_cons long]
  simp [between, here]

/-- A stretch up to its last instruction. -/
theorem between_succ {first last : Nat} {instruction : Instruction} (ordered : first ≤ last)
    (here : program[last]? = some instruction) :
    program.between first (last + 1) = program.between first last ++ [instruction] := by
  obtain ⟨inRange, here⟩ := Array.getElem?_eq_some_iff.mp here
  have long : first ≤ (program.toList.take last).length := by
    rw [List.length_take, Array.length_toList]
    omega
  rw [between, List.take_succ_eq_append_getElem (by simpa using inRange),
    List.drop_append_of_le_length long]
  simp [between, here]

/-- A stretch cut in two. -/
theorem between_append {first last : Nat} (middle : Nat) (lower : first ≤ middle)
    (upper : middle ≤ last) (inRange : last ≤ program.size) :
    program.between first middle ++ program.between middle last =
      program.between first last := by
  have long : first ≤ (program.toList.take middle).length := by
    rw [List.length_take, Array.length_toList]
    omega
  have cut : program.toList.take last =
      program.toList.take middle ++ (program.toList.take last).drop middle := by
    conv_lhs => rw [← List.take_append_drop middle (program.toList.take last)]
    rw [List.take_take, Nat.min_eq_left upper]
  rw [between, between, between]
  conv_rhs => rw [cut, List.drop_append_of_le_length long]

theorem length_between {first last : Nat} (inRange : last ≤ program.size) :
    (program.between first last).length = last - first := by
  simp [between, Nat.min_eq_left inRange]

/-- A part of a stretch found by its content is found by its positions. -/
theorem between_of_eq_append {first last : Nat} {before after : List Instruction}
    (ordered : first ≤ last) (inRange : last ≤ program.size)
    (split : program.between first last = before ++ after) :
    program.between first (first + before.length) = before ∧
      program.between (first + before.length) last = after := by
  have total := congrArg List.length split
  rw [length_between inRange, List.length_append] at total
  have cut : program.between first (first + before.length) ++
      program.between (first + before.length) last = program.between first last :=
    between_append (first + before.length) (by omega) (by omega) inRange
  rw [split] at cut
  exact List.append_inj cut (by rw [length_between (by omega)]; omega)

theorem getElem?_of_between_eq_cons {first last : Nat} {instruction : Instruction}
    {rest : List Instruction}
    (split : program.between first last = instruction :: rest) :
    program[first]? = some instruction := by
  have head := congrArg (fun stretch => stretch[0]?) split
  simp only [between, List.getElem?_drop, Nat.add_zero, List.getElem?_take,
    List.getElem?_cons_zero] at head
  split at head
  · simpa using head
  · simp at head

/-! ## Scans -/

/-- A forward scan finds the loop end at which the reading first falls below the level
where the scan began. -/
theorem scanForward_eq_some_iff {remaining position depth target : Nat}
    (whole : position + remaining = program.size) :
    program.scanForward remaining position depth = some target ↔
      position ≤ target ∧ program[target]? = some .loopEnd ∧
        nesting depth (program.between position target) = some 0 := by
  induction remaining generalizing position depth with
  | zero =>
      simp only [scanForward, reduceCtorEq, false_iff, not_and]
      intro behind there
      have inRange := (Array.getElem?_eq_some_iff.mp there).1
      omega
  | succ remaining ih =>
      have inRange : position < program.size := by omega
      obtain ⟨instruction, here⟩ : ∃ instruction, program[position]? = some instruction :=
        ⟨_, Array.getElem?_eq_getElem inRange⟩
      have rest (level : Nat) :
          program.scanForward remaining (position + 1) level = some target ↔
            position + 1 ≤ target ∧ program[target]? = some .loopEnd ∧
              nesting level (program.between (position + 1) target) = some 0 :=
        ih (by omega)
      -- Either the target is this position, or it is one of the later ones.
      have later (target : Nat) (ne : position ≠ target) :
          position ≤ target ↔ position + 1 ≤ target := by omega
      rw [scanForward, here]
      by_cases atTarget : position = target
      · subst atTarget
        cases instruction with
        | action action => simp [rest, here]
        | loopStart => simp [rest, here]
        | loopEnd =>
            have missed (level : Nat) :
                program.scanForward remaining (position + 1) level ≠ some position :=
              fun found => Nat.not_succ_le_self position ((rest level).mp found).1
            by_cases outermost : depth = 0 <;> simp [here, outermost, missed]
      · rw [later target atTarget]
        by_cases behind : position + 1 ≤ target
        · rw [between_eq_cons behind here]
          cases instruction with
          | action action => simp [rest]
          | loopStart => simp [rest]
          | loopEnd =>
              cases depth with
              | zero => simp [atTarget]
              | succ depth => simp [rest]
        · cases instruction with
          | action action => simp [rest, behind]
          | loopStart => simp [rest, behind]
          | loopEnd =>
              by_cases outermost : depth = 0 <;> simp [rest, behind, outermost, atTarget]

/-- A backward scan finds the loop start at which the reading backwards first falls
below the level where the scan began. -/
theorem scanBackward_eq_some_iff {bound depth target : Nat} (inRange : bound ≤ program.size) :
    program.scanBackward bound depth = some target ↔
      target < bound ∧ program[target]? = some .loopStart ∧
        nesting depth (backwards (program.between (target + 1) bound)) = some 0 := by
  induction bound generalizing depth with
  | zero => simp [scanBackward]
  | succ position ih =>
      obtain ⟨instruction, here⟩ : ∃ instruction, program[position]? = some instruction :=
        ⟨_, Array.getElem?_eq_getElem inRange⟩
      have rest (level : Nat) :
          program.scanBackward position level = some target ↔
            target < position ∧ program[target]? = some .loopStart ∧
              nesting level (backwards (program.between (target + 1) position)) = some 0 :=
        ih (by omega)
      have earlier (target : Nat) (ne : position ≠ target) :
          target < position + 1 ↔ target < position := by omega
      rw [scanBackward, here]
      by_cases atTarget : position = target
      · subst atTarget
        cases instruction with
        | action action => simp [rest, here]
        | loopEnd => simp [rest, here]
        | loopStart =>
            have missed (level : Nat) :
                program.scanBackward position level ≠ some position :=
              fun found => Nat.lt_irrefl position ((rest level).mp found).1
            by_cases outermost : depth = 0 <;> simp [here, outermost, missed]
      · rw [earlier target atTarget]
        by_cases before : target < position
        · rw [between_succ before here]
          cases instruction with
          | action action => simp [rest, before, Instruction.opposite]
          | loopEnd => simp [rest, before, Instruction.opposite]
          | loopStart =>
              cases depth with
              | zero => simp [atTarget, Instruction.opposite]
              | succ depth => simp [rest, before, Instruction.opposite]
        · cases instruction with
          | action action => simp [rest, before]
          | loopEnd => simp [rest, before]
          | loopStart =>
              by_cases outermost : depth = 0 <;> simp [rest, before, outermost, atTarget]

theorem loopEnd_eq_ok_iff {start : Int} {finish : Nat} (lower : -1 ≤ start) :
    program.loopEnd start = .ok finish ↔
      start < finish ∧ program[finish]? = some .loopEnd ∧
        Balanced (program.between (start + 1).toNat finish) := by
  have found : program.loopEnd start = .ok finish ↔
      program.scanForward (program.size - (start + 1).toNat) (start + 1).toNat 0 =
        some finish := Search.result_ofFound_eq_ok_iff
  rw [found]
  by_cases inside : (start + 1).toNat ≤ program.size
  · rw [scanForward_eq_some_iff (by omega), balanced_iff_nesting]
    have behind : (start + 1).toNat ≤ finish ↔ start < finish := by omega
    rw [behind]
  · rw [Nat.sub_eq_zero_of_le (by omega)]
    simp only [scanForward, reduceCtorEq, false_iff, not_and]
    intro behind there
    have inRange := (Array.getElem?_eq_some_iff.mp there).1
    omega

theorem loopStart_eq_ok_iff {start finish : Nat} (inRange : finish ≤ program.size) :
    program.loopStart finish = .ok start ↔
      start < finish ∧ program[start]? = some .loopStart ∧
        Balanced (program.between (start + 1) finish) := by
  have found : program.loopStart finish = .ok start ↔
      program.scanBackward finish 0 = some start := Search.result_ofFound_eq_ok_iff
  rw [found, scanBackward_eq_some_iff inRange, nesting_zero_backwards_iff]

/-- A forward scan that finds nothing complains about the position it began at. -/
theorem loopEnd_eq_error_iff {start : Int} {fault : Fault} :
    program.loopEnd start = .error fault ↔
      fault = .unmatched .opening start ∧ ∀ finish, program.loopEnd start ≠ .ok finish :=
  Search.result_ofFound_eq_error_iff

/-- A backward scan that finds nothing complains about the position it began at. -/
theorem loopStart_eq_error_iff {finish : Int} {fault : Fault} :
    program.loopStart finish = .error fault ↔
      fault = .unmatched .closing finish ∧ ∀ start, program.loopStart finish ≠ .ok start :=
  Search.result_ofFound_eq_error_iff

/-! ## Pairs -/

theorem loopEnd_eq_ok_iff_matched {start finish : Nat}
    (opening : program[start]? = some .loopStart) :
    program.loopEnd start = .ok finish ↔ program.Matched start finish := by
  rw [loopEnd_eq_ok_iff (by omega), Matched]
  have first : ((start : Int) + 1).toNat = start + 1 := by omega
  simp [first, opening]

theorem loopStart_eq_ok_iff_matched {start finish : Nat}
    (closing : program[finish]? = some .loopEnd) :
    program.loopStart finish = .ok start ↔ program.Matched start finish := by
  have inRange := (Array.getElem?_eq_some_iff.mp closing).1
  rw [loopStart_eq_ok_iff (Nat.le_of_lt inRange), Matched]
  simp [closing]

theorem Matched.lt {start finish : Nat} (matched : program.Matched start finish) :
    start < finish := matched.1

theorem Matched.opening {start finish : Nat} (matched : program.Matched start finish) :
    program[start]? = some .loopStart := matched.2.1

theorem Matched.closing {start finish : Nat} (matched : program.Matched start finish) :
    program[finish]? = some .loopEnd := matched.2.2.1

theorem Matched.balanced {start finish : Nat} (matched : program.Matched start finish) :
    Balanced (program.between (start + 1) finish) := matched.2.2.2

theorem Matched.finish_lt_size {start finish : Nat} (matched : program.Matched start finish) :
    finish < program.size :=
  (Array.getElem?_eq_some_iff.mp matched.closing).1

/-- A loop start has at most one loop end. -/
theorem Matched.finish_unique {start finish other : Nat}
    (matched : program.Matched start finish) (otherwise : program.Matched start other) :
    finish = other := by
  have found := (loopEnd_eq_ok_iff_matched matched.opening).mpr matched
  rw [(loopEnd_eq_ok_iff_matched matched.opening).mpr otherwise] at found
  exact (Except.ok.inj found).symm

/-- A loop end has at most one loop start. -/
theorem Matched.start_unique {start other finish : Nat}
    (matched : program.Matched start finish) (otherwise : program.Matched other finish) :
    start = other := by
  have found := (loopStart_eq_ok_iff_matched matched.closing).mpr matched
  rw [(loopStart_eq_ok_iff_matched matched.closing).mpr otherwise] at found
  exact (Except.ok.inj found).symm

/-- A loop start inside a balanced stretch has its loop end inside it, too. -/
theorem exists_matched_of_loopStart {first last position : Nat}
    (balanced : Balanced (program.between first last)) (inRange : last ≤ program.size)
    (lower : first ≤ position) (upper : position < last)
    (opening : program[position]? = some .loopStart) :
    ∃ finish, finish < last ∧ program.Matched position finish := by
  rw [← between_append position lower (Nat.le_of_lt upper) inRange,
    between_eq_cons upper opening] at balanced
  obtain ⟨inside, rest, split, balancedInside⟩ := balanced.exists_loopEnd
  obtain ⟨found, behind⟩ := between_of_eq_append upper inRange split
  have long := congrArg List.length split
  rw [length_between inRange, List.length_append, List.length_cons] at long
  refine ⟨position + 1 + inside.length, by omega, by omega, opening,
    getElem?_of_between_eq_cons behind, ?_⟩
  rwa [found]

/-- A loop end inside a balanced stretch has its loop start inside it, too. -/
theorem exists_matched_of_loopEnd {first last position : Nat}
    (balanced : Balanced (program.between first last)) (inRange : last ≤ program.size)
    (lower : first ≤ position) (upper : position < last)
    (closing : program[position]? = some .loopEnd) :
    ∃ start, first ≤ start ∧ program.Matched start position := by
  rw [← between_append position lower (Nat.le_of_lt upper) inRange,
    between_eq_cons upper closing] at balanced
  obtain ⟨rest, inside, split, balancedInside⟩ := balanced.exists_loopStart
  obtain ⟨_, behind⟩ := between_of_eq_append lower (by omega) split
  have long := congrArg List.length split
  rw [length_between (by omega), List.length_append, List.length_cons] at long
  have opening := getElem?_of_between_eq_cons behind
  rw [between_eq_cons (by omega) opening, List.cons.injEq] at behind
  refine ⟨first + rest.length, by omega, by omega, opening, closing, ?_⟩
  rwa [behind.2]

/-- The loop start of a pair that begins inside another pair has its end in there. -/
theorem Matched.finish_lt_of_inside {start finish innerStart innerFinish : Nat}
    (outer : program.Matched start finish) (inner : program.Matched innerStart innerFinish)
    (lower : start < innerStart) (upper : innerStart < finish) : innerFinish < finish := by
  obtain ⟨found, inside, matched⟩ := exists_matched_of_loopStart outer.balanced
    (Nat.le_of_lt outer.finish_lt_size) lower upper inner.opening
  rwa [inner.finish_unique matched]

/-- Two pairs are the same, apart, or one inside the other. -/
theorem Matched.laminar {start finish otherStart otherFinish : Nat}
    (matched : program.Matched start finish)
    (other : program.Matched otherStart otherFinish) :
    (start = otherStart ∧ finish = otherFinish) ∨
      finish < otherStart ∨ otherFinish < start ∨
      (start < otherStart ∧ otherFinish < finish) ∨
      (otherStart < start ∧ finish < otherFinish) := by
  rcases Nat.lt_trichotomy start otherStart with before | same | behind
  · rcases Nat.lt_trichotomy otherStart finish with inside | touching | apart
    · exact .inr (.inr (.inr (.inl
        ⟨before, matched.finish_lt_of_inside other before inside⟩)))
    · have closing := matched.closing
      rw [← touching, other.opening] at closing
      simp at closing
    · exact .inr (.inl apart)
  · subst same
    exact .inl ⟨rfl, matched.finish_unique other⟩
  · rcases Nat.lt_trichotomy start otherFinish with inside | touching | apart
    · exact .inr (.inr (.inr (.inr
        ⟨behind, other.finish_lt_of_inside matched behind inside⟩)))
    · have opening := matched.opening
      rw [touching, other.closing] at opening
      simp at opening
    · exact .inr (.inr (.inl apart))

end Program

end RingTape
