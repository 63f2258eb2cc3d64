/-
# Invocations

An argument that spells out a flag and attaches a value to it with an equality sign is taken
for this flag with this value, whatever the value is. A call with nothing but such arguments
gathers the values in order. A call that begins with a path runs the file there, whatever the
other arguments are, as long as the call is one at all.
-/

import Mathlib.Data.List.TakeDrop
import RingTape.CommandLine.Invocation
import RingTape.Proofs.Literals

namespace RingTape.CommandLine

/-! ## Arguments -/

section Arguments

variable {argument spelling : String} {flag : Flag} {value : List Char}

/-- No spelling of a flag has an equality sign in it, and each looks like a flag. -/
theorem Flag.wellFormed_of_mem_spellings :
    ∀ pair ∈ spellings, '=' ∉ pair.1.toList ∧ looksLikeFlag pair.1 := by
  decide

theorem Flag.wellFormed_of_lookup (known : spellings.lookup spelling = some flag) :
    '=' ∉ spelling.toList ∧ looksLikeFlag spelling := by
  obtain ⟨before, after, split, _⟩ := List.lookup_eq_some_iff.mp known
  have listed : (spelling, flag) ∈ spellings := by
    rw [split]
    exact List.mem_append_right before List.mem_cons_self
  exact wellFormed_of_mem_spellings _ listed

theorem splitEquals_append {before : List Char} (none : '=' ∉ before) (value : List Char) :
    splitEquals (before ++ '=' :: value) = (before, some value) := by
  have kept : ∀ character ∈ before, decide (character ≠ '=') := by
    intro character occurs
    exact decide_eq_true fun same => none (same ▸ occurs)
  rw [splitEquals, List.span_eq_takeWhile_dropWhile, List.takeWhile_append_of_pos kept,
    List.dropWhile_append_of_pos kept]
  simp

theorem looksLikeFlag_iff :
    looksLikeFlag argument ↔ ∃ second rest, argument.toList = '-' :: second :: rest := by
  rw [looksLikeFlag]
  constructor
  · intro looks
    split at looks
    · exact ⟨_, _, ‹_›⟩
    · cases looks
  · rintro ⟨second, rest, spelled⟩
    rw [spelled]
    rfl

/-- A known spelling, an equality sign and anything behind it are a flag with a value. -/
theorem classify_of_equals (known : Flag.spellings.lookup spelling = some flag)
    (spelled : argument.toList = spelling.toList ++ '=' :: value) :
    classify argument = .ok (.flag flag (isLong argument) (some ⟨true, value⟩)) := by
  obtain ⟨noEquals, looks⟩ := Flag.wellFormed_of_lookup known
  have unlisted : Flag.spellings.lookup argument = none := by
    rw [List.lookup_eq_none_iff]
    intro pair listed
    rw [bne_iff_ne]
    rintro rfl
    refine (Flag.wellFormed_of_mem_spellings pair listed).1 ?_
    rw [spelled]
    exact List.mem_append_right _ List.mem_cons_self
  have flagged : looksLikeFlag argument := by
    obtain ⟨second, rest, dashed⟩ := looksLikeFlag_iff.mp looks
    exact looksLikeFlag_iff.mpr ⟨second, rest ++ '=' :: value, by rw [spelled, dashed]; rfl⟩
  rw [classify, flagged, unlisted, spelled, splitEquals_append noEquals]
  simp [known]

end Arguments

/-! ## Calls -/

/-- The spelling of a flag with two dashes. -/
def Flag.long : Flag → String
  | help => "--help"
  | execute => "--execute"
  | memorySize => "--memory-size"
  | input => "--input"
  | logLevel => "--log-level"

/-- The argument that attaches a value to a flag. -/
def Flag.assign (flag : Flag) (value : String) : String :=
  flag.long ++ "=" ++ value

/-- The arguments of a call with nothing but attached values. -/
def assignments (assigned : List (Flag × String)) : List String :=
  assigned.map fun (flag, value) => flag.assign value

/-- The word that such an argument is taken for. -/
def Word.assign (pair : Flag × String) : Word :=
  .flag pair.1 true (some ⟨true, pair.2.toList⟩)

/-- Take one attached value. -/
def takeAssigned (gathered : Gathered) (pair : Flag × String) : Except Interruption Gathered :=
  takeValue pair.1 pair.2 gathered

theorem classify_assign (flag : Flag) (value : String) :
    classify (flag.assign value) = .ok (.assign (flag, value)) := by
  have known : Flag.spellings.lookup flag.long = some flag := by
    cases flag <;> decide
  have spelled : (flag.assign value).toList = flag.long.toList ++ '=' :: value.toList := by
    simp [Flag.assign]
  have long : isLong (flag.assign value) := by
    rw [isLong, spelled]
    cases flag <;> rfl
  rw [classify_of_equals known spelled, long, Word.assign]

theorem assign_ne_separator (flag : Flag) (value : String) : flag.assign value ≠ "--" := by
  intro same
  have equals : '=' ∈ (flag.assign value).toList := by simp [Flag.assign]
  rw [same] at equals
  exact absurd equals (by decide)

/-- A call with nothing but attached values is a sequence of flags. -/
theorem words_assign (assigned : List (Flag × String)) :
    words (assignments assigned) = .ok (assigned.map Word.assign) := by
  induction assigned with
  | nil => rfl
  | cons pair rest ih =>
      rw [assignments] at ih
      rw [assignments, List.map_cons, words, if_neg (assign_ne_separator _ _), classify_assign]
      simp only [ih, Except.map, List.map_cons]

/-- What an attached value does to what was gathered does not depend on how its flag was
written. -/
theorem takeWords_attached {flag : Flag} (noHelp : flag ≠ .help) (long : Bool)
    (attached : Attached) (rest : List Word) (gathered : Gathered) :
    takeWords (.flag flag long (some attached) :: rest) gathered =
      takeValue flag (String.ofList attached.value) gathered >>= takeWords rest := by
  cases flag with
  | help => exact absurd rfl noHelp
  | execute | memorySize | input | logLevel => rfl

/-- Attached values are taken in order. -/
theorem takeWords_assign (assigned : List (Flag × String))
    (noHelp : ∀ pair ∈ assigned, pair.1 ≠ .help) (gathered : Gathered) :
    takeWords (assigned.map Word.assign) gathered = assigned.foldlM takeAssigned gathered := by
  induction assigned generalizing gathered with
  | nil => rfl
  | cons pair rest ih =>
      obtain ⟨noHelpHere, noHelpRest⟩ := List.forall_mem_cons.mp noHelp
      rw [List.map_cons, List.foldlM_cons, Word.assign, takeWords_attached noHelpHere,
        String.ofList_toList]
      exact bind_congr (ih noHelpRest)

/-- A call with nothing but attached values gathers these values. -/
theorem parse_assign (configuration : Configuration) {assigned : List (Flag × String)}
    (noHelp : ∀ pair ∈ assigned, pair.1 ≠ .help) :
    parse configuration (assignments assigned) = (do
      let gathered ← assigned.foldlM takeAssigned .empty
      (gathered.complete configuration).mapError .error) := by
  rw [parse, words_assign]
  simp only [Except.mapError, bind, Except.bind, takeWords_assign assigned noHelp]

/-! ## Calls that begin with a path -/

theorem eq_ok_of_mapError {ε δ α : Type} {change : ε → δ} {attempt : Except ε α} {result : α}
    (made : attempt.mapError change = .ok result) : attempt = .ok result := by
  cases attempt with
  | error fault => cases made
  | ok found => exact congrArg Except.ok (Except.ok.inj made)

section Calls

variable {path : String}

/-- What does not begin with a dash is not taken for a flag. -/
theorem classify_of_noDash (noDash : path.toList.head? ≠ some '-') :
    classify path = .ok (.plain path) := by
  have plain : looksLikeFlag path = false := by
    rw [← Bool.not_eq_true, looksLikeFlag_iff]
    rintro ⟨second, rest, dashed⟩
    exact noDash (by rw [dashed]; rfl)
  rw [classify, plain]
  rfl

theorem words_of_noDash (noDash : path.toList.head? ≠ some '-') (rest : List String) :
    words (path :: rest) = (words rest).map (.plain path :: ·) := by
  have operand : path ≠ "--" := by
    rintro rfl
    exact noDash rfl
  rw [words, if_neg operand, classify_of_noDash noDash]

/-- What is kept by each operand, by each value and by whatever is left over is kept by all words
together. -/
theorem takeWords_keeps {kept : Gathered → Prop}
    (operand : ∀ argument gathered next, takeOperand argument gathered = .ok next →
      kept gathered → kept next)
    (value : ∀ flag value gathered next, takeValue flag value gathered = .ok next →
      kept gathered → kept next)
    (left : ∀ gathered leftOver, kept gathered → kept { gathered with leftOver := leftOver })
    {arguments : List Word} {gathered last : Gathered}
    (taken : takeWords arguments gathered = .ok last) (before : kept gathered) : kept last := by
  fun_induction takeWords arguments gathered with
  | case1 gathered =>
      obtain rfl := Except.ok.inj taken
      exact before
  | case2 argument rest gathered first ih =>
      obtain ⟨next, step, onwards⟩ := exists_of_bind_eq_ok taken
      refine ih next onwards ?_
      split
      · exact operand _ _ _ step before
      · exact left _ _ (operand _ _ _ step before)
  | case3 argument rest gathered alone ih =>
      obtain ⟨next, step, onwards⟩ := exists_of_bind_eq_ok taken
      exact ih next onwards (operand _ _ _ step before)
  | case4 rest gathered ih =>
      refine ih taken ?_
      split
      · exact before
      · exact left _ _ before
  | case5 argument rest gathered ih => exact ih taken (left _ _ before)
  | case6 => cases taken
  | case7 flag long attached rest gathered noHelp ih =>
      obtain ⟨next, step, onwards⟩ := exists_of_bind_eq_ok taken
      exact ih next onwards (value _ _ _ _ step before)
  | case8 flag long text rest gathered noHelp ih =>
      obtain ⟨next, step, onwards⟩ := exists_of_bind_eq_ok taken
      exact ih next onwards (value _ _ _ _ step before)
  | case9 => cases taken

/-- The path is taken for the program, there is no code beside it, and the level is one of the
choices, if one is given. -/
structure Gathered.Runs (path : String) (gathered : Gathered) : Prop where
  program : gathered.program = some path
  execute : gathered.execute = none
  logLevel : ∀ level, gathered.logLevel = some level → level ∈ logLevels

namespace Gathered.Runs

variable {gathered next : Gathered}

/-- A path by itself is what is run. -/
theorem of_path (path : String) : Runs path { empty with program := some path } where
  program := rfl
  execute := rfl
  logLevel level given := by cases given

/-- A second operand is left over. -/
theorem takeOperand {argument : String} (taken : takeOperand argument gathered = .ok next)
    (runs : gathered.Runs path) : next.Runs path := by
  obtain ⟨program, execute, memorySize, input, logLevel, leftOver⟩ := gathered
  obtain ⟨rfl, absent, listed⟩ := runs
  obtain rfl := Except.ok.inj taken
  exact ⟨rfl, absent, listed⟩

/-- No value takes the place of the path: code is refused beside it. -/
theorem takeValue {flag : Flag} {value : String} (taken : takeValue flag value gathered = .ok next)
    (runs : gathered.Runs path) : next.Runs path := by
  cases flag with
  | help => cases taken
  | execute =>
      rw [CommandLine.takeValue, runs.program] at taken
      cases taken
  | memorySize =>
      rw [CommandLine.takeValue] at taken
      split at taken
      · obtain rfl := Except.ok.inj taken
        exact ⟨runs.program, runs.execute, runs.logLevel⟩
      · cases taken
  | input =>
      obtain rfl := Except.ok.inj taken
      exact ⟨runs.program, runs.execute, runs.logLevel⟩
  | logLevel =>
      rw [CommandLine.takeValue] at taken
      split at taken
      · rename_i listed
        obtain rfl := Except.ok.inj taken
        refine ⟨runs.program, runs.execute, ?_⟩
        rintro level ⟨⟩
        exact List.contains_iff_mem.mp listed
      · cases taken

/-- However the words go on, the path stays what is run. -/
theorem takeWords {arguments : List Word} (taken : takeWords arguments gathered = .ok next)
    (runs : gathered.Runs path) : next.Runs path :=
  takeWords_keeps (fun _ _ _ => Runs.takeOperand) (fun _ _ _ _ => Runs.takeValue)
    (fun _ _ runs => ⟨runs.program, runs.execute, runs.logLevel⟩) taken runs

end Gathered.Runs

/-- Where the first word is the path, it is taken before all else, with a separator behind it if
there is one. -/
theorem exists_takeWords_of_plain (path : String) (arguments : List Word) :
    ∃ remaining, takeWords (.plain path :: arguments) .empty =
      takeWords remaining { Gathered.empty with program := some path } := by
  cases arguments with
  | nil => exact ⟨[], rfl⟩
  | cons word rest =>
      cases word with
      | separator => exact ⟨rest, rfl⟩
      | plain | flag | unknown => exact ⟨_, rfl⟩

theorem Gathered.Runs.complete {gathered : Gathered} (runs : gathered.Runs path)
    {configuration : Configuration} {invocation : Invocation}
    (completed : gathered.complete configuration = .ok invocation) :
    invocation.target = .file path ∧
      (invocation.logLevel ∈ logLevels ∨
        invocation.logLevel = Text.uppercase configuration.logLevel) := by
  obtain ⟨program, execute, memorySize, input, level, leftOver⟩ := gathered
  obtain ⟨rfl, rfl, listed⟩ := runs
  cases leftOver with
  | cons => cases completed
  | nil =>
      obtain rfl := Except.ok.inj completed
      refine ⟨rfl, ?_⟩
      cases level with
      | none => exact .inr rfl
      | some level => exact .inl (listed level rfl)

theorem Gathered.Runs.exists_complete {gathered : Gathered} (runs : gathered.Runs path)
    (nothing : gathered.leftOver = []) (configuration : Configuration) :
    ∃ invocation, gathered.complete configuration = .ok invocation := by
  obtain ⟨program, execute, memorySize, input, level, leftOver⟩ := gathered
  obtain ⟨rfl, rfl, _⟩ := runs
  obtain rfl := nothing
  exact ⟨_, rfl⟩

/-- A call that begins with a path runs the file at this path, and its level is one of the choices
or the default. -/
theorem target_of_parse (noDash : path.toList.head? ≠ some '-') {configuration : Configuration}
    {rest : List String} {invocation : Invocation}
    (parsed : parse configuration (path :: rest) = .ok invocation) :
    invocation.target = .file path ∧
      (invocation.logLevel ∈ logLevels ∨
        invocation.logLevel = Text.uppercase configuration.logLevel) := by
  rw [parse, words_of_noDash noDash] at parsed
  obtain ⟨arguments, told, parsed⟩ := exists_of_bind_eq_ok parsed
  obtain ⟨gathered, taken, completed⟩ := exists_of_bind_eq_ok parsed
  obtain ⟨others, rfl⟩ : ∃ others, arguments = .plain path :: others := by
    cases split : words rest with
    | error fault => simp [split, Except.map, Except.mapError] at told
    | ok others =>
        simp only [split, Except.map, Except.mapError, Except.ok.injEq] at told
        exact ⟨others, told.symm⟩
  obtain ⟨remaining, same⟩ := exists_takeWords_of_plain path others
  have runs : gathered.Runs path := Gathered.Runs.takeWords (same ▸ taken) (.of_path path)
  exact runs.complete (eq_ok_of_mapError completed)

/-- Whether the value can be given for this flag beside a path. -/
def Flag.Accepts (value : String) : Flag → Prop
  | memorySize => ∃ size, Text.readInteger value = .ok size
  | input => True
  | logLevel => Text.uppercase value ∈ logLevels
  | help => False
  | execute => False

theorem exists_takeValue_of_accepts {flag : Flag} {value : String} (accepts : flag.Accepts value)
    (gathered : Gathered) : ∃ next, takeValue flag value gathered = .ok next ∧
      next.leftOver = gathered.leftOver := by
  cases flag with
  | help | execute => cases accepts
  | memorySize =>
      obtain ⟨size, whole⟩ := accepts
      exact ⟨{ gathered with memorySize := some size }, by rw [takeValue, whole], rfl⟩
  | input => exact ⟨{ gathered with input := some value }, rfl, rfl⟩
  | logLevel =>
      have listed : logLevels.contains (Text.uppercase value) := List.contains_iff_mem.mpr accepts
      exact ⟨{ gathered with logLevel := some (Text.uppercase value) },
        by simp only [takeValue, listed, if_true], rfl⟩

/-- Values that can be given are all taken. -/
theorem exists_foldlM_of_accepts {assigned : List (Flag × String)}
    (accepted : ∀ pair ∈ assigned, pair.1.Accepts pair.2) (gathered : Gathered) :
    ∃ last, assigned.foldlM takeAssigned gathered = .ok last ∧
      last.leftOver = gathered.leftOver := by
  induction assigned generalizing gathered with
  | nil => exact ⟨gathered, rfl, rfl⟩
  | cons pair assigned ih =>
      obtain ⟨here, behind⟩ := List.forall_mem_cons.mp accepted
      obtain ⟨next, taken, kept⟩ := exists_takeValue_of_accepts here gathered
      obtain ⟨last, onwards, keptOn⟩ := ih behind next
      refine ⟨last, ?_, keptOn.trans kept⟩
      rw [List.foldlM_cons, takeAssigned, taken]
      exact onwards

/-- A path with values that can be given beside it is a call. -/
theorem exists_parse_of_accepts (noDash : path.toList.head? ≠ some '-')
    (configuration : Configuration) {assigned : List (Flag × String)}
    (accepted : ∀ pair ∈ assigned, pair.1.Accepts pair.2) :
    ∃ invocation, parse configuration (path :: assignments assigned) = .ok invocation := by
  let first : Gathered := { Gathered.empty with program := some path }
  have noHelp : ∀ pair ∈ assigned, pair.1 ≠ .help := by
    rintro ⟨flag, value⟩ listed rfl
    exact accepted _ listed
  obtain ⟨last, folded, kept⟩ := exists_foldlM_of_accepts accepted first
  rw [← takeWords_assign assigned noHelp] at folded
  have begun : takeWords (.plain path :: assigned.map Word.assign) .empty = .ok last := by
    cases assigned <;> exact folded
  have runs : last.Runs path := Gathered.Runs.takeWords folded (.of_path path)
  obtain ⟨invocation, completed⟩ := runs.exists_complete kept configuration
  refine ⟨invocation, ?_⟩
  rw [parse, words_of_noDash noDash, words_assign]
  simp only [Except.map, Except.mapError, bind, Except.bind, begun, completed]

end Calls

end RingTape.CommandLine
