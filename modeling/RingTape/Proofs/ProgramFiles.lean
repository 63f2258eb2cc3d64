/-
# Program files and their texts

A file that holds the UTF-8 of a text is read as this text with a line feed for every line end,
and a file that holds the UTF-8 of no text is refused before anything happens. Line ends are
comments. So to interpret the file is to interpret the text, and only complaints tell the
difference: they are about places that have moved up by one for every pair before them.
-/

import RingTape.ProgramFile
import RingTape.Proofs.Comments
import RingTape.Proofs.Encoding

namespace RingTape

namespace Text

/-! ## Line ends -/

/-- A text is gone through by its line ends and its other characters. -/
@[elab_as_elim]
theorem lineEnd_induction {motive : List Char → Prop} (nil : motive [])
    (pair : ∀ rest, motive rest → motive ('\r' :: '\n' :: rest))
    (alone : ∀ rest, rest.head? ≠ some '\n' → motive rest → motive ('\r' :: rest))
    (other : ∀ character rest, character ≠ '\r' → motive rest → motive (character :: rest))
    (text : List Char) : motive text := by
  induction text using joinPairs.induct with
  | case1 => exact nil
  | case2 last =>
      by_cases returns : last = '\r'
      · subst returns
        exact alone [] (by simp) nil
      · exact other last [] returns nil
  | case3 first second rest isPair ih =>
      obtain ⟨rfl, rfl⟩ := isPair
      exact pair rest ih
  | case4 first second rest isPair ih =>
      by_cases returns : first = '\r'
      · subst returns
        refine alone (second :: rest) ?_ ih
        intro feeds
        exact isPair ⟨rfl, Option.some.inj feeds⟩
      · exact other first (second :: rest) returns ih

section LineEnds

variable {character : Char} {before after rest : List Char}

theorem withLineFeeds_pair (rest : List Char) :
    withLineFeeds ('\r' :: '\n' :: rest) = '\n' :: withLineFeeds rest := by
  rw [withLineFeeds, joinPairs, if_pos ⟨rfl, rfl⟩, List.map_cons, if_neg (by decide),
    withLineFeeds]

theorem withLineFeeds_alone (noFeed : rest.head? ≠ some '\n') :
    withLineFeeds ('\r' :: rest) = '\n' :: withLineFeeds rest := by
  cases rest with
  | nil => rfl
  | cons second rest =>
      have apart : ¬ ('\r' = '\r' ∧ second = '\n') := by simpa using noFeed
      rw [withLineFeeds, joinPairs, if_neg apart, List.map_cons, if_pos rfl, withLineFeeds]

theorem withLineFeeds_cons_of_ne (other : character ≠ '\r') (rest : List Char) :
    withLineFeeds (character :: rest) = character :: withLineFeeds rest := by
  cases rest with
  | nil => rw [withLineFeeds, joinPairs, List.map_singleton, if_neg other]; rfl
  | cons second rest =>
      rw [withLineFeeds, joinPairs, if_neg (by simp [other]), List.map_cons, if_neg other,
        withLineFeeds]

theorem countPairs_pair (rest : List Char) :
    countPairs ('\r' :: '\n' :: rest) = countPairs rest + 1 := by
  cases rest <;> simp [countPairs]

theorem countPairs_alone (noFeed : rest.head? ≠ some '\n') :
    countPairs ('\r' :: rest) = countPairs rest := by
  cases rest with
  | nil => rfl
  | cons second rest =>
      have other : second ≠ '\n' := by simpa using noFeed
      simp [countPairs, other]

theorem countPairs_cons_of_ne (other : character ≠ '\r') (rest : List Char) :
    countPairs (character :: rest) = countPairs rest := by
  cases rest <;> simp [countPairs, other]

/-- The characters are gone through one by one, and a carriage return is remembered until the
next one. -/
theorem normalizeNewlinesFrom_eq (text : List Char) (done : Array Char) :
    normalizeNewlinesFrom false done text = done ++ (withLineFeeds text).toArray := by
  induction text using lineEnd_induction generalizing done with
  | nil => simp [normalizeNewlinesFrom, withLineFeeds, joinPairs]
  | pair rest ih => simp [normalizeNewlinesFrom, withLineFeeds_pair, ih]
  | alone rest noFeed ih =>
      have forgotten (made : Array Char) :
          normalizeNewlinesFrom true made rest = normalizeNewlinesFrom false made rest := by
        cases rest with
        | nil => rfl
        | cons second rest =>
            have other : second ≠ '\n' := by simpa using noFeed
            by_cases returns : second = '\r' <;> simp [normalizeNewlinesFrom, returns]
      rw [normalizeNewlinesFrom, forgotten, ih, withLineFeeds_alone noFeed]
      simp
  | other character rest noReturn ih =>
      rw [withLineFeeds_cons_of_ne noReturn]
      by_cases feeds : character = '\n'
      · simp [feeds, normalizeNewlinesFrom, ih]
      · simp [normalizeNewlinesFrom, ih]

theorem normalizeNewlines_eq (text : List Char) :
    normalizeNewlines text = withLineFeeds text := by
  rw [normalizeNewlines, normalizeNewlinesFrom_eq]
  simp

/-- Left of a character that belongs to no line end, line ends are replaced as by themselves. -/
theorem withLineFeeds_append_cons (noReturn : character ≠ '\r') (noFeed : character ≠ '\n') :
    withLineFeeds (before ++ character :: after) =
      withLineFeeds before ++ character :: withLineFeeds after := by
  induction before using lineEnd_induction with
  | nil => exact withLineFeeds_cons_of_ne noReturn after
  | pair rest ih =>
      rw [List.cons_append, List.cons_append, withLineFeeds_pair, withLineFeeds_pair, ih]
      rfl
  | alone rest apart ih =>
      have still : (rest ++ character :: after).head? ≠ some '\n' := by
        cases rest with
        | nil => simpa using noFeed
        | cons second rest => exact apart
      rw [List.cons_append, withLineFeeds_alone still, withLineFeeds_alone apart, ih]
      rfl
  | other first rest returns ih =>
      rw [List.cons_append, withLineFeeds_cons_of_ne returns, withLineFeeds_cons_of_ne returns, ih]
      rfl

/-- Every pair makes the text shorter by one. -/
theorem length_withLineFeeds (text : List Char) :
    (withLineFeeds text).length + countPairs text = text.length := by
  induction text using lineEnd_induction with
  | nil => rfl
  | pair rest ih =>
      rw [withLineFeeds_pair, countPairs_pair]
      simp only [List.length_cons]
      omega
  | alone rest apart ih =>
      rw [withLineFeeds_alone apart, countPairs_alone apart]
      simp only [List.length_cons]
      omega
  | other character rest noReturn ih =>
      rw [withLineFeeds_cons_of_ne noReturn, countPairs_cons_of_ne noReturn]
      simp only [List.length_cons]
      omega

/-- What no line end has a part in stays when line ends are replaced. -/
theorem filter_withLineFeeds (chosen : Char → Bool) (noReturn : chosen '\r' = false)
    (noFeed : chosen '\n' = false) (text : List Char) :
    (withLineFeeds text).filter chosen = text.filter chosen := by
  induction text using lineEnd_induction with
  | nil => rfl
  | pair rest ih => simp [withLineFeeds_pair, noReturn, noFeed, ih]
  | alone rest apart ih => simp [withLineFeeds_alone apart, noReturn, noFeed, ih]
  | other character rest returns ih => simp [withLineFeeds_cons_of_ne returns, ih, List.filter_cons]

end LineEnds

end Text

open Text (withLineFeeds countPairs)

/-! ## Programs without carriage returns -/

namespace Program

variable {text : String} {position : Nat} {instruction : Instruction}

theorem toList_ofText (text : String) :
    (ofText text).toList = text.toList.map Instruction.ofChar := rfl

theorem rank_ofText (text : String) (position : Nat) :
    (ofText text).rank position =
      ((text.toList.take position).filter (Instruction.characters.contains ·)).length := by
  rw [rank, toList_ofText, ← List.map_take, List.countP_map, List.countP_eq_length_filter]
  congr 2
  funext character
  exact Instruction.isProper_ofChar character

/-- An instruction moves up by one for every pair before it. -/
theorem found_withLineFeeds (here : (ofText text)[position]? = some instruction)
    (isProper : instruction.isProper) :
    let loaded := String.ofList (withLineFeeds text.toList)
    let place := position - countPairs (text.toList.take position)
    (ofText loaded)[place]? = some instruction ∧
      (ofText loaded).rank place = (ofText text).rank position := by
  intro loaded place
  rw [← Array.getElem?_toList, toList_ofText, List.getElem?_map, Option.map_eq_some_iff] at here
  obtain ⟨character, there, rfl⟩ := here
  rw [Instruction.isProper_ofChar] at isProper
  obtain ⟨inside, found⟩ := List.getElem?_eq_some_iff.mp there
  have parts : text.toList =
      text.toList.take position ++ character :: text.toList.drop (position + 1) := by
    rw [← found, ← List.drop_eq_getElem_cons, List.take_append_drop]
  have noReturn : character ≠ '\r' := by
    rintro rfl
    simp [Instruction.characters] at isProper
  have noFeed : character ≠ '\n' := by
    rintro rfl
    simp [Instruction.characters] at isProper
  have length : (withLineFeeds (text.toList.take position)).length = place := by
    have shorter := Text.length_withLineFeeds (text.toList.take position)
    rw [List.length_take, Nat.min_eq_left (Nat.le_of_lt inside)] at shorter
    omega
  have spelled : loaded.toList = withLineFeeds (text.toList.take position) ++
      character :: withLineFeeds (text.toList.drop (position + 1)) := by
    rw [String.toList_ofList, parts, Text.withLineFeeds_append_cons noReturn noFeed, ← parts]
  constructor
  · rw [← Array.getElem?_toList, toList_ofText, spelled, List.getElem?_map, ← length]
    simp
  · rw [rank_ofText, rank_ofText, spelled, ← length, List.take_left,
      Text.filter_withLineFeeds _ rfl rfl]

end Program

/-! ## Interpretations -/

namespace Interpreter

variable {code : Code} {program : Program} {size : Value} {source : Source} {sink : Sink}
  {text : String} {exchanged : List Exchange}

/-- The stripped code makes the same exchanges. -/
theorem exists_exchanges_stripped_iff (given : code.program = .ok program) :
    (∃ limit, exchanges limit code size source sink = exchanged) ↔
      ∃ limit, exchanges limit code.stripped size source sink = exchanged := by
  rcases prepare_alike given (Code.program_stripped given) size with
    ⟨cells, tape, prepared, otherPrepared⟩ | ⟨failure, refused, otherRefused, _⟩
  · simp only [exchanges, prepared, otherPrepared]
    exact Machine.exists_exchanges_stripped_iff
  · simp only [exchanges, refused, otherRefused]

/-- Line ends are taken out with the other comments. -/
theorem stripped_withLineFeeds (text : String) :
    (Code.text (String.ofList (withLineFeeds text.toList))).stripped =
      (Code.text text).stripped := by
  simp only [Code.stripped, String.toList_ofList, Text.filter_withLineFeeds
    (fun one => Instruction.characters.contains one) rfl rfl]

/-- Two codes with the same instructions leave the same behind, but for complaints, which are
about the same instruction. -/
theorem relocate_eq_of_stripped {otherCode : Code} {other : Program}
    (given : code.program = .ok program) (otherGiven : otherCode.program = .ok other)
    (same : otherCode.stripped = code.stripped) {limit larger : Nat} {report alternative : Report}
    (interpreted : interpret limit code size source sink = some report)
    (otherwise : interpret larger otherCode size source sink = some alternative) :
    alternative.relocate other.rank = report.relocate program.rank := by
  obtain ⟨enough, found⟩ := exists_interpret_stripped given interpreted
  obtain ⟨more, otherFound⟩ := exists_interpret_stripped otherGiven otherwise
  rw [same] at otherFound
  exact interpret_unique otherFound found

/-- The text with line feeds fails as the text does, a complaint being about a place that is
further up by one for every pair before it. -/
theorem failure_withLineFeeds {limit larger : Nat} {report other : Report}
    (interpreted : interpret limit (.text text) size source sink = some report)
    (otherwise : interpret larger (.text (String.ofList (withLineFeeds text.toList))) size source
      sink = some other) :
    other.failure = report.failure.map (Failure.relocate fun position =>
      position - countPairs (text.toList.take position)) := by
  have given : (Code.text text).program = .ok (.ofText text) := rfl
  have alike := congrArg Report.failure
    (relocate_eq_of_stripped given rfl (stripped_withLineFeeds text) interpreted otherwise)
  by_cases complaint : ∃ kind position,
      report.failure = some (.brokenOff (.unmatched kind position))
  · obtain ⟨kind, position, failed⟩ := complaint
    obtain ⟨bracket, rfl, unmatched⟩ := exists_bracket_of_interpret given interpreted failed
    rw [Report.relocate, Report.relocate, failed] at alike
    obtain ⟨place, listed, otherFailed⟩ :=
      (failure_relocate_iff rfl otherwise kind ((Program.ofText text).rank bracket)).mp alike
    -- The instruction of this rank is the bracket, moved up.
    have moved : ∃ instruction, (Program.ofText text)[bracket]? = some instruction ∧
        instruction.isProper := by
      rcases unmatched.isBracket with opening | closing
      · exact ⟨_, opening, rfl⟩
      · exact ⟨_, closing, rfl⟩
    obtain ⟨instruction, here, isProper⟩ := moved
    obtain ⟨there, ranked⟩ := Program.found_withLineFeeds here isProper
    have found := Program.properPositions_getElem?_eq_some_iff.mpr
      ⟨instruction, there, isProper, ranked⟩
    rw [found] at listed
    obtain rfl := Option.some.inj listed
    rw [otherFailed, failed]
    rfl
  · simp only [not_exists] at complaint
    have unplaced (place : Nat → Nat) : (report.relocate place).failure = report.failure :=
      (failure_relocate_of_ne complaint).mpr rfl
    rw [unplaced] at alike
    rw [(failure_relocate_of_ne complaint).mp alike]
    exact (unplaced _).symm

end Interpreter

namespace ProgramFile

open Interpreter (exists_interpret_stripped exists_interpret_of_stripped)

variable {readFile : FileReader} {path : String} {text : String}

/-- A file that holds the UTF-8 of a text is read as the text with line feeds. -/
theorem load_of_encode (holds : readFile path = .ok (Text.Utf8.encode text)) :
    load readFile path = .ok (String.ofList (withLineFeeds text.toList)) := by
  rw [load, holds]
  show decode (Text.Utf8.encode text) = _
  rw [decode, Text.Utf8.decode_encode]
  exact congrArg (Except.ok ∘ String.ofList) (Text.normalizeNewlines_eq text.toList)

/-- What is loaded is interpreted. -/
theorem interpret_of_load {loaded : String} (isLoaded : load readFile path = .ok loaded)
    (limit : Nat) (size : Value) (source : Source) (sink : Sink) :
    interpret limit readFile path size source sink =
      (Interpreter.interpret limit (.text loaded) size source sink).map (told loaded path) := by
  rw [interpret, isLoaded]

/-- Bytes that are the UTF-8 of no text have no effect. -/
theorem interpret_of_invalid {content : List UInt8} (holds : readFile path = .ok content)
    (invalid : ∀ text, Text.Utf8.encode text ≠ content) :
    ∃ refusal, ∀ limit size source sink, interpret limit readFile path size source sink =
      some ⟨source, sink, [], some (.undecodable refusal)⟩ := by
  obtain ⟨refusal, refused⟩ := Text.Utf8.exists_decode_eq_error invalid
  have unread : load readFile path = .error (.undecodable refusal) := by
    rw [load, holds]
    show decode content = _
    rw [decode, refused]
  refine ⟨refusal, fun limit size source sink => ?_⟩
  rw [interpret, unread]

/-- A file that holds the UTF-8 of a text is loaded as this text with every pair of a carriage
return and a line feed, and every remaining carriage return, replaced by a line feed. To interpret
it is to interpret the text, whatever the memory size is: the same exchanges are made with the
streams, an end is reached with the one if and only if it is with the other, and then both streams
are in the same states, flushes included, and the failure is the same or there is none; but a
complaint about a bracket is about a place that is smaller by the number of pairs before it. A file
that holds the UTF-8 of no text fails without any effect on the streams. -/
theorem files_are_interpreted_as_texts (readFile : FileReader) (path : String) (size : Value)
    (source : Source) (sink : Sink) :
    (∀ text, readFile path = .ok (Text.Utf8.encode text) →
      let loaded := String.ofList (withLineFeeds text.toList)
      load readFile path = .ok loaded ∧
      (∀ exchanged,
        (∃ limit, Interpreter.exchanges limit (.text text) size source sink = exchanged) ↔
          ∃ limit, Interpreter.exchanges limit (.text loaded) size source sink = exchanged) ∧
      ((∃ limit report, Interpreter.interpret limit (.text text) size source sink = some report) ↔
        ∃ limit report, interpret limit readFile path size source sink = some report) ∧
      ∀ limit report larger other,
        Interpreter.interpret limit (.text text) size source sink = some report →
        interpret larger readFile path size source sink = some other →
          other.source = report.source ∧ other.sink = report.sink ∧
          other.failure = report.failure.map (Failure.relocate fun position =>
            position - countPairs (text.toList.take position))) ∧
    ∀ content, readFile path = .ok content → (∀ text, Text.Utf8.encode text ≠ content) →
      ∃ refusal, ∀ limit, interpret limit readFile path size source sink =
        some ⟨source, sink, [], some (.undecodable refusal)⟩ := by
  refine ⟨?_, ?_⟩
  · intro text holds loaded
    have isLoaded := load_of_encode holds
    have given : (Code.text text).program = .ok (.ofText text) := rfl
    have otherGiven : (Code.text loaded).program = .ok (.ofText loaded) := rfl
    have same : (Code.text loaded).stripped = (Code.text text).stripped :=
      Interpreter.stripped_withLineFeeds text
    refine ⟨isLoaded, ?_, ⟨?_, ?_⟩, ?_⟩
    · intro exchanged
      rw [Interpreter.exists_exchanges_stripped_iff given,
        Interpreter.exists_exchanges_stripped_iff otherGiven, same]
    · rintro ⟨limit, report, interpreted⟩
      obtain ⟨enough, found⟩ := exists_interpret_stripped given interpreted
      rw [← same] at found
      obtain ⟨larger, other, otherwise⟩ := exists_interpret_of_stripped otherGiven found
      exact ⟨larger, _, by rw [interpret_of_load isLoaded, otherwise]; rfl⟩
    · rintro ⟨limit, other, interpreted⟩
      rw [interpret_of_load isLoaded, Option.map_eq_some_iff] at interpreted
      obtain ⟨report, otherwise, _⟩ := interpreted
      obtain ⟨enough, found⟩ := exists_interpret_stripped otherGiven otherwise
      rw [same] at found
      exact exists_interpret_of_stripped given found
    · intro limit report larger other interpreted otherwise
      rw [interpret_of_load isLoaded, Option.map_eq_some_iff] at otherwise
      obtain ⟨alternative, found, rfl⟩ := otherwise
      have alike := Interpreter.relocate_eq_of_stripped given otherGiven same interpreted found
      have sameSource : alternative.source = report.source := by
        simpa [Report.relocate] using congrArg Report.source alike
      have sameSink : alternative.sink = report.sink := by
        simpa [Report.relocate] using congrArg Report.sink alike
      have moved := Interpreter.failure_withLineFeeds interpreted found
      exact ⟨sameSource, sameSink, moved⟩
  · intro content holds invalid
    obtain ⟨refusal, refused⟩ := interpret_of_invalid holds invalid
    exact ⟨refusal, fun limit => refused limit size source sink⟩

/-- A file with a byte order mark and line ends of two kinds. The text complains about the bracket
at position 5, and the program that is loaded, in which the pair is one character, about position
4. The byte 255 begins no character. -/
theorem files_are_interpreted_as_texts_of_marked :
    let bytes : List UInt8 := [0xef, 0xbb, 0xbf, 13, 10, 43, 13, 93]
    let holding (content : List UInt8) : FileReader := fun _ => .ok content
    let text := "\ufeff\r\n+\r]"
    let complaint (position : Int) : Option Failure :=
      some (.brokenOff (.unmatched .closing position))
    Text.Utf8.encode text = bytes ∧
      load (holding bytes) "a" = .ok "\ufeff\n+\n]" ∧
      (∃ report limit other,
        Interpreter.interpret 6 (.text text) (.integer 1) .empty .plain = some report ∧
        report.failure = complaint 5 ∧
        interpret limit (holding bytes) "a" (.integer 1) .empty .plain = some other ∧
        other.failure = complaint 4) ∧
      (∀ text, Text.Utf8.encode text ≠ [0xff]) ∧
      ∃ refusal, ∀ limit, interpret limit (holding [0xff]) "a" (.integer 1) .empty .plain =
        some ⟨.empty, .plain, [], some (.undecodable refusal)⟩ := by
  intro bytes holding text complaint
  have encoded : Text.Utf8.encode text = bytes := by decide +kernel
  have holds : holding bytes "a" = .ok (Text.Utf8.encode text) := by rw [encoded]
  have invalid (text : String) : Text.Utf8.encode text ≠ [0xff] := by
    intro spelled
    have decoded := Text.Utf8.decode_encode text
    rw [spelled] at decoded
    cases decoded
  obtain ⟨valid, _⟩ :=
    files_are_interpreted_as_texts (holding bytes) "a" (.integer 1) .empty .plain
  obtain ⟨isLoaded, _, ends, moved⟩ := valid text holds
  obtain ⟨_, refused⟩ :=
    files_are_interpreted_as_texts (holding [0xff]) "a" (.integer 1) .empty .plain
  have replaced : String.ofList (withLineFeeds text.toList) = "\ufeff\n+\n]" := by
    decide +kernel
  rw [replaced] at isLoaded
  have interpreted : Interpreter.interpret 6 (.text "\ufeff\r\n+\r]") (.integer 1) .empty .plain =
      some _ := rfl
  obtain ⟨limit, other, otherwise⟩ := ends.mp ⟨6, _, interpreted⟩
  obtain ⟨_, _, failed⟩ := moved 6 _ limit other interpreted otherwise
  have pair : countPairs (text.toList.take 5) = 1 := by decide +kernel
  have closer : some (Failure.brokenOff (.unmatched .closing
      (5 - countPairs (text.toList.take 5) : Nat))) = complaint 4 := by
    rw [pair]
    rfl
  exact ⟨encoded, isLoaded,
    ⟨_, limit, other, interpreted, rfl, otherwise, failed.trans closer⟩, invalid,
    refused [0xff] rfl invalid⟩

end ProgramFile

end RingTape
