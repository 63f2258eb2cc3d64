/-
# Files that cannot be read

A call that begins with the path of a program runs this file, whatever options follow. Where the
path leads to no file, the command reports that, with nothing on standard output. Where it leads
to a file that is not written in UTF-8, or has a NUL character in it, the failure is not one that
the command reports: it ends the command without a word.
-/

import RingTape.Command
import RingTape.FileTree
import RingTape.Proofs.Encoding
import RingTape.Proofs.Invocations

namespace RingTape

/-! ## Causes -/

/-- A path has a NUL character in it, or there is one of the path faults, or it leads to a file. -/
theorem FileSystem.cause_of_read {system : FileSystem} {path : String} {failure : Failure}
    (unread : system.read path = .error failure) :
    ('\x00' ∈ path.toList ∧ failure = .nulCharacter) ∨
      ∃ cause, failure = .unreachable cause path := by
  rw [read] at unread
  split at unread
  · rename_i hasNul
    exact .inl ⟨List.contains_iff_mem.mp hasNul, (Except.error.inj unread).symm⟩
  · right
    split at unread
    · cases unread
    · exact ⟨_, (Except.error.inj unread).symm⟩
    · exact ⟨_, (Except.error.inj unread).symm⟩

/-- A program is not loaded because its file is not read, or because its bytes are the UTF-8 of no
text. -/
theorem ProgramFile.cause_of_load {readFile : FileReader} {path : String} {failure : Failure}
    (unloaded : load readFile path = .error failure) :
    readFile path = .error failure ∨
      ∃ content refusal, readFile path = .ok content ∧
        (∀ text, Text.Utf8.encode text ≠ content) ∧ failure = .undecodable refusal := by
  cases found : readFile path with
  | error first =>
      rw [load, found] at unloaded
      exact .inl (congrArg Except.error (Except.error.inj unloaded))
  | ok content =>
      right
      rw [load, found] at unloaded
      replace unloaded : decode content = .error failure := unloaded
      rw [decode] at unloaded
      cases decoded : Text.Utf8.decode content with
      | ok characters => simp [decoded] at unloaded
      | error refusal =>
          rw [decoded] at unloaded
          refine ⟨content, refusal, rfl, ?_, (Except.error.inj unloaded).symm⟩
          rintro text rfl
          rw [Text.Utf8.decode_encode] at decoded
          cases decoded

namespace Command

open CommandLine (Invocation parse logLevels assignments)

/-- Every level that can be asked for is a threshold. -/
theorem isSome_lookup_of_mem : ∀ level ∈ logLevels, (thresholds.lookup level).isSome := by
  decide

/-- A call of a file that cannot be loaded ends with this failure, reported or not, prints nothing
else, and leaves standard input as it is. -/
theorem run_of_unloaded {path : String} (noDash : path.toList.head? ≠ some '-')
    {configuration : Configuration} {rest : List String} {invocation : Invocation}
    (parsed : parse configuration (path :: rest) = .ok invocation)
    (known : (thresholds.lookup (Text.uppercase configuration.logLevel)).isSome ∨
      invocation.logLevel ∈ logLevels)
    {readFile : FileReader} {failure : Failure}
    (unloaded : ProgramFile.load readFile path = .error failure) (limit : Nat)
    (standardInput : Source) :
    run limit configuration readFile standardInput (path :: rest) =
      some (if isReported failure then
          ⟨.ok 1, "", "bf-run: " ++ failure.message ++ "\n", standardInput⟩
        else ⟨.error failure, "", "", standardInput⟩) := by
  obtain ⟨file, level⟩ := CommandLine.target_of_parse noDash parsed
  obtain ⟨threshold, isThreshold⟩ : ∃ threshold,
      thresholds.lookup invocation.logLevel = some threshold := by
    rw [← Option.isSome_iff_exists]
    rcases level with listed | default
    · exact isSome_lookup_of_mem _ listed
    · rcases known with usable | listed
      · rw [default]
        exact usable
      · exact isSome_lookup_of_mem _ listed
  have unrun (source : Source) : runTarget limit readFile invocation source =
      some ⟨source, .plain, [], some failure⟩ := by
    rw [runTarget, file]
    simp only [ProgramFile.interpret, unloaded]
  rw [run, parsed]
  simp only [perform, isThreshold, unrun, Option.map_some]
  cases invocation.input <;> rfl

/-- A call that begins with a path, with values in any way, reports why its file cannot be loaded
if the path leads to no file: the exit status is 1, there is nothing on standard output, and one
message stands on standard error. If there is a file whose bytes are the UTF-8 of no text, the
failure ends the command unreported, and so it does if the path has a NUL character in it. These
are all causes, and in each case standard input is as it was, with no read made. Every value that
a size, an input or a level can have makes such a call. -/
theorem unloaded_files_are_reported_unless_undecodable (system : FileSystem)
    (configuration : Configuration) {path : String} (noDash : path.toList.head? ≠ some '-') :
    (∀ assigned, (∀ pair ∈ assigned, pair.1.Accepts pair.2) →
      ∃ invocation, parse configuration (path :: assignments assigned) = .ok invocation) ∧
    ∀ rest invocation, parse configuration (path :: rest) = .ok invocation →
      (thresholds.lookup (Text.uppercase configuration.logLevel)).isSome ∨
        invocation.logLevel ∈ logLevels →
      ∀ failure, ProgramFile.load system.read path = .error failure →
        (∀ limit size source sink, ProgramFile.interpret limit system.read path size source sink =
          some ⟨source, sink, [], some failure⟩) ∧
        ((∃ cause, failure = .unreachable cause path ∧ ∀ limit standardInput,
            run limit configuration system.read standardInput (path :: rest) =
              some ⟨.ok 1, "", "bf-run: " ++ failure.message ++ "\n", standardInput⟩) ∨
          ((∃ content refusal, system.read path = .ok content ∧
              (∀ text, Text.Utf8.encode text ≠ content) ∧ failure = .undecodable refusal) ∨
            ('\x00' ∈ path.toList ∧ failure = .nulCharacter)) ∧
          ∀ limit standardInput,
            run limit configuration system.read standardInput (path :: rest) =
              some ⟨.error failure, "", "", standardInput⟩) := by
  refine ⟨fun assigned => CommandLine.exists_parse_of_accepts noDash configuration, ?_⟩
  intro rest invocation parsed known failure unloaded
  have ended := run_of_unloaded noDash parsed known unloaded
  refine ⟨fun limit size source sink => by rw [ProgramFile.interpret, unloaded], ?_⟩
  rcases ProgramFile.cause_of_load unloaded with unread | ⟨content, refusal, read, invalid, rfl⟩
  · rcases FileSystem.cause_of_read unread with ⟨hasNul, rfl⟩ | ⟨cause, rfl⟩
    · exact .inr ⟨.inr ⟨hasNul, rfl⟩, ended⟩
    · have isReported : isReported (.unreachable cause path) = true := by cases cause <;> rfl
      simp only [isReported, if_true] at ended
      exact .inl ⟨cause, rfl, ended⟩
  · exact .inr ⟨.inl ⟨content, refusal, read, invalid, rfl⟩, ended⟩

/-- A directory with one file, which holds a byte that begins no character. A call of a missing
file beside it is reported, a call of this file is not, and neither is one with a NUL character. -/
theorem unloaded_files_are_reported_unless_undecodable_of_one_byte :
    let system : FileSystem := ⟨.directory [("p.bf", .file [0xff])], []⟩
    let configuration : Configuration := ⟨65535, "WARNING"⟩
    (∀ limit standardInput,
      run limit configuration system.read standardInput ["q.bf", "--input=+"] =
        some ⟨.ok 1, "", "bf-run: [Errno 2] No such file or directory: 'q.bf'\n",
          standardInput⟩) ∧
      (∃ failure, ∀ limit standardInput,
        run limit configuration system.read standardInput ["p.bf"] =
          some ⟨.error failure, "", "", standardInput⟩) ∧
      ∀ limit standardInput,
        run limit configuration system.read standardInput ["p\x00"] =
          some ⟨.error .nulCharacter, "", "", standardInput⟩ := by
  intro system configuration
  have known : (thresholds.lookup (Text.uppercase configuration.logLevel)).isSome := by decide
  have missing : ProgramFile.load system.read "q.bf" = .error (.unreachable .missing "q.bf") := rfl
  have undecodable : ProgramFile.load system.read "p.bf" =
      .error (.undecodable ⟨.startByte, 0, 0xff, 1⟩) := rfl
  have unnameable : ProgramFile.load system.read "p\x00" = .error .nulCharacter := rfl
  have message : (Failure.unreachable .missing "q.bf").message =
      "[Errno 2] No such file or directory: 'q.bf'" := by decide +kernel
  have line : "bf-run: " ++ (Failure.unreachable .missing "q.bf").message ++ "\n" =
      "bf-run: [Errno 2] No such file or directory: 'q.bf'\n" := by
    rw [message]
    decide
  have calls (path : String) (noDash : path.toList.head? ≠ some '-') :=
    unloaded_files_are_reported_unless_undecodable system configuration noDash
  obtain ⟨parses, reports⟩ := calls "q.bf" (by decide)
  obtain ⟨_, others⟩ := calls "p.bf" (by decide)
  obtain ⟨_, unnamed⟩ := calls "p\x00" (by decide)
  obtain ⟨invocation, parsed⟩ := parses [(.input, "+")] (by simp [CommandLine.Flag.Accepts])
  obtain ⟨_, ⟨_, _, reported⟩ | ⟨⟨_, _, _, _, other⟩ | ⟨_, other⟩, _⟩⟩ :=
    reports _ _ parsed (.inl known) _ missing
  · rw [line] at reported
    refine ⟨reported, ?_, ?_⟩
    · obtain ⟨_, ⟨_, other, _⟩ | ⟨_, unreported⟩⟩ := others [] _ rfl (.inl known) _ undecodable
      · cases other
      · exact ⟨_, unreported⟩
    · obtain ⟨_, ⟨_, other, _⟩ | ⟨_, unreported⟩⟩ := unnamed [] _ rfl (.inl known) _ unnameable
      · cases other
      · exact unreported
  · cases other
  · cases other

/-- The call `p.bf` in a directory where this file holds just the byte 255: it cannot be loaded as
a text, and the command does not end with the status 1 and a message. -/
theorem undecodable_file_ends_unreported :
    let system : FileSystem := ⟨.directory [("p.bf", .file [0xff])], []⟩
    let configuration : Configuration := ⟨65535, "WARNING"⟩
    system.read "p.bf" = .ok [0xff] ∧ (∀ text, Text.Utf8.encode text ≠ [0xff]) ∧
      (∃ invocation, parse configuration ["p.bf"] = .ok invocation) ∧
      run 1 configuration system.read .empty ["p.bf"] =
        some ⟨.error (.undecodable ⟨.startByte, 0, 0xff, 1⟩), "", "", .empty⟩ ∧
      ¬ ∃ message input, run 1 configuration system.read .empty ["p.bf"] =
        some ⟨.ok 1, "", "bf-run: " ++ message, input⟩ := by
  intro system configuration
  have read : system.read "p.bf" = .ok [0xff] := rfl
  have decoded : Text.Utf8.decode [0xff] = .error ⟨.startByte, 0, 0xff, 1⟩ := rfl
  have known : (thresholds.lookup (Text.uppercase configuration.logLevel)).isSome := by decide
  have noDash : "p.bf".toList.head? ≠ some '-' := by decide
  have undecodable : ProgramFile.load system.read "p.bf" =
      .error (.undecodable ⟨.startByte, 0, 0xff, 1⟩) := rfl
  have ended : run 1 configuration system.read .empty ["p.bf"] =
      some ⟨.error (.undecodable ⟨.startByte, 0, 0xff, 1⟩), "", "", .empty⟩ :=
    run_of_unloaded noDash rfl (.inl known) undecodable 1 .empty
  refine ⟨read, fun text spelled => ?_, ⟨_, rfl⟩, ended, fun ⟨message, input, reported⟩ => ?_⟩
  · rw [← spelled, Text.Utf8.decode_encode] at decoded
    cases decoded
  · rw [ended] at reported
    cases reported

end Command

end RingTape
