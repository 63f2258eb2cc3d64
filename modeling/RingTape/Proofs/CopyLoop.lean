/-
# The copying loop

The loop of `,+[-.,+]` keeps in its cell the byte that was read last and one more, so that the cell
is zero just when the byte is 255. Until then each round takes the one away again, writes the byte,
and reads the next. What is copied ends with the input, because the end of an input delivers 255,
or with the first byte of this value. In UTF-8 it does not occur, so every text is copied whole.
-/

import Mathlib.Data.List.TakeWhile
import RingTape.Proofs.Encoding
import RingTape.Proofs.Interpretation
import RingTape.Proofs.Structured
import RingTape.Runner
import RingTape.Text.Latin1

namespace RingTape

/-! ## Inputs -/

/-- The source delivers these bytes from now on and then the end of input. -/
def Source.Holds (bytes : List UInt8) (source : Source) : Prop :=
  ∀ index, (source.answers (source.reads + index)).delivered =
    .ok (bytes[index]?.getD endOfInput)

namespace Source.Holds

variable {source : Source} {bytes : List UInt8}

theorem ofBytes (bytes : List UInt8) : (Source.ofBytes bytes).Holds bytes := by
  intro index
  have unread : (Source.ofBytes bytes).reads = 0 := rfl
  rw [unread, Nat.zero_add, delivered_ofBytes]

/-- A read takes the first byte away, or meets the end of input and leaves it there. -/
theorem read (holds : source.Holds bytes) :
    source.read.1 = .ok (bytes.headD endOfInput) ∧ source.read.2.Holds bytes.tail := by
  constructor
  · have first := holds 0
    cases bytes <;> exact first
  · intro index
    have later := holds (index + 1)
    rw [answers_read, reads_read, Nat.add_assoc, Nat.add_comm 1, later]
    cases bytes <;> simp

end Source.Holds

/-! ## Exchanges -/

namespace Exchange

/-- What copying exchanges: every byte before the first 255 is read and written at once, and one
more read meets the 255 or the end of input. -/
def copying (bytes : List UInt8) : List Exchange :=
  (bytes.takeWhile (· ≠ endOfInput)).flatMap
      (fun byte => [.read (.ok byte), .write (Char.ofUInt8 byte) none]) ++
    [.read (.ok endOfInput)]

/-- What comes behind the first read depends on what it delivers. -/
theorem copying_eq (bytes : List UInt8) :
    copying bytes = .read (.ok (bytes.headD endOfInput)) ::
      if bytes.headD endOfInput = endOfInput then []
      else .write (Char.ofUInt8 (bytes.headD endOfInput)) none :: copying bytes.tail := by
  cases bytes with
  | nil => rfl
  | cons byte bytes => by_cases last : byte = endOfInput <;> simp [copying, last]

/-- The bytes before the first 255 are the ones that are written. -/
theorem characters_copying (bytes : List UInt8) :
    characters (copying bytes) = (bytes.takeWhile (· ≠ endOfInput)).map Char.ofUInt8 := by
  rw [copying]
  induction bytes.takeWhile (· ≠ endOfInput) with
  | nil => rfl
  | cons byte bytes ih =>
      rw [List.flatMap_cons, List.append_assoc, characters_append, ih]
      rfl

/-- One read more is made than there are bytes before the first 255. -/
theorem length_results_copying (bytes : List UInt8) :
    (results (copying bytes)).length = (bytes.takeWhile (· ≠ endOfInput)).length + 1 := by
  rw [copying]
  induction bytes.takeWhile (· ≠ endOfInput) with
  | nil => rfl
  | cons byte bytes ih =>
      rw [List.flatMap_cons, List.append_assoc, results_append, List.length_append, ih,
        List.length_cons, Nat.add_comm]
      rfl

end Exchange

/-! ## Rounds -/

namespace Tree

/-- Read a byte and add one. -/
def fetch : List Tree := [leaf .read, leaf .increment]

/-- One round: the byte comes back, is written, and makes room for the next. -/
def copyRound : List Tree := leaf .decrement :: leaf .write :: fetch

/-- The program `,+[-.,+]`. -/
def copyLoop : List Tree := fetch ++ [loop copyRound]

/-- An action that breaks nothing off is carried out first. -/
theorem execute_leaf {τ : Type} [TapeLike τ] {action : Action} {workspace next : Workspace τ}
    (performed : workspace.perform action = (next, none)) (fuel : Nat) (trees : List Tree) :
    execute (fuel + 1) (leaf action :: trees) workspace = execute fuel trees next ∧
      exchanges (fuel + 1) (leaf action :: trees) workspace =
        (workspace.exchange action).toList ++ exchanges fuel trees next := by
  simp only [execute, exchanges, performed, and_self]

section Copying

variable {source : Source} {bytes : List UInt8} {byte : UInt8} {sink : Sink}

/-- A byte that was fetched is in the cell, and one more. -/
def fetched (byte : UInt8) (tape : Tape) (source : Source) (sink : Sink) : Workspace Tape :=
  ⟨tape.put (byte + 1), source, sink⟩

/-- The cell is zero when the byte is 255. -/
theorem current_fetched_eq_zero_iff (byte : UInt8) (tape : Tape) (source : Source) (sink : Sink) :
    (fetched byte tape source sink).current = 0 ↔ byte = endOfInput := by
  have cell : (fetched byte tape source sink).current = byte + 1 :=
    tape.current_put (byte + 1)
  rw [cell]
  constructor
  · intro zero
    rw [← UInt8.add_sub_cancel byte 1, zero]
    rfl
  · rintro rfl
    rfl

theorem execute_fetch (holds : source.Holds bytes) (tape : Tape) (sink : Sink) (fuel : Nat)
    (trees : List Tree) :
    execute (fuel + 2) (fetch ++ trees) ⟨tape, source, sink⟩ =
        execute fuel trees (fetched (bytes.headD endOfInput) tape source.read.2 sink) ∧
      exchanges (fuel + 2) (fetch ++ trees) ⟨tape, source, sink⟩ =
        .read (.ok (bytes.headD endOfInput)) ::
          exchanges fuel trees (fetched (bytes.headD endOfInput) tape source.read.2 sink) := by
  generalize first : bytes.headD endOfInput = byte
  have delivered : source.read = (.ok byte, source.read.2) :=
    Prod.ext (first ▸ holds.read.1) rfl
  have read : Workspace.perform .read (⟨tape, source, sink⟩ : Workspace Tape) =
      (⟨tape.put byte, source.read.2, sink⟩, none) := by
    rw [Workspace.perform, delivered]
    rfl
  have added : Workspace.perform .increment
      (⟨tape.put byte, source.read.2, sink⟩ : Workspace Tape) =
      (fetched byte tape source.read.2 sink, none) := by
    show ((⟨(tape.put byte).put ((tape.put byte).current + 1), _, _⟩ : Workspace Tape), none) = _
    rw [Tape.current_put, Tape.put_put]
    rfl
  obtain ⟨executedRead, exchangedRead⟩ := execute_leaf read (fuel + 1) (leaf .increment :: trees)
  obtain ⟨executed, exchanged⟩ := execute_leaf added fuel trees
  refine ⟨executedRead.trans executed, exchangedRead.trans ?_⟩
  rw [exchanged, Workspace.exchange, delivered]
  rfl

/-- A round writes the byte that was fetched and fetches the next. -/
theorem execute_copyRound (holds : source.Holds bytes) (takes : sink.TakesAll)
    (byte : UInt8) (tape : Tape) (fuel : Nat) :
    execute (fuel + 5) copyRound (fetched byte tape source sink) =
        some (fetched (bytes.headD endOfInput) tape source.read.2 (sink.take [Char.ofUInt8 byte]),
          none) ∧
      exchanges (fuel + 5) copyRound (fetched byte tape source sink) =
        [.write (Char.ofUInt8 byte) none, .read (.ok (bytes.headD endOfInput))] := by
  have restored : Workspace.perform .decrement (fetched byte tape source sink) =
      (⟨tape.put byte, source, sink⟩, none) := by
    show ((⟨(tape.put (byte + 1)).put ((tape.put (byte + 1)).current - 1), _, _⟩ :
      Workspace Tape), none) = _
    rw [Tape.current_put, Tape.put_put, UInt8.add_sub_cancel]
  have current : TapeLike.current (tape.put byte) = byte := tape.current_put byte
  have written : Workspace.perform .write (⟨tape.put byte, source, sink⟩ : Workspace Tape) =
      (⟨tape.put byte, source, sink.take [Char.ofUInt8 byte]⟩, none) := by
    rw [Workspace.perform_write, Workspace.symbol, Workspace.current, current,
      Sink.write_of_taken (takes.refusal _), takes.refusal]
  have silent : Workspace.exchange .decrement (fetched byte tape source sink) = none := rfl
  have writes : Workspace.exchange .write (⟨tape.put byte, source, sink⟩ : Workspace Tape) =
      some (.write (Char.ofUInt8 byte) none) := by
    simp only [Workspace.exchange, takes.refusal, Workspace.current, current]
  have fetches := execute_fetch holds (tape.put byte) (sink.take [Char.ofUInt8 byte]) (fuel + 1) []
  rw [List.append_nil, fetched, Tape.put_put, ← fetched] at fetches
  obtain ⟨executedFirst, exchangedFirst⟩ :=
    execute_leaf restored (fuel + 4) (leaf .write :: fetch)
  obtain ⟨executed, exchanged⟩ := execute_leaf written (fuel + 3) fetch
  constructor
  · exact executedFirst.trans (executed.trans fetches.1)
  · rw [copyRound, exchangedFirst, silent, exchanged, writes, fetches.2]
    rfl

/-- A loop on a zero cell is over. -/
theorem execute_loop_of_zero {τ : Type} [TapeLike τ] {workspace : Workspace τ}
    (zero : workspace.current = 0) (fuel : Nat) (body : List Tree) :
    execute (fuel + 2) [loop body] workspace = some (workspace, none) ∧
      exchanges (fuel + 2) [loop body] workspace = [] := by
  rw [execute, exchanges, if_pos zero, if_pos zero]
  exact ⟨rfl, rfl⟩

/-- A loop on a cell that is not zero goes on behind its body. -/
theorem execute_loop_of_nonzero {τ : Type} [TapeLike τ] {workspace next : Workspace τ} {fuel : Nat}
    {body : List Tree} (nonzero : workspace.current ≠ 0)
    (executed : execute fuel body workspace = some (next, none)) :
    execute (fuel + 1) [loop body] workspace = execute fuel [loop body] next ∧
      exchanges (fuel + 1) [loop body] workspace =
        exchanges fuel body workspace ++ exchanges fuel [loop body] next := by
  rw [execute, exchanges, if_neg nonzero, if_neg nonzero, executed]
  exact ⟨rfl, rfl⟩

/-- With this fuel the loop comes to its end after the byte that was fetched and the bytes that
are still to come. -/
def CopiesFrom (fuel : Nat) (byte : UInt8) (bytes : List UInt8) (workspace : Workspace Tape) :
    Prop :=
  (∃ last, execute fuel [loop copyRound] workspace = some (last, none)) ∧
    exchanges fuel [loop copyRound] workspace =
      if byte = endOfInput then []
      else .write (Char.ofUInt8 byte) none :: Exchange.copying bytes

/-- A 255 is not written. -/
theorem copiesFrom_endOfInput (fuel : Nat) (bytes : List UInt8) (tape : Tape) (source : Source)
    (sink : Sink) :
    CopiesFrom (fuel + 2) endOfInput bytes (fetched endOfInput tape source sink) := by
  have zero := (current_fetched_eq_zero_iff endOfInput tape source sink).mpr rfl
  obtain ⟨executed, exchanged⟩ := execute_loop_of_zero zero fuel copyRound
  exact ⟨⟨_, executed⟩, exchanged⟩

/-- Any other byte is written, and what comes next is fetched. -/
theorem CopiesFrom.of_next (holds : source.Holds bytes) (takes : sink.TakesAll)
    {tape : Tape} {fuel : Nat} (other : byte ≠ endOfInput)
    (next : CopiesFrom (fuel + 5) (bytes.headD endOfInput) bytes.tail
      (fetched (bytes.headD endOfInput) tape source.read.2 (sink.take [Char.ofUInt8 byte]))) :
    CopiesFrom (fuel + 6) byte bytes (fetched byte tape source sink) := by
  have nonzero := mt (current_fetched_eq_zero_iff byte tape source sink).mp other
  obtain ⟨executedRound, exchangedRound⟩ := execute_copyRound holds takes byte tape fuel
  obtain ⟨executed, exchanged⟩ := execute_loop_of_nonzero nonzero executedRound
  obtain ⟨⟨last, executedNext⟩, exchangedNext⟩ := next
  refine ⟨⟨last, executed.trans executedNext⟩, ?_⟩
  rw [exchanged, exchangedRound, exchangedNext, if_neg other, Exchange.copying_eq bytes]
  rfl

/-- The loop writes and fetches until a 255 is fetched. The induction is on the bytes that are
still to come; behind the last of them the end of input is fetched, which is a 255. -/
theorem copiesFrom (holds : source.Holds bytes) (takes : sink.TakesAll) (byte : UInt8)
    (tape : Tape) :
    CopiesFrom (bytes.length + 6) byte bytes (fetched byte tape source sink) := by
  induction bytes generalizing byte source sink with
  | nil =>
      by_cases last : byte = endOfInput
      · subst last
        exact copiesFrom_endOfInput 4 [] tape source sink
      · exact .of_next holds takes last (copiesFrom_endOfInput 3 [] tape _ _)
  | cons first bytes ih =>
      by_cases last : byte = endOfInput
      · subst last
        exact copiesFrom_endOfInput _ _ tape source sink
      · have stillTakes : (sink.take [Char.ofUInt8 byte]).TakesAll := takes
        exact .of_next holds takes last (ih holds.read.2 stillTakes first)

end Copying

end Tree

/-! ## Copies -/

namespace Machine

/-- The program `,+[-.,+]` comes to its end on every input. -/
theorem exists_stops_copying {source : Source} {bytes : List UInt8} {sink : Sink}
    (holds : source.Holds bytes) (takes : sink.TakesAll) (tape : Tape) :
    ∃ last, Stops (.ofText ",+[-.,+]") (start ⟨tape, source, sink⟩) (Exchange.copying bytes)
      ⟨last, none⟩ := by
  have text : Tree.allInstructions Tree.copyLoop = (Program.ofText ",+[-.,+]").toList := rfl
  obtain ⟨executed, exchanged⟩ :=
    Tree.execute_fetch holds tape sink (bytes.tail.length + 6) [.loop Tree.copyRound]
  obtain ⟨⟨last, executedLoop⟩, exchangedLoop⟩ :=
    Tree.copiesFrom holds.read.2 takes (bytes.headD endOfInput) tape
  obtain ⟨position, _, stops⟩ :=
    Tree.exists_stops_of_execute text (executed.trans executedLoop)
  have made := exchanged.trans (congrArg _ exchangedLoop)
  rw [← Exchange.copying_eq] at made
  rw [Tree.copyLoop, made] at stops
  exact ⟨_, stops⟩

end Machine

/-- In UTF-8 no byte is the value that marks the end of input. -/
theorem Text.Utf8.takeWhile_encode (text : String) :
    (encode text).takeWhile (· ≠ endOfInput) = encode text := by
  rw [List.takeWhile_eq_self_iff]
  intro byte inside
  have small := toNat_lt_of_mem_encode inside
  have other : byte ≠ endOfInput := by
    rintro rfl
    exact absurd small (by decide)
  simpa using other

namespace Interpreter

variable {size : Value} {cells : { cells : Nat // 0 < cells }} {tape : Tape}

/-- The report of copying some bytes. -/
theorem exists_interpret_copying (checked : MemorySize.check size = .ok cells)
    (made : MemorySize.allocate cells = .ok tape) (bytes : List UInt8) :
    ∃ limit report,
      interpret limit (.text ",+[-.,+]") size (.ofBytes bytes) .plain = some report ∧
      exchanges limit (.text ",+[-.,+]") size (.ofBytes bytes) .plain = Exchange.copying bytes ∧
      report.failure = none ∧
      report.source.reads = (bytes.takeWhile (· ≠ endOfInput)).length + 1 ∧
      report.sink.written.toList = (bytes.takeWhile (· ≠ endOfInput)).map Char.ofUInt8 := by
  have given : (Code.text ",+[-.,+]").program = .ok (.ofText ",+[-.,+]") := rfl
  have prepared := prepare_of_check given checked
  rw [made] at prepared
  obtain ⟨last, stops⟩ :=
    Machine.exists_stops_copying (Source.Holds.ofBytes bytes) Sink.takesAll_plain tape
  obtain ⟨limit, exchanged, interpreted⟩ := exists_interpret_of_stops prepared stops rfl
  refine ⟨limit, _, interpreted, exchanged, rfl, ?_, ?_⟩
  · rw [Source.reads_readMany, Exchange.length_results_copying]
    exact Nat.zero_add _
  · rw [Sink.toList_written_took, Exchange.characters_copying]
    rfl

/-- The program `,+[-.,+]` copies its input, on every ring that can be made. On every binary input
it comes to its end and gives back the bytes before the first 255, or all of them when there is
none, each as the character of its code point; it writes each byte just when it has read it and
makes one read more, which delivers the 255 or meets the end. So a text that is encoded for the
input can be decoded from the bytes of the output. -/
theorem copying_loop_copies_input (configuration : Configuration) (size : Value)
    (checked : MemorySize.check size = .ok cells) (made : MemorySize.allocate cells = .ok tape) :
    let code := Code.text ",+[-.,+]"
    let run (limit : Nat) (input : Runner.Input) :=
      Runner.runProgram limit configuration code (some input) (some size)
    (∀ bytes : List UInt8,
      let copied := bytes.takeWhile (· ≠ 255)
      ∃ limit,
        run limit (.bytes bytes) = some (.ok (Text.Latin1.decode copied)) ∧
        exchanges limit code size (.ofBytes bytes) .plain =
          copied.flatMap (fun byte => [.read (.ok byte), .write (Char.ofUInt8 byte) none]) ++
            [.read (.ok 255)] ∧
        ∃ report, interpret limit code size (.ofBytes bytes) .plain = some report ∧
          report.failure = none ∧ report.source.reads = report.sink.written.size + 1) ∧
    ∀ text : String, ∃ limit output bytes,
      run limit (.text text) = some (.ok output) ∧
        Text.Latin1.encode output = some bytes ∧ Text.Utf8.decode bytes = .ok text.toList := by
  intro code run
  have copies (bytes : List UInt8) := exists_interpret_copying checked made bytes
  have output {limit : Nat} {report : Report} {input : Runner.Input} {bytes : List UInt8}
      (holds : input.source = .ofBytes bytes)
      (interpreted : interpret limit code size (.ofBytes bytes) .plain = some report)
      (finished : report.failure = none)
      (written : report.sink.written.toList =
        (bytes.takeWhile (· ≠ endOfInput)).map Char.ofUInt8) :
      run limit input =
        some (.ok (Text.Latin1.decode (bytes.takeWhile (· ≠ endOfInput)))) := by
    simp only [run, Runner.runProgram, Option.getD_some, holds, Configuration.size, interpreted,
      Option.map_some, finished, Sink.text, written, Text.Latin1.decode]
  constructor
  · intro bytes copied
    obtain ⟨limit, report, interpreted, exchanged, finished, reads, written⟩ := copies bytes
    refine ⟨limit, output rfl interpreted finished written, exchanged, report, interpreted,
      finished, ?_⟩
    rw [reads, ← Array.length_toList, written, List.length_map]
  · intro text
    obtain ⟨limit, report, interpreted, _, finished, _, written⟩ :=
      copies (Text.Utf8.encode text)
    have encoded : (Runner.Input.text text).source = .ofBytes (Text.Utf8.encode text) := rfl
    have whole := output encoded interpreted finished written
    rw [Text.Utf8.takeWhile_encode] at whole
    exact ⟨limit, _, _, whole, Text.Latin1.encode_decode _, Text.Utf8.decode_encode text⟩

/-- On a single cell the bytes behind the first 255 are not copied, and the copy of an accented
letter is the letter again. -/
theorem copying_loop_copies_input_of_marker :
    let one : { cells : Nat // 0 < cells } := ⟨1, Nat.one_pos⟩
    let run (limit : Nat) (input : Runner.Input) :=
      Runner.runProgram limit ⟨3, "INFO"⟩ (.text ",+[-.,+]") (some input) (some (.integer 1))
    MemorySize.check (.integer 1) = .ok one ∧
      MemorySize.allocate one = .ok (.blank 1 Nat.one_pos) ∧
      (∃ limit, run limit (.bytes [65, 0, 255, 66]) =
        some (.ok (String.ofList ['A', Char.ofNat 0]))) ∧
      ∃ limit output bytes, run limit (.text "é") = some (.ok output) ∧
        Text.Latin1.encode output = some bytes ∧ Text.Utf8.decode bytes = .ok ['é'] := by
  intro one run
  have checked : MemorySize.check (.integer 1) = .ok one := rfl
  have made : MemorySize.allocate one = .ok (.blank 1 Nat.one_pos) :=
    MemorySize.allocate_of_lt (by decide)
  obtain ⟨copies, texts⟩ := copying_loop_copies_input ⟨3, "INFO"⟩ (.integer 1) checked made
  obtain ⟨limit, copied, _⟩ := copies [65, 0, 255, 66]
  exact ⟨checked, made, ⟨limit, copied⟩, texts "é"⟩

end Interpreter

end RingTape
