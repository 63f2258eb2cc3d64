/-
# Deliveries

A program learns of its source only what its reads deliver: one byte, or a fault, for each
read. Two sources of any kinds whose first reads have the same results are the same to it
until it asks for more, and it cannot tell the end of an input from bytes of value 255.
-/

import RingTape.Proofs.Streams

namespace RingTape

namespace Source

variable {first second : Source} {bound : Nat}

/-- Two sources have been read equally often, and were these two before. -/
def InStep (first second source other : Source) : Prop :=
  ∃ made, source = (first.readMany made).2 ∧ other = (second.readMany made).2

theorem inStep_self (first second : Source) : InStep first second first second :=
  ⟨0, rfl, rfl⟩

/-- The same answers give the same results. -/
theorem readMany_eq_of_delivered (same : ∀ index, index < bound →
    (first.answers (first.reads + index)).delivered =
      (second.answers (second.reads + index)).delivered) :
    (first.readMany bound).1 = (second.readMany bound).1 := by
  apply List.ext_getElem?
  intro index
  by_cases inside : index < bound
  · rw [getElem?_readMany first inside, getElem?_readMany second inside, same index inside]
  · rw [List.getElem?_eq_none (by simpa using inside),
      List.getElem?_eq_none (by simpa using inside)]

theorem delivered_eq_of_readMany {index : Nat} (inside : index < bound)
    (same : (first.readMany bound).1 = (second.readMany bound).1) :
    (first.answers (first.reads + index)).delivered =
      (second.answers (second.reads + index)).delivered := by
  have here := congrArg (fun results => results[index]?) same
  simp only [getElem?_readMany first inside, getElem?_readMany second inside] at here
  exact Option.some.inj here

theorem readMany_succ_snd (made : Nat) (source : Source) :
    (source.readMany (made + 1)).2 = (source.readMany made).2.read.2 := by
  rw [readMany_snd, readMany_snd]
  rfl

/-- Sources whose next reads have the same results can stand for each other in that many
reads. -/
theorem streamSimulation (same : (first.readMany bound).1 = (second.readMany bound).1) :
    StreamSimulation (fun source => source.reads < first.reads + bound) (fun _ _ => True)
      (first.InStep second) (· = ·) where
  read := by
    rintro _ _ ⟨made, rfl, rfl⟩ readable
    rw [reads_readMany] at readable
    have result := delivered_eq_of_readMany (Nat.lt_of_add_lt_add_left readable) same
    refine ⟨?_, made + 1, (readMany_succ_snd made first).symm, (readMany_succ_snd made second).symm⟩
    rw [readMany_snd, readMany_snd]
    exact result
  write := by
    rintro first _ text rfl _
    exact ⟨rfl, rfl⟩
  flush := by
    rintro first _ rfl
    exact ⟨rfl, rfl⟩

end Source

namespace Machine

open Exchange (results)

variable {program : Program} {first second : Source} {bound : Nat}

/-- A run that makes few reads keeps to the part of the source that is known. -/
theorem guarded_of_results {τ : Type} [TapeLike τ] {machine : Machine τ} {count : Nat}
    (few : (results (machine.exchanges program count)).length ≤ bound) :
    Guarded program (Permits program
      (fun source => source.reads < machine.workspace.source.reads + bound) (fun _ _ => True))
      machine count :=
  fun _ within _ reached => ⟨reads_lt_of_read few within reached, fun _ => trivial⟩

/-- Two runs on sources whose next reads have the same results go together as long as the
first makes no more reads than that. -/
theorem runs_of_readMany_eq {τ : Type} [TapeLike τ]
    (same : (first.readMany bound).1 = (second.readMany bound).1) (tape : τ) (sink : Sink)
    {count : Nat} (few : (results
      ((start ⟨tape, first, sink⟩).exchanges program count)).length ≤ bound) :
    (∀ earlier, earlier ≤ count →
      Option.Rel (Together (Workspace.Beside (first.InStep second) (· = ·)))
        ((start ⟨tape, first, sink⟩).after program earlier)
        ((start ⟨tape, second, sink⟩).after program earlier)) ∧
    (start ⟨tape, first, sink⟩).exchanges program count =
      (start ⟨tape, second, sink⟩).exchanges program count ∧
    Option.Rel (Halt.Related (Together (Workspace.Beside (first.InStep second) (· = ·))))
      ((start ⟨tape, first, sink⟩).run program count)
      ((start ⟨tape, second, sink⟩).run program count) := by
  have together : Together (Workspace.Beside (first.InStep second) (· = ·))
      (start ⟨tape, first, sink⟩) (start ⟨tape, second, sink⟩) :=
    ⟨rfl, rfl, first.inStep_self second, rfl⟩
  exact (Source.streamSimulation same).runs together (guarded_of_results few)

/-- An interpretation on the one source is that on the other, if it makes no more reads than
have the same results. -/
theorem interpret_of_readMany_eq (same : (first.readMany bound).1 = (second.readMany bound).1)
    {limit : Nat} {code : Code} {size : Value} {sink : Sink} {report : Report}
    (interpreted : Interpreter.interpret limit code size first sink = some report)
    (few : report.source.reads ≤ first.reads + bound) :
    ∃ other, Interpreter.interpret limit code size second sink = some other ∧
      report.Beside (first.InStep second) (· = ·) other := by
  have related := (Source.streamSimulation same).interpret (first.inStep_self second)
    (rfl : sink = sink) limit code size fun cells tape program prepared => by
      have reads := (length_exchanges_of_interpret prepared interpreted).1
      exact guarded_of_results (by omega)
  rw [interpreted] at related
  generalize Interpreter.interpret limit code size second sink = answer at related ⊢
  cases related with
  | some beside => exact ⟨_, rfl, beside⟩

/-- Interpretations on sources all of whose reads have the same results cannot be told apart,
whether they end or not. -/
theorem interpret_of_delivered_eq
    (same : ∀ index, (first.answers (first.reads + index)).delivered =
      (second.answers (second.reads + index)).delivered)
    (limit : Nat) (code : Code) (size : Value) (sink : Sink) :
    Option.Rel (Report.Beside (first.InStep second) (· = ·))
      (Interpreter.interpret limit code size first sink)
      (Interpreter.interpret limit code size second sink) := by
  have agree : (first.readMany limit).1 = (second.readMany limit).1 :=
    Source.readMany_eq_of_delivered fun index _ => same index
  refine (Source.streamSimulation agree).interpret (first.inStep_self second)
    (rfl : sink = sink) limit code size fun cells tape program _ => ?_
  -- No more reads are made than steps.
  exact guarded_of_results (Nat.le_trans (List.length_filterMap_le _ _)
    (length_exchanges_le program limit _))

end Machine

/-! ## What is delivered -/

/-- Behind some bytes, further bytes of value 255 look like the end of input. -/
theorem Source.getD_append_replicate (bytes : List UInt8) (padding index : Nat) :
    (bytes ++ List.replicate padding endOfInput)[index]?.getD endOfInput =
      bytes[index]?.getD endOfInput := by
  by_cases inside : index < bytes.length
  · rw [List.getElem?_append_left inside]
  · have behind := Nat.le_of_not_lt inside
    rw [List.getElem?_append_right behind, List.getElem?_replicate,
      List.getElem?_eq_none behind]
    split <;> rfl

namespace Chunk

theorem delivered_character (character : Char) :
    ∃ byte, (text (String.singleton character)).delivered = .ok byte ∧
      byte.toNat = character.toNat &&& 255 := by
  refine ⟨_, Source.delivered_singleton character, ?_⟩
  rw [UInt8.toNat_ofNat', Nat.and_two_pow_sub_one_eq_mod character.toNat 8]

theorem delivered_integer (integer : Int) (rest : List Int) :
    ∃ byte, (integers (integer :: rest)).delivered = .ok byte ∧
      (byte.toNat : Int) = integer % 256 := by
  refine ⟨_, rfl, ?_⟩
  rw [UInt8.toNat_ofNat']
  omega

/-- Empty and absent chunks are ends of input. -/
theorem delivered_nothing {chunk : Chunk}
    (nothing : chunk ∈ [bytes [], text "", integers [], absent]) :
    chunk.delivered = .ok endOfInput := by
  simp only [List.mem_cons, List.not_mem_nil, or_false] at nothing
  rcases nothing with rfl | rfl | rfl | rfl <;> rfl

end Chunk

namespace Machine

open Exchange (results)

/-- A run depends on its source only through what its reads deliver. Every `,` that is carried
out reads once, and what these reads get are the first results of the source, in order. Each
kind of chunk delivers one byte, and a chunk of nothing, or what lies behind all chunks,
delivers 255. As far as the next reads of two sources have the same results, the runs on them
go through the same states and make the same exchanges until one more is read, and a run that
needs no more has the same report on either, but for the source itself, which was read equally
often. So nobody can tell the end of a binary stream from further bytes of value 255, or a text
stream from its code points modulo 256. -/
theorem runs_depend_on_deliveries (program : Program) :
    ((∀ byte rest, (Chunk.bytes (byte :: rest)).delivered = .ok byte) ∧
      (∀ bytes index, ((Source.ofBytes bytes).answers index).delivered =
        .ok (bytes[index]?.getD 255)) ∧
      (∀ character, ∃ byte, (Chunk.text (String.singleton character)).delivered = .ok byte ∧
        byte.toNat = character.toNat &&& 255) ∧
      (∀ integer rest, ∃ byte, (Chunk.integers (integer :: rest)).delivered = .ok byte ∧
        (byte.toNat : Int) = integer % 256) ∧
      (∀ chunk ∈ [Chunk.bytes [], .text "", .integers [], .absent],
        chunk.delivered = .ok 255) ∧
      (∀ chunks index, chunks.length ≤ index →
        ((Source.ofChunks chunks).answers index).delivered = .ok 255)) ∧
    (∀ (machine : Machine Tape) result, machine.exchange program = some (.read result) ↔
      program[machine.position]? = some (.action .read) ∧
        result = machine.workspace.source.read.1) ∧
    (∀ (workspace : Workspace Tape) count reached,
      (start workspace).after program count = some reached →
        let read := results ((start workspace).exchanges program count)
        read = (workspace.source.readMany read.length).1 ∧
          reached.workspace.source = (workspace.source.readMany read.length).2) ∧
    (∀ (first second : Source) bound,
      (first.readMany bound).1 = (second.readMany bound).1 →
      (∀ (tape : Tape) sink count,
        (results ((start ⟨tape, first, sink⟩).exchanges program count)).length ≤ bound →
          (∀ earlier, earlier ≤ count →
            Option.Rel (Together (Workspace.Beside (first.InStep second) (· = ·)))
              ((start ⟨tape, first, sink⟩).after program earlier)
              ((start ⟨tape, second, sink⟩).after program earlier)) ∧
          (start ⟨tape, first, sink⟩).exchanges program count =
            (start ⟨tape, second, sink⟩).exchanges program count ∧
          Option.Rel
            (Halt.Related (Together (Workspace.Beside (first.InStep second) (· = ·))))
            ((start ⟨tape, first, sink⟩).run program count)
            ((start ⟨tape, second, sink⟩).run program count)) ∧
      (∀ limit code size sink report,
        Interpreter.interpret limit code size first sink = some report →
          report.source.reads ≤ first.reads + bound →
            ∃ other, Interpreter.interpret limit code size second sink = some other ∧
              report.Beside (first.InStep second) (· = ·) other)) ∧
    (∀ limit code size sink bytes padding,
      let longer := bytes ++ List.replicate padding 255
      Option.Rel (Report.Beside ((Source.ofBytes bytes).InStep (.ofBytes longer)) (· = ·))
        (Interpreter.interpret limit code size (.ofBytes bytes) sink)
        (Interpreter.interpret limit code size (.ofBytes longer) sink)) ∧
    (∀ limit code size sink (text : String),
      let bytes := text.toList.map fun character => UInt8.ofNat character.toNat
      Option.Rel (Report.Beside ((Source.ofText text).InStep (.ofBytes bytes)) (· = ·))
        (Interpreter.interpret limit code size (.ofText text) sink)
        (Interpreter.interpret limit code size (.ofBytes bytes) sink)) := by
  refine ⟨⟨fun _ _ => rfl, Source.delivered_ofBytes, Chunk.delivered_character,
      Chunk.delivered_integer, fun _ => Chunk.delivered_nothing,
      fun _ _ => Source.delivered_answers_ofChunks⟩,
    fun _ _ => exchange_eq_read_iff, fun _ _ _ reached => ?_,
    fun first second bound same => ⟨?_, ?_⟩, ?_, ?_⟩
  · have ledger := ledger_after reached
    exact ⟨ledger.results, ledger.source⟩
  · intro tape sink count few
    exact runs_of_readMany_eq same tape sink few
  · intro limit code size sink report interpreted few
    exact interpret_of_readMany_eq same interpreted few
  · intro limit code size sink bytes padding longer
    apply interpret_of_delivered_eq
    intro index
    rw [Source.delivered_ofBytes, Source.delivered_ofBytes]
    exact congrArg Except.ok (Source.getD_append_replicate bytes padding _).symm
  · intro limit code size sink text bytes
    apply interpret_of_delivered_eq
    intro index
    rw [Source.delivered_ofText, Source.delivered_ofBytes]
    rfl

/-- A binary stream of one byte, and chunks of an integer, nothing and a failure: their first
two reads have the same results, so `,.,.` does the same on both, and `,.,.,` does until its
third read. -/
theorem runs_depend_on_deliveries_of_two_kinds :
    let program : Program :=
      #[.action .read, .action .write, .action .read, .action .write, .action .read]
    let first : Source := .ofBytes [65]
    let gone : StreamError := ⟨.os, "gone"⟩
    let second : Source := .ofChunks [.integers [-191], .text "", .failure gone]
    let tape : Tape := .blank 1 Nat.one_pos
    (first.readMany 2).1 = (second.readMany 2).1 ∧
      (results ((start ⟨tape, first, .plain⟩).exchanges program 4)).length ≤ 2 ∧
      (start ⟨tape, first, .plain⟩).exchanges program 4 =
        (start ⟨tape, second, .plain⟩).exchanges program 4 ∧
      (start ⟨tape, second, .plain⟩).run program 5 =
        some ⟨⟨4, ⟨tape.put 255, ⟨second.answers, 3⟩,
          { Sink.plain with written := #['A', 'ÿ'], writes := 2 }⟩⟩, some (.stream gone)⟩ ∧
      ∃ other, Interpreter.interpret 5 (.text ",.,.") (.integer 1) second .plain = some other ∧
        other.sink = { Sink.plain with written := #['A', 'ÿ'], writes := 2, flushes := 1 } ∧
        other.failure = none := by
  intro program first gone second tape
  obtain ⟨_, _, _, two, _⟩ := runs_depend_on_deliveries program
  have same : (first.readMany 2).1 = (second.readMany 2).1 := rfl
  have few : (results ((start ⟨tape, first, .plain⟩).exchanges program 4)).length ≤ 2 :=
    Nat.le_refl 2
  obtain ⟨runs, reports⟩ := two first second 2 same
  have interpreted : Interpreter.interpret 5 (.text ",.,.") (.integer 1) first .plain =
      some _ := rfl
  obtain ⟨other, found, beside⟩ := reports 5 _ _ .plain _ interpreted (Nat.le_refl 2)
  exact ⟨same, few, (runs tape .plain 4 few).2.1, rfl, other, found, beside.sink.symm,
    beside.failure.symm⟩

end Machine

end RingTape
