/-
# Greetings

On an endless tape both greeting programs get along with the first seven cells and with no input,
as one run of each shows. Nothing else about these programs is needed: on every ring of at least
as many cells they do the same, and because they read nothing and the sink takes each character
that they write, so they do on every source and on every sink.
-/

import RingTape.Demonstration
import RingTape.Proofs.EndlessTape
import RingTape.Proofs.Streams

namespace RingTape

open Exchange (results characters writes)

/-! ## Sinks that take given texts -/

namespace Sink

/-- The next writes to the sink do not fail if they are these texts, in order. -/
def Takes : List (List Char) → Sink → Prop
  | [], _ => True
  | text :: texts, sink => sink.refusal text = none ∧ (sink.take text).Takes texts

/-- The sink after it has taken these texts. -/
def takeAll (texts : List (List Char)) (sink : Sink) : Sink :=
  texts.foldl (fun sink text => sink.take text) sink

theorem takes_append {first second : List (List Char)} {sink : Sink} :
    sink.Takes (first ++ second) ↔ sink.Takes first ∧ (sink.takeAll first).Takes second := by
  induction first generalizing sink with
  | nil => simp [Takes, takeAll]
  | cons text first ih =>
      rw [List.cons_append, Takes, Takes, ih, and_assoc]
      rfl

/-- Each of the texts is taken when it is its turn. -/
theorem Takes.answers {texts : List (List Char)} {sink : Sink} (takes : sink.Takes texts)
    {index : Nat} {text : List Char} (here : texts[index]? = some text) :
    sink.answers (sink.writes + index) text = none := by
  induction texts generalizing sink index with
  | nil => simp at here
  | cons next texts ih =>
      obtain ⟨taken, rest⟩ := takes
      cases index with
      | zero =>
          obtain rfl := Option.some.inj here
          exact Option.map_eq_none_iff.mp taken
      | succ index =>
          have later : sink.answers (sink.writes + 1 + index) text = none := ih rest here
          rwa [Nat.add_assoc, Nat.add_comm 1] at later

theorem takes_of_answers {texts : List (List Char)} {sink : Sink}
    (answers : ∀ index text, texts[index]? = some text →
      sink.answers (sink.writes + index) text = none) : sink.Takes texts := by
  induction texts generalizing sink with
  | nil => trivial
  | cons text texts ih =>
      constructor
      · rw [refusal, ← Nat.add_zero sink.writes, answers 0 text rfl]
        rfl
      · refine ih fun index later here => ?_
        have taken := answers (index + 1) later here
        rwa [Nat.add_comm index, ← Nat.add_assoc] at taken

theorem TakesAll.takes {sink : Sink} (takes : sink.TakesAll) (texts : List (List Char)) :
    sink.Takes texts :=
  takes_of_answers fun index text _ => takes (sink.writes + index) text

theorem toList_written_takeAll (texts : List (List Char)) (sink : Sink) :
    (sink.takeAll texts).written.toList = sink.written.toList ++ texts.flatten := by
  induction texts generalizing sink with
  | nil => exact (List.append_nil _).symm
  | cons text texts ih =>
      rw [takeAll, List.foldl_cons, ← takeAll, ih, toList_written_take, List.flatten_cons,
        List.append_assoc]

end Sink

namespace Exchange

theorem results_writes (text : List Char) :
    results (text.map fun character => .write character none) = [] := by
  rw [results, List.filterMap_map]
  exact List.filterMap_eq_nil_iff.mpr fun _ _ => rfl

theorem characters_writes (text : List Char) :
    characters (text.map fun character => .write character none) = text := by
  rw [characters, List.filterMap_map]
  exact List.filterMap_some

theorem writes_writes (text : List Char) :
    writes (text.map fun character => .write character none) = text.length := by
  rw [writes, List.countP_map]
  exact List.countP_eq_length.mpr fun _ _ => rfl

theorem writes_write_cons (character : Char) (refusal : Option Fault)
    (exchanged : List Exchange) :
    writes (.write character refusal :: exchanged) = writes exchanged + 1 :=
  List.countP_cons_of_pos rfl

theorem length_characters_le_writes (exchanged : List Exchange) :
    (characters exchanged).length ≤ writes exchanged := by
  induction exchanged with
  | nil => exact Nat.le_refl 0
  | cons exchange exchanged ih =>
      cases exchange with
      | read => exact ih
      | write character refusal =>
          rw [writes_write_cons]
          cases refusal with
          | none => exact Nat.succ_le_succ ih
          | some => exact Nat.le_succ_of_le ih

/-- What was exchanged without a read, and without a refusal, are the characters that came in. -/
theorem eq_map_write {exchanged : List Exchange} (unread : results exchanged = [])
    (taken : writes exchanged = (characters exchanged).length) :
    exchanged = (characters exchanged).map fun character => .write character none := by
  induction exchanged with
  | nil => rfl
  | cons exchange exchanged ih =>
      cases exchange with
      | read => cases unread
      | write character refusal =>
          rw [writes_write_cons] at taken
          cases refusal with
          | none => exact congrArg _ (ih unread (Nat.succ.inj taken))
          | some =>
              -- A write that was refused is one more than there are characters.
              have fewer := length_characters_le_writes exchanged
              exact absurd taken (Nat.ne_of_gt (Nat.lt_succ_of_le fewer))

end Exchange

/-- The texts that are written when a text is written character by character. -/
def letters (text : String) : List (List Char) :=
  text.toList.map fun character => [character]

namespace Sink

/-- Two sinks that were written to equally often, the first since it was the plain sink and the
second since it was this one. -/
structure Abreast (sink first second : Sink) : Prop where
  takes : first.TakesAll
  flushes : first.flushing = .works
  answers : second.answers = sink.answers
  flushing : second.flushing = sink.flushing
  writes : second.writes = sink.writes + first.writes

/-- As long as only these texts are written to a sink that takes them, it does what the plain sink
does. The source is not asked for anything. -/
theorem Takes.streamSimulation {texts : List (List Char)} {sink : Sink}
    (takes : sink.Takes texts) (flushed : sink.flush.1 = none) :
    StreamSimulation (fun _ => False) (fun first text => texts[first.writes]? = some text)
      (fun _ _ => True) sink.Abreast where
  read _ unreadable := unreadable.elim
  write := by
    intro first second text abreast here
    have taken : first.refusal text = none := abreast.takes.refusal text
    have alsoTaken : second.refusal text = none := by
      rw [refusal, abreast.answers, abreast.writes, takes.answers here]
      rfl
    rw [taken, alsoTaken, write_of_taken taken, write_of_taken alsoTaken]
    refine ⟨rfl, abreast.takes, abreast.flushes, abreast.answers, abreast.flushing, ?_⟩
    exact congrArg (· + 1) abreast.writes
  flush := by
    rintro ⟨_, _, _, _, _⟩ ⟨_, _, _, _, _⟩ ⟨takesAll, rfl, rfl, rfl, even⟩
    obtain ⟨_, flushing, _, _, _⟩ := sink
    cases flushing with
    | absent | works => exact ⟨rfl, takesAll, rfl, rfl, rfl, even⟩
    | fails error => cases flushed

/-- From the first state of a sink to the last, this text came in character by character, and the
sink was flushed so many times, unless it has no flush. -/
structure Greeted (text : List Char) (times : Nat) (first last : Sink) : Prop where
  answers : last.answers = first.answers
  flushing : last.flushing = first.flushing
  written : last.written.toList = first.written.toList ++ text
  writes : last.writes = first.writes + text.length
  flushed : first.flushing = .works → last.flushes = first.flushes + times
  unflushed : first.flushing = .absent → last.flushes = first.flushes

namespace Greeted

variable {first middle last : Sink} {text more : List Char} {times again : Nat}

theorem trans (greeted : Greeted text times first middle)
    (greetedMore : Greeted more again middle last) :
    Greeted (text ++ more) (times + again) first last where
  answers := greetedMore.answers.trans greeted.answers
  flushing := greetedMore.flushing.trans greeted.flushing
  written := by rw [greetedMore.written, greeted.written, List.append_assoc]
  writes := by rw [greetedMore.writes, greeted.writes, List.length_append, Nat.add_assoc]
  flushed works := by
    rw [greetedMore.flushed (greeted.flushing.trans works), greeted.flushed works,
      Nat.add_assoc]
  unflushed absent := by
    rw [greetedMore.unflushed (greeted.flushing.trans absent), greeted.unflushed absent]

theorem of_flush {sink : Sink} (flushed : sink.flush.1 = none) :
    sink.Greeted [] 1 sink.flush.2 := by
  obtain ⟨answers, flushing, written, writes, flushes⟩ := sink
  have nothing : written.toList = written.toList ++ [] := (List.append_nil _).symm
  cases flushing with
  | absent => exact ⟨rfl, rfl, nothing, rfl, nofun, fun _ => rfl⟩
  | works => exact ⟨rfl, rfl, nothing, rfl, fun _ => rfl, nofun⟩
  | fails error => cases flushed

theorem of_writes (text : List Char) (sink : Sink) :
    sink.Greeted text 0 (sink.took (text.map fun character => .write character none)) where
  answers := rfl
  flushing := rfl
  written := by rw [toList_written_took, Exchange.characters_writes]
  writes := congrArg (sink.writes + ·) (Exchange.writes_writes text)
  flushed _ := rfl
  unflushed _ := rfl

end Greeted

/-- What a sink takes and whether its flush fails are the same after a text has come in. -/
theorem Greeted.flush_fst {first last : Sink} {text : List Char} {times : Nat}
    (greeted : Greeted text times first last) : last.flush.1 = first.flush.1 := by
  have same := greeted.flushing
  obtain ⟨_, _, _, _, _⟩ := first
  obtain ⟨_, ability, _, _, _⟩ := last
  obtain rfl := same
  cases ability <;> rfl

theorem Greeted.takes {first last : Sink} {text : String} {times : Nat}
    (greeted : Greeted text.toList times first last) {texts : List (List Char)}
    (takes : first.Takes (letters text ++ texts)) : last.Takes texts := by
  refine takes_of_answers fun index later here => ?_
  have behind : (letters text ++ texts)[text.toList.length + index]? = some later := by
    rw [List.getElem?_append_right (by simp [letters])]
    simpa [letters] using here
  have taken := takes.answers behind
  rwa [greeted.answers, greeted.writes, Nat.add_assoc]

end Sink

/-! ## Programs that only print -/

/-- What is seen when a run has stopped: its fault, the number of reads so far, and all that was
written. -/
def Halt.account {τ : Type} (halt : Halt τ) : Option Fault × Nat × List Char :=
  (halt.fault, halt.machine.workspace.source.reads, halt.machine.workspace.sink.written.toList)

namespace Machine

variable {τ : Type} [TapeLike τ] {program : Program} {limit : Nat} {text : String}

/-- The run comes to its end within `limit` steps. By then it has written just this text, none of it
refused, and read nothing. -/
structure Prints (program : Program) (limit : Nat) (text : String) (machine : Machine τ) :
    Prop where
  ends : (machine.run program limit).map Halt.fault = some none
  exchanged : machine.exchanges program limit =
    text.toList.map fun character => .write character none

/-- That a run only prints can be seen when it has stopped, if its sink takes everything. -/
theorem prints_of_account {machine : Machine τ} (takes : machine.workspace.sink.TakesAll)
    (seen : (machine.run program limit).map Halt.account =
      some (none, machine.workspace.source.reads,
        machine.workspace.sink.written.toList ++ text.toList)) :
    machine.Prints program limit text := by
  obtain ⟨halt, stopped, account⟩ := Option.map_eq_some_iff.mp seen
  simp only [Halt.account, Prod.mk.injEq] at account
  obtain ⟨sound, unread, written⟩ := account
  have ledger := ledger_run stopped
  have reads := ledger.reads
  rw [unread] at reads
  have mute : results (machine.exchanges program limit) = [] :=
    List.length_eq_zero_iff.mp (by omega)
  rw [ledger.written] at written
  have came := List.append_cancel_left written
  constructor
  · rw [stopped, Option.map_some, sound]
  · rw [Exchange.eq_map_write mute (writes_exchanges takes limit), came]

/-- What is printed on the endless tape is printed on every ring that is as long as the part of the
tape that is used. -/
theorem Prints.circular {width size : Nat} {source : Source} {sink : Sink}
    (prints : (endless source sink).Prints program limit text)
    (guarded : Guarded program (fun machine => machine.workspace.tape.Within 0 width)
      (endless source sink) limit)
    (positive : 0 < size) (wide : width ≤ size) :
    (circular size positive source sink).Prints program limit text := by
  have onRing : Guarded program (fun machine => machine.workspace.tape.Within 0 size)
      (endless source sink) limit :=
    fun earlier within middle reached => (guarded earlier within middle reached).of_le wide
  obtain ⟨_, same, stopped⟩ := circular_follows_endless positive onRing
  obtain ⟨ends, exchanged⟩ := prints
  rw [same] at exchanged
  rw [Halt.map_fault_eq_of_related stopped] at ends
  exact ⟨ends, exchanged⟩

/-- What is printed without any input is printed on every source, and on every sink that takes the
letters of the text. -/
theorem Prints.on_streams {tape : τ}
    (prints : (start ⟨tape, .empty, .plain⟩).Prints program limit text) (source : Source)
    {sink : Sink} (takes : sink.Takes (letters text)) (flushed : sink.flush.1 = none) :
    (start ⟨tape, source, sink⟩).Prints program limit text := by
  have together : Together (Workspace.Beside (fun _ _ => True) sink.Abreast)
      (start ⟨tape, .empty, .plain⟩) (start ⟨tape, source, sink⟩) :=
    ⟨rfl, rfl, trivial, Sink.takesAll_plain, rfl, rfl, rfl, rfl⟩
  obtain ⟨ends, exchanged⟩ := prints
  have mute : results ((start ⟨tape, .empty, .plain⟩).exchanges program limit) = [] := by
    rw [exchanged]
    exact Exchange.results_writes text.toList
  have came : characters ((start ⟨tape, .empty, .plain⟩).exchanges program limit) =
      text.toList := by
    rw [exchanged]
    exact Exchange.characters_writes text.toList
  have permitted : Guarded program
      (Permits program (fun _ => False)
        (fun first next => (letters text)[first.writes]? = some next))
      (start ⟨tape, .empty, .plain⟩) limit := by
    intro earlier within middle reached
    constructor
    · intro here
      have fewer := reads_lt_of_read (Nat.le_of_eq (congrArg List.length mute)) within
        reached here
      exact Nat.not_lt_zero _ fewer
    · intro here
      have next := getElem?_characters_of_write Sink.takesAll_plain within reached here
      have made := writes_after Sink.takesAll_plain reached
      have unused : (start ⟨tape, .empty, .plain⟩).workspace.sink.writes = 0 := rfl
      rw [came] at next
      rw [made, unused, Nat.zero_add, letters, List.getElem?_map, next]
      rfl
  obtain ⟨_, same, stopped⟩ := (takes.streamSimulation flushed).runs together permitted
  rw [same] at exchanged
  rw [Halt.map_fault_eq_of_related stopped] at ends
  exact ⟨ends, exchanged⟩

end Machine

/-- The report of a program that only prints. -/
theorem Interpreter.interpret_of_prints {code : Code} {size : Value}
    {cells : { cells : Nat // 0 < cells }} {tape : Tape} {program : Program}
    (prepared : prepare code size = .ok (cells, tape, program)) {limit : Nat} {text : String}
    {source : Source} {sink : Sink}
    (prints : (Machine.start ⟨tape, source, sink⟩).Prints program limit text)
    (flushed : sink.flush.1 = none) :
    ∃ report, interpret limit code size source sink = some report ∧ report.failure = none ∧
      report.source = source ∧ sink.Greeted text.toList 1 report.sink := by
  obtain ⟨⟨last, _⟩, stopped, rfl⟩ := Option.map_eq_some_iff.mp prints.ends
  have interpreted := interpret_of_run prepared stopped flushed
  simp only [prints.exchanged, Exchange.results_writes] at interpreted
  have greeted := (Sink.Greeted.of_flush flushed).trans (.of_writes text.toList sink.flush.2)
  exact ⟨_, interpreted, rfl, rfl, greeted⟩

/-! ## The greeting programs -/

namespace Demonstration

/-- What the greeting programs print. -/
def greeting : String := "Hello World!\n"

theorem toList_greeting : greeting.toList =
    ['H', 'e', 'l', 'l', 'o', ' ', 'W', 'o', 'r', 'l', 'd', '!', '\n'] :=
  String.toList_ofList

/-- The endless run of a sample ends within a thousand steps, stays on the first seven cells and
prints the greeting. -/
structure Sample.Greets (sample : Sample) : Prop where
  stays : Guarded (.ofText sample.text) (fun machine => machine.workspace.tape.Within 0 7)
    (Machine.endless .empty .plain) 1000
  prints : (Machine.endless .empty .plain).Prints (.ofText sample.text) 1000 greeting

variable {sample : Sample}

/-- One run of the sample decides whether it greets. To evaluate it, its text has to be spelled out,
since the characters of a string do not evaluate well. -/
theorem Sample.Greets.of_toList {spelled : List Char} (spells : sample.text.toList = spelled)
    (stays : Guarded (spelled.map Instruction.ofChar).toArray
      (fun machine => machine.workspace.tape.Within 0 7) (Machine.endless .empty .plain) 1000)
    (seen : ((Machine.endless .empty .plain).run (spelled.map Instruction.ofChar).toArray 1000).map
        Halt.account =
      some (none, 0, ['H', 'e', 'l', 'l', 'o', ' ', 'W', 'o', 'r', 'l', 'd', '!', '\n'])) :
    sample.Greets := by
  subst spells
  rw [← toList_greeting] at seen
  exact ⟨stays, Machine.prints_of_account Sink.takesAll_plain seen⟩

theorem toList_ofList_append (first second : List Char) :
    (String.ofList first ++ String.ofList second).toList = first ++ second := by
  rw [String.toList_append, String.toList_ofList, String.toList_ofList]

theorem greets_helloWorld : Sample.helloWorld.Greets := by
  have spells : helloWorldText.toList = _ := toList_ofList_append _ _
  exact .of_toList spells (by decide +kernel) (by decide +kernel)

theorem greets_helloWorldTricky : Sample.helloWorldTricky.Greets := by
  have spells : helloWorldTrickyText.toList = _ := toList_ofList_append _ _
  exact .of_toList spells (by decide +kernel) (by decide +kernel)

variable {sink : Sink}

/-- What greets on the endless tape greets on every ring of at least seven cells. -/
theorem Sample.Greets.interpret (greets : sample.Greets) {size : Value}
    {cells : { cells : Nat // 0 < cells }} {tape : Tape}
    (checked : MemorySize.check size = .ok cells) (made : MemorySize.allocate cells = .ok tape)
    (wide : 7 ≤ cells.val) (source : Source) (takes : sink.Takes (letters greeting))
    (flushed : sink.flush.1 = none) :
    Interpreter.exchanges 1000 (.text sample.text) size source sink =
        (greeting.toList.map fun character => .write character none) ∧
      ∃ report,
        Interpreter.interpret 1000 (.text sample.text) size source sink = some report ∧
        report.failure = none ∧ report.source = source ∧
        sink.Greeted greeting.toList 1 report.sink := by
  obtain rfl := MemorySize.eq_blank_of_allocate made
  have given : (Code.text sample.text).program = .ok (.ofText sample.text) := rfl
  have prepared := Interpreter.prepare_of_check given checked
  rw [made] at prepared
  have prints := (greets.prints.circular greets.stays cells.property wide).on_streams source takes
    flushed
  refine ⟨?_, Interpreter.interpret_of_prints prepared prints flushed⟩
  rw [Interpreter.exchanges, prepared]
  exact prints.exchanged

/-! ## The demonstration of the greetings -/

/-- What an act prints on the page. -/
def Act.printed : Act → List (List Char)
  | .print line => [line.toList, ['\n']]
  | _ => []

/-- What acts print on the page, in order. -/
def printed (acts : List Act) : List (List Char) :=
  acts.flatMap Act.printed

theorem printed_append (first second : List Act) :
    printed (first ++ second) = printed first ++ printed second :=
  List.flatMap_append

/-- A page that takes a line goes on with the next act. -/
theorem Stage.performAll_print {limit : Nat} {line : String} {stage : Stage}
    (takes : stage.page.Takes [line.toList, ['\n']]) (acts : List Act) :
    stage.performAll limit (.print line :: acts) =
      { stage with page := stage.page.takeAll [line.toList, ['\n']] }.performAll limit acts := by
  obtain ⟨taken, endTaken, _⟩ := takes
  have printed : stage.page.print line =
      (none, stage.page.takeAll [line.toList, ['\n']]) := by
    rw [Sink.print, Sink.write_of_taken taken]
    exact Sink.write_of_taken endTaken
  rw [performAll, perform, printed]
  rfl

/-- Lines that the page takes are printed one after the other. -/
theorem Stage.performAll_print_append {limit : Nat} (lines : List String) (acts : List Act)
    (stage : Stage) (takes : stage.page.Takes (printed (lines.map .print))) :
    stage.performAll limit (lines.map .print ++ acts) =
      { stage with page := stage.page.takeAll (printed (lines.map .print)) }.performAll limit
        acts := by
  induction lines generalizing stage with
  | nil => rfl
  | cons line lines ih =>
      obtain ⟨first, rest⟩ := Sink.takes_append.mp takes
      rw [List.map_cons, List.cons_append, performAll_print first,
        ih { stage with page := stage.page.takeAll [line.toList, ['\n']] } rest]
      rfl

/-- A sample that greets is shown on the page and greets the sink, and the demonstration goes on. -/
theorem Sample.Greets.performAll_showProgram (greets : sample.Greets) {title : String}
    (source : Source) {page : Sink} (shows : page.Takes (printed (showProgram title sample.text)))
    (takes : sink.Takes (letters greeting)) (flushed : sink.flush.1 = none) :
    ∃ last, sink.Greeted greeting.toList 1 last ∧ ∀ acts,
      Stage.performAll 1000 (showProgram title sample.text ++ acts) ⟨source, page, some sink⟩ =
        Stage.performAll 1000 acts
          ⟨source, page.takeAll (printed (showProgram title sample.text)), some last⟩ := by
  have checked : MemorySize.check (.integer MemorySize.standard) = .ok ⟨65535, by decide⟩ := rfl
  have made : MemorySize.allocate ⟨65535, by decide⟩ = .ok _ :=
    MemorySize.allocate_of_lt (by decide)
  obtain ⟨_, report, interpreted, sound, unread, greeted⟩ :=
    greets.interpret checked made (by decide) source takes flushed
  refine ⟨report.sink, greeted, fun acts => ?_⟩
  let rule := String.ofList (List.replicate 60 '=')
  let lines := ["\n" ++ rule, " " ++ title, rule, "Program: " ++ sample.text ++ "\n"]
  have shown : printed (showProgram title sample.text) = printed (lines.map .print) := rfl
  rw [shown] at shows ⊢
  have split : showProgram title sample.text ++ acts =
      lines.map .print ++ .interpret sample.text :: acts := rfl
  rw [split, Stage.performAll_print_append lines _ _ shows]
  simp only [Stage.performAll, Stage.perform, Option.getD_some, interpreted, Option.map_some,
    sound, unread]

/-- Both greeting programs greet, on every ring of at least seven cells that can be made, on every
source and on every sink that takes the letters of the greeting and whose flush does not fail: they
come to their end without a failure, all they exchange is the greeting, letter by letter, and the
source is left as it was. The sink has the greeting behind what was in it and was flushed once more,
unless it has no flush. So when both are shown on a stage with a sink of its own and a page that
takes what is printed, that sink gets the greeting twice and is flushed twice, in whatever state the
source and the sink were left by what came before. -/
theorem greeting_programs_greet :
    (∀ sample : Sample, sample = .helloWorld ∨ sample = .helloWorldTricky →
      ∀ size cells tape, MemorySize.check size = .ok cells → MemorySize.allocate cells = .ok tape →
        7 ≤ cells.val → ∀ source sink, sink.Takes (letters greeting) → sink.flush.1 = none →
          ∃ limit report,
            Interpreter.interpret limit (.text sample.text) size source sink = some report ∧
            report.failure = none ∧ report.source = source ∧
            Interpreter.exchanges limit (.text sample.text) size source sink =
              (greeting.toList.map fun character => .write character none) ∧
            report.sink.written.toList = sink.written.toList ++ greeting.toList ∧
            (sink.flushing = .works → report.sink.flushes = sink.flushes + 1) ∧
            (sink.flushing = .absent → report.sink.flushes = sink.flushes)) ∧
    ∀ source page sink, page.Takes (printed (greetings Sample.helloWorld.text)) →
      sink.Takes (letters greeting ++ letters greeting) → sink.flush.1 = none →
        ∃ limit shown last,
          Stage.performAll limit (greetings Sample.helloWorld.text) ⟨source, page, some sink⟩ =
            some (⟨source, shown, some last⟩, none) ∧
          last.written.toList = sink.written.toList ++ greeting.toList ++ greeting.toList ∧
          (sink.flushing = .works → last.flushes = sink.flushes + 2) ∧
          (sink.flushing = .absent → last.flushes = sink.flushes) ∧
          shown.written.toList = page.written.toList ++
            (printed (greetings Sample.helloWorld.text)).flatten := by
  constructor
  · intro sample chosen size cells tape checked made wide source sink takes flushed
    have greets : sample.Greets := by
      rcases chosen with rfl | rfl
      · exact greets_helloWorld
      · exact greets_helloWorldTricky
    obtain ⟨exchanged, report, interpreted, sound, unread, greeted⟩ :=
      greets.interpret checked made wide source takes flushed
    exact ⟨1000, report, interpreted, sound, unread, exchanged, greeted.written,
      greeted.flushed, greeted.unflushed⟩
  · intro source page sink shows takes flushed
    obtain ⟨showsFirst, showsSecond⟩ := Sink.takes_append.mp
      (printed_append _ _ ▸ shows)
    obtain ⟨takesFirst, _⟩ := Sink.takes_append.mp takes
    obtain ⟨middle, greeted, shownFirst⟩ := greets_helloWorld.performAll_showProgram
      source showsFirst takesFirst flushed
    obtain ⟨last, greetedAgain, shownSecond⟩ :=
      greets_helloWorldTricky.performAll_showProgram source showsSecond
        (greeted.takes takes) (greeted.flush_fst.trans flushed)
    have both := greeted.trans greetedAgain
    have performed := (shownFirst _).trans (shownSecond [])
    rw [List.append_nil] at performed
    refine ⟨1000, _, last, performed, ?_, both.flushed, both.unflushed, ?_⟩
    · rw [both.written, List.append_assoc]
    · rw [Sink.toList_written_takeAll, Sink.toList_written_takeAll, List.append_assoc,
        ← List.flatten_append, ← printed_append]
      rfl

/-- The source breaks when it is read, and the sink has been used before and is full behind two
greetings. -/
theorem greeting_programs_greet_of_limited :
    let source := Source.ofChunks [.failure ⟨.os, "broken"⟩]
    let sink : Sink := ⟨Capacity.answers (some ⟨27, ⟨.os, "full"⟩⟩), .works, #['>'], 1, 4⟩
    sink.Takes (letters greeting ++ letters greeting) ∧
      (∃ limit report,
        Interpreter.interpret limit (.text Sample.helloWorldTricky.text) (.integer 7) source sink =
          some report ∧ report.failure = none ∧ report.source = source ∧
        report.sink.written.toList = '>' :: greeting.toList ∧ report.sink.flushes = 5) ∧
      ∃ limit shown last,
        Stage.performAll limit (greetings Sample.helloWorld.text) ⟨source, .plain, some sink⟩ =
          some (⟨source, shown, some last⟩, none) ∧
        last.written.toList = '>' :: greeting.toList ++ greeting.toList ∧ last.flushes = 6 := by
  intro source sink
  have length : (letters greeting ++ letters greeting).length = 26 := by
    rw [letters, toList_greeting]
    rfl
  have takes : sink.Takes (letters greeting ++ letters greeting) := by
    refine Sink.takes_of_answers fun index text here => ?_
    obtain ⟨inside, _⟩ := List.getElem?_eq_some_iff.mp here
    have early : 1 + index < 27 := by omega
    exact if_pos early
  obtain ⟨takesFirst, _⟩ := Sink.takes_append.mp takes
  obtain ⟨greets, shows⟩ := greeting_programs_greet
  obtain ⟨limit, report, interpreted, sound, unread, _, written, flushed, _⟩ :=
    greets .helloWorldTricky (.inr rfl) (.integer 7) ⟨7, by decide⟩ _ rfl
      (MemorySize.allocate_of_lt (by decide)) (by decide) source sink takesFirst rfl
  obtain ⟨shownLimit, shown, last, performed, twice, flushedTwice, _⟩ :=
    shows source .plain sink (Sink.takesAll_plain.takes _) takes rfl
  exact ⟨takes, ⟨limit, report, interpreted, sound, unread, written, flushed rfl⟩,
    shownLimit, shown, last, performed, twice, flushedTwice rfl⟩

end Demonstration

end RingTape
