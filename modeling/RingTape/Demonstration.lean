/-
# The demonstration

The demonstration runs two greeting programs and then hands a greeting to two
interpreters of the language that are written in the language itself. Such an
interpreter reads a program from its input up to an exclamation mark.
-/

import RingTape.Interpreter

namespace RingTape

/-- Programs that the demonstration runs. -/
inductive Demonstration.Sample
  | helloWorld
  | helloWorldTricky
  | dbfi
  | cgbfi
  deriving DecidableEq

namespace Demonstration

/-- A greeting that uses seven cells and nested loops. -/
def helloWorldText : String :=
  "++++++++[>++++[>++>+++>+++>+<<<<-]>+>+>->>+[<]<-]>>.>---.+++++++..+++.>>.<-.<.++" ++
  "+.------.--------.>>+.>++."

/-- The same greeting, written for an interpreter with few comforts. -/
def helloWorldTrickyText : String :=
  ">++++++++[<+++++++++>-]<.>>+>+>++>[-]+<[>[->+<<++++>]<<]>.+++++++..+++.>>+++++++" ++
  ".<<<[[-]<[-]>]<+++++++++++++++.>>.+++.------.--------.>>+.>++++."

/-- An interpreter of the language in the language. -/
def dbfiText : String :=
  "dbfi>>>+[[-]>>[-]++>+>+++++++[<++++>>++<-]++>>+>+>+++++[>++>++++++<<-]+>>>,<++[[" ++
  ">[->>]<[>>]<<-]<[<]<+>>[>]>[<+>-[[<+>-]>]<[[[-]<]++<-[<+++++++++>[<->-]>>]>>]]<<" ++
  "]<]<[[<]>[[>]>>[>>]+[<<]<[<]<+>>-]>[>]+[->>]<<<<[[<<]<[<]+<<[+>+<<-[>-->+<<-[>+<" ++
  "[>>+<<-]]]>[<+>-]<]++>>-->[>]>>[>>]]<<[>>+<[[<]<]>[[<<]<[<]+[-<+>>-[<<+>++>-[<->" ++
  "[<<+>>-]]]<[>+<-]>]>[>]>]>[>>]>>]<<[>>+>>+>>]<<[->>>>>>>>]<<[>.>>>>>>>]<<[>->>>>" ++
  ">]<<[>,>>>]<<[>+>]<<[+<<]<]"

/-- A second interpreter of the language in the language. -/
def cgbfiText : String :=
  "cgbfi>>>>>+[->>++>+>+++++++[<++++>>++<-]++>>+>+>+++++[>++>++++++<<-]+>>>,<++[[>[" ++
  "->>]<[>>]<<-]<[<]<+>>[>]>[<+>-[[<+>-]>]<[[[-]<]++<-[<+++++++++>[<->-]>>]>>]]<<]>" ++
  "[-]+<<[--[[-]>>->+<<<]>>[-<<<<[>+<-]>>>>>>+<]<<]>>[-]<<>>>[<<<+>>>-]<<<]>>>+<<<<" ++
  "[<<]>>[[<+>>+<-]+<-[-[-[-[-[-[-[->->>[>>]>>[>>]<+<[<<]<<[<<]<]>[->>[>>]>>[>>]<,<" ++
  "[<<]<<[<<]]<]>[->>[>>]>>[>>]<-<[<<]<<[<<]]<]>[->>[>>]>>[>>]<.<[<<]<<[<<]]<]>[->>" ++
  "[>>]>>[>>]<<-<<[<<]<<[<<]]<]>[->>[>>]>>[>>]+[<<]<<[<<]]<]>[->>[>>]>>[>>]<[>+>>+<" ++
  "<<-]>[<+>-]>>[<<+>>[-]]+<<[>>-<<-]>>[<<+>>>>+<<-]>>[<<+>>-]<<[>>+<<-]+>>[<<->>-]" ++
  "<<<<[-<<[<<]<<[<<]<<<<<++>>]>>[-<<<<<<[<<]<<[<<]<]>]<]>[->>[>>]>>[>>]<[>+>>+<<<-" ++
  "]>[[<+>-]>>[-]+<<]>>[<<+>>>>+<<-]>>[<<+>>-]<<[>>+<<-]+>>[<<->>-]<<<<[-<<[<<]<<[<" ++
  "<]<<<<<+>>]>>[-<<<<<<[<<]<<[<<]<]>]>[<+>-]<<<<<<[>>+<<-[->>->>+[>>>[-<+>>+<]+<-[" ++
  "-[[-]>[-]<]>[-1<<<+>>>]<]>[-<<<->>>]>[-<+>]<<<<[>>+<<-]>>]<<<<<<]>>[-<<+[>>>[-<+" ++
  ">>+<]+<-[-[[-]>[-]<]>[-1<<<->>>]<]>[-<<<+>>>]>[-<+>]<<<<[<<+>>-]<<]]]>>>>>>>]"

/-- The text of a sample. -/
def Sample.text : Sample → String
  | helloWorld => helloWorldText
  | helloWorldTricky => helloWorldTrickyText
  | dbfi => dbfiText
  | cgbfi => cgbfiText

/-- One act of a demonstration. -/
inductive Act
  /-- Print a line. -/
  | print (line : String)
  /-- Let the input begin anew with the ASCII bytes of a text. -/
  | feed (text : String)
  /-- Interpret a program on a tape of the standard size. -/
  | interpret (program : String)

/-- A section header: the title between two rules. -/
def header (title : String) : List Act :=
  let rule := String.ofList (List.replicate 60 '=')
  [.print ("\n" ++ rule), .print (" " ++ title), .print rule]

/-- Show a program under a title and interpret it. -/
def showProgram (title program : String) : List Act :=
  header title ++ [.print ("Program: " ++ program ++ "\n"), .interpret program]

/-- Both greeting programs, the first of which may be another one. -/
def greetings (greeting : String) : List Act :=
  showProgram "Hello World" greeting ++
    showProgram "A Trickier Hello World" Sample.helloWorldTricky.text

/-- Hand a greeting program to an interpreter that is itself a program. -/
def interpretBy (name : String) (interpreter : Sample) (greeting : String) : List Act :=
  [.print ("\n-- " ++ name ++ " --"), .feed (greeting ++ "!"), .interpret interpreter.text]

/-- Both interpreters on the same greeting program. -/
def selfInterpretation (greeting : String) : List Act :=
  header "Brainfuck in Brainfuck" ++ [.print "Input: <hello world program>!\n"] ++
    interpretBy "dbfi" .dbfi greeting ++ interpretBy "cgbfi" .cgbfi greeting

/-- The whole demonstration. -/
def whole (greeting : String) : List Act :=
  greetings greeting ++ selfInterpretation greeting

/-- Where a demonstration takes place: the input, the page on which lines are printed, and
the sink of the programs unless they write to that page as well. -/
structure Stage where
  source : Source
  page : Sink
  sink : Option Sink

/-- Perform one act. -/
def Stage.perform (limit : Nat) (stage : Stage) : Act → Option (Stage × Option Failure)
  | .print line =>
    match stage.page.print line with
    | (failed, page) => some ({ stage with page := page }, failed.map .brokenOff)
  | .feed text =>
    match Text.Ascii.encode text with
    | .ok bytes => some ({ stage with source := .ofBytes bytes }, none)
    | .error fault => some (stage, some (.unencodable fault))
  | .interpret program =>
    let sink := stage.sink.getD stage.page
    (Interpreter.interpret limit (.text program) (.integer MemorySize.standard)
        stage.source sink).map fun report =>
      let stage :=
        match stage.sink with
        | none => ⟨report.source, report.sink, none⟩
        | some _ => ⟨report.source, stage.page, some report.sink⟩
      (stage, report.failure)

/-- Perform acts in order, up to the first that fails. -/
def Stage.performAll (limit : Nat) : List Act → Stage → Option (Stage × Option Failure)
  | [], stage => some (stage, none)
  | act :: acts, stage =>
    match stage.perform limit act with
    | none => none
    | some (stage, some failure) => some (stage, some failure)
    | some (stage, none) => stage.performAll limit acts

end Demonstration

end RingTape
