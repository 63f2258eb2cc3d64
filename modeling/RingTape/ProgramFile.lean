/-
# Program files

A program file holds the text of a program in UTF-8. Its line ends are normalized
when it is read; nothing else is changed, a byte order mark included.
-/

import RingTape.Interpreter
import RingTape.Text.Newline

namespace RingTape

/-- How the bytes of a file are obtained by its path. -/
abbrev FileReader := String → Except Failure (List UInt8)

namespace ProgramFile

/-- The program text that the bytes of a file hold. -/
def decode (content : List UInt8) : Except Failure String :=
  match Text.Utf8.decode content with
  | .ok characters => .ok (String.ofList (Text.normalizeNewlines characters))
  | .error fault => .error (.undecodable fault)

/-- The program text at a path. -/
def load (readFile : FileReader) (path : String) : Except Failure String := do
  decode (← readFile path)

/-- The report of a program that was loaded: that it was is told first. -/
def told (text path : String) (report : Report) : Report :=
  { report with events := .loaded text.length path :: report.events }

/-- Load the program at a path and interpret it. A program that cannot be loaded has no
effect on the streams. -/
def interpret (limit : Nat) (readFile : FileReader) (path : String) (size : Value)
    (source : Source) (sink : Sink) : Option Report :=
  match load readFile path with
  | .error failure => some ⟨source, sink, [], some failure⟩
  | .ok text =>
    (Interpreter.interpret limit (.text text) size source sink).map (told text path)

end ProgramFile

end RingTape
