/-
# Kinds of errors

An error that leaves a call has a kind, and most kinds belong to a wider one. Who takes
care of a kind takes care of everything that belongs to it.
-/

namespace RingTape

/-- The kinds of errors. -/
inductive ErrorKind
  | brainfuck
  | invalidArgument
  | malformedProgram
  | os
  | fileNotFound
  | notADirectory
  | isADirectory
  | value
  | unicodeDecode
  | unicodeEncode
  | type
  | memory
  deriving DecidableEq

namespace ErrorKind

/-- The name of a kind. -/
def name : ErrorKind → String
  | brainfuck => "BrainfuckError"
  | invalidArgument => "InvalidArgument"
  | malformedProgram => "MalformedProgram"
  | os => "OSError"
  | fileNotFound => "FileNotFoundError"
  | notADirectory => "NotADirectoryError"
  | isADirectory => "IsADirectoryError"
  | value => "ValueError"
  | unicodeDecode => "UnicodeDecodeError"
  | unicodeEncode => "UnicodeEncodeError"
  | type => "TypeError"
  | memory => "MemoryError"

/-- The wider kinds to which a kind belongs. -/
def wider : ErrorKind → List ErrorKind
  | invalidArgument => [brainfuck, value]
  | malformedProgram => [brainfuck]
  | fileNotFound | notADirectory | isADirectory => [os]
  | unicodeDecode | unicodeEncode => [value]
  | brainfuck | os | value | type | memory => []

/-- Whether an error of the one kind counts as one of the other. -/
def countsAs (kind other : ErrorKind) : Bool :=
  kind = other || kind.wider.contains other

end ErrorKind

end RingTape
