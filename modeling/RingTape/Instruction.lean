/-
# Instructions

Brainfuck, the language of this library, has eight instructions, each written as one
character. Six of them act on the tape and the streams; the two brackets of a loop
only decide where to go on. Every other character is a comment, an action that does
nothing.
-/

namespace RingTape

/-- What is done at one position of a program when control passes straight on. -/
inductive Action
  | right
  | left
  | increment
  | decrement
  | write
  | read
  | comment
  deriving DecidableEq

/-- What one position of a program asks for. -/
inductive Instruction
  | action (action : Action)
  | loopStart
  | loopEnd
  deriving DecidableEq

namespace Instruction

/-- The instruction that a character stands for. -/
def ofChar : Char → Instruction
  | '>' => action .right
  | '<' => action .left
  | '+' => action .increment
  | '-' => action .decrement
  | '.' => action .write
  | ',' => action .read
  | '[' => loopStart
  | ']' => loopEnd
  | _ => action .comment

/-- An element of a list of program pieces counts as an instruction only when it
is exactly one character long. -/
def ofText (text : String) : Instruction :=
  match text.toList with
  | [character] => ofChar character
  | _ => action .comment

end Instruction

end RingTape
