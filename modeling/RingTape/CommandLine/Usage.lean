/-
# Usage

What the command says about itself, and what it says when it cannot make sense of
its arguments.
-/

import RingTape.CommandLine.Flag
import RingTape.Text.Quoted

namespace RingTape.CommandLine

/-- The name of the command. -/
def commandName : String := "bf-run"

/-- The log levels that can be asked for. -/
def logLevels : List String :=
  ["DEBUG", "INFO", "WARNING", "ERROR", "CRITICAL"]

/-- The log levels as a choice. -/
def logLevelChoice : String :=
  "\x7b" ++ String.intercalate "," logLevels ++ "\x7d"

/-- How the command is called. -/
def usage : String :=
  "usage: " ++ commandName ++
    " [-h] [-e CODE] [--memory-size MEMORY_SIZE] [--input INPUT_TEXT]\n" ++
  "              [--log-level " ++ logLevelChoice ++ "]\n" ++
  "              [program]\n"

/-- The answer to a call for help. -/
def help : String :=
  usage ++
  "\nRun a Brainfuck program\n" ++
  "\npositional arguments:\n" ++
  "  program               Path to a Brainfuck source file\n" ++
  "\noptions:\n" ++
  "  -h, --help            show this help message and exit\n" ++
  "  -e CODE, --execute CODE\n" ++
  "                        Program text given on the command line\n" ++
  "  --memory-size MEMORY_SIZE\n" ++
  "                        Size of the memory tape in bytes\n" ++
  "  --input INPUT_TEXT    Use this text as input instead of standard input\n" ++
  "  --log-level " ++ logLevelChoice ++ "\n"

/-- Why no sense can be made of the arguments. -/
inductive UsageError
  /-- Several spellings begin like the argument. -/
  | ambiguous (argument : String) (spellings : List String)
  | missingValue (flag : Flag)
  /-- A value is attached to a flag that takes none. -/
  | ignoredValue (flag : Flag) (value : List Char)
  | invalidInteger (flag : Flag) (value : String)
  | invalidLevel (flag : Flag) (level : String)
  /-- The flag comes after the path of a program. -/
  | flagAfterProgram (flag : Flag)
  /-- The path of a program comes after the flag. -/
  | programAfterFlag (flag : Flag)
  | nothingToRun
  | unrecognized (arguments : List String)

/-- How messages refer to the operand. -/
def operandLabel : String := "program"

/-- A message about one argument. -/
def aboutArgument (label text : String) : String :=
  "argument " ++ label ++ ": " ++ text

/-- The text of a usage error. -/
def UsageError.message : UsageError → String
  | ambiguous argument spellings =>
    "ambiguous option: " ++ argument ++ " could match " ++ String.intercalate ", " spellings
  | missingValue flag => aboutArgument flag.label "expected one argument"
  | ignoredValue flag value =>
    aboutArgument flag.label
      ("ignored explicit argument " ++ Text.quoted (String.ofList value))
  | invalidInteger flag value =>
    aboutArgument flag.label ("invalid int value: " ++ Text.quoted value)
  | invalidLevel flag level =>
    aboutArgument flag.label
      ("invalid choice: " ++ Text.quoted level ++ " (choose from " ++
        String.intercalate ", " (logLevels.map Text.quoted) ++ ")")
  | flagAfterProgram flag =>
    aboutArgument flag.label ("not allowed with argument " ++ operandLabel)
  | programAfterFlag flag =>
    aboutArgument operandLabel ("not allowed with argument " ++ flag.label)
  | nothingToRun =>
    "one of the arguments " ++ operandLabel ++ " " ++ Flag.execute.label ++ " is required"
  | unrecognized arguments =>
    "unrecognized arguments: " ++ String.intercalate " " arguments

/-- What is printed about a usage error. -/
def UsageError.report (fault : UsageError) : String :=
  usage ++ commandName ++ ": error: " ++ fault.message ++ "\n"

end RingTape.CommandLine
