/-
# Invocations

The arguments of the command are first told apart and then taken in order. The
first fault wins, and a call for help ends everything when it is reached. What is
missing or left over is noticed at the end.
-/

import RingTape.CommandLine.Usage
import RingTape.Configuration

namespace RingTape.CommandLine

/-- What is to be run. -/
inductive Target
  | code (text : String)
  | file (path : String)

/-- What the arguments ask for. -/
structure Invocation where
  target : Target
  memorySize : Int
  input : Option String
  logLevel : String

/-- What the arguments have given so far, and those that nothing was made of. -/
structure Gathered where
  program : Option String
  execute : Option String
  memorySize : Option Int
  input : Option String
  logLevel : Option String
  leftOver : List String

/-- Nothing given yet. -/
def Gathered.empty : Gathered := ⟨none, none, none, none, none, []⟩

/-- Why the arguments are not taken to their end. -/
inductive Interruption
  | help
  | error (fault : UsageError)

/-- Take an operand: the path of a program unless there is one already. -/
def takeOperand (argument : String) (gathered : Gathered) : Except Interruption Gathered :=
  match gathered.program with
  | some _ => .ok { gathered with leftOver := gathered.leftOver ++ [argument] }
  | none =>
    if gathered.execute.isSome then .error (.error (.programAfterFlag .execute))
    else .ok { gathered with program := some argument }

/-- Take the value of a flag; a later value replaces an earlier one. -/
def takeValue (flag : Flag) (value : String) (gathered : Gathered) :
    Except Interruption Gathered :=
  match flag with
  | .help => .error .help
  | .execute =>
    if gathered.program.isSome then .error (.error (.flagAfterProgram .execute))
    else .ok { gathered with execute := some value }
  | .memorySize =>
    match Text.readInteger value with
    | .ok size => .ok { gathered with memorySize := some size }
    | .error _ => .error (.error (.invalidInteger .memorySize value))
  | .input => .ok { gathered with input := some value }
  | .logLevel =>
    let level := Text.uppercase value
    if logLevels.contains level then .ok { gathered with logLevel := some level }
    else .error (.error (.invalidLevel .logLevel level))

/-- Letters behind a call for help, which are flags of their own. They can only be
wrong in the value that is attached to one of them; `followed` says whether a value
follows in the next argument. -/
def afterHelp (followed : Bool) : List Char → Interruption
  | [] => .help
  | ['e'] => if followed then .help else .error (.missingValue .execute)
  | 'h' :: '=' :: value => .error (.ignoredValue .help value)
  | 'h' :: '-' :: value => .error (.ignoredValue .help ('-' :: value))
  | 'h' :: letters => afterHelp followed letters
  | _ => .help

/-- A call for help with something attached to it. -/
def attachedHelp (followed long : Bool) (attached : Attached) : Interruption :=
  let ignored := Interruption.error (.ignoredValue .help attached.value)
  if long || attached.afterEquals then ignored
  else
    match attached.value with
    | [] | '-' :: _ => ignored
    | letters => afterHelp followed letters

/-- Whether the next word can be the value of a flag. -/
def startsPlain : List Word → Bool
  | .plain _ :: _ => true
  | _ => false

/-- Take the words in order. A separator next to the operand belongs to it. -/
def takeWords : List Word → Gathered → Except Interruption Gathered
  | [], gathered => .ok gathered
  | .plain argument :: .separator :: rest, gathered => do
    let taken := gathered.program.isNone
    let gathered ← takeOperand argument gathered
    takeWords rest
      (if taken then gathered
      else { gathered with leftOver := gathered.leftOver ++ ["--"] })
  | .plain argument :: rest, gathered => do
    takeWords rest (← takeOperand argument gathered)
  | .separator :: rest, gathered =>
    takeWords rest
      (if gathered.program.isNone then gathered
      else { gathered with leftOver := gathered.leftOver ++ ["--"] })
  | .unknown argument :: rest, gathered =>
    takeWords rest { gathered with leftOver := gathered.leftOver ++ [argument] }
  | .flag .help long attached :: rest, _ =>
    .error (match attached with
      | none => .help
      | some attached => attachedHelp (startsPlain rest) long attached)
  | .flag flag _ (some attached) :: rest, gathered => do
    takeWords rest (← takeValue flag (String.ofList attached.value) gathered)
  | .flag flag _ none :: .plain value :: rest, gathered => do
    takeWords rest (← takeValue flag value gathered)
  | .flag flag _ none :: _, _ => .error (.error (.missingValue flag))

/-- Tell the arguments apart; after a separator all of them are plain. -/
def words : List String → Except UsageError (List Word)
  | [] => .ok []
  | argument :: arguments =>
    if argument = "--" then .ok (.separator :: arguments.map .plain)
    else
      match classify argument with
      | .ok word => (words arguments).map (word :: ·)
      | .error spellings => .error (.ambiguous argument spellings)

/-- What is asked for, with the defaults for what is not said. A default level is
put into upper case like one that is given. -/
def Gathered.complete (configuration : Configuration) (gathered : Gathered) :
    Except UsageError Invocation := do
  let target ←
    match gathered.execute, gathered.program with
    | some text, _ => pure (Target.code text)
    | none, some path => pure (Target.file path)
    | none, none => throw .nothingToRun
  if gathered.leftOver.isEmpty then
    return ⟨target, gathered.memorySize.getD configuration.memorySize, gathered.input,
      gathered.logLevel.getD (Text.uppercase configuration.logLevel)⟩
  else throw (.unrecognized gathered.leftOver)

/-- What the arguments ask for. -/
def parse (configuration : Configuration) (arguments : List String) :
    Except Interruption Invocation := do
  let words ← (words arguments).mapError .error
  let gathered ← takeWords words .empty
  (gathered.complete configuration).mapError .error

end RingTape.CommandLine
