/-
# Configuration

The defaults of the command come from two environment variables. A variables file
can set them as well, but a variable that is set already keeps its value.
-/

import RingTape.Failure
import RingTape.MemorySize
import RingTape.Text.Uppercase
import RingTape.VariablesFile

namespace RingTape

/-- Environment variables with their values. -/
abbrev Variables := List (String × String)

namespace Variables

/-- A list of pairs with one value set, in its place if the name is known. -/
def assign (name : String) (value : Option String) :
    List (String × Option String) → List (String × Option String)
  | [] => [(name, value)]
  | (other, old) :: rest =>
    if other = name then (name, value) :: rest else (other, old) :: assign name value rest

/-- What a reference to a variable gives: its value in the environment, else the
value from the lines above. A variable without a value gives an empty text. -/
def referred (environment : Variables) (above : List (String × Option String))
    (name : String) : Option String :=
  match environment.lookup name with
  | some value => some value
  | none => (above.lookup name).map (·.getD "")

/-- The variables that some bindings set, the last binding of a name winning. -/
def ofBindings (environment : Variables) (bindings : List VariablesFile.Binding) :
    List (String × Option String) :=
  bindings.foldl (fun above binding =>
    let referredTo (name : List Char) : Option (List Char) :=
      (referred environment above (String.ofList name)).map String.toList
    let value := binding.value.map fun value =>
      String.ofList (VariablesFile.resolve referredTo value)
    assign (String.ofList binding.name) value above) []

/-- Add one variable. A NUL can be in neither part, an equality sign not in a name. -/
def set (environment : Variables) (name value : String) : Except Failure Variables :=
  if name.toList.contains '\x00' || value.toList.contains '\x00' then .error .nulCharacter
  else if name.toList.contains '=' then .error .variableName
  else .ok (environment ++ [(name, value)])

/-- The environment after a variables file. -/
def withFile (environment : Variables) (content : String) : Except Failure Variables :=
  (ofBindings environment (VariablesFile.bindings content)).foldlM
    (fun extended (name, value?) =>
      match value? with
      | some value =>
        if (extended.lookup name).isSome then .ok extended else extended.set name value
      | none => .ok extended)
    environment

end Variables

/-- The default size of the tape and the default log level. -/
structure Configuration where
  memorySize : Int
  logLevel : String

namespace Configuration

/-- The size that is given, or the configured one. -/
def size (configuration : Configuration) (given : Option Value) : Value :=
  given.getD (.integer configuration.memorySize)

/-- The variable that sets the size. -/
def memorySizeVariable : String := "BF_MEMORY_SIZE"

/-- The variable that sets the level. -/
def logLevelVariable : String := "BF_LOG_LEVEL"

/-- The variables of an environment that matter beside a variables file. -/
def relevantVariables (variablesFile : Option String) : List String :=
  memorySizeVariable :: logLevelVariable ::
    ((VariablesFile.bindings (variablesFile.getD "")).flatMap
      VariablesFile.Binding.mentions).map String.ofList

/-- The configuration that an environment gives. -/
def ofVariables (environment : Variables) : Except Failure Configuration := do
  let memorySize ←
    match environment.lookup memorySizeVariable with
    | none => pure (MemorySize.standard : Int)
    | some literal =>
      match Text.readInteger literal with
      | .ok size => pure size
      | .error cause => throw (.integerLiteral cause literal)
  let logLevel := Text.uppercase ((environment.lookup logLevelVariable).getD "WARNING")
  return ⟨memorySize, logLevel⟩

/-- The configuration from an environment and a variables file, if there is one. -/
def load (environment : Variables) (variablesFile : Option String) :
    Except Failure Configuration := do
  let environment ←
    match variablesFile with
    | some content => environment.withFile content
    | none => pure environment
  ofVariables environment

end Configuration

end RingTape
