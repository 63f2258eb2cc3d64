/-
# Code

A caller may hand in the code to run as a text, as a list of pieces, or as bytes.
Anything else is no sequence and is refused. The elements of bytes are numbers, so
every one of them is a comment; so is every piece of a list that is not exactly one
instruction.
-/

import RingTape.Failure
import RingTape.Program.Symmetry

namespace RingTape

/-- What a caller hands in as a program. -/
inductive Code
  | text (characters : String)
  | pieces (elements : List Value)
  | bytes (elements : List UInt8)
  | unsized (kind : Unsized)

/-- What one piece of a list asks for. -/
def Instruction.ofValue : Value → Instruction
  | .text characters => ofText characters
  | _ => action .comment

/-- The program that the code gives, unless it is no sequence. -/
def Code.program : Code → Except Failure Program
  | text characters => .ok (.ofText characters)
  | pieces elements => .ok (elements.map Instruction.ofValue).toArray
  | bytes elements => .ok (elements.map fun _ => Instruction.action .comment).toArray
  | unsized kind => .error (.unsized kind)

/-! ## Code without comments -/

/-- The eight characters that are instructions. -/
def Instruction.characters : List Char := ['>', '<', '+', '-', '.', ',', '[', ']']

/-- Whether a piece of a list is exactly one of the eight characters. -/
def Value.isInstruction : Value → Bool
  | text characters => Instruction.characters.any fun one => characters.toList = [one]
  | _ => false

/-- The code without the elements that are not exactly one of the eight characters. -/
def Code.stripped : Code → Code
  | text characters =>
    text (String.ofList (characters.toList.filter fun one => Instruction.characters.contains one))
  | pieces elements => pieces (elements.filter Value.isInstruction)
  | bytes _ => bytes []
  | unsized kind => unsized kind

/-- Just the eight characters are no comments. -/
theorem Instruction.isProper_ofChar (character : Char) :
    (ofChar character).isProper = characters.contains character := by
  unfold ofChar
  split
  case h_9 => simp_all [isProper, characters]
  all_goals rfl

theorem Instruction.isProper_ofValue (value : Value) :
    (ofValue value).isProper = value.isInstruction := by
  cases value with
  | text text =>
      rw [ofValue, ofText, Value.isInstruction]
      split
      · rename_i character spelled
        rw [isProper_ofChar, spelled, List.contains_eq_any_beq]
        simp only [List.cons.injEq, and_true]
        rfl
      · rename_i several
        have unlike : characters.any (fun one => text.toList = [one]) = false := by
          simpa using fun one _ => several one
        rw [unlike]
        rfl
  | null | boolean | integer | floating | list | record | index | fixedBoolean
  | fixedInteger | fixedFloating => rfl

/-- What is left of the code gives what is left of the program. -/
theorem Code.program_stripped {code : Code} {program : Program}
    (given : code.program = .ok program) : code.stripped.program = .ok program.stripped := by
  cases code with
  | text characters =>
      obtain rfl := Except.ok.inj given
      simp [program, stripped, Program.ofText, Program.stripped, List.filter_map,
        Function.comp_def, Instruction.isProper_ofChar]
  | pieces elements =>
      obtain rfl := Except.ok.inj given
      simp [program, stripped, Program.stripped, List.filter_map, Function.comp_def,
        Instruction.isProper_ofValue]
  | bytes elements =>
      obtain rfl := Except.ok.inj given
      simp [program, stripped, Program.stripped, Instruction.isProper]
  | unsized kind => cases given

/-! ## Code with adding and taking away exchanged -/

/-- The character with `+` and `-` exchanged. -/
def Instruction.negatedCharacter : Char → Char
  | '+' => '-'
  | '-' => '+'
  | other => other

/-- The piece of a list with `+` and `-` exchanged. -/
def Value.negated : Value → Value
  | text "+" => text "-"
  | text "-" => text "+"
  | other => other

/-- The code with `+` and `-` exchanged wherever they are instructions. -/
def Code.negated : Code → Code
  | text characters =>
    text (String.ofList (characters.toList.map Instruction.negatedCharacter))
  | pieces elements => pieces (elements.map Value.negated)
  | bytes elements => bytes elements
  | unsized kind => unsized kind

end RingTape
