/-
# Variables files

A variables file sets variables, one binding a line: a name, an equality sign and a
value, with blanks around them, a word `export` in front and a comment behind. A value
may be quoted, and a quoted one may go over several lines and hold escapes. A line
that is no binding is skipped. A value may refer to other variables.
-/

import RingTape.Text.Blank
import RingTape.Text.Newline

namespace RingTape.VariablesFile

/-- A name, and the value unless the line has no equality sign. -/
structure Binding where
  name : List Char
  value : Option (List Char)

/-- Without the blanks in front, up to the end of the line at most. -/
def skipInlineBlanks (text : List Char) : List Char :=
  text.dropWhile Text.isInlineBlank

/-- What follows the current line. -/
def skipLine (text : List Char) : List Char :=
  (text.dropWhile (· ≠ '\n')).drop 1

/-- The body of a quoted text and what follows it. The closing mark is the first one
without a backslash in front, or else the last one with a backslash in front, which
then belongs to the body. -/
def quotedBody (mark : Char) : List Char → Option (List Char × List Char)
  | [] => none
  | '\\' :: next :: rest =>
    if next = mark then
      match quotedBody mark rest with
      | some (body, after) => some ('\\' :: mark :: body, after)
      | none => some (['\\'], rest)
    else (quotedBody mark (next :: rest)).map fun (body, after) => ('\\' :: body, after)
  | character :: rest =>
    if character = mark then some ([], rest)
    else (quotedBody mark rest).map fun (body, after) => (character :: body, after)

/-- The characters that can be escaped between single marks. -/
def singleEscape : Char → Option Char
  | '\\' => some '\\'
  | '\x27' => some '\x27'
  | _ => none

/-- The characters that can be escaped between double marks. -/
def doubleEscape : Char → Option Char
  | '\\' => some '\\'
  | '\x27' => some '\x27'
  | '\x22' => some '\x22'
  | 'a' => some '\x07'
  | 'b' => some '\x08'
  | 'f' => some '\x0c'
  | 'n' => some '\n'
  | 'r' => some '\r'
  | 't' => some '\t'
  | 'v' => some '\x0b'
  | _ => none

/-- Replace the escapes that are known; a backslash before anything else stays. -/
def unescape (known : Char → Option Char) : List Char → List Char
  | '\\' :: next :: rest =>
    match known next with
    | some character => character :: unescape known rest
    | none => '\\' :: unescape known (next :: rest)
  | character :: rest => character :: unescape known rest
  | [] => []

/-- The part of an unquoted value before a comment, which begins with a number sign
after a blank. -/
def beforeComment : List Char → List Char
  | blank :: '#' :: rest =>
    if Text.isBlank blank then [] else blank :: beforeComment ('#' :: rest)
  | character :: rest => character :: beforeComment rest
  | [] => []

/-- Without the blanks at the end. -/
def trimEnd (text : List Char) : List Char :=
  (text.reverse.dropWhile Text.isBlank).reverse

/-- A value and what follows it, or where the line goes on if it is no value. -/
def readValue : List Char → Except (List Char) (List Char × List Char)
  | '\x27' :: rest =>
    match quotedBody '\x27' rest with
    | some (body, after) => .ok (unescape singleEscape body, after)
    | none => .error ('\x27' :: rest)
  | '\x22' :: rest =>
    match quotedBody '\x22' rest with
    | some (body, after) => .ok (unescape doubleEscape body, after)
    | none => .error ('\x22' :: rest)
  | text =>
    let (line, after) := text.span (· ≠ '\n')
    .ok (trimEnd (beforeComment line), after)

/-- Without the word `export` in front, if blanks follow it on the line. -/
def skipExport (text : List Char) : List Char :=
  let word := "export".toList
  if word.isPrefixOf text then
    let after := text.drop word.length
    let rest := skipInlineBlanks after
    if rest.length < after.length then rest else text
  else text

/-- A name and what follows it, or where the line goes on if it has none. A line
that begins with a number sign is a comment and needs no name. -/
def readName (text : List Char) : Except (List Char) (Option (List Char) × List Char) :=
  match text with
  | '#' :: _ => .ok (none, text)
  | '\x27' :: rest =>
    match rest.span (· ≠ '\x27') with
    | (first :: name, '\x27' :: after) => .ok (some (first :: name), after)
    | _ => .error text
  | _ =>
    match text.span fun character =>
        character ≠ '=' && character ≠ '#' && !Text.isBlank character with
    | ([], _) => .error text
    | (name, after) => .ok (some name, after)

/-- What follows the end of the line, which a comment may precede, or where the
line goes on if there is anything else. -/
def readLineEnd (text : List Char) : Except (List Char) (List Char) :=
  let text :=
    match skipInlineBlanks text with
    | '#' :: rest => rest.dropWhile (· ≠ '\n')
    | _ => text
  match skipInlineBlanks text with
  | [] => .ok []
  | '\n' :: rest => .ok rest
  | _ => .error text

/-- The binding at the front of a text, if the line is one, and what follows the
line; the error is where the line goes on when it is malformed. -/
def readBinding (text : List Char) : Except (List Char) (Option Binding × List Char) := do
  let (name, text) ← readName (skipExport text)
  let text := skipInlineBlanks text
  let (value, text) ←
    match text with
    | '=' :: rest => do
      let (value, after) ← readValue (skipInlineBlanks rest)
      pure (some value, after)
    | _ => pure (none, text)
  let rest ← readLineEnd text
  return (name.map fun name => ⟨name, value⟩, rest)

/-- The bindings of a text, `fuel` lines at most. -/
def readBindings : (fuel : Nat) → List Char → List Binding
  | 0, _ => []
  | fuel + 1, text =>
    match text.dropWhile Text.isBlank with
    | [] => []
    | text =>
      match readBinding text with
      | .ok (binding, rest) => binding.toList ++ readBindings fuel rest
      | .error rest => readBindings fuel (skipLine rest)

/-- The bindings of a file, in the order of its lines. -/
def bindings (content : String) : List Binding :=
  let text := Text.normalizeNewlines content.toList
  readBindings (text.length + 1) text

/-- A piece of a value: a text, or a reference with the text that stands in when
there is no such variable. -/
inductive Piece
  | text (characters : List Char)
  | reference (name alternative : List Char)

/-- The reference after a dollar sign and an opening brace, and what follows it. -/
def readReference (text : List Char) : Option (Piece × List Char) :=
  match text.span fun character => character ≠ '\x7d' && character ≠ ':' with
  | (name, '\x7d' :: after) => some (.reference name [], after)
  | (name, ':' :: '-' :: rest) =>
    match rest.span (· ≠ '\x7d') with
    | (alternative, '\x7d' :: after) => some (.reference name alternative, after)
    | _ => none
  | _ => none

/-- The pieces of a value, `fuel` of them at most. -/
def pieces : (fuel : Nat) → List Char → List Piece
  | 0, _ => []
  | _, [] => []
  | fuel + 1, '$' :: '\x7b' :: rest =>
    match readReference rest with
    | some (piece, after) => piece :: pieces fuel after
    | none => .text ['$'] :: pieces fuel ('\x7b' :: rest)
  | fuel + 1, character :: rest => .text [character] :: pieces fuel rest

/-- A value with its references replaced. -/
def resolve (referredTo : List Char → Option (List Char)) (value : List Char) : List Char :=
  (pieces value.length value).flatMap fun
    | .text characters => characters
    | .reference name alternative => (referredTo name).getD alternative

/-- The names that a binding sets or refers to. -/
def Binding.mentions (binding : Binding) : List (List Char) :=
  let value := binding.value.getD []
  binding.name :: (pieces value.length value).filterMap fun
    | .text _ => none
    | .reference name _ => some name

end RingTape.VariablesFile
