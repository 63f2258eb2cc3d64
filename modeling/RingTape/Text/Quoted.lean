/-
# Quoted text

A quoted text shows every character of a text between quotation marks, so that
it can be told where it begins and ends and which unprintable characters it
holds. Single marks are used unless the text holds single marks and no double
ones.
-/

import RingTape.Text.Printable

namespace RingTape.Text

/-- The digits of a code point in base sixteen, with zeros in front up to `width`. -/
def hexadecimal (width : Nat) (code : Nat) : String :=
  let digits := Nat.toDigits 16 code
  String.ofList (List.replicate (width - digits.length) '0' ++ digits)

/-- The mark that a text is quoted with. -/
def quotationMark (text : List Char) : Char :=
  if text.contains '\x27' && !text.contains '\x22' then '\x22' else '\x27'

/-- How one character is shown between marks. -/
def escape (mark character : Char) : String :=
  if character = mark || character = '\\' then String.ofList ['\\', character]
  else if character = '\n' then "\\n"
  else if character = '\r' then "\\r"
  else if character = '\t' then "\\t"
  else if isPrintable character then String.singleton character
  else if character.toNat < 0x100 then "\\x" ++ hexadecimal 2 character.toNat
  else if character.toNat < 0x10000 then "\\u" ++ hexadecimal 4 character.toNat
  else "\\U" ++ hexadecimal 8 character.toNat

/-- The quoted form of a text. -/
def quoted (text : String) : String :=
  let characters := text.toList
  let mark := quotationMark characters
  let body := characters.foldl (fun shown character => shown ++ escape mark character) ""
  (String.singleton mark ++ body).push mark

end RingTape.Text
