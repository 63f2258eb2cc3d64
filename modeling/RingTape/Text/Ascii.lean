/-
# ASCII

Only the first 128 characters have a byte of their own in ASCII. A refusal names
the first stretch of characters that have none.
-/

import RingTape.Text.Quoted

namespace RingTape.Text.Ascii

/-- A refusal: the `length` characters from `position` on, the first of which is
`first`, have no byte. -/
structure Refusal where
  position : Nat
  first : Char
  length : Nat
  deriving DecidableEq

/-- Whether a character is an ASCII character. -/
def isAscii (character : Char) : Bool :=
  decide (character.toNat < 0x80)

/-- The bytes of a text, one a character. -/
def encode (text : String) : Except Refusal (List UInt8) :=
  let characters := text.toList
  match characters.dropWhile isAscii with
  | [] => .ok (characters.map fun character => UInt8.ofNat character.toNat)
  | first :: rest =>
    .error ⟨(characters.takeWhile isAscii).length, first,
      (rest.takeWhile fun character => !isAscii character).length + 1⟩

/-- How a character without a byte is shown: by its code point, as short as it can be. -/
def shownCode (character : Char) : String :=
  let code := character.toNat
  if code < 0x100 then "\\x" ++ hexadecimal 2 code
  else if code < 0x10000 then "\\u" ++ hexadecimal 4 code
  else "\\U" ++ hexadecimal 8 code

/-- The text of a refusal. -/
def Refusal.message (refusal : Refusal) : String :=
  if refusal.length = 1 then
    s!"'ascii' codec can't encode character '{shownCode refusal.first}' in position " ++
      s!"{refusal.position}: ordinal not in range(128)"
  else
    s!"'ascii' codec can't encode characters in position {refusal.position}-" ++
      s!"{refusal.position + refusal.length - 1}: ordinal not in range(128)"

end RingTape.Text.Ascii
