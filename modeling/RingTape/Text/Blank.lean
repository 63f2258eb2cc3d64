/-
# Blank characters

The blanks of all scripts: spaces of every width, tabs, the ends of lines and
paragraphs, and the four separators among the control characters.
-/

import RingTape.Text.Ranges

namespace RingTape.Text

/-- The code points that are blank. -/
def blankRanges : List (Nat × Nat) :=
  [
    (0x9, 0xd), (0x1c, 0x20), (0x85, 0x85), (0xa0, 0xa0),
    (0x1680, 0x1680), (0x2000, 0x200a), (0x2028, 0x2029), (0x202f, 0x202f),
    (0x205f, 0x205f), (0x3000, 0x3000)
  ]

/-- Whether a character is blank. -/
def isBlank (character : Char) : Bool :=
  inRanges blankRanges character.toNat

/-- Whether a character is blank and does not end a line. -/
def isInlineBlank (character : Char) : Bool :=
  isBlank character && character != '\r' && character != '\n'

/-- Whether a character may surround a number: any blank except the four
separators among the control characters. -/
def isMargin (character : Char) : Bool :=
  isBlank character && !inRanges [(0x1c, 0x1f)] character.toNat

end RingTape.Text
