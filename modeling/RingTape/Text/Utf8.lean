/-
# UTF-8

Text is stored as UTF-8. Reading is strict: a first byte that can begin no
character, a continuation outside the range that the bytes before it allow, and
a character cut off by the end are refused. The refusal names the bytes that
began the character and the place of the first of them.
-/

import RingTape.Text.Quoted

namespace RingTape.Text.Utf8

/-- The bytes of a text. -/
def encode (text : String) : List UInt8 :=
  text.toList.flatMap String.utf8EncodeChar

/-- Why bytes are not a text. -/
inductive Reason
  | startByte
  | continuationByte
  | endOfData
  deriving DecidableEq

/-- The wording of a reason. -/
def Reason.message : Reason → String
  | startByte => "invalid start byte"
  | continuationByte => "invalid continuation byte"
  | endOfData => "unexpected end of data"

/-- A refusal: `length` bytes from `position` on, the first of which is `first`. -/
structure Refusal where
  reason : Reason
  position : Nat
  first : UInt8
  length : Nat
  deriving DecidableEq

/-- A character of which `taken` bytes were read and `owed` are still to come.
The next one must lie between `low` and `high`. -/
structure Unfinished where
  first : UInt8
  taken : Nat
  value : Nat
  owed : Nat
  low : UInt8
  high : UInt8

/-- What a first byte announces. The range of the second byte leaves out the
longer forms of shorter characters, the surrogates, and all that lies above the
last code point. -/
def announced (first : UInt8) : Option Unfinished :=
  let begin (value owed : Nat) (low high : UInt8) : Option Unfinished :=
    some ⟨first, 1, value, owed, low, high⟩
  let code := first.toNat
  if code < 0xc2 then none
  else if code < 0xe0 then begin (code - 0xc0) 1 0x80 0xbf
  else if code = 0xe0 then begin 0 2 0xa0 0xbf
  else if code = 0xed then begin 0xd 2 0x80 0x9f
  else if code < 0xf0 then begin (code - 0xe0) 2 0x80 0xbf
  else if code = 0xf0 then begin 0 3 0x90 0xbf
  else if code < 0xf4 then begin (code - 0xf0) 3 0x80 0xbf
  else if code = 0xf4 then begin 4 3 0x80 0x8f
  else none

/-- Read the bytes from `position` on after the characters `done`, in the middle
of a character or between two. -/
def decodeFrom (position : Nat) (done : Array Char) :
    Option Unfinished → List UInt8 → Except Refusal (Array Char)
  | none, [] => .ok done
  | some character, [] =>
    .error ⟨.endOfData, position - character.taken, character.first, character.taken⟩
  | none, byte :: rest =>
    if byte < 0x80 then
      decodeFrom (position + 1) (done.push (Char.ofUInt8 byte)) none rest
    else
      match announced byte with
      | some character => decodeFrom (position + 1) done (some character) rest
      | none => .error ⟨.startByte, position, byte, 1⟩
  | some character, byte :: rest =>
    if character.low ≤ byte ∧ byte ≤ character.high then
      let value := character.value * 64 + (byte.toNat - 0x80)
      if character.owed ≤ 1 then
        decodeFrom (position + 1) (done.push (Char.ofNat value)) none rest
      else
        decodeFrom (position + 1) done
          (some ⟨character.first, character.taken + 1, value, character.owed - 1, 0x80, 0xbf⟩)
          rest
    else
      .error ⟨.continuationByte, position - character.taken, character.first, character.taken⟩

/-- The characters that the bytes spell. -/
def decode (bytes : List UInt8) : Except Refusal (List Char) :=
  (decodeFrom 0 #[] none bytes).map Array.toList

/-- The text of a refusal. -/
def Refusal.message (refusal : Refusal) : String :=
  if refusal.length = 1 then
    s!"'utf-8' codec can't decode byte 0x{hexadecimal 2 refusal.first.toNat} in position " ++
      s!"{refusal.position}: {refusal.reason.message}"
  else
    s!"'utf-8' codec can't decode bytes in position {refusal.position}-" ++
      s!"{refusal.position + refusal.length - 1}: {refusal.reason.message}"

end RingTape.Text.Utf8
