/-
# Latin-1

In Latin-1 each of the first 256 characters has one byte, its code point, and no other character
has any.
-/

namespace RingTape.Text.Latin1

/-- The text that has these bytes. -/
def decode (bytes : List UInt8) : String :=
  String.ofList (bytes.map Char.ofUInt8)

/-- The bytes of a text; `none` when one of its characters has no byte. -/
def encode (text : String) : Option (List UInt8) :=
  text.toList.mapM fun character =>
    if character.toNat < 256 then some (UInt8.ofNat character.toNat) else none

/-- Every byte is read back. -/
@[simp]
theorem encode_decode (bytes : List UInt8) : encode (decode bytes) = some bytes := by
  rw [encode, decode, String.toList_ofList]
  induction bytes with
  | nil => rfl
  | cons byte bytes ih =>
      have small : (Char.ofUInt8 byte).toNat < 256 := byte.toNat_lt
      have back : UInt8.ofNat (Char.ofUInt8 byte).toNat = byte := UInt8.ofNat_toNat
      rw [List.map_cons, List.mapM_cons, if_pos small, back, ih]
      rfl

end RingTape.Text.Latin1
