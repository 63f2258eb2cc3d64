/-
# Encoding and decoding

Bytes are read as a text exactly when they are the UTF-8 of it. Both directions look at one
character: the bytes behind the first hold six bits each, and what the first byte announces is
just the range of code points whose UTF-8 begins with it.
-/

import Mathlib.Algebra.Group.Nat.Defs
import RingTape.Text.Utf8

namespace RingTape.Text.Utf8

/-- The last bytes of a character, with six bits of its code point in each. -/
def continuation (value : Nat) : (count : Nat) → List UInt8
  | 0 => []
  | count + 1 => UInt8.ofNat (value / 64 ^ count % 64 + 128) :: continuation value count

theorem length_continuation (value count : Nat) : (continuation value count).length = count := by
  induction count with
  | zero => rfl
  | succ count ih => rw [continuation, List.length_cons, ih]

/-- A code point whose first bits are the ones that were read, and whose next byte is allowed. -/
structure Unfinished.Covers (unfinished : Unfinished) (value : Nat) : Prop where
  begun : value / 64 ^ unfinished.owed = unfinished.value
  low : unfinished.low.toNat ≤ value / 64 ^ (unfinished.owed - 1) % 64 + 128
  high : value / 64 ^ (unfinished.owed - 1) % 64 + 128 ≤ unfinished.high.toNat

/-- Some bytes are still to come, and the next one is a continuation. -/
structure Unfinished.Sound (unfinished : Unfinished) : Prop where
  owed : 0 < unfinished.owed
  low : 128 ≤ unfinished.low.toNat
  high : unfinished.high.toNat < 192

/-! ## Continuations -/

section Continuations

variable {position value : Nat} {done : Array Char} {unfinished : Unfinished}
  {bytes rest : List UInt8}

theorem toNat_continuation (bits : Nat) :
    (UInt8.ofNat (bits % 64 + 128)).toNat = bits % 64 + 128 := by
  rw [UInt8.toNat_ofNat']
  omega

theorem div_pow_succ (value count : Nat) : value / 64 ^ (count + 1) = value / 64 ^ count / 64 := by
  rw [Nat.pow_succ, Nat.div_div_eq_div_mul]

/-- Behind the second byte of a character every continuation is allowed. -/
theorem sound_between (first : UInt8) (taken bits owed : Nat) :
    (⟨first, taken, bits, owed + 1, 0x80, 0xbf⟩ : Unfinished).Sound := by
  refine ⟨Nat.succ_pos owed, ?_, ?_⟩
  · show 128 ≤ (0x80 : UInt8).toNat
    decide
  · show (0xbf : UInt8).toNat < 192
    decide

theorem covers_between (first : UInt8) (taken value owed : Nat) :
    (⟨first, taken, value / 64 ^ (owed + 1), owed + 1, 0x80, 0xbf⟩ : Unfinished).Covers value := by
  have small := Nat.mod_lt (value / 64 ^ owed) (y := 64) (by decide)
  exact ⟨rfl, Nat.le_add_left 128 _, Nat.add_le_add_right (Nat.le_of_lt_succ small) 128⟩

/-- The bytes of a code point that is covered complete the character. -/
theorem decodeFrom_continuation (sound : unfinished.Sound) (covers : unfinished.Covers value) :
    decodeFrom position done (some unfinished)
        (continuation value unfinished.owed ++ rest) =
      decodeFrom (position + unfinished.owed) (done.push (Char.ofNat value)) none rest := by
  obtain ⟨first, taken, bits, owed, low, high⟩ := unfinished
  induction owed generalizing position taken bits low high with
  | zero => exact absurd sound.owed (Nat.lt_irrefl 0)
  | succ owed ih =>
      obtain ⟨begun, lower, upper⟩ := covers
      simp only [Nat.add_sub_cancel] at begun lower upper
      rw [div_pow_succ] at begun
      have inRange : low ≤ UInt8.ofNat (value / 64 ^ owed % 64 + 128) ∧
          UInt8.ofNat (value / 64 ^ owed % 64 + 128) ≤ high := by
        rw [UInt8.le_iff_toNat_le, UInt8.le_iff_toNat_le, toNat_continuation]
        exact ⟨lower, upper⟩
      have joined : bits * 64 + (value / 64 ^ owed % 64 + 128 - 0x80) = value / 64 ^ owed := by
        omega
      simp only [continuation, List.cons_append, decodeFrom, if_pos inRange, toNat_continuation,
        joined]
      cases owed with
      | zero => simp [continuation]
      | succ owed =>
          rw [if_neg (by omega), Nat.add_sub_cancel,
            ih _ _ _ _ (sound_between _ _ _ _) (covers_between _ _ _ _), Nat.add_right_comm,
            Nat.add_assoc position]

/-- Bytes that complete a character are those of a code point that is covered. -/
theorem exists_continuation_of_decodeFrom {result : Array Char} (sound : unfinished.Sound)
    (decoded : decodeFrom position done (some unfinished) bytes = .ok result) :
    ∃ value rest, bytes = continuation value unfinished.owed ++ rest ∧
      unfinished.Covers value ∧
      decodeFrom (position + unfinished.owed) (done.push (Char.ofNat value)) none rest =
        .ok result := by
  obtain ⟨first, taken, bits, owed, low, high⟩ := unfinished
  induction owed generalizing position taken bits low high bytes with
  | zero => exact absurd sound.owed (Nat.lt_irrefl 0)
  | succ owed ih =>
      obtain ⟨_, continuesLow, continuesHigh⟩ := sound
      simp only at continuesLow continuesHigh
      cases bytes with
      | nil => simp [decodeFrom] at decoded
      | cons byte rest =>
          rw [decodeFrom] at decoded
          split at decoded
          · rename_i inRange
            simp only [UInt8.le_iff_toNat_le] at inRange
            -- The six bits of this byte come behind the ones that were read.
            have bitsHere (value : Nat)
                (begun : value / 64 ^ owed = bits * 64 + (byte.toNat - 0x80)) :
                UInt8.ofNat (value / 64 ^ owed % 64 + 128) = byte ∧
                  (⟨first, taken, bits, owed + 1, low, high⟩ : Unfinished).Covers value := by
              have number : value / 64 ^ owed % 64 + 128 = byte.toNat := by omega
              refine ⟨by rw [number, UInt8.ofNat_toNat], ?_, ?_, ?_⟩
              · show value / 64 ^ (owed + 1) = bits
                rw [div_pow_succ]
                omega
              · simpa only [Nat.add_sub_cancel, number] using inRange.1
              · simpa only [Nat.add_sub_cancel, number] using inRange.2
            cases owed with
            | zero =>
                obtain ⟨same, covers⟩ := bitsHere (bits * 64 + (byte.toNat - 0x80))
                  (by rw [Nat.pow_zero, Nat.div_one])
                refine ⟨_, rest, ?_, covers, ?_⟩
                · rw [continuation, same, continuation]
                  rfl
                · simpa using decoded
            | succ owed =>
                rw [if_neg (by simp), Nat.add_sub_cancel] at decoded
                obtain ⟨value, more, rfl, ⟨begun, _, _⟩, decodedMore⟩ :=
                  ih _ _ _ _ (sound_between _ _ _ _) decoded
                obtain ⟨same, covers⟩ := bitsHere value begun
                refine ⟨value, more, ?_, covers, ?_⟩
                · show byte :: continuation value (owed + 1) ++ more =
                    UInt8.ofNat (value / 64 ^ (owed + 1) % 64 + 128) ::
                      continuation value (owed + 1) ++ more
                  rw [same]
                · rwa [Nat.add_right_comm, Nat.add_assoc position] at decodedMore
          · simp at decoded

end Continuations

/-! ## First bytes -/

section FirstBytes

variable {value : Nat} {first : UInt8} {unfinished : Unfinished}

theorem toNat_val_ofNat (valid : value.isValidChar) : (Char.ofNat value).val.toNat = value := by
  rw [Char.ofNat, dif_pos valid]
  rfl

/-- The bytes of a character by its code point. -/
theorem utf8EncodeChar_ofNat (valid : value.isValidChar) :
    String.utf8EncodeChar (Char.ofNat value) =
      if value < 0x80 then [UInt8.ofNat value]
      else if value < 0x800 then UInt8.ofNat (value / 64 + 192) :: continuation value 1
      else if value < 0x10000 then UInt8.ofNat (value / 4096 + 224) :: continuation value 2
      else UInt8.ofNat (value / 262144 + 240) :: continuation value 3 := by
  have bounded : value < 0x110000 := by
    rcases valid with low | ⟨_, high⟩ <;> omega
  simp only [String.utf8EncodeChar, toNat_val_ofNat valid]
  by_cases one : value < 0x80
  · rw [if_pos one, if_pos (by omega)]
  · rw [if_neg one, if_neg (by omega)]
    by_cases two : value < 0x800
    · have bits : value / 64 % 32 = value / 64 := by omega
      rw [if_pos two, if_pos (by omega), bits]
      simp [continuation]
    · rw [if_neg two, if_neg (by omega)]
      by_cases three : value < 0x10000
      · have bits : value / 4096 % 16 = value / 4096 := by omega
        rw [if_pos three, if_pos (by omega), bits]
        simp [continuation]
      · have bits : value / 262144 % 8 = value / 262144 := by omega
        rw [if_neg three, if_neg (by omega), bits]
        simp [continuation]

/-- A first byte announces one, two or three continuations, and which they are is restricted only
behind the first and the last of each kind and before the surrogates. -/
theorem announced_eq (first : UInt8) :
    announced first =
      let code := first.toNat
      if 0xc2 ≤ code ∧ code < 0xe0 then some ⟨first, 1, code - 0xc0, 1, 0x80, 0xbf⟩
      else if 0xe0 ≤ code ∧ code < 0xf0 then
        some ⟨first, 1, code - 0xe0, 2, if code = 0xe0 then 0xa0 else 0x80,
          if code = 0xed then 0x9f else 0xbf⟩
      else if 0xf0 ≤ code ∧ code ≤ 0xf4 then
        some ⟨first, 1, code - 0xf0, 3, if code = 0xf0 then 0x90 else 0x80,
          if code = 0xf4 then 0x8f else 0xbf⟩
      else none := by
  simp only [announced]
  generalize first.toNat = code
  grind

theorem sound_of_announced (announces : announced first = some unfinished) :
    unfinished.Sound ∧ 0x80 ≤ first.toNat := by
  simp only [announced_eq] at announces
  split at announces
  · obtain rfl := Option.some.inj announces
    exact ⟨sound_between first 1 _ 0, by omega⟩
  · split at announces
    · obtain rfl := Option.some.inj announces
      refine ⟨⟨Nat.succ_pos 1, ?_, ?_⟩, by omega⟩
      all_goals
        dsimp only
        split <;> decide
    · split at announces
      · obtain rfl := Option.some.inj announces
        refine ⟨⟨Nat.succ_pos 2, ?_, ?_⟩, by omega⟩
        all_goals
          dsimp only
          split <;> decide
      · simp at announces

/-- What a first byte announces are the code points whose bytes begin with it. -/
theorem utf8EncodeChar_of_announced (announces : announced first = some unfinished)
    (covers : unfinished.Covers value) :
    value.isValidChar ∧ String.utf8EncodeChar (Char.ofNat value) =
      first :: continuation value unfinished.owed := by
  obtain ⟨begun, low, high⟩ := covers
  simp only [announced_eq] at announces
  split at announces
  · obtain rfl := Option.some.inj announces
    simp only [Nat.reducePow] at begun
    have valid : value.isValidChar := .inl (by omega)
    have lead : value / 64 + 192 = first.toNat := by omega
    refine ⟨valid, ?_⟩
    rw [utf8EncodeChar_ofNat valid, if_neg (by omega), if_pos (by omega), lead,
      UInt8.ofNat_toNat]
  split at announces
  · obtain rfl := Option.some.inj announces
    simp only [Nat.reducePow, Nat.reduceSub] at begun low high
    have least (here : first.toNat = 0xe0) : 0xa0 ≤ value / 64 % 64 + 128 := by
      simpa [here] using low
    have surrogate (here : first.toNat = 0xed) : value / 64 % 64 + 128 ≤ 0x9f := by
      simpa [here] using high
    have valid : value.isValidChar := by
      show value < 55296 ∨ 57343 < value ∧ value < 1114112
      omega
    have lead : value / 4096 + 224 = first.toNat := by omega
    refine ⟨valid, ?_⟩
    rw [utf8EncodeChar_ofNat valid, if_neg (by omega), if_neg (by omega), if_pos (by omega), lead,
      UInt8.ofNat_toNat]
  split at announces
  · obtain rfl := Option.some.inj announces
    simp only [Nat.reducePow, Nat.reduceSub] at begun low high
    have least (here : first.toNat = 0xf0) : 0x90 ≤ value / 4096 % 64 + 128 := by
      simpa [here] using low
    have greatest (here : first.toNat = 0xf4) : value / 4096 % 64 + 128 ≤ 0x8f := by
      simpa [here] using high
    have valid : value.isValidChar := by
      show value < 55296 ∨ 57343 < value ∧ value < 1114112
      omega
    have lead : value / 262144 + 240 = first.toNat := by omega
    refine ⟨valid, ?_⟩
    rw [utf8EncodeChar_ofNat valid, if_neg (by omega), if_neg (by omega), if_neg (by omega), lead,
      UInt8.ofNat_toNat]
  · simp at announces

/-- Every code point of more than one byte is announced by some first byte. -/
theorem exists_announced (valid : value.isValidChar) (several : 0x80 ≤ value) :
    ∃ first unfinished, announced first = some unfinished ∧ unfinished.Covers value := by
  have bounded : value < 55296 ∨ 57343 < value ∧ value < 1114112 := valid
  simp only [announced_eq]
  by_cases two : value < 0x800
  · have lead : (UInt8.ofNat (value / 64 + 192)).toNat = value / 64 + 192 :=
      UInt8.toNat_ofNat_of_lt' (show _ < 256 by omega)
    have bits : value / 64 + 192 - 0xc0 = value / 64 ^ (0 + 1) := by omega
    refine ⟨UInt8.ofNat (value / 64 + 192), ?_⟩
    rw [lead, if_pos (by omega), bits]
    exact ⟨_, rfl, covers_between _ 1 value 0⟩
  by_cases three : value < 0x10000
  · have lead : (UInt8.ofNat (value / 4096 + 224)).toNat = value / 4096 + 224 :=
      UInt8.toNat_ofNat_of_lt' (show _ < 256 by omega)
    have bits : value / 4096 + 224 - 0xe0 = value / 64 ^ 2 := by omega
    refine ⟨UInt8.ofNat (value / 4096 + 224), ?_⟩
    rw [lead, if_neg (by omega), if_pos (by omega), bits]
    refine ⟨_, rfl, rfl, ?_, ?_⟩
    all_goals
      rw [apply_ite UInt8.toNat]
      simp only [UInt8.reduceToNat]
      split <;> omega
  · have lead : (UInt8.ofNat (value / 262144 + 240)).toNat = value / 262144 + 240 :=
      UInt8.toNat_ofNat_of_lt' (show _ < 256 by omega)
    have bits : value / 262144 + 240 - 0xf0 = value / 64 ^ 3 := by omega
    refine ⟨UInt8.ofNat (value / 262144 + 240), ?_⟩
    rw [lead, if_neg (by omega), if_neg (by omega), if_pos (by omega), bits]
    refine ⟨_, rfl, rfl, ?_, ?_⟩
    all_goals
      rw [apply_ite UInt8.toNat]
      simp only [UInt8.reduceToNat]
      split <;> omega

end FirstBytes

/-! ## Texts -/

/-- The code point of a byte as a character is its number. -/
theorem ofUInt8_eq_ofNat (byte : UInt8) : Char.ofUInt8 byte = Char.ofNat byte.toNat := by
  have small := UInt8.toNat_lt byte
  have valid : byte.toNat.isValidChar := .inl (by omega)
  apply Char.ext
  apply UInt32.toNat_inj.mp
  rw [toNat_val_ofNat valid]
  rfl

/-- Bytes below 0x80 are characters by themselves. -/
theorem utf8EncodeChar_ofUInt8 {byte : UInt8} (single : byte < 0x80) :
    String.utf8EncodeChar (Char.ofUInt8 byte) = [byte] := by
  have small : byte.toNat < 0x80 := UInt8.lt_iff_toNat_lt.mp single
  have valid : byte.toNat.isValidChar := .inl (by omega)
  rw [ofUInt8_eq_ofNat, utf8EncodeChar_ofNat valid, if_pos small, UInt8.ofNat_toNat]

/-- One character is read back from its bytes. -/
theorem decodeFrom_utf8EncodeChar (character : Char) (position : Nat) (done : Array Char)
    (rest : List UInt8) :
    decodeFrom position done none (String.utf8EncodeChar character ++ rest) =
      decodeFrom (position + (String.utf8EncodeChar character).length) (done.push character) none
        rest := by
  obtain ⟨value, valid, rfl⟩ : ∃ value, value.isValidChar ∧ Char.ofNat value = character :=
    ⟨character.toNat, character.valid, Char.ofNat_toNat character⟩
  by_cases single : value < 0x80
  · have number : (UInt8.ofNat value).toNat = value :=
      UInt8.toNat_ofNat_of_lt' (show _ < 256 by omega)
    have alone : UInt8.ofNat value < 0x80 := by
      rw [UInt8.lt_iff_toNat_lt, number]
      exact single
    rw [utf8EncodeChar_ofNat valid, if_pos single, List.singleton_append, decodeFrom,
      if_pos alone, ofUInt8_eq_ofNat, number, List.length_singleton]
  · obtain ⟨first, unfinished, announces, covers⟩ :=
      exists_announced valid (Nat.le_of_not_lt single)
    obtain ⟨_, encoded⟩ := utf8EncodeChar_of_announced announces covers
    obtain ⟨sound, several⟩ := sound_of_announced announces
    have later : ¬ first < 0x80 := by
      rw [UInt8.lt_iff_toNat_lt]
      exact Nat.not_lt.mpr several
    rw [encoded, List.cons_append, decodeFrom, if_neg later, announces]
    dsimp only
    rw [decodeFrom_continuation sound covers, List.length_cons, length_continuation,
      Nat.add_assoc position, Nat.add_comm 1]

theorem decodeFrom_flatMap (characters : List Char) (position : Nat) (done : Array Char) :
    decodeFrom position done none (characters.flatMap String.utf8EncodeChar) =
      .ok (done ++ characters.toArray) := by
  induction characters generalizing position done with
  | nil => simp [decodeFrom]
  | cons character characters ih =>
      rw [List.flatMap_cons, decodeFrom_utf8EncodeChar, ih]
      simp

/-- Bytes that are read as a text are the UTF-8 of it. The induction is on their number, as a
character takes more than one. -/
theorem exists_flatMap_of_decodeFrom {bytes : List UInt8} {position : Nat}
    {done result : Array Char} (decoded : decodeFrom position done none bytes = .ok result) :
    ∃ characters : List Char, bytes = characters.flatMap String.utf8EncodeChar ∧
      result = done ++ characters.toArray := by
  induction length : bytes.length using Nat.strongRecOn generalizing bytes position done with
  | ind count ih =>
      cases bytes with
      | nil =>
          simp only [decodeFrom, Except.ok.injEq] at decoded
          exact ⟨[], rfl, by simp [decoded]⟩
      | cons byte bytes =>
          rw [List.length_cons] at length
          rw [decodeFrom] at decoded
          split at decoded
          · rename_i single
            obtain ⟨characters, rfl, rfl⟩ := ih _ (by omega) decoded rfl
            refine ⟨Char.ofUInt8 byte :: characters, ?_, by simp⟩
            rw [List.flatMap_cons, utf8EncodeChar_ofUInt8 single]
            rfl
          · cases announces : announced byte with
            | none => simp [announces] at decoded
            | some unfinished =>
                rw [announces] at decoded
                obtain ⟨sound, _⟩ := sound_of_announced announces
                obtain ⟨value, rest, rfl, covers, decodedRest⟩ :=
                  exists_continuation_of_decodeFrom sound decoded
                rw [List.length_append] at length
                obtain ⟨characters, rfl, rfl⟩ := ih _ (by omega) decodedRest rfl
                obtain ⟨_, encoded⟩ := utf8EncodeChar_of_announced announces covers
                refine ⟨Char.ofNat value :: characters, ?_, by simp⟩
                rw [List.flatMap_cons, encoded]
                rfl

/-- Bytes are read as a text exactly when they are the UTF-8 of it. -/
theorem decode_eq_ok_iff {bytes : List UInt8} {characters : List Char} :
    decode bytes = .ok characters ↔ bytes = encode (String.ofList characters) := by
  rw [decode, encode, String.toList_ofList]
  constructor
  · intro decoded
    cases result : decodeFrom 0 #[] none bytes with
    | error refusal => simp [result, Except.map] at decoded
    | ok read =>
        simp only [result, Except.map, Except.ok.injEq] at decoded
        obtain ⟨spelled, same, rfl⟩ := exists_flatMap_of_decodeFrom result
        rw [same, ← decoded]
        simp
  · rintro rfl
    rw [decodeFrom_flatMap]
    simp [Except.map]

/-- Continuations are below the first bytes of characters that have any. -/
theorem toNat_lt_of_mem_continuation {value count : Nat} {byte : UInt8}
    (inside : byte ∈ continuation value count) : byte.toNat < 0xc0 := by
  induction count with
  | zero => cases inside
  | succ count ih =>
      rcases List.mem_cons.mp inside with rfl | later
      · have small := Nat.mod_lt (value / 64 ^ count) (y := 64) (by decide)
        rw [toNat_continuation]
        omega
      · exact ih later

/-- No character has a byte from 0xf5 on. -/
theorem toNat_lt_of_mem_utf8EncodeChar {character : Char} {byte : UInt8}
    (inside : byte ∈ String.utf8EncodeChar character) : byte.toNat < 0xf5 := by
  obtain ⟨value, valid, rfl⟩ : ∃ value, value.isValidChar ∧ Char.ofNat value = character :=
    ⟨character.toNat, character.valid, Char.ofNat_toNat character⟩
  have bounded : value < 0x110000 := by
    rcases valid with low | ⟨_, high⟩ <;> omega
  have lead {code : Nat} (small : code < 0xf5) : (UInt8.ofNat code).toNat < 0xf5 := by
    rwa [UInt8.toNat_ofNat_of_lt' (show code < 256 by omega)]
  have behind {count : Nat} (later : byte ∈ continuation value count) : byte.toNat < 0xf5 :=
    Nat.lt_trans (toNat_lt_of_mem_continuation later) (by decide)
  rw [utf8EncodeChar_ofNat valid] at inside
  split at inside
  · obtain rfl := List.mem_singleton.mp inside
    exact lead (by omega)
  split at inside
  · rcases List.mem_cons.mp inside with rfl | later
    · exact lead (by omega)
    · exact behind later
  split at inside
  · rcases List.mem_cons.mp inside with rfl | later
    · exact lead (by omega)
    · exact behind later
  · rcases List.mem_cons.mp inside with rfl | later
    · exact lead (by omega)
    · exact behind later

theorem toNat_lt_of_mem_encode {text : String} {byte : UInt8} (inside : byte ∈ encode text) :
    byte.toNat < 0xf5 := by
  obtain ⟨_, _, among⟩ := List.mem_flatMap.mp inside
  exact toNat_lt_of_mem_utf8EncodeChar among

theorem decode_encode (text : String) : decode (encode text) = .ok text.toList :=
  decode_eq_ok_iff.mpr (by rw [String.ofList_toList])

/-- Bytes that are the UTF-8 of no text are refused. -/
theorem exists_decode_eq_error {bytes : List UInt8} (invalid : ∀ text, encode text ≠ bytes) :
    ∃ refusal, decode bytes = .error refusal := by
  cases decoded : decode bytes with
  | error refusal => exact ⟨refusal, rfl⟩
  | ok characters => exact absurd (decode_eq_ok_iff.mp decoded).symm (invalid _)

end RingTape.Text.Utf8
