/-
# Input sources

A source answers every read with a chunk. Most sources hold finitely many chunks and
come to an end of input behind them, which can be met any number of times, but a source
may also never end. A chunk may hold more than the one item that was asked for: only its
first item counts and the rest is lost.
-/

import RingTape.Fault
import RingTape.Text.Utf8

namespace RingTape

/-- The number of items that a read asks for. -/
def readSize : Nat := 1

/-- What a single read returns, or the error with which it fails. -/
inductive Chunk
  | bytes (items : List UInt8)
  | text (characters : String)
  | integers (items : List Int)
  | absent
  | failure (error : StreamError)

/-- The value that is stored when a read meets the end of input. -/
def endOfInput : UInt8 := 255

/-- The byte that a read of this chunk delivers. Code points and integers are
reduced modulo 256, negative integers included; an empty or absent chunk is an
end of input. -/
def Chunk.delivered : Chunk → Except Fault UInt8
  | bytes [] => .ok endOfInput
  | bytes (byte :: _) => .ok byte
  | text characters =>
    match characters.toList with
    | [] => .ok endOfInput
    | [character] => .ok (UInt8.ofNat character.toNat)
    | several => .error (.manyCharacters several.length)
  | integers [] => .ok endOfInput
  | integers (integer :: _) => .ok (UInt8.ofNat (integer % 256).toNat)
  | absent => .ok endOfInput
  | failure error => .error (.stream error)

/-- A chunk fails to deliver a byte for two reasons: the read failed, or it got several
characters. -/
theorem Chunk.delivered_eq_error {chunk : Chunk} {fault : Fault}
    (failed : chunk.delivered = .error fault) :
    (∃ error, chunk = .failure error ∧ fault = .stream error) ∨
      ∃ characters, chunk = .text characters ∧ 2 ≤ characters.toList.length ∧
        fault = .manyCharacters characters.toList.length := by
  cases chunk with
  | bytes items => cases items <;> simp [delivered] at failed
  | integers items => cases items <;> simp [delivered] at failed
  | absent => simp [delivered] at failed
  | failure error => exact .inl ⟨error, rfl, by simpa [delivered, eq_comm] using failed⟩
  | text characters =>
      right
      rw [delivered] at failed
      cases spelled : characters.toList with
      | nil => simp [spelled] at failed
      | cons first rest =>
          cases rest with
          | nil => simp [spelled] at failed
          | cons second rest =>
              simp only [spelled, Except.error.injEq] at failed
              exact ⟨characters, rfl, by simp [spelled], by rw [spelled, failed]⟩

/-- The chunk that each read gets, counted from the first one, and the number of reads
made so far. -/
structure Source where
  answers : Nat → Chunk
  reads : Nat

namespace Source

/-- A source that delivers the given chunks, one a read, and then is at its end. -/
def ofChunks (chunks : List Chunk) : Source :=
  let held := chunks.toArray
  ⟨fun index => held.getD index .absent, 0⟩

/-- A binary stream: one byte a read. -/
def ofBytes (bytes : List UInt8) : Source :=
  ofChunks (bytes.map fun byte => .bytes [byte])

/-- A text stream: one character a read. -/
def ofText (text : String) : Source :=
  ofChunks (text.toList.map fun character => .text (String.singleton character))

/-- A binary stream of the bytes that a text has in UTF-8. -/
def ofEncoded (text : String) : Source :=
  ofBytes (Text.Utf8.encode text)

/-- A source that is at its end from the start. -/
def empty : Source := ofChunks []

/-- Read once. A read that fails is counted and its chunk is used up. -/
def read : Source → Except Fault UInt8 × Source
  | ⟨answers, reads⟩ => ((answers reads).delivered, ⟨answers, reads + 1⟩)

/-- The results of the next `count` reads, in order. -/
def readMany : (count : Nat) → Source → List (Except Fault UInt8) × Source
  | 0, source => ([], source)
  | count + 1, source =>
    let (result, rest) := source.read
    let (results, last) := readMany count rest
    (result :: results, last)

/-- Every read is counted, whatever it delivers. -/
@[simp]
theorem reads_read (source : Source) : source.read.2.reads = source.reads + 1 := rfl

/-- Reading does not change what later reads get. -/
@[simp]
theorem answers_read (source : Source) : source.read.2.answers = source.answers := rfl

/-- Behind its last chunk a source is at its end, however often it is read there. -/
theorem delivered_answers_ofChunks {chunks : List Chunk} {index : Nat}
    (behind : chunks.length ≤ index) :
    ((ofChunks chunks).answers index).delivered = .ok endOfInput := by
  simp [ofChunks, behind, Chunk.delivered]

/-- The chunks are delivered in order. -/
theorem answers_ofChunks (chunks : List Chunk) (index : Nat) :
    (ofChunks chunks).answers index = chunks[index]?.getD .absent := by
  simp [ofChunks, Array.getD_eq_getD_getElem?]

/-- A binary stream delivers its bytes and then the end of input. -/
theorem delivered_ofBytes (bytes : List UInt8) (index : Nat) :
    ((ofBytes bytes).answers index).delivered = .ok (bytes[index]?.getD endOfInput) := by
  rw [ofBytes, answers_ofChunks, List.getElem?_map]
  cases bytes[index]? <;> rfl

/-- A single character delivers its code point modulo 256. -/
theorem delivered_singleton (character : Char) :
    (Chunk.text (String.singleton character)).delivered =
      .ok (UInt8.ofNat character.toNat) := by
  simp [Chunk.delivered]

/-- A text stream delivers the code points of its characters modulo 256 and then the end of
input. -/
theorem delivered_ofText (text : String) (index : Nat) :
    ((ofText text).answers index).delivered =
      .ok ((text.toList.map fun character => UInt8.ofNat character.toNat)[index]?.getD
        endOfInput) := by
  rw [ofText, answers_ofChunks, List.getElem?_map, List.getElem?_map]
  cases text.toList[index]? with
  | none => rfl
  | some character => exact delivered_singleton character

@[simp]
theorem length_readMany (count : Nat) (source : Source) :
    (source.readMany count).1.length = count := by
  induction count generalizing source with
  | zero => rfl
  | succ count ih => simp [readMany, ih]

@[simp]
theorem reads_readMany (count : Nat) (source : Source) :
    (source.readMany count).2.reads = source.reads + count := by
  induction count generalizing source with
  | zero => rfl
  | succ count ih => simp [readMany, ih, Nat.add_assoc, Nat.add_comm 1]

/-- Reading leaves the answers alone and moves on by the number of reads. -/
theorem readMany_snd (count : Nat) (source : Source) :
    (source.readMany count).2 = ⟨source.answers, source.reads + count⟩ := by
  induction count generalizing source with
  | zero => rfl
  | succ count ih => simp [readMany, ih, Nat.add_assoc, Nat.add_comm 1]

/-- Each read delivers what its own answer does. -/
theorem getElem?_readMany {count index : Nat} (source : Source) (inside : index < count) :
    (source.readMany count).1[index]? =
      some (source.answers (source.reads + index)).delivered := by
  induction count generalizing source index with
  | zero => simp at inside
  | succ count ih =>
      cases index with
      | zero => rfl
      | succ index =>
          have behind := ih source.read.2 (Nat.lt_of_succ_lt_succ inside)
          simpa [readMany, Nat.add_assoc, Nat.add_comm 1] using behind

/-- Reads can be made in two parts. -/
theorem readMany_add (first second : Nat) (source : Source) :
    source.readMany (first + second) =
      ((source.readMany first).1 ++ ((source.readMany first).2.readMany second).1,
        ((source.readMany first).2.readMany second).2) := by
  induction first generalizing source with
  | zero => simp [readMany]
  | succ first ih => simp [Nat.add_right_comm, readMany, ih]

end Source

end RingTape
