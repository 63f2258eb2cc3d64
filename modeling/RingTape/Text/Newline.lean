/-
# Line ends

A stored text may end its lines with a carriage return, a line feed or both. All
three become a single line feed when the text is read.
-/

namespace RingTape.Text

/-- Add the characters with single line feeds to `done`; `returned` says that the
character before them was a carriage return, so that a line feed belongs to it. -/
def normalizeNewlinesFrom (returned : Bool) (done : Array Char) : List Char → Array Char
  | [] => done
  | '\r' :: rest => normalizeNewlinesFrom true (done.push '\n') rest
  | '\n' :: rest =>
    normalizeNewlinesFrom false (if returned then done else done.push '\n') rest
  | character :: rest => normalizeNewlinesFrom false (done.push character) rest

/-- The text with a single line feed for every line end. -/
def normalizeNewlines (text : List Char) : List Char :=
  (normalizeNewlinesFrom false #[] text).toList

/-! ## Line ends replaced -/

/-- The text with every carriage return that has a line feed behind it left out. -/
def joinPairs : List Char → List Char
  | [] => []
  | [last] => [last]
  | first :: second :: rest =>
    if first = '\r' ∧ second = '\n' then '\n' :: joinPairs rest
    else first :: joinPairs (second :: rest)

/-- The text with every pair of a carriage return and a line feed replaced by a line feed, and
then every remaining carriage return as well. -/
def withLineFeeds (text : List Char) : List Char :=
  (joinPairs text).map fun character => if character = '\r' then '\n' else character

/-- The number of carriage returns that have a line feed behind them. -/
def countPairs (text : List Char) : Nat :=
  (text.zip text.tail).count ('\r', '\n')

end RingTape.Text
