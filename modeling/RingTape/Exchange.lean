/-
# Exchanges

What a program exchanges with its streams, in one sequence: the reads with what they
delivered and the writes with what was written, those that failed included.
-/

import RingTape.Workspace

namespace RingTape

/-- One thing that passes between a program and a stream. -/
inductive Exchange
  | read (result : Except Fault UInt8)
  /-- A write, and why the sink refused it, if it did. -/
  | write (character : Char) (refusal : Option Fault)

/-- The exchange that an action makes, if it makes one. -/
def Workspace.exchange {τ : Type} [TapeLike τ] (action : Action) (workspace : Workspace τ) :
    Option Exchange :=
  match action with
  | .write =>
    some (.write (Char.ofUInt8 workspace.current) (workspace.sink.refusal workspace.symbol))
  | .read => some (.read workspace.source.read.1)
  | _ => none

namespace Exchange

/-- What a read delivered, or why it failed. -/
def result? : Exchange → Option (Except Fault UInt8)
  | read result => some result
  | write .. => none

/-- The character of a write that the sink did not refuse. -/
def character? : Exchange → Option Char
  | write character none => some character
  | _ => none

/-- Whether this is a write, failed ones included. -/
def isWrite : Exchange → Bool
  | read _ => false
  | write .. => true

/-- The results of all reads, in order. -/
def results (exchanged : List Exchange) : List (Except Fault UInt8) :=
  exchanged.filterMap result?

/-- The characters that came into the sink, in order. -/
def characters (exchanged : List Exchange) : List Char :=
  exchanged.filterMap character?

/-- The number of writes, failed ones included. -/
def writes (exchanged : List Exchange) : Nat :=
  exchanged.countP isWrite

@[simp]
theorem results_nil : results [] = [] := rfl

@[simp]
theorem characters_nil : characters [] = [] := rfl

@[simp]
theorem results_append (first second : List Exchange) :
    results (first ++ second) = results first ++ results second :=
  List.filterMap_append

@[simp]
theorem characters_append (first second : List Exchange) :
    characters (first ++ second) = characters first ++ characters second :=
  List.filterMap_append

end Exchange

namespace Sink

/-- The sink to which the writes among these exchanges were made. -/
def took (exchanged : List Exchange) : Sink → Sink
  | ⟨answers, flushing, written, writes, flushes⟩ =>
    ⟨answers, flushing, (Exchange.characters exchanged).foldl Array.push written,
      writes + Exchange.writes exchanged, flushes⟩

@[simp]
theorem took_nil (sink : Sink) : sink.took [] = sink := rfl

@[simp]
theorem took_read (result : Except Fault UInt8) (sink : Sink) :
    sink.took [.read result] = sink := rfl

@[simp]
theorem took_write (character : Char) (sink : Sink) :
    sink.took [.write character none] = sink.take [character] := rfl

@[simp]
theorem took_refused (character : Char) (fault : Fault) (sink : Sink) :
    sink.took [.write character (some fault)] = sink.refuse := rfl

theorem took_append (first second : List Exchange) (sink : Sink) :
    sink.took (first ++ second) = (sink.took first).took second := by
  simp only [took, Exchange.characters_append, List.foldl_append, Exchange.writes,
    List.countP_append, Nat.add_assoc]

/-- The characters that came in stand behind those that were there. -/
theorem toList_written_took (exchanged : List Exchange) (sink : Sink) :
    (sink.took exchanged).written.toList =
      sink.written.toList ++ Exchange.characters exchanged := by
  simp [took]

/-- It makes no difference whether writes are made before a flush or behind it. -/
theorem flush_took (exchanged : List Exchange) (sink : Sink) :
    (sink.took exchanged).flush = (sink.flush.1, sink.flush.2.took exchanged) := by
  obtain ⟨answers, flushing, written, writes, flushes⟩ := sink
  cases flushing <;> rfl

end Sink

end RingTape
