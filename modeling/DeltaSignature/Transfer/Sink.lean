import DeltaSignature.Transfer.Failure

/-!
# Sinks

A `ByteSink` takes bytes in order.  Besides memory, which takes everything, there is a sink with
limited room, which keeps the leading part that fits of a piece that does not, and a sink that
gathers small pieces before it hands them on.
-/

namespace DeltaSignature

/-- Something that takes bytes: all of a piece, or as much of it as is taken before a failure. -/
class ByteSink (τ : Type) where
  write : τ → ByteArray → Except IoFailure Unit × τ
  flush : τ → Except IoFailure Unit × τ

/-- Writes pieces one after the other until one fails. -/
def ByteSink.writeAll {τ : Type} [ByteSink τ] (sink : τ) : List ByteArray →
    Except IoFailure Unit × τ
  | [] => (.ok (), sink)
  | piece :: pieces =>
    match ByteSink.write sink piece with
    | (.ok (), sink) => ByteSink.writeAll sink pieces
    | (.error failure, sink) => (.error failure, sink)

instance : ByteSink ByteArray where
  write written piece := (.ok (), written ++ piece)
  flush written := (.ok (), written)

/-- A sink that may take a limited number of bytes in all and may refuse to flush. -/
structure BoundedSink where
  written : ByteArray := .empty
  limit : Option Nat := none
  full : IoFailure
  flushRefusal : Option IoFailure := none

namespace BoundedSink

/-- How many bytes of a piece still fit. -/
def fitting (sink : BoundedSink) (piece : ByteArray) : Nat :=
  match sink.limit with
  | none => piece.size
  | some limit => min piece.size (limit - sink.written.size)

/-- Takes the part of a piece that fits, and fails if that is not all of it. -/
def write (sink : BoundedSink) (piece : ByteArray) : Except IoFailure Unit × BoundedSink :=
  let count := sink.fitting piece
  let outcome := if count < piece.size then .error sink.full else .ok ()
  (outcome, { sink with written := sink.written ++ piece.extract 0 count })

def flush (sink : BoundedSink) : Except IoFailure Unit × BoundedSink :=
  match sink.flushRefusal with
  | none => (.ok (), sink)
  | some failure => (.error failure, sink)

instance : ByteSink BoundedSink where
  write := write
  flush := flush

end BoundedSink

/-- A sink in front of another one that passes on large pieces only; small ones wait. -/
structure BufferedSink where
  inner : BoundedSink
  waiting : ByteArray := .empty

namespace BufferedSink

/-- The number of bytes that may wait. -/
def capacity : Nat :=
  64 * 1024

/-- Passes on all waiting bytes; those that the sink behind does not take keep waiting. -/
def drain (sink : BufferedSink) : Except IoFailure Unit × BufferedSink :=
  let before := sink.inner.written.size
  let answer := sink.inner.write sink.waiting
  let taken := answer.2.written.size - before
  (answer.1, { inner := answer.2, waiting := sink.waiting.extract taken sink.waiting.size })

/-- Takes a piece that fits into the buffer beside the waiting bytes, or that would fill the buffer
alone; the latter is passed on at once. -/
def accept (sink : BufferedSink) (piece : ByteArray) : Except IoFailure Unit × BufferedSink :=
  if piece.size < capacity then (.ok (), { sink with waiting := sink.waiting ++ piece })
  else
    let answer := sink.inner.write piece
    (answer.1, { sink with inner := answer.2 })

/-- Takes a piece.  Waiting bytes are passed on first if the piece does not fit beside them. -/
def write (sink : BufferedSink) (piece : ByteArray) : Except IoFailure Unit × BufferedSink :=
  if sink.waiting.size + piece.size ≤ capacity then sink.accept piece
  else
    match sink.drain with
    | (.error failure, sink) => (.error failure, sink)
    | (.ok (), sink) => sink.accept piece

/-- Passes on all waiting bytes and flushes the sink behind. -/
def flush (sink : BufferedSink) : Except IoFailure Unit × BufferedSink :=
  match sink.drain with
  | (.error failure, sink) => (.error failure, sink)
  | (.ok (), sink) =>
    let answer := sink.inner.flush
    (answer.1, { sink with inner := answer.2 })

/-- What has reached the sink behind once this one is given up: waiting bytes are passed on as far
as they are taken, and a failure to do so goes unnoticed. -/
def close (sink : BufferedSink) : ByteArray :=
  sink.drain.2.inner.written

instance : ByteSink BufferedSink where
  write := write
  flush := flush

end BufferedSink

end DeltaSignature
