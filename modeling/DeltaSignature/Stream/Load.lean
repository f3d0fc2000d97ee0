import DeltaSignature.Stream.Decoder
import DeltaSignature.Transfer.Reader

/-!
# Loading a signature from a reader

The reader is asked for large pieces; each piece goes to a decoder as it comes, and the end of the
reader is the end of the stream.
-/

namespace DeltaSignature

namespace Load

def pieceLength : Nat :=
  64 * 1024

/-- The figures of a signature that was loaded.  Interrupted reads are not counted. -/
structure Stats where
  streamBytes : Nat
  blocks : Nat
  tag : UInt32
  blockLength : Nat
  strongLength : Nat
  reads : Nat
deriving DecidableEq, Repr

/-- What is left when loading has stopped. -/
structure Result (σ : Type) where
  outcome : Except LoadError (Index × Stats)
  decoder : Decoder
  reader : σ

/-- The signature in a decoder that has come to the end of the stream. -/
def signature? (decoder : Decoder) (reads : Nat) : Except LoadError (Index × Stats) := do
  let index ← decoder.signature?
  return (index, {
    streamBytes := decoder.bytesIn
    blocks := decoder.blocks
    tag := index.params.tag
    blockLength := index.params.blockLength
    strongLength := index.params.strongLength
    reads })

/-- Hands one piece, or the end of the stream for an empty one, to a decoder. -/
def feed (decoder : Decoder) (piece : ByteArray) : Except LoadError Decoder.Progress × Decoder :=
  if piece.isEmpty then decoder.finish.run
  else
    match decoder.push piece with
    | (.ok (), decoder) => decoder.run
    | (.error cause, decoder) => (.error cause, decoder)

/-- Only the bytes of a stream, not its end, can make a decoder ask for more. -/
theorem nonempty_of_feed {decoder next : Decoder} {piece : ByteArray} {progress : Decoder.Progress}
    (fed : feed decoder piece = (.ok progress, next)) (goesOn : progress ≠ .done) :
    ¬ piece.isEmpty = true := by
  intro nothing
  rw [feed, if_pos nothing] at fed
  exact goesOn (Decoder.run_of_ended rfl fed)

variable {σ : Type} [ByteReader σ]

/-- Reads on until the decoder has come to the end of the stream or to an error. -/
def loop (decoder : Decoder) (reads : Nat) (reader : σ) : Result σ :=
  match _ : ByteReader.read reader pieceLength with
  | (.failed failure, reader) => ⟨.error (.io failure), decoder, reader⟩
  | (.interrupted, reader) => loop decoder reads reader
  | (.delivered piece, reader) =>
    match _ : feed decoder piece with
    | (.error cause, decoder) => ⟨.error cause, decoder, reader⟩
    | (.ok .done, decoder) => ⟨signature? decoder (reads + 1), decoder, reader⟩
    | (.ok .needMoreInput, decoder) | (.ok .inProgress, decoder) =>
      loop decoder (reads + 1) reader
termination_by ByteReader.left reader
decreasing_by
  · exact ByteReader.left_lt_of_interrupted ‹_›
  · exact ByteReader.left_lt_of_delivered ‹_› (nonempty_of_feed ‹_› (by decide))
  · exact ByteReader.left_lt_of_delivered ‹_› (nonempty_of_feed ‹_› (by decide))

end Load

/-- Loads the signature that a reader delivers; the size of the stream is declared if known. -/
def load {σ : Type} [ByteReader σ] (reader : σ) (sizeHint : Option Nat) : Load.Result σ :=
  Load.loop (.new sizeHint) 0 reader

end DeltaSignature
