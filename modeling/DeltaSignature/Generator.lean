import DeltaSignature.Checksum.Adler
import DeltaSignature.SlidingWindow.Basic
import DeltaSignature.Stream.Writer

/-!
# Signing a basis

A generator reads a basis block by block through a sliding window, so the basis may be unable to
move back, and writes one record per block.  The last block may be short.
-/

namespace DeltaSignature

/-- The header fields that a signature is to have. -/
structure Layout where
  tag : UInt32
  blockLength : Nat
  strongLength : Nat
deriving DecidableEq, Repr

/-- Blocks of 2 KiB, Adler-32 and whole SHA-256 digests. -/
def Layout.standard : Layout :=
  ⟨Format.adler32Sha256.tag, 2048, 32⟩

inductive GenerateError where
  | window (cause : WindowError)
  | io (failure : IoFailure)
  | params (cause : ParamsError)
  | digestTooShort (length limit : Nat)
deriving DecidableEq, Repr

def GenerateError.message : GenerateError → String
  | window cause => cause.message
  | io failure => s!"I/O error: {failure.text}"
  | params cause => s!"invalid signature parameters: {cause.message}"
  | digestTooShort length limit => s!"strong sum length {length} exceeds the {limit}-byte digest"

/-- A pair of checksums with the header fields to go with them. -/
structure Generator where
  params : Params
  weak : ByteArray → UInt32
  strong : StrongSum
  strongLength_le : params.strongLength ≤ min strong.maxLength maxStrongLength

namespace Generator

/-- The generator for a layout.  Header fields that no signature may have are reported before a
strong sum that is too short. -/
def ofLayout? (layout : Layout) (weak : ByteArray → UInt32) (strong : StrongSum) :
    Except GenerateError Generator :=
  match Params.ofHeader? layout.tag layout.blockLength layout.strongLength with
  | .error cause => .error (.params cause)
  | .ok params =>
    if fits : params.strongLength ≤ min strong.maxLength maxStrongLength then
      .ok ⟨params, weak, strong, fits⟩
    else
      .error (.digestTooShort params.strongLength (min strong.maxLength maxStrongLength))

structure Stats where
  blocks : Nat
  basisBytes : Nat
  streamBytes : Nat
  window : SlidingWindow.Stats
deriving DecidableEq, Repr

def Stats.line (stats : Stats) : Log.Line :=
  ⟨.debug, s!"generated signature: {stats.blocks} blocks over {stats.basisBytes} bytes"⟩

/-- What signing comes to.  The figures are complete if all records were written, whether or not the
sink was flushed. -/
structure Result (σ τ : Type) where
  outcome : Except GenerateError Stats
  complete : Option Stats
  window : SlidingWindow σ
  sink : τ

/-- The log of the window, and the figures at the end if all records were written. -/
def Result.log {σ τ : Type} (result : Result σ τ) : List Log.Line :=
  result.window.log ++ (result.complete.map Stats.line).toList

variable {σ τ : Type} [ByteSource σ] [ByteSink τ]

/-- Writes the records of the blocks from `offset` on, and tells where the basis ends. -/
def signFrom (generator : Generator) (writer : Writer τ) (window : SlidingWindow σ) (offset : Nat) :
    Except GenerateError Nat × Writer τ × SlidingWindow σ :=
  match _ : window.request offset generator.params.blockLength with
  | (.error cause, window) => (.error (.window cause), writer, window)
  | (.ok ⟨_, block, ended⟩, window) =>
    if block.size = 0 then (.ok offset, writer, window)
    else
      match writer.add (generator.weak block)
          (generator.strong.sum generator.params.strongLength block) with
      | (.error failure, writer) => (.error (.io failure), writer, window)
      | (.ok (), writer) =>
        if ended then (.ok (offset + block.size), writer, window)
        else signFrom generator writer window (offset + block.size)
termination_by 0x1_0000_0000_0000_0000 - offset
decreasing_by
  have := SlidingWindow.lt_of_request_eq_ok ‹_›
  omega

/-- Writes the signature of a basis, from its start to its end, into a sink. -/
def generate (generator : Generator) (window : SlidingWindow σ) (sink : τ) : Result σ τ :=
  match Writer.start sink generator.params with
  | .error (failure, sink) => ⟨.error (.io failure), none, window, sink⟩
  | .ok writer =>
    match generator.signFrom writer window 0 with
    | (.error cause, writer, window) => ⟨.error cause, none, window, writer.sink⟩
    | (.ok basisBytes, writer, window) =>
      let stats : Stats :=
        { blocks := writer.blocks, basisBytes, streamBytes := writer.bytesOut,
          window := window.stats }
      match writer.finish with
      | (.error failure, sink) => ⟨.error (.io failure), some stats, window, sink⟩
      | (.ok (), sink) => ⟨.ok stats, some stats, window, sink⟩

end Generator

/-- Writes the Adler-32 and SHA-256 signature of a reader's bytes into a sink.  Nothing is read or
written if no signature may have this layout. -/
def sign {σ τ : Type} [ByteReader σ] [ByteSink τ] (layout : Layout) (memory : Memory) (reader : σ)
    (sink : τ) : Generator.Result (Forward σ) τ :=
  let window : SlidingWindow (Forward σ) := { source := ⟨reader⟩, limits := .standard, memory }
  match Generator.ofLayout? layout Adler.sum .sha256 with
  | .error cause => ⟨.error cause, none, window, sink⟩
  | .ok generator => generator.generate window sink

end DeltaSignature
