import DeltaSignature.Stream.Queue
import DeltaSignature.Index
import DeltaSignature.Transfer.Sink

/-!
# Writing a stream

A writer puts the header into its sink at once and then one record per block, field by field.  It
counts whole records only; part of a record may have reached the sink when a write fails.
-/

namespace DeltaSignature

/-- The three fields at the start of a signature stream. -/
def Params.headerFields (params : Params) : List ByteArray :=
  [BigEndian.encode params.tag, BigEndian.encode (UInt32.ofNat params.blockLength),
    BigEndian.encode (UInt32.ofNat params.strongLength)]

/-- The three words at the start of a signature stream. -/
def Params.header (params : Params) : ByteArray :=
  BigEndian.encode params.tag ++ BigEndian.encode (UInt32.ofNat params.blockLength)
    ++ BigEndian.encode (UInt32.ofNat params.strongLength)

@[simp]
theorem Params.size_header (params : Params) : params.header.size = headerLength := by
  simp [header, headerLength]

/-- The two fields of a record. -/
def recordFields (weak : UInt32) (strong : ByteArray) : List ByteArray :=
  [BigEndian.encode weak, strong]

def recordBytes (weak : UInt32) (strong : ByteArray) : ByteArray :=
  BigEndian.encode weak ++ strong

@[simp]
theorem size_recordBytes (weak : UInt32) (strong : ByteArray) :
    (recordBytes weak strong).size = 4 + strong.size := by
  simp [recordBytes]

/-- A signature stream on its way into a sink; `bytesOut` is the size of the header and of the
records written in full. -/
structure Writer (τ : Type) where
  sink : τ
  params : Params
  blocks : Nat := 0
  bytesOut : Nat := Params.headerLength

namespace Writer

variable {τ : Type} [ByteSink τ]

/-- Writes the header.  A failure leaves the sink with the part that it took. -/
def start (sink : τ) (params : Params) : Except (IoFailure × τ) (Writer τ) :=
  match ByteSink.writeAll sink params.headerFields with
  | (.ok (), sink) => .ok { sink, params }
  | (.error failure, sink) => .error (failure, sink)

/-- The failure of a record whose strong sum has the wrong length. -/
def mismatch (params : Params) (strong : ByteArray) : IoFailure :=
  ⟨.invalidInput,
    s!"strong sum is {strong.size} bytes, signature declares {params.strongLength}"⟩

def add (writer : Writer τ) (weak : UInt32) (strong : ByteArray) :
    Except IoFailure Unit × Writer τ :=
  match writer with
  | ⟨sink, params, blocks, bytesOut⟩ =>
    if strong.size = params.strongLength then
      match ByteSink.writeAll sink (recordFields weak strong) with
      | (.ok (), sink) => (.ok (), ⟨sink, params, blocks + 1, bytesOut + params.recordLength⟩)
      | (.error failure, sink) => (.error failure, ⟨sink, params, blocks, bytesOut⟩)
    else
      (.error (mismatch params strong), ⟨sink, params, blocks, bytesOut⟩)

/-- Flushes the sink and gives it back. -/
def finish (writer : Writer τ) : Except IoFailure Unit × τ :=
  ByteSink.flush writer.sink

/-- Writes records until one fails. -/
def addAll (writer : Writer τ) : List (UInt32 × ByteArray) → Except IoFailure Unit × Writer τ
  | [] => (.ok (), writer)
  | (weak, strong) :: records =>
    match writer.add weak strong with
    | (.ok (), writer) => writer.addAll records
    | (.error failure, writer) => (.error failure, writer)

end Writer

def encodeRecords? (params : Params) (records : List (UInt32 × ByteArray)) :
    Except IoFailure ByteArray := do
  let writer ← (Writer.start ByteArray.empty params).mapError Prod.fst
  let (written, writer) := writer.addAll records
  written
  let (flushed, stream) := writer.finish
  flushed
  return stream

def Index.encode? (index : Index) : Except IoFailure ByteArray :=
  encodeRecords? index.params (index.blocks.map fun block => (block.weak, block.strong))

end DeltaSignature
