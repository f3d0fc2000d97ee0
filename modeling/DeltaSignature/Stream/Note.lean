import DeltaSignature.Log
import DeltaSignature.Stream.Malformed

/-!
# What a decoder notes

While it works, a decoder notes every part of the stream that it has read and every field that it
refuses.  Events and log lines are two views of these notes.
-/

namespace DeltaSignature

namespace Decoder

/-- Progress through a stream.  When the header is complete, room is made for a number of blocks. -/
inductive Event where
  | tag (tag : UInt32)
  | blockLength (length : Nat)
  | strongLength (length : Nat)
  | indexReady (hint : Nat)
  | block (block : Block)
  | done (blocks : Nat)
deriving DecidableEq

def Event.line : Event → Log.Line
  | tag word => ⟨.debug, s!"got signature magic 0x{Hex.ofWord word}"⟩
  | blockLength length => ⟨.debug, s!"got block length {length}"⟩
  | strongLength length => ⟨.debug, s!"got strong sum length {length}"⟩
  | indexReady hint => ⟨.debug, s!"signature index ready, capacity hint {hint} blocks"⟩
  | block ⟨number, weak, strong⟩ =>
    ⟨.trace,
      s!"got block {number}: weak=0x{Hex.shortOfWord weak}, strong={Hex.ofBytes strong}"⟩
  | done blocks => ⟨.debug, s!"signature complete, {blocks} blocks"⟩

inductive Note where
  | event (progress : Event)
  | defect (cause : Malformed)
deriving DecidableEq

namespace Note

def event? : Note → Option Event
  | event progress => some progress
  | defect _ => none

def line : Note → Log.Line
  | event progress => progress.line
  | defect cause@(.truncated ..) => ⟨.error, s!"signature {cause.message}"⟩
  | defect cause => ⟨.error, cause.message⟩

end Note

end Decoder

end DeltaSignature
