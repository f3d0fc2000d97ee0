import DeltaSignature.Index
import DeltaSignature.Transfer.Failure

/-!
# What is wrong with a stream

A signature stream is a header of three words and a record per block.  This file names the fields,
the ways in which a stream can fail to be a signature, and the reasons for which loading stops.
-/

namespace DeltaSignature

inductive Field where
  | tag
  | blockLength
  | strongLength
  | weakSum
  | strongSum
deriving DecidableEq, Repr

def Field.name : Field → String
  | tag => "magic"
  | blockLength => "block length"
  | strongLength => "strong sum length"
  | weakSum => "weak sum"
  | strongSum => "strong sum"

/-- Why a stream is not a signature.  The block length, read as a signed word, is not positive; the
strong sum length is negative or longer than any digest; a field is cut short; or the header fields
do not agree with each other. -/
inductive Malformed where
  | blockLength (value : Int)
  | strongLength (value : Int)
  | truncated (field : Field) (held needed : Nat)
  | params (cause : ParamsError)
deriving DecidableEq, Repr

def Malformed.message : Malformed → String
  | blockLength value => s!"block length of {value} is bogus"
  | strongLength value => s!"strong sum length {value} is implausible"
  | truncated field held needed =>
    s!"input ended inside {field.name}: have {held} of {needed} bytes"
  | params cause => cause.message

inductive LoadError where
  | malformed (defect : Malformed)
  | outOfMemory (cause : AllocationFailure)
  | terminated
  | incomplete
  | io (failure : IoFailure)
  | index (cause : PushError)
deriving DecidableEq, Repr

namespace LoadError

/-- A refused block, with lack of memory told apart from a block of the wrong shape.  As for a
block, room for the bytes of a piece is taken to be there, so no decoder runs out of memory. -/
def ofPushError : PushError → LoadError
  | .outOfMemory cause => outOfMemory cause
  | .strongLength expected got => index (.strongLength expected got)

/-- Whether the stream itself is at fault. -/
def isMalformed : LoadError → Bool
  | malformed _ => true
  | _ => false

def message : LoadError → String
  | malformed defect => s!"malformed signature: {defect.message}"
  | outOfMemory cause => s!"out of memory while buffering signature: {cause.message}"
  | terminated => "signature decoder already finished or failed"
  | incomplete => "signature decoding has not finished"
  | io failure => s!"I/O error: {failure.text}"
  | index cause => s!"cannot add block to index: {cause.message}"

end LoadError

end DeltaSignature
