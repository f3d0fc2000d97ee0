import DeltaSignature.Format

/-!
# Signature parameters

The three header fields of a signature.  `Params` holds a tag, a block length and a strong sum
length that agree with each other; `Params.ofHeader?` says which field is at fault otherwise.
-/

namespace DeltaSignature

/-- Why header fields, or room for an index, are refused. -/
inductive ParamsError where
  | blockLength
  | strongLength (length limit : Nat)
  | capacity (hint : Nat)
deriving DecidableEq, Repr

def ParamsError.message : ParamsError → String
  | .blockLength => "block length must be between 1 and 2^31-1"
  | .strongLength length limit => s!"strong sum length {length} exceeds {limit} for this format"
  | .capacity hint => s!"cannot reserve room for {hint} blocks"

/-- Header fields that a signature may have. -/
structure Params where
  tag : UInt32
  blockLength : Nat
  strongLength : Nat
  blockLength_pos : 0 < blockLength
  blockLength_lt : blockLength < 0x8000_0000
  strongLength_le : strongLength ≤ Format.strongLimit tag
deriving DecidableEq, Repr

namespace Params

/-- The parameters with these header fields.  A bad block length is reported before a bad strong
sum length. -/
def ofHeader? (tag : UInt32) (blockLength strongLength : Nat) : Except ParamsError Params :=
  if blockFits : 0 < blockLength ∧ blockLength < 0x8000_0000 then
    if strongFits : strongLength ≤ Format.strongLimit tag then
      .ok ⟨tag, blockLength, strongLength, blockFits.1, blockFits.2, strongFits⟩
    else
      .error (.strongLength strongLength (Format.strongLimit tag))
  else
    .error .blockLength

theorem strongLength_le_max (params : Params) : params.strongLength ≤ maxStrongLength :=
  Nat.le_trans params.strongLength_le (Format.strongLimit_le params.tag)

def recordLength (params : Params) : Nat :=
  4 + params.strongLength

def headerLength : Nat :=
  12

/-- The largest number of blocks for which room is made ahead of time. -/
def maxCapacityHint : Nat :=
  0x40_0000

/-- The number of blocks to expect in a stream of the declared size. -/
def capacityHint (params : Params) : Option Nat → Nat
  | none => 0
  | some total => min ((total - headerLength) / params.recordLength) maxCapacityHint

end Params

end DeltaSignature
