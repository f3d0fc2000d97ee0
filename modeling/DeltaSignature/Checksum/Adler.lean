/-!
# Adler-32

The weak sum of a block.  Two running sums modulo the largest prime below `2 ^ 16`: the first adds
the bytes to one, the second adds up the values of the first.
-/

namespace DeltaSignature

namespace Adler

/-- The largest prime below `2 ^ 16`. -/
def modulus : UInt32 :=
  65521

/-- One more than the sum of the bytes, and the sum of all values that this has taken. -/
structure Sums where
  bytes : UInt32 := 1
  totals : UInt32 := 0

def Sums.add (sums : Sums) (byte : UInt8) : Sums :=
  let bytes := (sums.bytes + byte.toUInt32) % modulus
  { bytes, totals := (sums.totals + bytes) % modulus }

/-- The checksum of a block: the second sum in the upper half, the first in the lower. -/
def sum (block : ByteArray) : UInt32 :=
  let sums := block.foldl Sums.add {}
  sums.totals <<< 16 ||| sums.bytes

end Adler

end DeltaSignature
