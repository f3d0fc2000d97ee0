import DeltaSignature.Checksum.Sha256

/-!
# Strong sums

A signature keeps a leading part of a digest for every block.  `StrongSum` is a family of such
leading parts: all lengths that a caller may ask for are cut from one digest of the block.
-/

namespace DeltaSignature

/-- The longest strong sum that any signature carries. -/
def maxStrongLength : Nat :=
  32

/-- A digest with the longest part of it that may be kept.  It covers every length that both the
family and a signature allow. -/
structure StrongSum where
  maxLength : Nat
  digest : ByteArray → ByteArray
  le_size_digest : ∀ block, min maxLength maxStrongLength ≤ (digest block).size

namespace StrongSum

/-- The first `length` bytes of the digest of a block. -/
def sum (strong : StrongSum) (length : Nat) (block : ByteArray) : ByteArray :=
  (strong.digest block).extract 0 length

theorem size_sum (strong : StrongSum) {length : Nat} (block : ByteArray)
    (fits : length ≤ min strong.maxLength maxStrongLength) :
    (strong.sum length block).size = length := by
  have covered := strong.le_size_digest block
  simp only [sum, ByteArray.size_extract]
  omega

/-- Leading parts of the SHA-256 digest. -/
def sha256 : StrongSum where
  maxLength := 32
  digest := Sha256.digest
  le_size_digest block := by simp [maxStrongLength]

end StrongSum

end DeltaSignature
