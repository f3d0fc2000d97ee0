import DeltaSignature.Checksum.Strong

/-!
# Signature formats

The first word of a signature stream is a tag that names the two checksum families.  A reader
treats the tag as opaque; a known tag only narrows the strong sum length.
-/

namespace DeltaSignature

/-- The checksum families with a tag of their own. -/
inductive Format where
  | md4
  | blake2
  | rabinKarpMd4
  | rabinKarpBlake2
  | adler32Sha256
deriving DecidableEq, Repr

namespace Format

def tag : Format → UInt32
  | md4 => 0x72730136
  | blake2 => 0x72730137
  | rabinKarpMd4 => 0x72730146
  | rabinKarpBlake2 => 0x72730147
  | adler32Sha256 => 0x6f787301

/-- The format that a word names, if it names one. -/
def ofTag? (word : UInt32) : Option Format :=
  [md4, blake2, rabinKarpMd4, rabinKarpBlake2, adler32Sha256].find? (·.tag == word)

def maxStrongLength : Format → Nat
  | md4 | rabinKarpMd4 => 16
  | blake2 | rabinKarpBlake2 | adler32Sha256 => 32

def name : Format → String
  | md4 => "md4"
  | blake2 => "blake2"
  | rabinKarpMd4 => "rabinkarp-md4"
  | rabinKarpBlake2 => "rabinkarp-blake2"
  | adler32Sha256 => "adler32-sha256"

/-- The name of the format that a word names; all other words share one name. -/
def nameOfTag (word : UInt32) : String :=
  ((ofTag? word).map name).getD "unknown"

/-- The longest strong sum that a stream with this tag may carry. -/
def strongLimit (word : UInt32) : Nat :=
  ((ofTag? word).map maxStrongLength).getD DeltaSignature.maxStrongLength

theorem strongLimit_le (word : UInt32) : strongLimit word ≤ DeltaSignature.maxStrongLength := by
  simp only [strongLimit]
  cases ofTag? word with
  | none => exact Nat.le_refl _
  | some format => cases format <;> decide

end Format

end DeltaSignature
