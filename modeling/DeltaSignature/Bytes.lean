/-!
# Words as bytes, and bytes as text

Numbers in a signature stream are 32-bit words, most significant byte first.  This file holds the
two directions of that layout, the signed reading of a word, and the hexadecimal text in which
sums and tags are shown.
-/

namespace DeltaSignature

instance bytesDecidableEq : DecidableEq ByteArray :=
  ByteArray.decEq

namespace BigEndian

/-- The four bytes of a word, most significant first. -/
def encode (word : UInt32) : ByteArray :=
  ⟨#[(word >>> 24).toUInt8, (word >>> 16).toUInt8, (word >>> 8).toUInt8, word.toUInt8]⟩

@[simp]
theorem size_encode (word : UInt32) : (encode word).size = 4 :=
  rfl

/-- One byte as a word, or zero past the end. -/
def byteAt (bytes : ByteArray) (position : Nat) : UInt32 :=
  if inside : position < bytes.size then bytes[position].toUInt32 else 0

/-- The word whose bytes are the first four of `bytes`. -/
def decode (bytes : ByteArray) : UInt32 :=
  byteAt bytes 0 <<< 24 ||| byteAt bytes 1 <<< 16 ||| byteAt bytes 2 <<< 8 ||| byteAt bytes 3

/-- A word read as a number in two's complement. -/
def signed (word : UInt32) : Int :=
  if word.toNat < 0x8000_0000 then word.toNat else word.toNat - 0x1_0000_0000

end BigEndian

namespace Hex

def digit (value : Nat) : Char :=
  if value < 10 then Char.ofNat ('0'.toNat + value) else Char.ofNat ('a'.toNat + (value - 10))

def ofBytes (bytes : ByteArray) : String :=
  bytes.data.foldl (fun text byte =>
    (text.push (digit (byte.toNat / 16))).push (digit (byte.toNat % 16))) ""

def ofWord (word : UInt32) : String :=
  ofBytes (BigEndian.encode word)

/-- The digits of a word without leading zeros; zero has one digit. -/
def shortOfWord (word : UInt32) : String :=
  String.ofList (Nat.toDigits 16 word.toNat)

end Hex

end DeltaSignature
