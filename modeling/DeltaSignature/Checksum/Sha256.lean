import DeltaSignature.Bytes

/-!
# SHA-256

The strong sum of a block is a leading part of this digest.  The message is padded to whole
64-byte pieces, each piece is expanded to a schedule of 64 words, and each word takes the eight
words of the state through one round.
-/

namespace DeltaSignature

namespace Sha256

/-- The eight words that are carried from piece to piece. -/
structure State where
  a : UInt32
  b : UInt32
  c : UInt32
  d : UInt32
  e : UInt32
  f : UInt32
  g : UInt32
  h : UInt32

/-- The fractional parts of the square roots of the first eight primes. -/
def initial : State :=
  ⟨0x6a09e667, 0xbb67ae85, 0x3c6ef372, 0xa54ff53a, 0x510e527f, 0x9b05688c, 0x1f83d9ab, 0x5be0cd19⟩

/-- The fractional parts of the cube roots of the first 64 primes, one per round. -/
def roundConstants : Array UInt32 := #[
  0x428a2f98, 0x71374491, 0xb5c0fbcf, 0xe9b5dba5, 0x3956c25b, 0x59f111f1, 0x923f82a4, 0xab1c5ed5,
  0xd807aa98, 0x12835b01, 0x243185be, 0x550c7dc3, 0x72be5d74, 0x80deb1fe, 0x9bdc06a7, 0xc19bf174,
  0xe49b69c1, 0xefbe4786, 0x0fc19dc6, 0x240ca1cc, 0x2de92c6f, 0x4a7484aa, 0x5cb0a9dc, 0x76f988da,
  0x983e5152, 0xa831c66d, 0xb00327c8, 0xbf597fc7, 0xc6e00bf3, 0xd5a79147, 0x06ca6351, 0x14292967,
  0x27b70a85, 0x2e1b2138, 0x4d2c6dfc, 0x53380d13, 0x650a7354, 0x766a0abb, 0x81c2c92e, 0x92722c85,
  0xa2bfe8a1, 0xa81a664b, 0xc24b8b70, 0xc76c51a3, 0xd192e819, 0xd6990624, 0xf40e3585, 0x106aa070,
  0x19a4c116, 0x1e376c08, 0x2748774c, 0x34b0bcb5, 0x391c0cb3, 0x4ed8aa4a, 0x5b9cca4f, 0x682e6ff3,
  0x748f82ee, 0x78a5636f, 0x84c87814, 0x8cc70208, 0x90befffa, 0xa4506ceb, 0xbef9a3f7, 0xc67178f2]

/-- A word turned right by a number of bits between 1 and 31. -/
def rotateRight (word bits : UInt32) : UInt32 :=
  word >>> bits ||| word <<< (32 - bits)

/-- One round: every word moves on by one place, and two of them take in a word of the schedule. -/
def State.round (state : State) (constant word : UInt32) : State :=
  let mixE := rotateRight state.e 6 ^^^ rotateRight state.e 11 ^^^ rotateRight state.e 25
  let choice := (state.e &&& state.f) ^^^ (~~~state.e &&& state.g)
  let inward := state.h + mixE + choice + constant + word
  let mixA := rotateRight state.a 2 ^^^ rotateRight state.a 13 ^^^ rotateRight state.a 22
  let majority := (state.a &&& state.b) ^^^ (state.a &&& state.c) ^^^ (state.b &&& state.c)
  { a := inward + (mixA + majority), b := state.a, c := state.b, d := state.c,
    e := state.d + inward, f := state.e, g := state.f, h := state.g }

def State.add (left right : State) : State :=
  { a := left.a + right.a, b := left.b + right.b, c := left.c + right.c, d := left.d + right.d,
    e := left.e + right.e, f := left.f + right.f, g := left.g + right.g, h := left.h + right.h }

/-- One more word of a schedule, from the words two, seven, fifteen and sixteen places back. -/
def extendSchedule (words : Array UInt32) : Array UInt32 :=
  let back (places : Nat) : UInt32 := words.getD (words.size - places) 0
  let old := back 15
  let new := back 2
  let mixOld := rotateRight old 7 ^^^ rotateRight old 18 ^^^ old >>> 3
  let mixNew := rotateRight new 17 ^^^ rotateRight new 19 ^^^ new >>> 10
  words.push (back 16 + mixOld + back 7 + mixNew)

/-- The 64 words of the piece that starts at `start`. -/
def schedule (message : ByteArray) (start : Nat) : Array UInt32 :=
  let given := (Array.range 16).map fun word =>
    BigEndian.decode (message.extract (start + 4 * word) (start + 4 * word + 4))
  Nat.fold 48 (fun _ _ words => extendSchedule words) given

/-- The state after the piece that starts at `start`. -/
def State.compress (state : State) (message : ByteArray) (start : Nat) : State :=
  let rounds := roundConstants.zip (schedule message start)
  state.add (rounds.foldl (fun state (constant, word) => state.round constant word) state)

/-- The message, a one bit, the fewest zero bits that fill a piece, and the length in bits. -/
def pad (message : ByteArray) : ByteArray :=
  let zeros := (119 - message.size % 64) % 64
  let bits := 8 * message.size
  message.push 0x80 ++ ⟨Array.replicate zeros 0⟩
    ++ BigEndian.encode (UInt32.ofNat (bits / 0x1_0000_0000))
    ++ BigEndian.encode (UInt32.ofNat bits)

def State.bytes (state : State) : ByteArray :=
  BigEndian.encode state.a ++ BigEndian.encode state.b ++ BigEndian.encode state.c
    ++ BigEndian.encode state.d ++ BigEndian.encode state.e ++ BigEndian.encode state.f
    ++ BigEndian.encode state.g ++ BigEndian.encode state.h

@[simp]
theorem State.size_bytes (state : State) : state.bytes.size = 32 := by
  simp [State.bytes]

def digest (message : ByteArray) : ByteArray :=
  let padded := pad message
  ((padded.size / 64).fold (fun piece _ state => state.compress padded (64 * piece)) initial).bytes

@[simp]
theorem size_digest (message : ByteArray) : (digest message).size = 32 := by
  simp [digest]

end Sha256

end DeltaSignature
