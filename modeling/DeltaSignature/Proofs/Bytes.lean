import DeltaSignature.Bytes
import Mathlib.Data.Nat.Bitwise

/-!
# Pieces of a byte string and words in it

Windows, queues and records are all pieces of one longer byte string.  This file says what it
means that a piece stands at a place, how such pieces are joined and cut, and that a word read
from a place is the word that was written there.
-/

namespace DeltaSignature

instance lawfulBEq_byteArray : LawfulBEq ByteArray where
  eq_of_beq same := ByteArray.ext (beq_iff_eq.1 same)
  rfl {bytes} := beq_self_eq_true bytes.data

/-- Only the part of a range that exists matters. -/
theorem extract_eq_of_min_eq {bytes : ByteArray} {start first second : Nat}
    (sameEnd : min first bytes.size = min second bytes.size) :
    bytes.extract start first = bytes.extract start second := by
  apply ByteArray.ext
  simp only [ByteArray.data_extract, Array.extract_eq_extract_right, ByteArray.size_data]
  omega

/-- What stands in a byte string stays there when bytes are added behind. -/
theorem extract_front_append {bytes : ByteArray} (rest : ByteArray) {start stop : Nat}
    (inside : stop ≤ bytes.size) :
    (bytes ++ rest).extract start stop = bytes.extract start stop := by
  have nothing : rest.extract (start - bytes.size) (stop - bytes.size) = .empty := by
    rw [ByteArray.extract_eq_empty_iff]
    omega
  rw [ByteArray.extract_append, nothing, ByteArray.append_empty]

theorem extract_back_append {bytes : ByteArray} (rest : ByteArray) {count : Nat}
    (inside : count ≤ bytes.size) :
    (bytes ++ rest).extract count (bytes ++ rest).size =
      bytes.extract count bytes.size ++ rest := by
  rw [ByteArray.extract_append, ByteArray.size_append, Nat.sub_eq_zero_of_le inside,
    Nat.add_sub_cancel_left, ByteArray.extract_zero_size]
  congr 1
  exact extract_eq_of_min_eq (by omega)

theorem extract_through_append (bytes rest : ByteArray) (count : Nat) :
    (bytes ++ rest).extract 0 (bytes.size + count) = bytes ++ rest.extract 0 count := by
  have kept : bytes.extract 0 (bytes.size + count) = bytes :=
    (extract_eq_of_min_eq (by omega)).trans ByteArray.extract_zero_size
  rw [ByteArray.extract_append, kept, Nat.zero_sub, Nat.add_sub_cancel_left]

theorem size_drop (bytes : ByteArray) (place : Nat) :
    (bytes.extract place bytes.size).size = bytes.size - place := by
  rw [ByteArray.size_extract, Nat.min_self]

theorem size_take {bytes : ByteArray} {count : Nat} (inside : count ≤ bytes.size) :
    (bytes.extract 0 count).size = count := by
  rw [ByteArray.size_extract, Nat.min_eq_left inside, Nat.sub_zero]

theorem le_size_append {bytes : ByteArray} (rest : ByteArray) {count : Nat}
    (inside : count ≤ bytes.size) : count ≤ (bytes ++ rest).size := by
  rw [ByteArray.size_append]
  exact Nat.le_add_right_of_le inside

theorem drop_drop (bytes : ByteArray) (first second : Nat) :
    (bytes.extract first bytes.size).extract second (bytes.extract first bytes.size).size =
      bytes.extract (first + second) bytes.size := by
  rw [ByteArray.extract_extract, size_drop]
  exact extract_eq_of_min_eq (by omega)

theorem extract_append_size (bytes rest : ByteArray) :
    (bytes ++ rest).extract bytes.size (bytes.size + rest.size) = rest := by
  have whole := extract_back_append rest (Nat.le_refl bytes.size)
  rw [ByteArray.size_append] at whole
  simpa using whole

/-- Bytes that stand in a longer byte string at a given place. -/
def PartAt (content : ByteArray) (start : Nat) (bytes : ByteArray) : Prop :=
  bytes = content.extract start (start + bytes.size)

namespace PartAt

variable {content bytes first second : ByteArray} {start : Nat}

theorem empty (content : ByteArray) (start : Nat) : PartAt content start .empty := by
  simp [PartAt]

theorem extract_content (content : ByteArray) (start stop : Nat) :
    PartAt content start (content.extract start stop) := by
  apply ByteArray.ext
  simp only [ByteArray.size_extract, ByteArray.data_extract, Array.extract_eq_extract_right,
    ByteArray.size_data]
  omega

theorem append (front : PartAt content start first)
    (back : PartAt content (start + first.size) second) :
    PartAt content start (first ++ second) := by
  have joined := ByteArray.extract_eq_extract_append_extract (a := content)
    (i := start) (k := start + first.size + second.size) (start + first.size)
    (by omega) (by omega)
  rw [← front, ← back] at joined
  rw [PartAt, ByteArray.size_append, ← Nat.add_assoc]
  exact joined.symm

theorem extract (part : PartAt content start bytes) {skipped stop : Nat} (ordered : skipped ≤ stop)
    (inside : stop ≤ bytes.size) :
    PartAt content (start + skipped) (bytes.extract skipped stop) := by
  have cut : bytes.extract skipped stop = content.extract (start + skipped) (start + stop) := by
    rw [part, ByteArray.extract_extract]
    exact extract_eq_of_min_eq (by omega)
  have extent : (bytes.extract skipped stop).size = stop - skipped := by
    simp only [ByteArray.size_extract]
    omega
  rw [PartAt, extent, cut]
  exact extract_eq_of_min_eq (by omega)

/-- What is taken from the front of a part and what is left are parts next to each other. -/
theorem halves (part : PartAt content start bytes) (count : Nat) :
    PartAt content start (bytes.extract 0 count) ∧
      PartAt content (start + (bytes.extract 0 count).size) (bytes.extract count bytes.size) := by
  by_cases inside : count ≤ bytes.size
  · refine ⟨part.extract (Nat.zero_le _) inside, ?_⟩
    rw [size_take inside]
    exact part.extract inside (Nat.le_refl _)
  · have whole : bytes.extract 0 count = bytes :=
      (extract_eq_of_min_eq (by omega)).trans ByteArray.extract_zero_size
    have nothing : bytes.extract count bytes.size = .empty :=
      ByteArray.extract_eq_empty_iff.2 (by omega)
    rw [whole, nothing]
    exact ⟨part, .empty ..⟩

/-- A part of some content is one of all that the content is the beginning of. -/
theorem longer (part : PartAt content start bytes) (more : ByteArray) :
    PartAt (content ++ more) start bytes := by
  by_cases nothing : bytes.size = 0
  · rw [ByteArray.size_eq_zero_iff.1 nothing]
    exact .empty ..
  · have extent := congrArg ByteArray.size part
    rw [ByteArray.size_extract] at extent
    rw [PartAt, extract_front_append more (by omega)]
    exact part

/-- What is cut off in the middle of a piece is a leading part of the whole. -/
theorem cut (front rest : ByteArray) {piece : ByteArray} {taken : Nat} (cut : taken ≤ piece.size) :
    PartAt (front ++ piece ++ rest) 0 (front ++ piece.extract 0 taken) := by
  have whole : (front ++ piece).size = front.size + piece.size := ByteArray.size_append
  have extent : (front ++ piece.extract 0 taken).size = front.size + taken := by
    rw [ByteArray.size_append, size_take cut]
  rw [PartAt, extent, Nat.zero_add, extract_front_append rest (by omega), extract_through_append]

theorem size_le (part : PartAt content 0 bytes) : bytes.size ≤ content.size := by
  have extent := congrArg ByteArray.size part
  rw [ByteArray.size_extract] at extent
  omega

theorem exists_rest (part : PartAt content 0 bytes) : ∃ rest, content = bytes ++ rest := by
  have joined := ByteArray.extract_eq_extract_append_extract (a := content)
    (i := 0) (k := content.size) bytes.size (Nat.zero_le _) part.size_le
  rw [PartAt, Nat.zero_add] at part
  rw [ByteArray.extract_zero_size, ← part] at joined
  exact ⟨_, joined⟩

end PartAt

namespace BigEndian

/-- The word that stands at a place. -/
def wordAt (bytes : ByteArray) (place : Nat) : UInt32 :=
  decode (bytes.extract place (place + 4))

theorem byteAt_of_lt {bytes : ByteArray} {place : Nat} (inside : place < bytes.size) :
    byteAt bytes place = bytes[place].toUInt32 :=
  dif_pos inside

theorem byteAt_extract (bytes : ByteArray) {place count : Nat} (inside : place < count) :
    byteAt (bytes.extract 0 count) place = byteAt bytes place := by
  by_cases held : place < bytes.size
  · have kept : place < (bytes.extract 0 count).size := by
      simp only [ByteArray.size_extract]
      omega
    rw [byteAt_of_lt held, byteAt_of_lt kept, ByteArray.getElem_extract]
    simp only [Nat.zero_add]
  · have missing : ¬ place < (bytes.extract 0 count).size := by
      simp only [ByteArray.size_extract]
      omega
    rw [byteAt, dif_neg missing, byteAt, dif_neg held]

/-- Only the first four bytes of a byte string matter for the word that it starts with. -/
@[simp]
theorem decode_extract (bytes : ByteArray) : decode (bytes.extract 0 4) = decode bytes := by
  simp only [decode]
  repeat rw [byteAt_extract bytes (by decide)]

theorem decode_eq_of_extract_eq {first second : ByteArray}
    (same : first.extract 0 4 = second.extract 0 4) : decode first = decode second := by
  rw [← decode_extract first, same, decode_extract]

theorem decode_append {bytes : ByteArray} (rest : ByteArray) (complete : 4 ≤ bytes.size) :
    decode (bytes ++ rest) = decode bytes := by
  exact decode_eq_of_extract_eq (extract_front_append rest complete)

theorem wordAt_front (bytes : ByteArray) {place count : Nat} (inside : place + 4 ≤ count) :
    wordAt (bytes.extract 0 count) place = wordAt bytes place := by
  rw [wordAt, ByteArray.extract_extract, Nat.zero_add, Nat.zero_add, Nat.min_eq_left inside, wordAt]

theorem decode_drop (bytes : ByteArray) (place : Nat) :
    decode (bytes.extract place bytes.size) = wordAt bytes place := by
  apply decode_eq_of_extract_eq
  simp only [ByteArray.extract_extract]
  exact extract_eq_of_min_eq (by omega)

theorem signed_lt (word : UInt32) : signed word < 2 ^ 31 := by
  have := word.toNat_lt
  rw [signed]
  split <;> omega

theorem signed_eq_toNat {word : UInt32} (small : word.toNat < 2 ^ 31) :
    signed word = word.toNat :=
  if_pos small

theorem toNat_signed {word : UInt32} (nonnegative : 0 ≤ signed word) :
    (signed word).toNat = word.toNat := by
  have := word.toNat_lt
  rw [signed] at nonnegative ⊢
  split at nonnegative <;> omega

/-- A word in two's complement is read as its remainder nearest to zero. -/
theorem signed_eq_bmod (word : UInt32) : signed word = Int.bmod word.toNat (2 ^ 32) := by
  have := word.toNat_lt
  rw [signed, Int.bmod]
  split <;> omega

theorem ofInt_signed (word : UInt32) : UInt32.ofInt (signed word) = word := by
  have := word.toNat_lt
  have same : signed word % 2 ^ 32 = word.toNat := by
    rw [signed]
    split <;> omega
  rw [UInt32.ofInt, same, Int.toNat_natCast, UInt32.ofNat_toNat]

/-- A number below `2 ^ 32` is put together again from its four bytes. -/
private theorem joinBytes (number : Nat) (bounded : number < 2 ^ 32) :
    ((number >>> 24) % 2 ^ 8) <<< 24 % 2 ^ 32 ||| ((number >>> 16) % 2 ^ 8) <<< 16 % 2 ^ 32
      ||| ((number >>> 8) % 2 ^ 8) <<< 8 % 2 ^ 32 ||| number % 2 ^ 8 = number := by
  apply Nat.eq_of_testBit_eq
  intro bit
  have beyond : 32 ≤ bit → number.testBit bit = false := fun high =>
    Nat.testBit_lt_two_pow (Nat.lt_of_lt_of_le bounded (Nat.pow_le_pow_right (by decide) high))
  have moved (places : Nat) (reached : places ≤ bit) : places + (bit - places) = bit := by omega
  simp only [Nat.testBit_or, Nat.testBit_mod_two_pow, Nat.testBit_shiftLeft,
    Nat.testBit_shiftRight]
  grind

@[simp]
theorem decode_encode (word : UInt32) : decode (encode word) = word := by
  have first : byteAt (encode word) 0 = (word >>> 24).toUInt8.toUInt32 := rfl
  have second : byteAt (encode word) 1 = (word >>> 16).toUInt8.toUInt32 := rfl
  have third : byteAt (encode word) 2 = (word >>> 8).toUInt8.toUInt32 := rfl
  have fourth : byteAt (encode word) 3 = word.toUInt8.toUInt32 := rfl
  rw [decode, first, second, third, fourth]
  apply UInt32.toNat_inj.1
  simp only [UInt32.toNat_or, UInt32.toNat_shiftLeft, UInt8.toNat_toUInt32, UInt32.toNat_toUInt8,
    UInt32.toNat_shiftRight]
  exact joinBytes word.toNat word.toNat_lt

/-- Digits to the base 256, one above the other, do not touch. -/
private theorem join_eq_sum {first second third fourth : Nat} (firstDigit : first < 256)
    (secondDigit : second < 256) (thirdDigit : third < 256) (fourthDigit : fourth < 256) :
    first <<< 24 % 2 ^ 32 ||| second <<< 16 % 2 ^ 32 ||| third <<< 8 % 2 ^ 32 ||| fourth =
      ((first * 256 + second) * 256 + third) * 256 + fourth := by
  have low : third <<< 8 ||| fourth = third <<< 8 + fourth :=
    (Nat.shiftLeft_add_eq_or_of_lt fourthDigit third).symm
  have middle : second <<< 16 ||| (third <<< 8 + fourth) =
      second <<< 16 + (third <<< 8 + fourth) :=
    (Nat.shiftLeft_add_eq_or_of_lt (by simp only [Nat.shiftLeft_eq]; omega) second).symm
  have high : first <<< 24 ||| (second <<< 16 + (third <<< 8 + fourth)) =
      first <<< 24 + (second <<< 16 + (third <<< 8 + fourth)) :=
    (Nat.shiftLeft_add_eq_or_of_lt (by simp only [Nat.shiftLeft_eq]; omega) first).symm
  rw [Nat.mod_eq_of_lt (by simp only [Nat.shiftLeft_eq]; omega),
    Nat.mod_eq_of_lt (by simp only [Nat.shiftLeft_eq]; omega),
    Nat.mod_eq_of_lt (by simp only [Nat.shiftLeft_eq]; omega), Nat.or_assoc, Nat.or_assoc, low,
    middle, high]
  simp only [Nat.shiftLeft_eq]
  omega

/-- A word has the value of its four bytes as digits. -/
theorem toNat_decode (first second third fourth : UInt8) :
    (decode ⟨#[first, second, third, fourth]⟩).toNat =
      ((first.toNat * 256 + second.toNat) * 256 + third.toNat) * 256 + fourth.toNat := by
  have whole : decode ⟨#[first, second, third, fourth]⟩ =
      first.toUInt32 <<< 24 ||| second.toUInt32 <<< 16 ||| third.toUInt32 <<< 8 |||
        fourth.toUInt32 := rfl
  rw [whole]
  simp only [UInt32.toNat_or, UInt32.toNat_shiftLeft, UInt8.toNat_toUInt32]
  exact join_eq_sum first.toNat_lt second.toNat_lt third.toNat_lt fourth.toNat_lt

theorem eq_of_size_four {bytes : ByteArray} (four : bytes.size = 4) :
    bytes = ⟨#[bytes[0], bytes[1], bytes[2], bytes[3]]⟩ := by
  refine ByteArray.ext (Array.ext four fun place _ inside => ?_)
  match place, inside with
  | 0, _ | 1, _ | 2, _ | 3, _ => rfl

/-- Four bytes are the layout of the word that is read from them. -/
theorem encode_decode {bytes : ByteArray} (four : bytes.size = 4) :
    encode (decode bytes) = bytes := by
  rw [eq_of_size_four four]
  generalize bytes[0] = first, bytes[1] = second, bytes[2] = third, bytes[3] = fourth
  have value := toNat_decode first second third fourth
  generalize decode ⟨#[first, second, third, fourth]⟩ = word at value
  have firstBound := first.toNat_lt
  have secondBound := second.toNat_lt
  have thirdBound := third.toNat_lt
  have fourthBound := fourth.toNat_lt
  have shifted24 : (word >>> 24).toNat = word.toNat / 2 ^ 24 := Nat.shiftRight_eq_div_pow ..
  have shifted16 : (word >>> 16).toNat = word.toNat / 2 ^ 16 := Nat.shiftRight_eq_div_pow ..
  have shifted8 : (word >>> 8).toNat = word.toNat / 2 ^ 8 := Nat.shiftRight_eq_div_pow ..
  have byte (part : UInt32) (expected : UInt8) (same : part.toNat % 2 ^ 8 = expected.toNat) :
      part.toUInt8 = expected :=
    UInt8.toNat_inj.1 ((UInt32.toNat_toUInt8 part).trans same)
  rw [encode, byte (word >>> 24) first (by omega), byte (word >>> 16) second (by omega),
    byte (word >>> 8) third (by omega), byte word fourth (by omega)]

theorem decode_encode_append (word : UInt32) (rest : ByteArray) :
    decode (encode word ++ rest) = word := by
  rw [decode_append rest (Nat.le_of_eq rfl), decode_encode]

theorem wordAt_append (bytes rest : ByteArray) :
    wordAt (bytes ++ rest) bytes.size = decode rest := by
  rw [← decode_drop, ByteArray.size_append, extract_append_size]

end BigEndian

end DeltaSignature
