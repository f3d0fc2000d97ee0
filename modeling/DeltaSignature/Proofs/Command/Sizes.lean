import DeltaSignature.Proofs.Command.Signing
import DeltaSignature.Proofs.Params
import DeltaSignature.Proofs.Text.Numerals

/-!
# Sizes that are accepted

A size is a number, maybe with a unit behind it, with blanks around it and before the unit.  Whether
it is accepted can be told from the way it is written and from two bounds, one on the number and one
on the bytes that it comes to.  Of the sizes accepted, those within the limits of a signature are
accepted as block lengths, so whatever lengths a command line asks for, there is a generator for
them.
-/

namespace DeltaSignature

namespace Size

open Text

/-- The letters for units, with the number of bytes that each stands for. -/
def letters : List (Char × Nat) :=
  [('k', 2 ^ 10), ('K', 2 ^ 10), ('m', 2 ^ 20), ('M', 2 ^ 20), ('g', 2 ^ 30), ('G', 2 ^ 30)]

/-- What may stand behind the number of a size, with the unit that it says. -/
inductive Suffix : List Char → Nat → Prop where
  | nothing : Suffix [] 1
  | letter {gap : List Char} {letter : Char} {unit : Nat} (blank : Blank gap)
      (listed : (letter, unit) ∈ letters) : Suffix (gap ++ [letter]) unit

/-- The text without the blanks at its ends is `core`, which says so many units of this size. -/
inductive Writes (text : String) : List Char → Nat → Nat → Prop where
  | intro {front back number suffix : List Char} {count unit : Nat} (blankFront : Blank front)
      (blankBack : Blank back) (numeral : Numeral number count) (ends : Suffix suffix unit)
      (text_eq : text.toList = front ++ (number ++ suffix) ++ back) :
      Writes text (number ++ suffix) count unit

/-- The number and the unit of a text, told by its last byte.  There is no answer if the text would
have to be cut within a character. -/
def cut? (text : String) : Option (String × Nat) :=
  match text.toByteArray.data.back?.bind fun byte => unit? (Char.ofNat byte.toNat) with
  | none => some (text, 1)
  | some unit =>
    (text.pos? ⟨text.utf8ByteSize - 1⟩).map fun stop => ((text.sliceTo stop).copy, unit)

variable {text : String} {core number suffix digits : List Char} {letter : Char}
  {count unit length : Nat}

section Grammar

theorem unit?_eq_some_iff : unit? letter = some unit ↔ (letter, unit) ∈ letters := by
  unfold unit?
  split <;> simp_all [letters, eq_comm]

theorem toNat_of_listed (listed : (letter, unit) ∈ letters) :
    0x41 ≤ letter.toNat ∧ letter.toNat ≤ 0x7a := by
  have all : ∀ entry ∈ letters, 0x41 ≤ entry.1.toNat ∧ entry.1.toNat ≤ 0x7a := by decide
  exact all _ listed

theorem unit?_of_isDigit {char : Char} (decimal : char.isDigit = true) : unit? char = none := by
  rw [Option.eq_none_iff_forall_not_mem]
  intro unit named
  have low := (toNat_of_listed (unit?_eq_some_iff.1 named)).1
  have high := (toNat_of_isDigit decimal).2
  omega

theorem isBlank_of_listed (listed : (letter, unit) ∈ letters) : isBlank letter = false := by
  obtain ⟨low, high⟩ := toNat_of_listed listed
  exact isBlank_of_printable (by omega) (by omega)

theorem trimmed_append (numeral : Numeral number count) (ends : Suffix suffix unit) :
    Trimmed (number ++ suffix) := by
  cases ends with
  | nothing =>
    rw [List.append_nil]
    exact numeral.trimmed
  | letter blank listed =>
    constructor
    · rw [List.head?_append_of_ne_nil _ numeral.ne_nil]
      exact numeral.trimmed.head
    · rw [← List.append_assoc, List.getLast?_concat]
      rintro char ⟨⟩
      exact isBlank_of_listed listed

/-- What is split off behind the number is no more than blanks and the letter. -/
theorem exists_gap_of_suffix (numeral : Numeral number count) (ends : Suffix suffix unit) :
    ∃ gap, Blank gap ∧ split (number ++ suffix) = (number ++ gap, unit) := by
  cases ends with
  | nothing =>
    refine ⟨[], blank_nil, ?_⟩
    obtain ⟨last, ends, decimal⟩ := numeral.exists_last
    rw [List.append_nil, split, ends, Option.bind_some, unit?_of_isDigit decimal]
  | @letter gap letter unit blank listed =>
    refine ⟨gap, blank, ?_⟩
    rw [← List.append_assoc, split, List.getLast?_concat, Option.bind_some,
      unit?_eq_some_iff.2 listed, List.dropLast_concat]

theorem Writes.parse?_eq (writes : Writes text core count unit) :
    parse? text =
      if 2 ^ 64 ≤ count then .error (.invalid (String.ofList core) .tooLarge)
      else if count * unit < 2 ^ 64 then .ok (count * unit)
      else .error (.overflow (String.ofList core)) := by
  cases writes with
  | @intro front back number suffix _ _ blankFront blankBack numeral ends whole =>
    have present : number ++ suffix ≠ [] := List.append_ne_nil_of_left_ne_nil numeral.ne_nil _
    have trimmed : trim text.toList = number ++ suffix := by
      rw [whole, trim_append (trimmed_append numeral ends) present blankFront blankBack]
    obtain ⟨gap, blank, cut⟩ := exists_gap_of_suffix numeral ends
    have read : trim (number ++ gap) = number :=
      trim_append numeral.trimmed numeral.ne_nil blank_nil blank
    rw [parse?]
    simp only [trimmed, cut, read, if_neg present, numeral.readUnsigned_eq]
    by_cases small : count ≤ 0xffff_ffff_ffff_ffff
    · rw [if_pos small, if_neg (by omega)]
      rfl
    · rw [if_neg small, if_pos (by omega)]

/-- A text that is a number once its unit and blanks are removed is this number with a suffix. -/
theorem exists_suffix_of_split (trimmed : Trimmed core) (cut : split core = (digits, unit)) :
    ∃ suffix, Suffix suffix unit ∧ core = trim digits ++ suffix := by
  cases named : core.getLast?.bind unit? with
  | none =>
    rw [split, named] at cut
    obtain ⟨rfl, rfl⟩ := Prod.mk.inj cut
    exact ⟨[], .nothing, by rw [trimmed.trim_eq, List.append_nil]⟩
  | some unit' =>
    rw [split, named] at cut
    obtain ⟨rfl, rfl⟩ := Prod.mk.inj cut
    obtain ⟨letter, ends, listed⟩ := Option.bind_eq_some_iff.1 named
    have whole := List.dropLast_append_getLast? letter ends
    obtain ⟨front, gap, blankFront, blankGap, shape⟩ := exists_eq_trim core.dropLast
    cases front with
    | nil =>
      refine ⟨gap ++ [letter], .letter blankGap (unit?_eq_some_iff.1 listed), ?_⟩
      rw [List.nil_append] at shape
      rw [← List.append_assoc, ← shape, whole]
    | cons char front =>
      rw [shape] at whole
      have solid := trimmed.head char (by rw [← whole]; rfl)
      rw [blankFront char List.mem_cons_self] at solid
      contradiction

theorem parse?_eq_ok_iff :
    parse? text = .ok length ↔
      ∃ core count unit, Writes text core count unit ∧ count < 2 ^ 64 ∧
        length = count * unit ∧ length < 2 ^ 64 := by
  constructor
  · intro parsed
    have writes : ∃ core count unit, Writes text core count unit := by
      obtain ⟨front, back, blankFront, blankBack, whole⟩ := exists_eq_trim text.toList
      rw [parse?] at parsed
      simp only at parsed
      split at parsed
      next => cases parsed
      next =>
        split at parsed
        next => cases parsed
        next count read =>
          obtain ⟨numeral, -⟩ := readUnsigned_eq_ok_iff.1 read
          obtain ⟨suffix, ends, shape⟩ :=
            exists_suffix_of_split (trimmed_trim text.toList) (Prod.eta _).symm
          rw [shape] at whole
          exact ⟨_, _, _, .intro blankFront blankBack numeral ends whole⟩
    obtain ⟨core, count, unit, writes⟩ := writes
    rw [writes.parse?_eq] at parsed
    split at parsed
    next => cases parsed
    next fits =>
      split at parsed
      next within =>
        obtain rfl := Except.ok.inj parsed
        exact ⟨core, count, unit, writes, by omega, rfl, within⟩
      next => cases parsed
  · rintro ⟨core, count, unit, writes, fits, rfl, within⟩
    rw [writes.parse?_eq, if_neg (by omega), if_pos within]

end Grammar

section Bytes

/-- The letters for units are characters of one byte. -/
theorem utf8Size_of_listed (listed : (letter, unit) ∈ letters) : letter.utf8Size = 1 := by
  have high : letter.toNat ≤ 0x7f := Nat.le_trans (toNat_of_listed listed).2 (by decide)
  rw [Char.utf8Size_eq_one_iff, UInt32.le_iff_toNat_le]
  exact high

theorem isFirst_of_named {byte : UInt8} (named : unit? (Char.ofNat byte.toNat) = some unit) :
    byte.IsUTF8FirstByte := by
  have valid : byte.toNat.isValidChar := .inl (by have := byte.toNat_lt; omega)
  have same : (Char.ofNat byte.toNat).toNat = byte.toNat := by
    rw [Char.ofNat, dif_pos valid]
    rfl
  have small := (toNat_of_listed (unit?_eq_some_iff.1 named)).2
  rw [same] at small
  left
  apply UInt8.toNat_inj.1
  have high : byte.toNat.testBit 7 = false := Nat.testBit_lt_two_pow (by omega)
  have clear := Nat.and_two_pow byte.toNat 7
  rw [high] at clear
  exact clear

/-- The last byte of a character is that of a letter for a unit only if the character is this
letter: in a longer character no byte but the first is the first byte of a character. -/
theorem unit?_getLast (char : Char) :
    unit? (Char.ofNat ((String.utf8EncodeChar char).getLast String.utf8EncodeChar_ne_nil).toNat) =
      unit? char := by
  by_cases single : char.utf8Size = 1
  · have small : char.toNat ≤ 0x7f := UInt32.le_iff_toNat_le.1 (Char.utf8Size_eq_one_iff.1 single)
    have byte : char.val.toUInt8.toNat = char.toNat := by
      rw [UInt32.toNat_toUInt8, Char.toNat_val]
      exact Nat.mod_eq_of_lt (by omega)
    simp only [String.utf8EncodeChar_eq_singleton single, List.getLast_singleton, byte,
      Char.ofNat_toNat]
  · have unnamed : unit? char = none := by
      rw [Option.eq_none_iff_forall_not_mem]
      exact fun unit named => single (utf8Size_of_listed (unit?_eq_some_iff.1 named))
    rw [unnamed, Option.eq_none_iff_forall_not_mem]
    intro unit named
    have first := isFirst_of_named named
    rw [List.getLast_eq_getElem, UInt8.isUTF8FirstByte_getElem_utf8EncodeChar,
      String.length_utf8EncodeChar] at first
    have := char.utf8Size_pos
    omega

theorem back?_toByteArray (front : List Char) (char : Char) :
    (String.ofList (front ++ [char])).toByteArray.data.back? =
      some ((String.utf8EncodeChar char).getLast String.utf8EncodeChar_ne_nil) := by
  rw [String.toByteArray_ofList, List.utf8Encode_append, List.utf8Encode_singleton,
    ByteArray.data_append, Array.back?_append, List.data_toByteArray, List.back?_toArray,
    List.getLast?_eq_some_getLast String.utf8EncodeChar_ne_nil, Option.some_or]

theorem pos?_offset (stop : text.Pos) : text.pos? stop.offset = some stop := by
  have valid : stop.offset.isValidForSlice text.toSlice = true :=
    String.Pos.Raw.isValidForSlice_eq_true_iff.2 stop.toSlice.isValidForSlice
  rw [String.pos?, String.Slice.pos?, dif_pos valid]
  rfl

theorem cut?_concat (front : List Char) (char : Char) :
    cut? (String.ofList (front ++ [char])) =
      match unit? char with
      | none => some (String.ofList (front ++ [char]), 1)
      | some unit => some (String.ofList front, unit) := by
  rw [cut?, back?_toByteArray, Option.bind_some, unit?_getLast]
  cases named : unit? char with
  | none => rfl
  | some unit =>
    obtain ⟨stop, splits⟩ : ∃ stop : (String.ofList (front ++ [char])).Pos,
        stop.Splits (String.ofList front) (String.ofList [char]) :=
      ⟨_, String.Pos.splits_ofEqAppend String.ofList_append⟩
    have single : (String.ofList [char]).utf8ByteSize = 1 := by
      simp [utf8Size_of_listed (unit?_eq_some_iff.1 named)]
    have place : ⟨(String.ofList (front ++ [char])).utf8ByteSize - 1⟩ = stop.offset := by
      rw [splits.offset_eq_rawEndPos, String.ofList_append, String.utf8ByteSize_append, single]
      rfl
    simp only [place, pos?_offset, Option.map_some, splits.copy_sliceTo_eq]

/-- The cut told by the last byte is there for every text, and it is the split of its characters. -/
theorem cut?_eq (text : String) :
    cut? text = some (String.ofList (split text.toList).1, (split text.toList).2) := by
  obtain ⟨chars, rfl⟩ : ∃ chars, text = String.ofList chars := ⟨_, String.ofList_toList.symm⟩
  rw [String.toList_ofList]
  obtain rfl | ⟨front, char, rfl⟩ := List.eq_nil_or_concat chars
  · rfl
  · rw [List.concat_eq_append, cut?_concat, split, List.getLast?_concat, List.dropLast_concat,
      Option.bind_some]
    cases unit? char <;> rfl

end Bytes

/-- A text is a size if and only if it writes one whose number and whose bytes both fit in 64 bits.
If only the bytes do not fit, this is the error.  Every text can be cut in front of its unit.  The
sizes that are block lengths are those that may stand in a header, so there is a generator for them
with strong sums of any length, and for whatever lengths a command line asks for that is read by a
parser which keeps to these sizes. -/
theorem parse?_reads_written :
    (∀ text length, parse? text = .ok length ↔
      ∃ core count unit, Writes text core count unit ∧ count ≤ 2 ^ 64 - 1 ∧
        length = count * unit ∧ length ≤ 2 ^ 64 - 1) ∧
    (∀ text core count unit, Writes text core count unit → count ≤ 2 ^ 64 - 1 →
      2 ^ 64 - 1 < count * unit → parse? text = .error (.overflow (String.ofList core))) ∧
    (∀ text, cut? text = some (String.ofList (split text.toList).1, (split text.toList).2)) ∧
    (∀ text length, parseBlockLength? text = .ok length ↔
      parse? text = .ok length ∧ 1 ≤ length ∧ length ≤ 2 ^ 31 - 1) ∧
    (∀ tag length strongLength, 1 ≤ length ∧ length ≤ 2 ^ 31 - 1 ↔
      Params.ofHeader? tag length strongLength ≠ .error .blockLength) ∧
    (∀ text length strongLength weak, parseBlockLength? text = .ok length → strongLength ≤ 32 →
      ∃ generator, Generator.ofLayout? ⟨Format.adler32Sha256.tag, length, strongLength⟩ weak
        .sha256 = .ok generator) ∧
    ∀ (ε : Type) (parse : List String → Except ε Command.Options), Command.Honours parse →
      ∀ arguments options basis signature toStandardOutput blockLength strongLength weak,
      parse arguments = .ok options →
      options.task = .sign basis signature toStandardOutput blockLength strongLength →
      ∃ generator, Generator.ofLayout? ⟨Format.adler32Sha256.tag, blockLength, strongLength⟩ weak
        .sha256 = .ok generator := by
  have word (length : Nat) : 1 ≤ length ∧ length ≤ 2 ^ 31 - 1 ↔
      0 < length ∧ length < 0x8000_0000 := by omega
  refine ⟨fun text length => ?_, ?_, cut?_eq, ?_, ?_, ?_, ?_⟩
  · simp only [parse?_eq_ok_iff, Nat.le_sub_one_iff_lt (Nat.two_pow_pos 64)]
  · intro text core count unit writes fits exceeds
    rw [writes.parse?_eq, if_neg (by omega), if_neg (by omega)]
  · intro text length
    rw [parseBlockLength?_eq_ok_iff, word]
  · intro tag length strongLength
    rw [Params.ofHeader?_ne_blockLength_iff, word]
  · intro text length strongLength weak parsed short
    obtain ⟨-, positive, small⟩ := parseBlockLength?_eq_ok_iff.1 parsed
    exact Generator.exists_ofLayout?_sha256 weak positive small short
  · intro ε parse honours arguments options basis signature toStandardOutput blockLength
      strongLength weak accepted task
    obtain ⟨positive, small, short⟩ := honours.lengths accepted task
    exact Generator.exists_ofLayout?_sha256 weak positive small short

/-- A number of gibibytes that is a word, but as bytes is one too many for one. -/
example : parse? " +17179869184 G\n" = .error (.overflow "+17179869184 G") := by
  decide +kernel

end Size

end DeltaSignature
