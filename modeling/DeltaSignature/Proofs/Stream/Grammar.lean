import DeltaSignature.Proofs.Params
import DeltaSignature.Proofs.Stream.Verdict

/-!
# The grammar of signature streams

A stream is a signature if its header fields are good ones and whole records follow.  `firstDefect?`
says so by sizes and header words alone, and names what is wrong otherwise; decoding finds exactly
that, and the index that it makes of a good stream has a block for every record.
-/

namespace DeltaSignature

open BigEndian

/-- The first defect of the three header fields. -/
def headerDefect? (stream : ByteArray) : Option Malformed :=
  let blockLength := signed (wordAt stream 4)
  let strongLength := signed (wordAt stream 8)
  if stream.size < 4 then some (.truncated .tag stream.size 4)
  else if stream.size < 8 then some (.truncated .blockLength (stream.size - 4) 4)
  else if blockLength < 1 then some (.blockLength blockLength)
  else if stream.size < 12 then some (.truncated .strongLength (stream.size - 8) 4)
  else if strongLength < 0 ∨ 32 < strongLength then some (.strongLength strongLength)
  else if (wordAt stream 0 = Format.md4.tag ∨ wordAt stream 0 = Format.rabinKarpMd4.tag) ∧
      16 < strongLength then
    some (.params (.strongLength strongLength.toNat 16))
  else none

/-- What is wrong with this many bytes that should be records with strong sums of this length. -/
def recordsDefect? (strongLength size : Nat) : Option Malformed :=
  let left := size % (4 + strongLength)
  if left = 0 then none
  else if left < 4 then some (.truncated .weakSum left 4)
  else some (.truncated .strongSum (left - 4) strongLength)

/-- The first defect of a stream. -/
def firstDefect? (stream : ByteArray) : Option Malformed :=
  (headerDefect? stream).or
    (recordsDefect? (signed (wordAt stream 8)).toNat (stream.size - Params.headerLength))

/-- The weak sum and the strong sum that stand at a place. -/
def recordAt (bytes : ByteArray) (place strongLength : Nat) : UInt32 × ByteArray :=
  (wordAt bytes place, bytes.extract (place + 4) (place + 4 + strongLength))

/-- The whole records at the start of a byte string. -/
def records (strongLength : Nat) (bytes : ByteArray) : List (UInt32 × ByteArray) :=
  (List.range (bytes.size / (4 + strongLength))).map fun number =>
    recordAt bytes (number * (4 + strongLength)) strongLength

theorem records_of_short {strongLength : Nat} {bytes : ByteArray}
    (short : bytes.size < 4 + strongLength) : records strongLength bytes = [] := by
  rw [records, Nat.div_eq_of_lt short, List.range_zero, List.map_nil]

theorem recordAt_drop (bytes : ByteArray) (skipped place strongLength : Nat) :
    recordAt (bytes.extract skipped bytes.size) place strongLength =
      recordAt bytes (skipped + place) strongLength := by
  have cut (start stop : Nat) : (bytes.extract skipped bytes.size).extract start stop =
      bytes.extract (skipped + start) (skipped + stop) := by
    rw [ByteArray.extract_extract]
    exact extract_eq_of_min_eq (by omega)
  simp only [recordAt, wordAt, cut, Nat.add_assoc]

theorem records_cons {strongLength : Nat} {bytes : ByteArray}
    (complete : 4 + strongLength ≤ bytes.size) :
    records strongLength bytes = recordAt bytes 0 strongLength ::
      records strongLength (bytes.extract (4 + strongLength) bytes.size) := by
  have count : bytes.size / (4 + strongLength) =
      (bytes.size - (4 + strongLength)) / (4 + strongLength) + 1 :=
    Nat.div_eq_sub_div (by omega) complete
  rw [records, count, List.range_succ_eq_map, List.map_cons, List.map_map, records, size_drop,
    List.cons_eq_cons]
  constructor
  · rw [Nat.zero_mul]
  · apply List.map_congr_left
    intro number _
    rw [recordAt_drop, Function.comp, Nat.succ_mul, Nat.add_comm]

theorem recordsDefect?_of_le {strongLength size : Nat} (complete : 4 + strongLength ≤ size) :
    recordsDefect? strongLength (size - (4 + strongLength)) = recordsDefect? strongLength size := by
  simp only [recordsDefect?, Nat.mod_eq_sub_mod complete]

namespace Decoder

theorem verdict_weakSum {index : Index} {bytes : ByteArray} (complete : 4 ≤ bytes.size) :
    verdict (.weakSum index) bytes =
      verdict (.strongSum index (decode bytes)) (bytes.extract 4 bytes.size) := by
  conv => lhs; rw [verdict, if_pos complete]

theorem verdict_record {index : Index} {bytes : ByteArray}
    (complete : 4 + index.params.strongLength ≤ bytes.size) :
    verdict (.weakSum index) bytes =
      verdict (.weakSum (index.add (recordAt bytes 0 index.params.strongLength).1
          (recordAt bytes 0 index.params.strongLength).2))
        (bytes.extract (4 + index.params.strongLength) bytes.size) := by
  have behind := size_drop bytes 4
  have strong : (bytes.extract 4 bytes.size).extract 0 index.params.strongLength =
      bytes.extract 4 (4 + index.params.strongLength) := by
    rw [ByteArray.extract_extract]
    exact extract_eq_of_min_eq (by omega)
  have weak : decode bytes = wordAt bytes 0 := by rw [← decode_drop, ByteArray.extract_zero_size]
  rw [verdict_weakSum (by omega), verdict_strongSum (by omega), strong, drop_drop, weak,
    recordAt, Nat.zero_add]

theorem verdict_of_short_record {index : Index} {bytes : ByteArray}
    (short : bytes.size < 4 + index.params.strongLength) :
    verdict (.weakSum index) bytes =
      match recordsDefect? index.params.strongLength bytes.size with
      | some defect => .error (.malformed defect)
      | none => .ok index := by
  simp only [recordsDefect?, Nat.mod_eq_of_lt short]
  by_cases weak : 4 ≤ bytes.size
  · have behind := size_drop bytes 4
    have cut : (bytes.extract 4 bytes.size).size < index.params.strongLength := by omega
    have refused : verdict (.strongSum index (decode bytes)) (bytes.extract 4 bytes.size) =
        .error (.malformed (.truncated .strongSum (bytes.size - 4) index.params.strongLength)) := by
      rw [← behind]
      exact verdict_of_short rfl cut (by simp)
    rw [verdict_weakSum weak, refused, if_neg (by omega), if_neg (by omega)]
  · by_cases none : bytes.size = 0
    · rw [verdict, if_neg weak, if_pos none, if_pos none]
    · rw [verdict_of_short rfl (Nat.lt_of_not_le weak) fun _ => none, if_neg none,
        if_pos (Nat.lt_of_not_le weak)]

/-- Reading records adds a block for each whole one, and what is left behind them decides. -/
theorem verdict_records (index : Index) (bytes : ByteArray) :
    verdict (.weakSum index) bytes =
      match recordsDefect? index.params.strongLength bytes.size with
      | some defect => .error (.malformed defect)
      | none => .ok (index.addAll (records index.params.strongLength bytes)) := by
  generalize many : bytes.size / (4 + index.params.strongLength) = count
  induction count generalizing index bytes with
  | zero =>
    have short : bytes.size < 4 + index.params.strongLength := by
      rcases Nat.div_eq_zero_iff.1 many with none | short
      · omega
      · exact short
    rw [records_of_short short, verdict_of_short_record short, Index.addAll, List.foldl_nil]
  | succ count ih =>
    have complete : 4 + index.params.strongLength ≤ bytes.size := by
      by_contra short
      rw [Nat.div_eq_of_lt (Nat.lt_of_not_le short)] at many
      contradiction
    rw [Nat.div_eq_sub_div (by omega) complete, ← size_drop] at many
    rw [verdict_record complete, ih (index.add _ _) _ (Nat.succ.inj many), records_cons complete,
      Index.addAll_cons]
    simp only [Index.add, size_drop, recordsDefect?_of_le complete]

section Header

variable {blockLength : Nat} {stream : ByteArray}

theorem verdict_tag (complete : 4 ≤ stream.size) :
    verdict .tag stream =
      verdict (.blockLength (wordAt stream 0)) (stream.extract 4 stream.size) := by
  conv => lhs; rw [verdict, if_pos complete]
  rw [← decode_drop, ByteArray.extract_zero_size]

theorem verdict_blockLength (tag : UInt32) (complete : 8 ≤ stream.size) :
    verdict (.blockLength tag) (stream.extract 4 stream.size) =
      if signed (wordAt stream 4) < 1 then
        .error (.malformed (.blockLength (signed (wordAt stream 4))))
      else
        verdict (.strongLength tag (signed (wordAt stream 4)).toNat)
          (stream.extract 8 stream.size) := by
  have held := size_drop stream 4
  conv => lhs; rw [verdict, if_pos (by omega), decode_drop, drop_drop]

theorem verdict_strongLength (tag : UInt32) (complete : 12 ≤ stream.size) :
    verdict (.strongLength tag blockLength) (stream.extract 8 stream.size) =
      if signed (wordAt stream 8) < 0 ∨ 32 < signed (wordAt stream 8) then
        .error (.malformed (.strongLength (signed (wordAt stream 8))))
      else
        match Params.ofHeader? tag blockLength (signed (wordAt stream 8)).toNat with
        | .error cause => .error (.malformed (.params cause))
        | .ok params => verdict (.weakSum (.empty params)) (stream.extract 12 stream.size) := by
  have held := size_drop stream 8
  conv => lhs; rw [verdict, if_pos (by omega), decode_drop, drop_drop]
  rfl

/-- The last check of the header: the tag may ask for a shorter strong sum. -/
theorem ofHeader?_of_inRange (tag : UInt32) {blockWord strongWord : UInt32}
    (positive : ¬ signed blockWord < 1)
    (inRange : ¬ (signed strongWord < 0 ∨ 32 < signed strongWord)) :
    Params.ofHeader? tag blockWord.toNat strongWord.toNat =
        .error (.strongLength strongWord.toNat 16) ∧
      (tag = Format.md4.tag ∨ tag = Format.rabinKarpMd4.tag) ∧ 16 < signed strongWord ∨
    (∃ params, Params.ofHeader? tag blockWord.toNat strongWord.toNat = .ok params) ∧
      ¬ ((tag = Format.md4.tag ∨ tag = Format.rabinKarpMd4.tag) ∧ 16 < signed strongWord) := by
  have blockBound := signed_lt blockWord
  have blockValue : (signed blockWord).toNat = blockWord.toNat := toNat_signed (by omega)
  have strongValue : (signed strongWord).toNat = strongWord.toNat := toNat_signed (by omega)
  have blockFits : 0 < blockWord.toNat ∧ blockWord.toNat < 0x8000_0000 := by omega
  have limit := Format.strongLimit_eq tag
  by_cases short : tag = Format.md4.tag ∨ tag = Format.rabinKarpMd4.tag
  · rw [if_pos short] at limit
    by_cases long : 16 < signed strongWord
    · have exceeds : Format.strongLimit tag < strongWord.toNat := by omega
      have refused := Params.ofHeader?_of_long blockFits exceeds
      rw [limit] at refused
      exact .inl ⟨refused, short, long⟩
    · exact .inr ⟨Params.ofHeader?_accepts_iff.2 ⟨blockFits, by omega⟩, fun both => long both.2⟩
  · rw [if_neg short] at limit
    exact .inr ⟨Params.ofHeader?_accepts_iff.2 ⟨blockFits, by omega⟩, fun both => short both.1⟩

/-- The header fields are read one after the other, and the first bad one is reported. -/
theorem verdict_header (stream : ByteArray) :
    (∃ defect, headerDefect? stream = some defect ∧
      verdict .tag stream = .error (.malformed defect)) ∨
    ∃ params, headerDefect? stream = none ∧
      Params.ofHeader? (wordAt stream 0) (wordAt stream 4).toNat (wordAt stream 8).toNat =
        .ok params ∧
      verdict .tag stream = verdict (.weakSum (.empty params)) (stream.extract 12 stream.size) := by
  simp only [headerDefect?]
  by_cases noTag : stream.size < 4
  · exact .inl ⟨_, if_pos noTag, verdict_of_short rfl noTag (by simp)⟩
  rw [if_neg noTag, verdict_tag (Nat.le_of_not_lt noTag)]
  by_cases noBlockLength : stream.size < 8
  · refine .inl ⟨_, if_pos noBlockLength, ?_⟩
    rw [← size_drop stream 4]
    exact verdict_of_short rfl (by rw [size_drop]; omega) (by simp)
  rw [if_neg noBlockLength, verdict_blockLength _ (Nat.le_of_not_lt noBlockLength)]
  by_cases badBlockLength : signed (wordAt stream 4) < 1
  · exact .inl ⟨_, if_pos badBlockLength, if_pos badBlockLength⟩
  rw [if_neg badBlockLength, if_neg badBlockLength]
  by_cases noStrongLength : stream.size < 12
  · refine .inl ⟨_, if_pos noStrongLength, ?_⟩
    rw [← size_drop stream 8]
    exact verdict_of_short rfl (by rw [size_drop]; omega) (by simp)
  rw [if_neg noStrongLength, verdict_strongLength _ (Nat.le_of_not_lt noStrongLength)]
  by_cases badStrongLength : signed (wordAt stream 8) < 0 ∨ 32 < signed (wordAt stream 8)
  · exact .inl ⟨_, if_pos badStrongLength, if_pos badStrongLength⟩
  rw [if_neg badStrongLength, if_neg badStrongLength, toNat_signed (by omega),
    toNat_signed (by omega)]
  rcases ofHeader?_of_inRange (wordAt stream 0) badBlockLength badStrongLength with
    ⟨refused, long⟩ | ⟨⟨params, accepted⟩, short⟩
  · rw [refused]
    exact .inl ⟨_, if_pos long, rfl⟩
  · rw [accepted]
    exact .inr ⟨params, if_neg short, rfl, rfl⟩

end Header

end Decoder

theorem headerDefect?_eq_none_iff {stream : ByteArray} (whole : 12 ≤ stream.size) :
    headerDefect? stream = none ↔
      ∃ params, Params.ofHeader? (wordAt stream 0) (wordAt stream 4).toNat
        (wordAt stream 8).toNat = .ok params := by
  constructor
  · intro clean
    rcases Decoder.verdict_header stream with ⟨defect, found, -⟩ | ⟨params, -, accepted, -⟩
    · cases clean.symm.trans found
    · exact ⟨params, accepted⟩
  · intro accepted
    obtain ⟨blockFits, strongFits⟩ := Params.ofHeader?_accepts_iff.1 accepted
    have bound := Format.strongLimit_le (wordAt stream 0)
    have limit := Format.strongLimit_eq (wordAt stream 0)
    rw [maxStrongLength] at bound
    have blockValue := signed_eq_toNat blockFits.2
    have strongValue : signed (wordAt stream 8) = (wordAt stream 8).toNat :=
      signed_eq_toNat (by omega)
    have short : ¬ ((wordAt stream 0 = Format.md4.tag ∨ wordAt stream 0 = Format.rabinKarpMd4.tag) ∧
        16 < signed (wordAt stream 8)) := by
      rintro ⟨narrow, long⟩
      rw [if_pos narrow] at limit
      omega
    simp only [headerDefect?]
    rw [if_neg (by omega), if_neg (by omega), if_neg (by omega), if_neg (by omega),
      if_neg (by omega), if_neg short]

/-- Only these defects are ever found. -/
theorem eq_of_firstDefect? {stream : ByteArray} {defect : Malformed}
    (found : firstDefect? stream = some defect) :
    (∃ field held needed, defect = .truncated field held needed) ∨
      (∃ value, defect = .blockLength value) ∨ (∃ value, defect = .strongLength value) ∨
      ∃ length, defect = .params (.strongLength length 16) := by
  rcases Option.or_eq_some_iff.1 found with inHeader | ⟨-, inRecords⟩
  · simp only [headerDefect?] at inHeader
    repeat' split at inHeader
    all_goals cases inHeader <;> simp
  · simp only [recordsDefect?] at inRecords
    repeat' split at inRecords
    all_goals cases inRecords <;> simp

theorem records_fit {strongLength : Nat} {bytes : ByteArray} :
    ∀ record ∈ records strongLength bytes, record.2.size = strongLength := by
  intro record member
  obtain ⟨number, inside, rfl⟩ := List.mem_map.1 member
  have whole := Nat.div_mul_le_self bytes.size (4 + strongLength)
  have reaches := Nat.mul_le_mul_right (4 + strongLength) (List.mem_range.1 inside)
  rw [Nat.succ_mul] at reaches
  simp only [recordAt, ByteArray.size_extract]
  omega

theorem signed_of_ofHeader? {tag blockWord strongWord : UInt32} {params : Params}
    (accepted : Params.ofHeader? tag blockWord.toNat strongWord.toNat = .ok params) :
    params.tag = tag ∧ (params.blockLength : Int) = signed blockWord ∧
      (params.strongLength : Int) = signed strongWord := by
  obtain ⟨sameTag, sameBlockLength, sameStrongLength⟩ := Params.ofHeader?_eq_ok_iff.1 accepted
  have blockBound := params.blockLength_lt
  have strongBound := params.strongLength_le_max
  rw [maxStrongLength] at strongBound
  refine ⟨sameTag, ?_, ?_⟩
  · rw [signed_eq_toNat (by omega), sameBlockLength]
  · rw [signed_eq_toNat (by omega), sameStrongLength]

/-- Either the header is at fault, or the records behind it decide. -/
theorem decode?_cases (stream : ByteArray) :
    (∃ defect, firstDefect? stream = some defect ∧
      Index.decode? stream = .error (.malformed defect)) ∨
    ∃ params, firstDefect? stream = none ∧
      Params.ofHeader? (wordAt stream 0) (wordAt stream 4).toNat (wordAt stream 8).toNat =
        .ok params ∧
      Index.decode? stream = .ok ((Index.empty params).addAll
        (records params.strongLength (stream.extract 12 stream.size))) := by
  rw [Index.decode?_eq_verdict, firstDefect?]
  rcases Decoder.verdict_header stream with
    ⟨defect, found, refused⟩ | ⟨params, clean, accepted, read⟩
  · exact .inl ⟨defect, by rw [found, Option.some_or], refused⟩
  · have strongLength : (signed (wordAt stream 8)).toNat = params.strongLength := by
      rw [← (signed_of_ofHeader? accepted).2.2, Int.toNat_natCast]
    have decided := Decoder.verdict_records (.empty params) (stream.extract 12 stream.size)
    rw [size_drop] at decided
    rw [clean, Option.none_or, strongLength, Params.headerLength, read, decided]
    simp only [Index.empty]
    cases recordsDefect? params.strongLength (stream.size - 12) with
    | some defect => exact .inl ⟨defect, rfl, rfl⟩
    | none => exact .inr ⟨params, rfl, accepted, rfl⟩

theorem blocks_of_records (params : Params) (stream : ByteArray) :
    ((Index.empty params).addAll
      (records params.strongLength (stream.extract 12 stream.size))).blocks =
      (List.range ((stream.size - 12) / (4 + params.strongLength))).map fun number =>
        let place := 12 + number * (4 + params.strongLength)
        ⟨number, wordAt stream place,
          stream.extract (place + 4) (place + 4 + params.strongLength)⟩ := by
  rw [records, Index.blocks_addAll_range records_fit, size_drop]
  simp only [recordAt_drop]
  rfl

theorem decode?_accepts_iff (stream : ByteArray) :
    (∃ index, Index.decode? stream = .ok index) ↔ firstDefect? stream = none := by
  rcases decode?_cases stream with ⟨defect, found, refused⟩ | ⟨params, clean, accepted, decoded⟩
  · rw [found, refused]
    simp
  · rw [clean, decoded]
    exact ⟨fun _ => rfl, fun _ => ⟨_, rfl⟩⟩

/-- A header without records is accepted if its fields are. -/
theorem decode?_header_accepts_iff {stream : ByteArray} (whole : 12 ≤ stream.size) :
    (∃ index, Index.decode? (stream.extract 0 12) = .ok index) ↔
      ∃ params, Params.ofHeader? (wordAt stream 0) (wordAt stream 4).toNat
        (wordAt stream 8).toNat = .ok params := by
  have extent := size_take whole
  have noRecords (strongLength : Nat) : recordsDefect? strongLength (12 - 12) = none := by
    simp [recordsDefect?]
  rw [decode?_accepts_iff, firstDefect?, extent, Params.headerLength, noRecords, Option.or_none,
    headerDefect?_eq_none_iff (Nat.le_of_eq extent.symm), wordAt_front stream (by decide),
    wordAt_front stream (by decide), wordAt_front stream (by decide)]

/-- Decoding finds the first defect of a stream and nothing else, and it makes of a stream without
defects an index with the header fields and a block for every record. -/
theorem decode?_eq_grammar (stream : ByteArray) :
    (∀ defect, firstDefect? stream = some defect →
      Index.decode? stream = .error (.malformed defect)) ∧
    (firstDefect? stream = none → ∃ index, Index.decode? stream = .ok index ∧
      index.params.tag = wordAt stream 0 ∧
      (index.params.blockLength : Int) = signed (wordAt stream 4) ∧
      (index.params.strongLength : Int) = signed (wordAt stream 8) ∧
      index.blocks =
        (List.range ((stream.size - 12) / (4 + index.params.strongLength))).map fun number =>
          let place := 12 + number * (4 + index.params.strongLength)
          ⟨number, wordAt stream place,
            stream.extract (place + 4) (place + 4 + index.params.strongLength)⟩) ∧
    (12 ≤ stream.size →
      ((∃ index, Index.decode? (stream.extract 0 12) = .ok index) ↔
        ∃ params, Params.ofHeader? (wordAt stream 0) (wordAt stream 4).toNat
          (wordAt stream 8).toNat = .ok params)) ∧
    (∀ cause, Index.decode? stream = .error cause →
      (∃ field held needed, cause = .malformed (.truncated field held needed)) ∨
      (∃ value, cause = .malformed (.blockLength value)) ∨
      (∃ value, cause = .malformed (.strongLength value)) ∨
      ∃ length, cause = .malformed (.params (.strongLength length 16))) := by
  refine ⟨fun defect found => ?_, fun clean => ?_, fun whole => ?_, fun cause failed => ?_⟩
  · rcases decode?_cases stream with ⟨first, found', refused⟩ | ⟨params, clean, -⟩
    · obtain rfl := Option.some.inj (found.symm.trans found')
      exact refused
    · cases clean.symm.trans found
  · rcases decode?_cases stream with ⟨defect, found, -⟩ | ⟨params, -, accepted, decoded⟩
    · cases clean.symm.trans found
    · obtain ⟨tag, blockLength, strongLength⟩ := signed_of_ofHeader? accepted
      have same := Index.params_addAll (.empty params)
        (records params.strongLength (stream.extract 12 stream.size))
      refine ⟨_, decoded, ?_⟩
      rw [same]
      exact ⟨tag, blockLength, strongLength, blocks_of_records params stream⟩
  · exact decode?_header_accepts_iff whole
  · rcases decode?_cases stream with ⟨defect, found, refused⟩ | ⟨params, clean, accepted, decoded⟩
    · obtain rfl := Except.error.inj (failed.symm.trans refused)
      simpa using eq_of_firstDefect? found
    · cases failed.symm.trans decoded

end DeltaSignature
