import DeltaSignature.Proofs.Failing
import DeltaSignature.Proofs.Index.Lookup
import DeltaSignature.Proofs.Stream.RoundTrip
import DeltaSignature.Proofs.Stream.Schedule

/-!
# Equal indexes are the same signature

Equality of indexes compares two columns, one of them without marks between its strong sums, and a
multimap whose layout depends on how it was filled.  For an index that was built by its own
operations none of this adds anything to its records: the columns can be told from them, and the
multimap from the column of weak sums.  So indexes are equal just if they hold the same signature,
and then their streams are the same.
-/

namespace DeltaSignature

theorem Decoder.decode?_of_signature? {sizeHint : Option Nat} {calls : List Call} {index : Index}
    (decoded : ((new sizeHint).perform calls).2.signature? = .ok index) :
    Index.decode? (accepted calls ((new sizeHint).perform calls).1) = .ok index := by
  have performed := (tracks_new sizeHint).performed (by simp [new]) calls
  have settled : ((new sizeHint).perform calls).2.state = .done index := by
    unfold signature? at decoded
    split at decoded
    next same =>
      obtain rfl := Except.ok.inj decoded
      exact same
    next => cases decoded
    next => cases decoded
  generalize (new sizeHint).perform calls = outcome at performed settled
  cases performed with
  | tracking tracks =>
    have whole := tracks.verdict_eq_ok settled
    rwa [ByteArray.empty_append, ← Index.decode?_eq_verdict] at whole
  | rejected _ _ _ _ failed => cases failed.symm.trans settled

namespace Index

/-- The records of the blocks, in block order. -/
def records (index : Index) : List (UInt32 × ByteArray) :=
  index.blocks.map fun block => (block.weak, block.strong)

/-- The index was made empty, with or without room for blocks, or by a decoder that was driven to
the end of a stream; and then it was offered blocks, of which it may have refused some. -/
inductive Built : Index → Prop where
  | blank {params : Params} {index : Index} (blank : Blank params index) : Built index
  | decoded {sizeHint : Option Nat} {calls : List Decoder.Call} {index : Index}
      (decoded : ((Decoder.new sizeHint).perform calls).2.signature? = .ok index) : Built index
  | offered {index : Index} (built : Built index) (weak : UInt32) (strong : ByteArray) :
      Built (index.offer weak strong).2

variable {index left right : Index}

section Columns

theorem beq_iff_columns_eq :
    (left == right) = true ↔
      left.params = right.params ∧ left.weak = right.weak ∧ left.strong = right.strong ∧
        left.byWeak.Equiv right.byWeak := by
  have unfolded : (left == right) = (left.params == right.params && left.weak == right.weak &&
    left.strong == right.strong && left.byWeak == right.byWeak) := rfl
  rw [unfolded]
  simp only [Bool.and_eq_true, beq_iff_eq, Std.HashMap.beq_iff_equiv, and_assoc]

/-- The blocks are read from the columns alone. -/
theorem blocks_eq_of_columns_eq (sameParams : left.params = right.params)
    (sameWeak : left.weak = right.weak) (sameStrong : left.strong = right.strong) :
    left.blocks = right.blocks := by
  have sameBlock : left.blockAt = right.blockAt := by
    funext number
    simp only [blockAt, sameParams, sameWeak, sameStrong]
  rw [blocks, blocks, size, size, sameWeak, sameBlock]

theorem Aligned.fit (aligned : index.Aligned) :
    ∀ record ∈ index.records, record.2.size = index.params.strongLength := by
  intro record member
  obtain ⟨block, stored, rfl⟩ := List.mem_map.1 member
  obtain ⟨number, inside, rfl⟩ := List.mem_map.1 stored
  have covered : (number + 1) * index.params.strongLength ≤ index.strong.size := by
    rw [aligned]
    exact Nat.mul_le_mul_right _ (List.mem_range.1 inside)
  rw [Nat.add_one_mul] at covered
  simp only [blockAt, ByteArray.size_extract]
  omega

theorem weak_eq_of_records_eq (same : left.records = right.records) : left.weak = right.weak := by
  have firsts (index : Index) : index.records.map Prod.fst = index.weak.toList := by
    rw [← map_weak_blocks, records, List.map_map]
    rfl
  rw [← Array.toList_inj, ← firsts, ← firsts, same]

theorem size_eq_of_records_eq (same : left.records = right.records) : left.size = right.size := by
  rw [size, size, weak_eq_of_records_eq same]

theorem strong_blockAt_eq (same : left.records = right.records) (number : Nat)
    (inside : number < left.size) :
    (left.blockAt number).strong = (right.blockAt number).strong := by
  have entry (index : Index) (inside : number < index.size) :
      index.records[number]? =
        some ((index.blockAt number).weak, (index.blockAt number).strong) := by
    rw [records, List.getElem?_map, getElem?_blocks, block?, if_pos inside, Option.map_some]
  have insideRight : number < right.size := size_eq_of_records_eq same ▸ inside
  have sameEntry := entry left inside
  rw [same, entry right insideRight] at sameEntry
  exact (Prod.mk.inj (Option.some.inj sameEntry)).2.symm

/-- Strong sums of one length leave no doubt about where each of them ends. -/
theorem Aligned.strong_eq (alignedLeft : left.Aligned) (alignedRight : right.Aligned)
    (sameParams : left.params = right.params) (same : left.records = right.records) :
    left.strong = right.strong := by
  have sameSize := size_eq_of_records_eq same
  rw [Aligned, sameSize, sameParams] at alignedLeft
  have front (count : Nat) (inside : count ≤ right.size) :
      left.strong.extract 0 (count * right.params.strongLength) =
        right.strong.extract 0 (count * right.params.strongLength) := by
    induction count with
    | zero => rw [Nat.zero_mul, ByteArray.extract_same, ByteArray.extract_same]
    | succ count ih =>
      have block := strong_blockAt_eq same count (sameSize ▸ inside)
      simp only [blockAt, sameParams] at block
      have split (bytes : ByteArray) :=
        ByteArray.extract_eq_extract_append_extract (a := bytes) (i := 0)
          (k := count * right.params.strongLength + right.params.strongLength)
          (count * right.params.strongLength) (Nat.zero_le _) (Nat.le_add_right ..)
      rw [Nat.add_one_mul, split, split, ih (Nat.le_of_succ_le inside), block]
  have whole := front right.size (Nat.le_refl _)
  rwa [← alignedLeft, ByteArray.extract_zero_size, alignedLeft, ← alignedRight,
    ByteArray.extract_zero_size] at whole

/-- The multimap is no more than another way to read the column of weak sums. -/
theorem Filed.byWeak_equiv (filedLeft : left.Filed) (filedRight : right.Filed)
    (sameWeak : left.weak = right.weak) : left.byWeak.Equiv right.byWeak := by
  apply Std.HashMap.Equiv.of_forall_getElem?_eq
  intro weak
  have sameNumbers : left.numbersOf weak = right.numbersOf weak := by
    rw [numbersOf, numbersOf, size, size, sameWeak]
  rw [← filedLeft.toList_eq, ← filedRight.toList_eq, Array.toList_inj] at sameNumbers
  have samePresence : left.byWeak[weak]?.isSome ↔ right.byWeak[weak]?.isSome := by
    rw [← Std.HashMap.mem_iff_isSome_getElem?, ← Std.HashMap.mem_iff_isSome_getElem?,
      filedLeft.mem_iff, filedRight.mem_iff, sameWeak]
  cases foundLeft : left.byWeak[weak]? with
  | none =>
    rw [foundLeft] at samePresence
    cases foundRight : right.byWeak[weak]? with
    | none => rfl
    | some numbers => simp [foundRight] at samePresence
  | some numbers =>
    rw [foundLeft] at samePresence sameNumbers
    cases foundRight : right.byWeak[weak]? with
    | none => simp [foundRight] at samePresence
    | some others =>
      rw [foundRight] at sameNumbers
      exact congrArg some sameNumbers

/-- Indexes whose columns and multimap agree with each other are equal just if they hold the same
records under the same header. -/
theorem beq_iff_records_eq (alignedLeft : left.Aligned) (alignedRight : right.Aligned)
    (filedLeft : left.Filed) (filedRight : right.Filed) :
    (left == right) = true ↔ left.params = right.params ∧ left.records = right.records := by
  rw [beq_iff_columns_eq]
  constructor
  · rintro ⟨sameParams, sameWeak, sameStrong, -⟩
    have sameBlocks := blocks_eq_of_columns_eq sameParams sameWeak sameStrong
    exact ⟨sameParams, by rw [records, sameBlocks, records]⟩
  · rintro ⟨sameParams, same⟩
    have sameWeak := weak_eq_of_records_eq same
    exact ⟨sameParams, sameWeak, alignedLeft.strong_eq alignedRight sameParams same,
      filedLeft.byWeak_equiv filedRight sameWeak⟩

end Columns

section Streams

theorem Aligned.encode?_eq (aligned : index.Aligned) :
    index.encode? = .ok (index.params.header ++ body index.records) :=
  encodeRecords?_eq_ok_iff.2 ⟨aligned.fit, rfl⟩

/-- A stream is the stream of one signature. -/
theorem header_body_inj {first second : Params} {records others : List (UInt32 × ByteArray)}
    (fit : ∀ record ∈ records, record.2.size = first.strongLength)
    (fitOthers : ∀ record ∈ others, record.2.size = second.strongLength)
    (same : first.header ++ body records = second.header ++ body others) :
    first = second ∧ records = others := by
  have decoded := decode?_header_body fit
  rw [same, decode?_header_body fitOthers] at decoded
  have sameIndex := (Except.ok.inj decoded).symm
  constructor
  · have sameParams := congrArg params sameIndex
    rwa [params_addAll, params_addAll] at sameParams
  · rw [← records_addAll fit, sameIndex, records_addAll fitOthers]

theorem encode?_eq_iff (alignedLeft : left.Aligned) (alignedRight : right.Aligned) :
    (∃ stream, left.encode? = .ok stream ∧ right.encode? = .ok stream) ↔
      left.params = right.params ∧ left.records = right.records := by
  rw [alignedLeft.encode?_eq, alignedRight.encode?_eq]
  constructor
  · rintro ⟨stream, encodedLeft, encodedRight⟩
    have same := (Except.ok.inj encodedLeft).trans (Except.ok.inj encodedRight).symm
    exact header_body_inj alignedLeft.fit alignedRight.fit same
  · rintro ⟨sameParams, same⟩
    exact ⟨_, rfl, by rw [sameParams, same]⟩

end Streams

section Histories

theorem Built.aligned_filed (built : Built index) : index.Aligned ∧ index.Filed := by
  induction built with
  | blank blank =>
    rw [blank.eq_empty]
    exact ⟨aligned_empty _, filed_empty _⟩
  | decoded decoded =>
    obtain ⟨params, records, fit, -, rfl⟩ :=
      decode?_eq_ok_iff.1 (Decoder.decode?_of_signature? decoded)
    exact ⟨(aligned_empty params).addAll fit, (filed_empty params).addAll records⟩
  | @offered index built weak strong ih =>
    obtain ⟨aligned, filed⟩ := ih
    rw [offer_eq]
    split
    next fits => exact ⟨aligned.add fits, filed.add weak strong⟩
    next => exact ⟨aligned, filed⟩

theorem Built.of_decode? {stream : ByteArray} (decoded : decode? stream = .ok index) :
    Built index := by
  have whole : ((Decoder.new (some stream.size)).perform
      [.push stream, .finish, .run]).2.signature? = .ok index := by
    obtain ⟨⟨⟩, -, decoded⟩ := bind_eq_ok.1 decoded
    obtain ⟨progress, -, decoded⟩ := bind_eq_ok.1 decoded
    exact decoded
  exact .decoded whole

theorem Built.offerAll (built : Built index) (records : List (UInt32 × ByteArray)) :
    Built (index.offerAll records).2 := by
  induction records generalizing index with
  | nil => exact built
  | cons record records ih => exact ih (built.offered record.1 record.2)

theorem Aligned.records_offerAll (aligned : index.Aligned)
    (offered : List (UInt32 × ByteArray)) :
    (index.offerAll offered).2.records = index.records ++ fitting index.params offered := by
  rw [offerAll_eq_addAll, records, aligned.blocks_addAll fits_of_mem_fitting, List.map_append]
  refine congrArg (index.records ++ ·) ?_
  exact List.ext_getElem (by simp) fun number _ _ => by simp

theorem params_offerAll (index : Index) (offered : List (UInt32 × ByteArray)) :
    (index.offerAll offered).2.params = index.params := by
  rw [offerAll_eq_addAll, params_addAll]

/-- However two indexes were built, they are equal just if they hold the same records under the same
header, and just if they are encoded to the same stream.  Of the blocks offered to them later those
that are refused have no part in this. -/
theorem beq_iff_of_built (builtLeft : Built left) (builtRight : Built right) :
    ((left == right) = true ↔ left.params = right.params ∧ left.records = right.records) ∧
    ((left == right) = true ↔
      ∃ stream, left.encode? = .ok stream ∧ right.encode? = .ok stream) ∧
    ∀ offered others,
      ((left.offerAll offered).2 == (right.offerAll others).2) = true ↔
        left.params = right.params ∧
          left.records ++ fitting left.params offered =
            right.records ++ fitting right.params others := by
  obtain ⟨alignedLeft, filedLeft⟩ := builtLeft.aligned_filed
  obtain ⟨alignedRight, filedRight⟩ := builtRight.aligned_filed
  have now := beq_iff_records_eq alignedLeft alignedRight filedLeft filedRight
  refine ⟨now, now.trans (encode?_eq_iff alignedLeft alignedRight).symm, fun offered others => ?_⟩
  obtain ⟨alignedLater, filedLater⟩ := (builtLeft.offerAll offered).aligned_filed
  obtain ⟨alignedOther, filedOther⟩ := (builtRight.offerAll others).aligned_filed
  rw [beq_iff_records_eq alignedLater alignedOther filedLater filedOther, params_offerAll,
    params_offerAll, alignedLeft.records_offerAll, alignedRight.records_offerAll]

/-- Two blocks with one weak sum.  Both are offered to an index with room for four, along with one
that does not fit, and both are read from a stream. -/
theorem beq_iff_of_built_decoded :
    let params : Params := ⟨Format.blake2.tag, 1024, 2, by decide, by decide, by decide⟩
    let left := ((empty params).offerAll [(10, ⟨#[1, 1]⟩), (20, ⟨#[3]⟩), (10, ⟨#[4, 4]⟩)]).2
    let right := (empty params).addAll [(10, ⟨#[1, 1]⟩), (10, ⟨#[4, 4]⟩)]
    withCapacity? params 4 = .ok (empty params) ∧
    decode? ⟨#[0x72, 0x73, 0x01, 0x37, 0, 0, 4, 0, 0, 0, 0, 2, 0, 0, 0, 10, 1, 1, 0, 0, 0, 10, 4,
      4]⟩ = .ok right ∧
    (left == right) = true := by
  intro params left right
  have made : withCapacity? params 4 = .ok (empty params) := rfl
  have read : decode? (params.header ++ body [(10, ⟨#[1, 1]⟩), (10, ⟨#[4, 4]⟩)]) = .ok right :=
    decode?_header_body (by decide)
  have stream : params.header ++ body [(10, ⟨#[1, 1]⟩), (10, ⟨#[4, 4]⟩)] =
      ⟨#[0x72, 0x73, 0x01, 0x37, 0, 0, 4, 0, 0, 0, 0, 2, 0, 0, 0, 10, 1, 1, 0, 0, 0, 10, 4,
        4]⟩ := by
    decide
  have builtLeft : Built left := (Built.blank (.inr ⟨4, made⟩)).offerAll _
  have builtRight : Built right := .of_decode? read
  exact ⟨made, stream ▸ read, (beq_iff_of_built builtLeft builtRight).1.2 ⟨rfl, by decide⟩⟩

end Histories

end Index

end DeltaSignature
