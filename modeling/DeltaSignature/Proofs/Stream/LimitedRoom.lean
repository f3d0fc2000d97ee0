import DeltaSignature.Proofs.Stream.RoundTrip
import Mathlib.Data.List.TakeDrop

/-!
# Writing into limited room

A sink with limited room may cut a record anywhere, and a writer may be given more records after
that.  However many it is given, the sink holds the leading part that fits of the stream of all the
records of the right size, and the writer counts those of them that are there in full.
-/

namespace DeltaSignature

open BoundedSink (Clipped)

theorem Params.recordLength_pos (params : Params) : 0 < params.recordLength :=
  Nat.add_pos_left (by decide) _

theorem extract_header_body {params : Params} {records : List (UInt32 × ByteArray)}
    (fit : ∀ record ∈ records, record.2.size = params.strongLength) {count : Nat}
    (there : count ≤ records.length) :
    (params.header ++ body records).extract 0
        (Params.headerLength + count * params.recordLength) =
      params.header ++ body (records.take count) := by
  have fitTaken : ∀ record ∈ records.take count, record.2.size = params.strongLength :=
    fun record listed => fit record (List.mem_of_mem_take listed)
  have extent : (params.header ++ body (records.take count)).size =
      Params.headerLength + count * params.recordLength := by
    rw [ByteArray.size_append, Params.size_header, size_body fitTaken, List.length_take,
      Nat.min_eq_left there]
    rfl
  have split : body records = body (records.take count) ++ body (records.drop count) := by
    rw [← body_append, List.take_append_drop]
  rw [← extent, split, ← ByteArray.append_assoc, extract_front_append _ (Nat.le_refl _),
    ByteArray.extract_zero_size]

namespace Writer

/-- Adds records in order, whether or not they are taken. -/
def offerAll {τ : Type} [ByteSink τ] (writer : Writer τ) :
    List (UInt32 × ByteArray) → List (Except IoFailure Unit) × Writer τ
  | [] => ([], writer)
  | record :: records =>
    let added := writer.add record.1 record.2
    let rest := added.2.offerAll records
    (added.1 :: rest.1, rest.2)

/-- The records that were taken. -/
def taken (records : List (UInt32 × ByteArray)) (answers : List (Except IoFailure Unit)) :
    List (UInt32 × ByteArray) :=
  ((records.zip answers).filter fun answered => answered.2.isOk).map Prod.fst

variable {params : Params} {limit : Nat} {full : IoFailure}
  {offered : List (UInt32 × ByteArray)} {writer : Writer BoundedSink}
  {weak : UInt32} {strong : ByteArray}

/-- How many records there is room for behind the header. -/
def roomFor (params : Params) (limit : Nat) : Nat :=
  (limit - Params.headerLength) / params.recordLength

theorem lt_roomFor_iff (params : Params) {limit : Nat} (opened : Params.headerLength ≤ limit)
    (count : Nat) :
    count < roomFor params limit ↔
      Params.headerLength + (count + 1) * params.recordLength ≤ limit := by
  rw [Nat.lt_iff_add_one_le, roomFor, Nat.le_div_iff_mul_le params.recordLength_pos]
  omega

/-- The writer was offered these records, all of the right size, for a sink with this limit. -/
structure Filled (params : Params) (limit : Nat) (full : IoFailure)
    (offered : List (UInt32 × ByteArray)) (writer : Writer BoundedSink) : Prop where
  params_eq : writer.params = params
  full_eq : writer.sink.full = full
  opened : Params.headerLength ≤ limit
  fit : ∀ record ∈ offered, record.2.size = params.strongLength
  clipped : Clipped limit writer.sink (params.header ++ body offered)
  blocks_eq : writer.blocks = min offered.length (roomFor params limit)
  bytesOut_eq : writer.bytesOut = Params.headerLength + writer.blocks * params.recordLength

theorem add_of_misfit (misfit : strong.size ≠ writer.params.strongLength) :
    writer.add weak strong = (.error (mismatch writer.params strong), writer) := by
  rw [add, if_neg misfit]

/-- A record of the right size is taken if there is room for all of it. -/
theorem Filled.add (filled : Filled params limit full offered writer) (weak : UInt32)
    (fits : strong.size = params.strongLength) :
    (writer.add weak strong).1 =
        (if offered.length < roomFor params limit then .ok () else .error full) ∧
      Filled params limit full (offered ++ [(weak, strong)]) (writer.add weak strong).2 := by
  obtain ⟨rfl, rfl, opened, fit, clipped, blocks, bytesOut⟩ := filled
  have extent : (writer.params.header ++ body offered).size =
      Params.headerLength + offered.length * writer.params.recordLength := by
    rw [ByteArray.size_append, Params.size_header, size_body fit]
    rfl
  have record : (recordBytes weak strong).size = writer.params.recordLength := by
    rw [size_recordBytes, fits]
    rfl
  have fitNext : ∀ record ∈ offered ++ [(weak, strong)],
      record.2.size = writer.params.strongLength :=
    List.forall_mem_append.2 ⟨fit, List.forall_mem_singleton.2 fits⟩
  have stream : writer.params.header ++ body (offered ++ [(weak, strong)]) =
      writer.params.header ++ body offered ++ recordBytes weak strong := by
    rw [body_append, body_singleton, ByteArray.append_assoc]
  have positive := writer.params.recordLength_pos
  have there := lt_roomFor_iff writer.params opened offered.length
  rw [Nat.add_one_mul] at there
  rw [add_of_fits weak fits, clipped.writeAll_eq, concat_recordFields, extent, record, ← stream]
  by_cases room : offered.length < roomFor writer.params limit
  · rw [if_pos room, if_pos (by omega)]
    refine ⟨rfl, rfl, rfl, opened, fitNext, ⟨clipped.limit_eq, rfl⟩, ?_, ?_⟩
    · rw [List.length_append, List.length_singleton]
      simp only [blocks]
      omega
    · simp only [bytesOut, Nat.add_one_mul, Nat.add_assoc]
  · rw [if_neg room, if_neg (by omega)]
    refine ⟨rfl, rfl, rfl, opened, fitNext, ⟨clipped.limit_eq, rfl⟩, ?_, bytesOut⟩
    rw [List.length_append, List.length_singleton]
    simp only [blocks]
    omega

theorem taken_cons (record : UInt32 × ByteArray) (records : List (UInt32 × ByteArray))
    (answer : Except IoFailure Unit) (answers : List (Except IoFailure Unit)) :
    taken (record :: records) (answer :: answers) =
      if answer.isOk then record :: taken records answers else taken records answers := by
  rw [taken, List.zip_cons_cons, List.filter_cons]
  split <;> rfl

theorem length_taken {records : List (UInt32 × ByteArray)}
    {answers : List (Except IoFailure Unit)} (answered : answers.length = records.length) :
    (taken records answers).length = answers.countP Except.isOk := by
  conv => rhs; rw [← List.map_snd_zip (Nat.le_of_eq answered), List.countP_map]
  rw [taken, List.length_map, ← List.countP_eq_length_filter]
  rfl

theorem length_offerAll {τ : Type} [ByteSink τ] (writer : Writer τ)
    (records : List (UInt32 × ByteArray)) :
    (writer.offerAll records).1.length = records.length := by
  induction records generalizing writer with
  | nil => rfl
  | cons record records ih => exact congrArg (· + 1) (ih _)

/-- The records of the right size are taken until there is no room for one. -/
theorem Filled.offerAll (filled : Filled params limit full offered writer)
    (records : List (UInt32 × ByteArray)) :
    Filled params limit full (offered ++ Index.fitting params records)
        (writer.offerAll records).2 ∧
      taken records (writer.offerAll records).1 =
        (Index.fitting params records).take (roomFor params limit - offered.length) := by
  induction records generalizing writer offered with
  | nil => exact ⟨by rwa [Index.fitting, List.filter_nil, List.append_nil], List.take_nil.symm⟩
  | cons record records ih =>
    rw [Writer.offerAll, taken_cons, Index.fitting_cons]
    by_cases fits : record.2.size = params.strongLength
    · obtain ⟨answer, next⟩ := filled.add record.1 fits
      obtain ⟨last, later⟩ := ih next
      rw [if_pos fits, later, answer]
      refine ⟨by rwa [List.append_assoc] at last, ?_⟩
      rw [List.length_append, List.length_singleton]
      by_cases room : offered.length < roomFor params limit
      · have more : roomFor params limit - offered.length =
            roomFor params limit - (offered.length + 1) + 1 := by omega
        rw [if_pos room, more, List.take_succ_cons]
        rfl
      · rw [if_neg room, Nat.sub_eq_zero_of_le (by omega), Nat.sub_eq_zero_of_le (by omega)]
        rfl
    · rw [if_neg fits, add_of_misfit (filled.params_eq.symm ▸ fits)]
      exact ih filled

/-- A writer into a sink with this limit that has tried to add these records, with these answers.
The bytes that it counts are a stream of the records that were taken, and nothing is written of a
record of the wrong size. -/
structure Accounts (params : Params) (limit : Nat) (full : IoFailure)
    (records : List (UInt32 × ByteArray)) (answers : List (Except IoFailure Unit))
    (writer : Writer BoundedSink) : Prop where
  written_eq : writer.sink.written =
    (params.header ++ body (Index.fitting params records)).extract 0 limit
  blocks_eq : writer.blocks = answers.countP Except.isOk
  bytesOut_eq : writer.bytesOut = Params.headerLength + writer.blocks * params.recordLength
  decodes : ∃ index, Index.decode? (writer.sink.written.extract 0 writer.bytesOut) = .ok index ∧
    index.params = params ∧
    (index.blocks.map fun block => (block.weak, block.strong)) = taken records answers
  encodes : taken records answers = Index.fitting params records →
    encodeRecords? params (Index.fitting params records) = .ok writer.sink.written
  misfit : ∀ weak strong, strong.size ≠ params.strongLength →
    ∃ failure, failure.kind = .invalidInput ∧ writer.add weak strong = (.error failure, writer)
  fits : ∀ weak strong, strong.size = params.strongLength →
    (writer.add weak strong).1 =
      if Params.headerLength +
          ((Index.fitting params records).length + 1) * params.recordLength ≤ limit
      then .ok () else .error full

theorem Filled.bytesOut_le (filled : Filled params limit full offered writer) :
    writer.bytesOut ≤ limit := by
  have opened := filled.opened
  have few : writer.blocks ≤ roomFor params limit := by
    rw [filled.blocks_eq]
    exact Nat.min_le_right ..
  have inside : writer.blocks * params.recordLength ≤ limit - Params.headerLength :=
    (Nat.le_div_iff_mul_le params.recordLength_pos).1 few
  rw [filled.bytesOut_eq]
  omega

theorem Filled.extract_written (filled : Filled params limit full offered writer) :
    writer.sink.written.extract 0 writer.bytesOut =
      params.header ++ body (offered.take (roomFor params limit)) := by
  have inside := filled.bytesOut_le
  have there : writer.blocks ≤ offered.length := by
    rw [filled.blocks_eq]
    exact Nat.min_le_left ..
  have same : offered.take writer.blocks = offered.take (roomFor params limit) := by
    rw [List.take_eq_take_iff, filled.blocks_eq]
    omega
  have uncut : writer.sink.written.extract 0 writer.bytesOut =
      (params.header ++ body offered).extract 0 writer.bytesOut := by
    rw [filled.clipped.written_eq, ByteArray.extract_extract]
    exact extract_eq_of_min_eq (by omega)
  rw [uncut, filled.bytesOut_eq, extract_header_body filled.fit there, same]

theorem Filled.written_eq_of_le (filled : Filled params limit full offered writer)
    (room : offered.length ≤ roomFor params limit) :
    writer.sink.written = params.header ++ body offered := by
  have inside := filled.bytesOut_le
  rw [filled.bytesOut_eq, filled.blocks_eq, Nat.min_eq_left room] at inside
  have extent : (params.header ++ body offered).size ≤ limit := by
    rwa [ByteArray.size_append, Params.size_header, size_body filled.fit]
  rw [filled.clipped.written_eq]
  exact (extract_eq_of_min_eq (by omega)).trans ByteArray.extract_zero_size

theorem Filled.accounts (filled : Filled params limit full [] writer)
    (records : List (UInt32 × ByteArray)) :
    Accounts params limit full records (writer.offerAll records).1
      (writer.offerAll records).2 := by
  obtain ⟨last, took⟩ := filled.offerAll records
  rw [List.nil_append] at last
  rw [List.length_nil, Nat.sub_zero] at took
  have fit : ∀ record ∈ (Index.fitting params records).take (roomFor params limit),
      record.2.size = params.strongLength :=
    fun record listed => last.fit record (List.mem_of_mem_take listed)
  constructor
  case written_eq => exact last.clipped.written_eq
  case blocks_eq =>
    rw [← length_taken (length_offerAll writer records), took, List.length_take, last.blocks_eq,
      Nat.min_comm]
  case bytesOut_eq => exact last.bytesOut_eq
  case decodes =>
    have decoded := decode?_header_body fit
    rw [← last.extract_written] at decoded
    exact ⟨_, decoded, Index.params_addAll .., (Index.records_addAll fit).trans took.symm⟩
  case encodes =>
    intro all
    rw [took, List.take_eq_self_iff] at all
    rw [last.written_eq_of_le all]
    exact encodeRecords?_eq_ok_iff.2 ⟨last.fit, rfl⟩
  case misfit =>
    intro weak strong misfit
    rw [← last.params_eq] at misfit
    exact ⟨_, rfl, add_of_misfit misfit⟩
  case fits =>
    intro weak strong fits
    rw [(last.add weak fits).1]
    simp only [lt_roomFor_iff params last.opened]

/-- A sink that takes so many bytes in all lets a writer start just if the header fits.  Then,
whatever records the writer is given, the sink holds what fits of those of the right size, and the
books are about those that are there in full. -/
theorem start_accounts (params : Params) (limit : Nat) (full : IoFailure)
    (flushRefusal : Option IoFailure) :
    match start { limit := some limit, full, flushRefusal : BoundedSink } params with
    | .error (failure, sink) => limit < Params.headerLength ∧ failure = full ∧
        sink.written = params.header.extract 0 limit
    | .ok writer => Params.headerLength ≤ limit ∧
        writer.sink.written = params.header.extract 0 limit ∧
        ∀ records, Accounts params limit full records (writer.offerAll records).1
          (writer.offerAll records).2 := by
  have blank : Clipped limit { limit := some limit, full, flushRefusal } .empty :=
    ⟨rfl, (ByteArray.extract_eq_empty_iff.2 (Nat.min_le_right ..)).symm⟩
  rw [start, blank.writeAll_eq, concat_headerFields, Params.size_header, ByteArray.empty_append,
    ByteArray.size_empty, Nat.sub_zero]
  by_cases opened : Params.headerLength ≤ limit
  · rw [if_pos opened]
    refine ⟨opened, rfl, fun records => Filled.accounts ?_ records⟩
    constructor
    case params_eq => rfl
    case full_eq => rfl
    case opened => exact opened
    case fit => simp
    case clipped => exact ⟨rfl, by rw [body, ByteArray.append_empty]⟩
    case blocks_eq => exact (Nat.zero_min _).symm
    case bytesOut_eq => simp
  · rw [if_neg opened]
    exact ⟨Nat.lt_of_not_le opened, rfl, rfl⟩

-- The third record of the right size lacks one byte of room; what fits of it stays in the sink.
example :
    let params : Params := ⟨0x72730136, 1, 2, by decide, by decide, by decide⟩
    let sink : BoundedSink := { limit := some 29, full := ⟨.storageFull, "full"⟩ }
    ((Writer.start sink params).toOption.map fun writer =>
      let (answers, last) := writer.offerAll
        [(1, ⟨#[1, 2]⟩), (2, ⟨#[1]⟩), (3, ⟨#[3, 4]⟩), (4, ⟨#[5, 6]⟩), (5, ⟨#[7, 8]⟩)]
      (answers.map Except.isOk, last.blocks, last.bytesOut, last.sink.written.size)) =
    some ([true, false, true, false, false], 2, 24, 29) := by
  decide +kernel

end Writer

end DeltaSignature
