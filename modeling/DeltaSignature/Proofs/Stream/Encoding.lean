import DeltaSignature.Proofs.Stream.Grammar
import DeltaSignature.Proofs.Transfer.Collection
import DeltaSignature.Stream.Writer

/-!
# What is written is read back

A stream is a header with the records of the blocks behind it.  A writer over a sink that takes
everything adds just that, and decoding it gives an index with a block for every record.
-/

namespace DeltaSignature

/-- The records of blocks, one after the other. -/
def body : List (UInt32 × ByteArray) → ByteArray
  | [] => .empty
  | record :: records => recordBytes record.1 record.2 ++ body records

theorem body_append (first second : List (UInt32 × ByteArray)) :
    body (first ++ second) = body first ++ body second := by
  induction first with
  | nil => exact ByteArray.empty_append.symm
  | cons record records ih => rw [List.cons_append, body, body, ih, ByteArray.append_assoc]

theorem body_singleton (record : UInt32 × ByteArray) :
    body [record] = recordBytes record.1 record.2 :=
  ByteArray.append_empty

theorem concat_headerFields (params : Params) :
    ByteSink.concat params.headerFields = params.header := by
  simp only [Params.headerFields, Params.header, ByteSink.concat, ByteArray.append_empty,
    ByteArray.append_assoc]

theorem concat_recordFields (weak : UInt32) (strong : ByteArray) :
    ByteSink.concat (recordFields weak strong) = recordBytes weak strong := by
  simp only [recordFields, recordBytes, ByteSink.concat, ByteArray.append_empty]

theorem size_body {strongLength : Nat} {records : List (UInt32 × ByteArray)}
    (fit : ∀ record ∈ records, record.2.size = strongLength) :
    (body records).size = records.length * (4 + strongLength) := by
  induction records with
  | nil => exact (Nat.zero_mul _).symm
  | cons record records ih =>
    obtain ⟨fits, fitLater⟩ := List.forall_mem_cons.1 fit
    rw [body, ByteArray.size_append, size_recordBytes, fits, ih fitLater, List.length_cons,
      Nat.add_one_mul, Nat.add_comm]

theorem recordAt_recordBytes (weak : UInt32) (strong rest : ByteArray) :
    recordAt (recordBytes weak strong ++ rest) 0 strong.size = (weak, strong) := by
  have weakRead : BigEndian.wordAt (recordBytes weak strong ++ rest) 0 = weak := by
    rw [← BigEndian.decode_drop, ByteArray.extract_zero_size, recordBytes, ByteArray.append_assoc,
      BigEndian.decode_encode_append]
  have strongRead : (recordBytes weak strong ++ rest).extract 4 (4 + strong.size) = strong := by
    rw [extract_front_append rest (Nat.le_of_eq (size_recordBytes weak strong).symm)]
    exact extract_append_size (BigEndian.encode weak) strong
  rw [recordAt, weakRead, Nat.zero_add, strongRead]

namespace Decoder

/-- Records are read back one by one, whatever stands behind them. -/
theorem verdict_body {index : Index} {records : List (UInt32 × ByteArray)}
    (fit : ∀ record ∈ records, record.2.size = index.params.strongLength) (rest : ByteArray) :
    verdict (.weakSum index) (body records ++ rest) =
      verdict (.weakSum (index.addAll records)) rest := by
  induction records generalizing index with
  | nil => rw [body, ByteArray.empty_append, Index.addAll, List.foldl_nil]
  | cons record records ih =>
    obtain ⟨fits, fitLater⟩ := List.forall_mem_cons.1 fit
    have extent : (recordBytes record.1 record.2).size = 4 + index.params.strongLength := by
      rw [size_recordBytes, fits]
    have complete : 4 + index.params.strongLength ≤
        (recordBytes record.1 record.2 ++ (body records ++ rest)).size := by
      rw [ByteArray.size_append]
      omega
    have behind := extract_append_size (recordBytes record.1 record.2) (body records ++ rest)
    rw [← ByteArray.size_append, extent] at behind
    rw [body, ByteArray.append_assoc, verdict_record complete, behind, ← fits,
      recordAt_recordBytes]
    exact ih fitLater

/-- The header that a writer writes is accepted as what it was written for. -/
theorem ofHeader?_header (params : Params) (rest : ByteArray) :
    Params.ofHeader? (BigEndian.wordAt (params.header ++ rest) 0)
      (BigEndian.wordAt (params.header ++ rest) 4).toNat
      (BigEndian.wordAt (params.header ++ rest) 8).toNat = .ok params := by
  have blockBound := params.blockLength_lt
  have strongBound := params.strongLength_le_max
  have wordSize : UInt32.size = 0x1_0000_0000 := rfl
  rw [maxStrongLength] at strongBound
  have tag : BigEndian.wordAt (params.header ++ rest) 0 = params.tag := by
    rw [← BigEndian.decode_drop, ByteArray.extract_zero_size, Params.header, ByteArray.append_assoc,
      ByteArray.append_assoc, BigEndian.decode_encode_append]
  have blockLength :
      BigEndian.wordAt (params.header ++ rest) 4 = UInt32.ofNat params.blockLength := by
    rw [Params.header, ByteArray.append_assoc, ByteArray.append_assoc]
    exact (BigEndian.wordAt_append ..).trans (BigEndian.decode_encode_append ..)
  have strongLength :
      BigEndian.wordAt (params.header ++ rest) 8 = UInt32.ofNat params.strongLength := by
    rw [Params.header, ByteArray.append_assoc]
    exact (BigEndian.wordAt_append ..).trans (BigEndian.decode_encode_append ..)
  rw [tag, blockLength, strongLength, UInt32.toNat_ofNat_of_lt' (by omega),
    UInt32.toNat_ofNat_of_lt' (by omega)]
  exact Params.ofHeader?_eq_ok_iff.2 ⟨rfl, rfl, rfl⟩

theorem verdict_params_header (params : Params) (rest : ByteArray) :
    verdict .tag (params.header ++ rest) = verdict (.weakSum (.empty params)) rest := by
  have accepted := ofHeader?_header params rest
  have whole : 12 ≤ (params.header ++ rest).size := by
    rw [ByteArray.size_append, Params.size_header, Params.headerLength]
    omega
  have behind := extract_append_size params.header rest
  rw [← ByteArray.size_append, Params.size_header, Params.headerLength] at behind
  rcases verdict_header (params.header ++ rest) with ⟨defect, found, -⟩ | ⟨params', -, same, read⟩
  · cases found.symm.trans ((headerDefect?_eq_none_iff whole).2 ⟨params, accepted⟩)
  · obtain rfl := Except.ok.inj (accepted.symm.trans same)
    rw [read, behind]

end Decoder

theorem decode?_header_body {params : Params} {records : List (UInt32 × ByteArray)}
    (fit : ∀ record ∈ records, record.2.size = params.strongLength) :
    Index.decode? (params.header ++ body records) = .ok ((Index.empty params).addAll records) := by
  have nothing : Decoder.verdict (.weakSum ((Index.empty params).addAll records)) .empty =
      .ok ((Index.empty params).addAll records) := by
    rw [Decoder.verdict, if_neg (by decide), if_pos ByteArray.size_empty]
  rw [Index.decode?_eq_verdict, Decoder.verdict_params_header, ← nothing,
    ← Decoder.verdict_body fit, ByteArray.append_empty]

namespace Writer

variable {τ : Type} {holds : τ → ByteArray → Prop} {before : ByteArray} {params : Params}
  {records : List (UInt32 × ByteArray)} {writer : Writer τ}

/-- The writer has added the header and these records to a sink that held `before`, and its counters
say so. -/
structure Wrote (holds : τ → ByteArray → Prop) (before : ByteArray) (params : Params)
    (records : List (UInt32 × ByteArray)) (writer : Writer τ) : Prop where
  params_eq : writer.params = params
  holds_stream : holds writer.sink (before ++ (params.header ++ body records))
  blocks_eq : writer.blocks = records.length
  bytesOut_eq : writer.bytesOut = 12 + records.length * (4 + params.strongLength)

variable [ByteSink τ] {stuck : τ → ByteArray → Prop} {weak : UInt32} {strong : ByteArray}

theorem wrote_of_start (appends : ByteSink.Appends holds stuck) {sink : τ}
    (held : holds sink before) (started : start sink params = .ok writer) :
    Wrote holds before params [] writer := by
  unfold start at started
  split at started
  next next written =>
    obtain rfl := Except.ok.inj started
    refine ⟨rfl, ?_, rfl, ?_⟩
    · rw [body, ByteArray.append_empty]
      exact concat_headerFields params ▸ appends.holds_of_writeAll held written
    · rw [List.length_nil, Nat.zero_mul, Params.headerLength]
  next => contradiction

theorem stuck_of_start (appends : ByteSink.Appends holds stuck) {sink next : τ}
    {failure : IoFailure} (held : holds sink before)
    (failed : start sink params = .error (failure, next)) :
    ∃ taken < 12, stuck next (before ++ params.header.extract 0 taken) := by
  unfold start at failed
  split at failed
  next => contradiction
  next why after refused =>
    obtain ⟨rfl, rfl⟩ := Prod.mk.inj (Except.error.inj failed)
    have stopped := appends.stuck_of_writeAll held refused
    rwa [concat_headerFields, Params.size_header, Params.headerLength] at stopped

/-- A record of the right size either is added whole or gets the sink stuck in it. -/
theorem add_of_fits {writer : Writer τ} (weak : UInt32)
    (fits : strong.size = writer.params.strongLength) :
    writer.add weak strong =
      match ByteSink.writeAll writer.sink (recordFields weak strong) with
      | (.ok (), sink) => (.ok (), ⟨sink, writer.params, writer.blocks + 1,
          writer.bytesOut + writer.params.recordLength⟩)
      | (.error failure, sink) => (.error failure, { writer with sink }) :=
  if_pos fits

omit [ByteSink τ] in
theorem Wrote.fits (wrote : Wrote holds before params records writer)
    (fits : strong.size = params.strongLength) : strong.size = writer.params.strongLength := by
  rw [wrote.params_eq, fits]

theorem Wrote.added (appends : ByteSink.Appends holds stuck)
    (wrote : Wrote holds before params records writer) (fits : strong.size = params.strongLength)
    {next : Writer τ} (added : writer.add weak strong = (.ok (), next)) :
    Wrote holds before params (records ++ [(weak, strong)]) next := by
  rw [add_of_fits weak (wrote.fits fits)] at added
  split at added
  next sink written =>
    obtain ⟨-, rfl⟩ := Prod.mk.inj added
    have held := appends.holds_of_writeAll wrote.holds_stream written
    refine ⟨wrote.params_eq, ?_, ?_, ?_⟩
    · rw [concat_recordFields] at held
      simpa only [body_append, body_singleton, ByteArray.append_assoc] using held
    · rw [List.length_append, List.length_singleton, wrote.blocks_eq]
    · rw [List.length_append, List.length_singleton, Nat.add_one_mul, wrote.bytesOut_eq,
        wrote.params_eq, Params.recordLength, Nat.add_assoc]
  next => cases congrArg Prod.fst added

theorem Wrote.stuck_of_add (appends : ByteSink.Appends holds stuck)
    (wrote : Wrote holds before params records writer) (fits : strong.size = params.strongLength)
    {next : Writer τ} {failure : IoFailure}
    (failed : writer.add weak strong = (.error failure, next)) :
    ∃ taken < (recordBytes weak strong).size,
      stuck next.sink (before ++ (params.header ++ body records) ++
        (recordBytes weak strong).extract 0 taken) := by
  rw [add_of_fits weak (wrote.fits fits)] at failed
  split at failed
  next => cases congrArg Prod.fst failed
  next why sink refused =>
    obtain ⟨-, rfl⟩ := Prod.mk.inj failed
    exact concat_recordFields weak strong ▸ appends.stuck_of_writeAll wrote.holds_stream refused

theorem start_wrote (collects : ByteSink.Collects holds) (params : Params) {sink : τ}
    (held : holds sink before) :
    ∃ writer, start sink params = .ok writer ∧ Wrote holds before params [] writer := by
  obtain ⟨next, written, -⟩ := collects.writeAll_ok params.headerFields held
  have started : start sink params = .ok { sink := next, params } := by rw [start, written]
  exact ⟨_, started, wrote_of_start collects.appends held started⟩

theorem Wrote.add (collects : ByteSink.Collects holds)
    (wrote : Wrote holds before params records writer) (weak : UInt32) {strong : ByteArray}
    (fits : strong.size = params.strongLength) :
    ∃ next, writer.add weak strong = (.ok (), next) ∧
      Wrote holds before params (records ++ [(weak, strong)]) next := by
  obtain ⟨sink, written, -⟩ :=
    collects.writeAll_ok (recordFields weak strong) wrote.holds_stream
  have added := add_of_fits weak (wrote.fits fits)
  rw [written] at added
  exact ⟨_, added, wrote.added collects.appends fits added⟩

end Writer

end DeltaSignature
