import DeltaSignature.Proofs.Index.Offers
import DeltaSignature.Proofs.Stream.Encoding
import Mathlib.Tactic.SplitIfs

/-!
# Signatures and accepted streams are the same

A stream that is accepted is the header of its parameters with its records behind it, and an index
is made of nothing else.  So encoding takes every index to a stream that decodes to it, and decoding
takes every accepted stream to an index that encodes to it.
-/

namespace DeltaSignature

open BigEndian

theorem recordBytes_recordAt {strongLength : Nat} {bytes : ByteArray}
    (complete : 4 + strongLength ≤ bytes.size) :
    recordBytes (recordAt bytes 0 strongLength).1 (recordAt bytes 0 strongLength).2 =
      bytes.extract 0 (4 + strongLength) := by
  have weak : encode (wordAt bytes 0) = bytes.extract 0 4 :=
    encode_decode (size_take (by omega))
  have joined := ByteArray.extract_eq_extract_append_extract (a := bytes)
    (i := 0) (k := 4 + strongLength) 4 (by omega) (by omega)
  rw [recordBytes, recordAt, weak, Nat.zero_add, joined]

/-- Whole records with nothing behind them are the bytes that they were read from. -/
theorem body_records {strongLength : Nat} {bytes : ByteArray}
    (whole : bytes.size % (4 + strongLength) = 0) : body (records strongLength bytes) = bytes := by
  generalize many : bytes.size / (4 + strongLength) = count
  induction count generalizing bytes with
  | zero =>
    have nothing : bytes.size = 0 := by
      rw [← Nat.div_add_mod bytes.size (4 + strongLength), many, whole, Nat.mul_zero]
    rw [records_of_short (by omega), body, ByteArray.size_eq_zero_iff.1 nothing]
  | succ count ih =>
    have complete : 4 + strongLength ≤ bytes.size := by
      by_contra short
      rw [Nat.div_eq_of_lt (Nat.lt_of_not_le short)] at many
      contradiction
    rw [Nat.div_eq_sub_div (by omega) complete, ← size_drop] at many
    rw [Nat.mod_eq_sub_mod complete, ← size_drop] at whole
    have joined := ByteArray.extract_eq_extract_append_extract (a := bytes)
      (i := 0) (k := bytes.size) (4 + strongLength) (by omega) (by omega)
    rw [records_cons complete, body, recordBytes_recordAt complete, ih whole (Nat.succ.inj many),
      ← joined, ByteArray.extract_zero_size]

/-- The words of a header that is accepted are the header of what it was accepted as. -/
theorem header_eq_extract {params : Params} {stream : ByteArray} (whole : 12 ≤ stream.size)
    (accepted : Params.ofHeader? (wordAt stream 0) (wordAt stream 4).toNat
      (wordAt stream 8).toNat = .ok params) :
    params.header = stream.extract 0 12 := by
  obtain ⟨tag, blockLength, strongLength⟩ := Params.ofHeader?_eq_ok_iff.1 accepted
  have word (place : Nat) (inside : place + 4 ≤ stream.size) :
      encode (wordAt stream place) = stream.extract place (place + 4) := by
    refine encode_decode ?_
    rw [ByteArray.size_extract]
    omega
  have front := ByteArray.extract_eq_extract_append_extract (a := stream)
    (i := 0) (k := 8) 4 (by omega) (by omega)
  have joined := ByteArray.extract_eq_extract_append_extract (a := stream)
    (i := 0) (k := 12) 8 (by omega) (by omega)
  rw [Params.header, tag, blockLength, strongLength, UInt32.ofNat_toNat, UInt32.ofNat_toNat,
    word 0 (by omega), word 4 (by omega), word 8 (by omega), joined, front]

theorem recordsDefect?_eq_none_iff {strongLength size : Nat} :
    recordsDefect? strongLength size = none ↔ size % (4 + strongLength) = 0 := by
  rw [recordsDefect?]
  split
  next whole => simp [whole]
  next left => split <;> simp [left]

theorem whole_of_headerDefect?_eq_none {stream : ByteArray}
    (clean : headerDefect? stream = none) : 12 ≤ stream.size := by
  by_contra short
  simp only [headerDefect?] at clean
  split_ifs at clean
  omega

/-- A stream is accepted just if it is a header with whole records behind it. -/
theorem decode?_eq_ok_iff {stream : ByteArray} {index : Index} :
    Index.decode? stream = .ok index ↔
      ∃ params records, (∀ record ∈ records, record.2.size = params.strongLength) ∧
        stream = params.header ++ body records ∧ index = (Index.empty params).addAll records := by
  constructor
  · intro decoded
    rcases decode?_cases stream with ⟨defect, -, refused⟩ | ⟨params, clean, accepted, decoded'⟩
    · cases decoded.symm.trans refused
    · obtain rfl := Except.ok.inj (decoded.symm.trans decoded')
      refine ⟨params, records params.strongLength (stream.extract 12 stream.size), records_fit, ?_,
        rfl⟩
      obtain ⟨cleanHeader, cleanRecords⟩ := Option.or_eq_none_iff.1 clean
      have whole := whole_of_headerDefect?_eq_none cleanHeader
      have strongLength : (signed (wordAt stream 8)).toNat = params.strongLength := by
        rw [← (signed_of_ofHeader? accepted).2.2, Int.toNat_natCast]
      rw [strongLength, Params.headerLength, ← size_drop, recordsDefect?_eq_none_iff]
        at cleanRecords
      have joined := ByteArray.extract_eq_extract_append_extract (a := stream)
        (i := 0) (k := stream.size) 12 (by omega) whole
      rw [header_eq_extract whole accepted, body_records cleanRecords, ← joined,
        ByteArray.extract_zero_size]
  · rintro ⟨params, records, fit, rfl, rfl⟩
    exact decode?_header_body fit

namespace Writer

variable {τ : Type} [ByteSink τ] {holds : τ → ByteArray → Prop} {before : ByteArray}
  {params : Params} {writer next : Writer τ}

theorem Wrote.addAll (collects : ByteSink.Collects holds) {written : List (UInt32 × ByteArray)}
    (wrote : Wrote holds before params written writer) {records : List (UInt32 × ByteArray)}
    (fit : ∀ record ∈ records, record.2.size = params.strongLength) :
    ∃ last, writer.addAll records = (.ok (), last) ∧
      Wrote holds before params (written ++ records) last := by
  induction records generalizing writer written with
  | nil => exact ⟨writer, rfl, by rwa [List.append_nil]⟩
  | cons record records ih =>
    obtain ⟨fits, fitLater⟩ := List.forall_mem_cons.1 fit
    obtain ⟨next, added, wroteNext⟩ := wrote.add collects record.1 fits
    obtain ⟨last, addedLater, wroteLast⟩ := ih wroteNext fitLater
    refine ⟨last, ?_, by rwa [List.append_assoc] at wroteLast⟩
    rw [Writer.addAll, added]
    exact addedLater

theorem params_add (writer : Writer τ) (weak : UInt32) (strong : ByteArray) :
    (writer.add weak strong).2.params = writer.params := by
  simp only [add]
  split
  next => split <;> rfl
  next => rfl

theorem fits_of_add_eq_ok {weak : UInt32} {strong : ByteArray}
    (added : writer.add weak strong = (.ok (), next)) :
    strong.size = writer.params.strongLength := by
  by_contra misfit
  rw [add, if_neg misfit] at added
  cases congrArg Prod.fst added

theorem fit_of_addAll_eq_ok {records : List (UInt32 × ByteArray)}
    (added : writer.addAll records = (.ok (), next)) :
    ∀ record ∈ records, record.2.size = writer.params.strongLength := by
  induction records generalizing writer with
  | nil => simp
  | cons record records ih =>
    rw [addAll] at added
    split at added
    next after succeeded =>
      have same := params_add writer record.1 record.2
      rw [succeeded] at same
      refine List.forall_mem_cons.2 ⟨fits_of_add_eq_ok succeeded, ?_⟩
      rw [← same]
      exact ih added
    next => cases congrArg Prod.fst added

end Writer

theorem encodeRecords?_eq_addAll {params : Params} {records : List (UInt32 × ByteArray)}
    {writer : Writer ByteArray} (started : Writer.start ByteArray.empty params = .ok writer) :
    encodeRecords? params records =
      (writer.addAll records).1.map fun _ => (writer.addAll records).2.sink := by
  rw [encodeRecords?, started]
  simp only [Except.mapError, bind, Except.bind]
  cases (writer.addAll records).1 with
  | error failure => rfl
  | ok => rfl

/-- Records are encoded just if all of them fit, to the header with the records behind it. -/
theorem encodeRecords?_eq_ok_iff {params : Params} {records : List (UInt32 × ByteArray)}
    {stream : ByteArray} :
    encodeRecords? params records = .ok stream ↔
      (∀ record ∈ records, record.2.size = params.strongLength) ∧
        stream = params.header ++ body records := by
  have collects := ByteSink.collects_byteArray
  have blank : ByteArray.empty = ByteArray.empty := rfl
  obtain ⟨writer, started, wrote⟩ := Writer.start_wrote collects params blank
  have encoded (fit : ∀ record ∈ records, record.2.size = params.strongLength) :
      encodeRecords? params records = .ok (params.header ++ body records) := by
    obtain ⟨last, added, wroteLast⟩ := wrote.addAll collects fit
    have whole := wroteLast.holds_stream
    rw [ByteArray.empty_append, List.nil_append] at whole
    rw [encodeRecords?_eq_addAll started, added, ← whole]
    rfl
  constructor
  · intro succeeded
    have fit : ∀ record ∈ records, record.2.size = params.strongLength := by
      rw [encodeRecords?_eq_addAll started] at succeeded
      cases outcome : (writer.addAll records).1 with
      | error failure =>
        rw [outcome] at succeeded
        cases succeeded
      | ok =>
        rw [← wrote.params_eq]
        exact Writer.fit_of_addAll_eq_ok (Prod.ext outcome rfl)
    exact ⟨fit, Except.ok.inj (succeeded.symm.trans (encoded fit))⟩
  · rintro ⟨fit, rfl⟩
    exact encoded fit

namespace Index

instance : ReflBEq Index where
  rfl {index} := by
    have sameNumbers : (index.byWeak == index.byWeak) = true :=
      Std.HashMap.Equiv.beq (.refl index.byWeak)
    change (index.params == index.params && index.weak == index.weak &&
      index.strong == index.strong && index.byWeak == index.byWeak) = true
    rw [sameNumbers, beq_self_eq_true, beq_self_eq_true, beq_self_eq_true]
    rfl

/-- The records of an index are those that it was given. -/
theorem records_addAll {params : Params} {records : List (UInt32 × ByteArray)}
    (fit : ∀ record ∈ records, record.2.size = params.strongLength) :
    (((empty params).addAll records).blocks.map fun block => (block.weak, block.strong)) =
      records := by
  have nothing : (empty params).blocks = [] := rfl
  rw [(aligned_empty params).blocks_addAll fit, nothing, List.nil_append]
  exact List.ext_getElem (by simp) fun number _ _ => by simp

theorem encode?_addAll {params : Params} {records : List (UInt32 × ByteArray)}
    (fit : ∀ record ∈ records, record.2.size = params.strongLength) :
    ((empty params).addAll records).encode? = .ok (params.header ++ body records) := by
  rw [encode?, records_addAll fit, params_addAll]
  exact encodeRecords?_eq_ok_iff.2 ⟨fit, rfl⟩

end Index

/-- Encoding an index that was made by offering it blocks, and decoding the stream, gives the index
back; decoding a stream that is accepted, and encoding the index, gives the stream back.  Records
are encoded just if all of them fit, and then to the stream of the index that was offered them. -/
theorem codec_bijective :
    (∀ params start records, Index.Blank params start →
      ∃ stream decoded, (start.offerAll records).2.encode? = .ok stream ∧
        Index.decode? stream = .ok decoded ∧ decoded = (start.offerAll records).2 ∧
        (decoded == (start.offerAll records).2) = true) ∧
    (∀ stream index, Index.decode? stream = .ok index → index.encode? = .ok stream) ∧
    ∀ params records,
      ((∃ stream, encodeRecords? params records = .ok stream) ↔
        ∀ record ∈ records, record.2.size = params.strongLength) ∧
      ∀ stream start, encodeRecords? params records = .ok stream → Index.Blank params start →
        (start.offerAll records).2.encode? = .ok stream := by
  refine ⟨fun params start records blank => ?_, fun stream index decoded => ?_,
    fun params records => ⟨⟨?_, fun fit => ?_⟩, fun stream start encoded blank => ?_⟩⟩
  · obtain rfl := blank.eq_empty
    have fit : ∀ record ∈ Index.fitting params records,
        record.2.size = params.strongLength := Index.fits_of_mem_fitting
    have taken := Index.offerAll_eq_addAll (.empty params) records
    rw [taken]
    exact ⟨_, _, Index.encode?_addAll fit, decode?_header_body fit, rfl, BEq.rfl⟩
  · obtain ⟨params, records, fit, rfl, rfl⟩ := decode?_eq_ok_iff.1 decoded
    exact Index.encode?_addAll fit
  · rintro ⟨stream, encoded⟩
    exact (encodeRecords?_eq_ok_iff.1 encoded).1
  · exact ⟨_, encodeRecords?_eq_ok_iff.2 ⟨fit, rfl⟩⟩
  · obtain rfl := blank.eq_empty
    obtain ⟨fit, rfl⟩ := encodeRecords?_eq_ok_iff.1 encoded
    have taken := Index.offerAll_eq_addAll (.empty params) records
    have all : Index.fitting params records = records := Index.fitting_eq_self fit
    rw [taken, show (Index.empty params).params = params from rfl, all]
    exact Index.encode?_addAll fit

end DeltaSignature
