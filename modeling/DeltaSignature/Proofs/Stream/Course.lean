import DeltaSignature.Proofs.Stream.Grammar

/-!
# The events to come

Once it is known which field a decoder awaits, the bytes still to be read decide not only what will
become of it but also what it will report on the way.  `upcoming` lists these events for bytes after
which the stream ends.  A step moves the first of them into the trace and changes nothing else, so
what a decoder has reported and what it will report are together the course of its whole stream:
the header fields, the room made for the index, a block for every record, and the end.
-/

namespace DeltaSignature

open BigEndian

namespace Decoder

/-- The events of a decoder in this state if just these bytes are left of its stream. -/
def upcoming (sizeHint : Option Nat) : State → ByteArray → List Event
  | .tag, bytes =>
    if 4 ≤ bytes.size then
      .tag (decode bytes) ::
        upcoming sizeHint (.blockLength (decode bytes)) (bytes.extract 4 bytes.size)
    else []
  | .blockLength tag, bytes =>
    if 4 ≤ bytes.size then
      let value := signed (decode bytes)
      if value < 1 then []
      else
        .blockLength value.toNat ::
          upcoming sizeHint (.strongLength tag value.toNat) (bytes.extract 4 bytes.size)
    else []
  | .strongLength tag blockLength, bytes =>
    if 4 ≤ bytes.size then
      let value := signed (decode bytes)
      if value < 0 ∨ maxStrongLength < value then []
      else
        .strongLength value.toNat ::
          match Params.ofHeader? tag blockLength value.toNat with
          | .error _ => []
          | .ok params =>
            .indexReady (params.capacityHint sizeHint) ::
              upcoming sizeHint (.weakSum (.empty params)) (bytes.extract 4 bytes.size)
    else []
  | .weakSum index, bytes =>
    if 4 ≤ bytes.size then
      upcoming sizeHint (.strongSum index (decode bytes)) (bytes.extract 4 bytes.size)
    else if bytes.size = 0 then [.done index.size]
    else []
  | .strongSum index weak, bytes =>
    if index.params.strongLength ≤ bytes.size then
      let strong := bytes.extract 0 index.params.strongLength
      .block ⟨index.size, weak, strong⟩ ::
        upcoming sizeHint (.weakSum (index.add weak strong))
          (bytes.extract index.params.strongLength bytes.size)
    else []
  | .done _, _ => []
  | .failed, _ => []
termination_by state bytes =>
  bytes.size + match state with
    | .strongSum .. => 1
    | _ => 0
decreasing_by
  all_goals
    simp only [ByteArray.size_extract]
    omega

/-- The events that the records in these bytes come to, if the first one is the block with this
number and nothing follows the bytes. -/
def recordEvents (number strongLength : Nat) (bytes : ByteArray) : List Event :=
  ((records strongLength bytes).mapIdx fun place record =>
    .block ⟨number + place, record.1, record.2⟩) ++
      if bytes.size % (4 + strongLength) = 0 then
        [.done (number + bytes.size / (4 + strongLength))]
      else []

/-- The events of decoding a whole stream, as far as its header is a good one and all there. -/
def course (sizeHint : Option Nat) (stream : ByteArray) : List Event :=
  let blockLength := signed (wordAt stream 4)
  let strongLength := signed (wordAt stream 8)
  if stream.size < 4 then []
  else .tag (wordAt stream 0) ::
    if stream.size < 8 ∨ blockLength < 1 then []
    else .blockLength blockLength.toNat ::
      if stream.size < 12 ∨ strongLength < 0 ∨ 32 < strongLength then []
      else .strongLength strongLength.toNat ::
        match Params.ofHeader? (wordAt stream 0) blockLength.toNat strongLength.toNat with
        | .error _ => []
        | .ok params =>
          .indexReady (params.capacityHint sizeHint) ::
            recordEvents 0 params.strongLength (stream.extract 12 stream.size)

section Steps

variable {decoder next : Decoder} {answer : Except LoadError Progress} {sizeHint : Option Nat}
  {state : State} {field : Field} {needed : Nat} {bytes : ByteArray}

theorem upcoming_of_awaited_none (settled : state.awaited = none) (bytes : ByteArray) :
    upcoming sizeHint state bytes = [] := by
  cases state with
  | done | failed => rw [upcoming]
  | _ => cases settled

/-- Of a field that is cut short nothing is reported. -/
theorem upcoming_of_short (awaits : state.awaited = some (field, needed))
    (short : bytes.size < needed) (inside : field = .weakSum → bytes.size ≠ 0) :
    upcoming sizeHint state bytes = [] := by
  cases state with
  | tag | blockLength | strongLength | strongSum =>
    obtain ⟨rfl, rfl⟩ := Prod.mk.inj (Option.some.inj awaits)
    rw [upcoming, if_neg (Nat.not_le.2 short)]
  | weakSum =>
    obtain ⟨rfl, rfl⟩ := Prod.mk.inj (Option.some.inj awaits)
    rw [upcoming, if_neg (Nat.not_le.2 short), if_neg (inside rfl)]
  | done | failed => cases awaits

theorem upcoming_strongSum {index : Index} {weak : UInt32}
    (complete : index.params.strongLength ≤ bytes.size) :
    upcoming sizeHint (.strongSum index weak) bytes =
      .block ⟨index.size, weak, bytes.extract 0 index.params.strongLength⟩ ::
        upcoming sizeHint
          (.weakSum (index.add weak (bytes.extract 0 index.params.strongLength)))
          (bytes.extract index.params.strongLength bytes.size) := by
  conv => lhs; rw [upcoming, if_pos complete]

theorem upcoming_weakSum {index : Index} (complete : 4 ≤ bytes.size) :
    upcoming sizeHint (.weakSum index) bytes =
      upcoming sizeHint (.strongSum index (decode bytes)) (bytes.extract 4 bytes.size) := by
  conv => lhs; rw [upcoming, if_pos complete]

/-- A step adds to the trace just what is no longer to come. -/
theorem Stepped.upcoming_eq (stepped : Stepped decoder answer next) {rest : ByteArray}
    (closed : decoder.queue.ended = true → rest = .empty) :
    next.events ++ upcoming decoder.sizeHint next.state (next.queue.pending ++ rest) =
      decoder.events ++
        upcoming decoder.sizeHint decoder.state (decoder.queue.pending ++ rest) := by
  cases stepped with
  | tag awaits complete =>
    rw [awaits, upcoming, if_pos (le_size_append rest complete), decode_append rest complete,
      extract_back_append rest complete, Queue.pending_skip]
    simp [events, Note.event?]
  | blockLengthRefused awaits complete read bad =>
    rw [awaits, upcoming, upcoming, if_pos (le_size_append rest complete),
      decode_append rest complete, ← read]
    simp [events, Note.event?, bad]
  | blockLength awaits complete read good =>
    rw [awaits, upcoming, if_pos (le_size_append rest complete), decode_append rest complete,
      extract_back_append rest complete, Queue.pending_skip, ← read]
    simp [events, Note.event?, good]
  | strongLengthRefused awaits complete read bad =>
    rw [awaits, upcoming, upcoming, if_pos (le_size_append rest complete),
      decode_append rest complete, ← read]
    simp [events, Note.event?, bad]
  | paramsRefused awaits complete read good refused =>
    rw [awaits, upcoming, upcoming, if_pos (le_size_append rest complete),
      decode_append rest complete, ← read]
    simp [events, Note.event?, good, refused]
  | strongLength awaits complete read good accepted =>
    rw [awaits, upcoming, if_pos (le_size_append rest complete), decode_append rest complete,
      extract_back_append rest complete, Queue.pending_skip, ← read]
    simp [events, Note.event?, good, accepted]
  | weakSum awaits complete =>
    rw [awaits, upcoming_weakSum (le_size_append rest complete), decode_append rest complete,
      extract_back_append rest complete, Queue.pending_skip]
    rfl
  | strongSum awaits complete read =>
    rw [awaits, upcoming_strongSum (le_size_append rest complete),
      extract_front_append rest complete, extract_back_append rest complete,
      Queue.pending_skip, ← read]
    simp [events, Note.event?]
  | suspended => rfl
  | truncated awaits short ended inside =>
    rw [closed ended, ByteArray.append_empty, upcoming_of_short awaits short inside,
      upcoming_of_awaited_none rfl]
    simp [events, Note.event?]
  | finished awaits empty ended =>
    have nothing : decoder.queue.pending ++ rest = .empty := by
      rw [closed ended, ByteArray.append_empty, ← ByteArray.size_eq_zero_iff, empty]
    rw [awaits, nothing, upcoming_of_awaited_none rfl, upcoming]
    simp [events, Note.event?]
  | done | failed => rfl

theorem Stepped.sizeHint_eq (stepped : Stepped decoder answer next) :
    next.sizeHint = decoder.sizeHint := by
  cases stepped <;> rfl

end Steps

section Grammar

variable {sizeHint : Option Nat} {number strongLength : Nat} {bytes stream : ByteArray}

theorem recordEvents_of_short (short : bytes.size < 4 + strongLength) :
    recordEvents number strongLength bytes = if bytes.size = 0 then [.done number] else [] := by
  rw [recordEvents, records_of_short short, Nat.mod_eq_of_lt short, Nat.div_eq_of_lt short]
  rfl

theorem recordEvents_cons (complete : 4 + strongLength ≤ bytes.size) :
    recordEvents number strongLength bytes =
      .block ⟨number, (recordAt bytes 0 strongLength).1, (recordAt bytes 0 strongLength).2⟩ ::
        recordEvents (number + 1) strongLength
          (bytes.extract (4 + strongLength) bytes.size) := by
  have count : bytes.size / (4 + strongLength) =
      (bytes.size - (4 + strongLength)) / (4 + strongLength) + 1 :=
    Nat.div_eq_sub_div (by omega) complete
  rw [recordEvents, records_cons complete, List.mapIdx_cons, recordEvents, size_drop, count,
    Nat.mod_eq_sub_mod complete]
  simp only [Nat.add_assoc, Nat.add_comm 1, Nat.add_zero, List.cons_append]

theorem upcoming_of_short_record {index : Index}
    (short : bytes.size < 4 + index.params.strongLength) :
    upcoming sizeHint (.weakSum index) bytes =
      recordEvents index.size index.params.strongLength bytes := by
  rw [recordEvents_of_short short]
  by_cases weak : 4 ≤ bytes.size
  · have cut : (bytes.extract 4 bytes.size).size < index.params.strongLength := by
      rw [size_drop]
      omega
    rw [upcoming_weakSum weak, if_neg (by omega)]
    exact upcoming_of_short rfl cut (by simp)
  · rw [upcoming, if_neg weak]

/-- The events of the records to come, however many there are. -/
theorem upcoming_records (index : Index) (bytes : ByteArray) :
    upcoming sizeHint (.weakSum index) bytes =
      recordEvents index.size index.params.strongLength bytes := by
  generalize many : bytes.size / (4 + index.params.strongLength) = count
  induction count generalizing index bytes with
  | zero =>
    rcases Nat.div_eq_zero_iff.1 many with none | short
    · omega
    · exact upcoming_of_short_record short
  | succ count ih =>
    have complete : 4 + index.params.strongLength ≤ bytes.size := by
      by_contra short
      rw [Nat.div_eq_of_lt (Nat.lt_of_not_le short)] at many
      contradiction
    have behind := size_drop bytes 4
    have strong : (bytes.extract 4 bytes.size).extract 0 index.params.strongLength =
        bytes.extract 4 (4 + index.params.strongLength) := by
      rw [ByteArray.extract_extract]
      exact extract_eq_of_min_eq (by omega)
    have weak : decode bytes = wordAt bytes 0 := by
      rw [← decode_drop, ByteArray.extract_zero_size]
    rw [Nat.div_eq_sub_div (by omega) complete, ← size_drop] at many
    rw [upcoming_weakSum (by omega), upcoming_strongSum (by omega), strong, drop_drop, weak,
      ih (index.add _ _) _ (Nat.succ.inj many), recordEvents_cons complete, Index.size_add]
    rfl

theorem upcoming_blockLength (tag : UInt32) (complete : 8 ≤ stream.size) :
    upcoming sizeHint (.blockLength tag) (stream.extract 4 stream.size) =
      if signed (wordAt stream 4) < 1 then []
      else
        .blockLength (signed (wordAt stream 4)).toNat ::
          upcoming sizeHint (.strongLength tag (signed (wordAt stream 4)).toNat)
            (stream.extract 8 stream.size) := by
  have held := size_drop stream 4
  conv => lhs; rw [upcoming, if_pos (by omega), decode_drop, drop_drop]

theorem upcoming_strongLength (tag : UInt32) (blockLength : Nat) (complete : 12 ≤ stream.size) :
    upcoming sizeHint (.strongLength tag blockLength) (stream.extract 8 stream.size) =
      if signed (wordAt stream 8) < 0 ∨ 32 < signed (wordAt stream 8) then []
      else
        .strongLength (signed (wordAt stream 8)).toNat ::
          match Params.ofHeader? tag blockLength (signed (wordAt stream 8)).toNat with
          | .error _ => []
          | .ok params =>
            .indexReady (params.capacityHint sizeHint) ::
              recordEvents 0 params.strongLength (stream.extract 12 stream.size) := by
  have held := size_drop stream 8
  conv => lhs; rw [upcoming, if_pos (by omega), decode_drop, drop_drop]
  simp only [upcoming_records]
  rfl

/-- The events of a whole stream can be told from its size, its header fields and its records. -/
theorem upcoming_tag (sizeHint : Option Nat) (stream : ByteArray) :
    upcoming sizeHint .tag stream = course sizeHint stream := by
  simp only [course]
  by_cases noTag : stream.size < 4
  · rw [if_pos noTag]
    exact upcoming_of_short rfl noTag (by simp)
  have tag : decode stream = wordAt stream 0 := by
    rw [← decode_drop, ByteArray.extract_zero_size]
  rw [if_neg noTag, upcoming, if_pos (Nat.le_of_not_lt noTag), tag, List.cons_inj_right]
  by_cases noBlockLength : stream.size < 8
  · rw [if_pos (Or.inl noBlockLength)]
    exact upcoming_of_short rfl (by rw [size_drop]; omega) (by simp)
  rw [upcoming_blockLength _ (Nat.le_of_not_lt noBlockLength)]
  by_cases badBlockLength : signed (wordAt stream 4) < 1
  · rw [if_pos badBlockLength, if_pos (Or.inr badBlockLength)]
  rw [if_neg badBlockLength, if_neg (not_or.2 ⟨noBlockLength, badBlockLength⟩),
    List.cons_inj_right]
  by_cases noStrongLength : stream.size < 12
  · rw [if_pos (Or.inl noStrongLength)]
    exact upcoming_of_short rfl (by rw [size_drop]; omega) (by simp)
  rw [upcoming_strongLength _ _ (Nat.le_of_not_lt noStrongLength)]
  by_cases badStrongLength : signed (wordAt stream 8) < 0 ∨ 32 < signed (wordAt stream 8)
  · rw [if_pos badStrongLength, if_pos (Or.inr badStrongLength)]
  · rw [if_neg badStrongLength, if_neg (not_or.2 ⟨noStrongLength, badStrongLength⟩)]

-- One record, with a strong sum of one byte, behind a header that asks for such sums.
example :
    course (some 17) ⟨#[0x72, 0x73, 0x01, 0x37, 0, 0, 8, 0, 0, 0, 0, 1, 0, 0, 0, 42, 0xab]⟩ =
      [.tag 0x72730137, .blockLength 2048, .strongLength 1, .indexReady 1,
        .block ⟨0, 42, ⟨#[0xab]⟩⟩, .done 1] := by
  decide

end Grammar

end Decoder

end DeltaSignature
