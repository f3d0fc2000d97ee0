import DeltaSignature.Proofs.Stream.Waiting
import DeltaSignature.Proofs.Transfer.Answers
import DeltaSignature.Stream.Load

/-!
# Loading is decoding what is delivered

However a reader delivers a stream, and however often it is interrupted, loading comes to what
decoding the bytes delivered comes to.  If the reader fails, the header may have been found to be at
fault before; if not, loading fails as the reader did.  No read is made once the outcome is known.
-/

namespace DeltaSignature

namespace Load

open ByteReader (schedule)

/-- The figures of a stream that was loaded with so many reads. -/
def Stats.ofIndex (stream : ByteArray) (reads : Nat) (index : Index) : Stats where
  streamBytes := stream.size
  blocks := index.size
  tag := index.params.tag
  blockLength := index.params.blockLength
  strongLength := index.params.strongLength
  reads := reads

/-- What loading comes to if these bytes were read before, with so many reads, and these answers are
still to come. -/
def expected (stream : ByteArray) (reads : Nat) (answers : List ReadOutcome) :
    Except LoadError (Index × Stats) :=
  match Index.decode? (stream ++ joined answers), answers.findSome? ReadOutcome.failure? with
  | .ok index, none =>
    .ok (index, .ofIndex (stream ++ joined answers)
      (reads + answers.countP ReadOutcome.isPiece + 1) index)
  | .error cause, none => .error cause
  | .ok _, some failure => .error (.io failure)
  | .error cause, some failure => .error (if cause.isHeaderError then cause else .io failure)

section Expecting

variable {stream : ByteArray} {reads : Nat} {answers : List ReadOutcome} {cause : LoadError}

theorem expected_interrupted :
    expected stream reads (.interrupted :: answers) = expected stream reads answers := by
  have same : joined (.interrupted :: answers) = joined answers := ByteArray.empty_append
  unfold expected
  rw [same, List.findSome?_cons_of_isNone rfl, List.countP_cons_of_neg Bool.false_ne_true]

theorem expected_piece {piece : ByteArray} (something : ¬ piece.isEmpty = true) :
    expected stream reads (.delivered piece :: answers) =
      expected (stream ++ piece) (reads + 1) answers := by
  have same : joined (.delivered piece :: answers) = piece ++ joined answers := rfl
  have counts : ReadOutcome.isPiece (.delivered piece) = true := by
    rw [ReadOutcome.isPiece, Bool.eq_false_of_not_eq_true something, Bool.not_false]
  have total : reads + (answers.countP ReadOutcome.isPiece + 1) =
      reads + 1 + answers.countP ReadOutcome.isPiece := by omega
  unfold expected
  rw [same, List.findSome?_cons_of_isNone rfl, List.countP_cons_of_pos counts,
    ByteArray.append_assoc, total]

theorem expected_append {earlier : List ReadOutcome}
    (goesOn : ∀ answer ∈ earlier, answer.goesOn = true) :
    expected stream reads (earlier ++ answers) =
      expected (stream ++ joined earlier) (reads + earlier.countP ReadOutcome.isPiece) answers := by
  induction earlier generalizing stream reads with
  | nil => rw [List.nil_append, joined, ByteArray.append_empty, List.countP_nil, Nat.add_zero]
  | cons answer earlier ih =>
    obtain ⟨first, later⟩ := List.forall_mem_cons.1 goesOn
    cases answer with
    | interrupted =>
      have same : joined (.interrupted :: earlier) = joined earlier := ByteArray.empty_append
      rw [List.cons_append, expected_interrupted, ih later, same,
        List.countP_cons_of_neg Bool.false_ne_true]
    | failed => cases first
    | delivered piece =>
      have something : ¬ piece.isEmpty = true := by simpa [ReadOutcome.goesOn] using first
      have counts : ReadOutcome.isPiece (.delivered piece) = true := first
      have same : joined (.delivered piece :: earlier) = piece ++ joined earlier := rfl
      rw [List.cons_append, expected_piece something, ih later, same,
        List.countP_cons_of_pos counts, ByteArray.append_assoc, Nat.add_right_comm, Nat.add_assoc]

/-- A fault of the header is reported whatever the reader does afterwards. -/
theorem expected_of_isHeaderError
    (refused : Index.decode? (stream ++ joined answers) = .error cause)
    (inHeader : cause.isHeaderError = true) : expected stream reads answers = .error cause := by
  unfold expected
  simp only [refused]
  cases answers.findSome? ReadOutcome.failure? with
  | none => rfl
  | some failure => simp only [if_pos inHeader]

end Expecting

section Looping

open Decoder (Suspended)

variable {decoder last : Decoder} {stream piece : ByteArray} {reads : Nat}

theorem feed_of_empty (decoder : Decoder) (nothing : piece.isEmpty = true) :
    feed decoder piece = decoder.finish.run :=
  if_pos nothing

theorem feed_of_suspended (suspended : Suspended decoder stream)
    (something : ¬ piece.isEmpty = true) :
    feed decoder piece = { decoder with queue := decoder.queue.push piece }.run := by
  unfold feed
  rw [if_neg something, suspended.push_eq piece]

/-- A decoder that waits comes to the end of the stream only when it is told of it. -/
theorem empty_of_done (suspended : Suspended decoder stream)
    (fed : feed decoder piece = (.ok .done, last)) : piece.isEmpty = true := by
  by_contra something
  rw [feed_of_suspended suspended something] at fed
  cases ((suspended.push_run piece).1 _ (congrArg Prod.fst fed)).1

/-- A decoder that asks for more was given something, and waits again. -/
theorem suspended_of_feed {progress : Decoder.Progress} (suspended : Suspended decoder stream)
    (fed : feed decoder piece = (.ok progress, last)) (goesOn : progress ≠ .done) :
    ¬ piece.isEmpty = true ∧ Suspended last (stream ++ piece) := by
  have something := nonempty_of_feed fed goesOn
  rw [feed_of_suspended suspended something] at fed
  have suspendedNext := ((suspended.push_run piece).1 progress (congrArg Prod.fst fed)).2
  rw [fed] at suspendedNext
  exact ⟨something, suspendedNext⟩

theorem joined_of_empty (nothing : piece.isEmpty = true) :
    joined [.delivered piece] = .empty := by
  have none : piece.size = 0 := by simpa [ByteArray.isEmpty] using nothing
  rw [joined, joined, ByteArray.append_empty]
  exact ByteArray.size_eq_zero_iff.1 none

theorem expected_failed (stream : ByteArray) (reads : Nat) (failure : IoFailure) :
    expected stream reads [.failed failure] =
      match Index.decode? stream with
      | .ok _ => .error (.io failure)
      | .error cause => .error (if cause.isHeaderError then cause else .io failure) := by
  have same : joined [.failed failure] = .empty := ByteArray.empty_append
  unfold expected
  rw [same, ByteArray.append_empty]
  cases Index.decode? stream <;> rfl

theorem expected_ended (reads : Nat) (stream : ByteArray) (nothing : piece.isEmpty = true) :
    expected stream reads [.delivered piece] =
      (Index.decode? stream).map fun index => (index, .ofIndex stream (reads + 1) index) := by
  have counts : ReadOutcome.isPiece (.delivered piece) = false := by
    rw [ReadOutcome.isPiece, nothing, Bool.not_true]
  have none : List.countP ReadOutcome.isPiece [.delivered piece] = 0 := by
    rw [List.countP_cons_of_neg (by rw [counts]; exact Bool.false_ne_true), List.countP_nil]
  unfold expected
  rw [joined_of_empty nothing, ByteArray.append_empty, none]
  cases Index.decode? stream <;> rfl

variable {σ : Type} [ByteReader σ]

/-- Reading on from where a decoder waits comes to what is to be expected of the answers that are
still to come. -/
theorem outcome_loop (suspended : Suspended decoder stream) (reads : Nat) (reader : σ) :
    (loop decoder reads reader).outcome = expected stream reads (schedule pieceLength reader) := by
  fun_induction loop decoder reads reader generalizing stream with
  | case1 decoder reads reader failure next answer =>
    rw [ByteReader.schedule_of_failed answer, expected_failed]
    cases refused : Index.decode? stream with
    | ok index => rfl
    | error cause =>
      simp only [suspended.isHeaderError_eq_false refused]
      rfl
  | case2 decoder reads reader next answer ih =>
    rw [ByteReader.schedule_of_interrupted answer, expected_interrupted]
    exact ih suspended
  | case3 decoder reads reader piece next answer cause last failed =>
    -- An error at the end of the stream may be any; before it, the header must be at fault.
    by_cases nothing : piece.isEmpty = true
    · rw [feed_of_empty decoder nothing] at failed
      have refused := suspended.finish_run.1 cause (congrArg Prod.fst failed)
      rw [ByteReader.schedule_of_ended answer nothing, expected_ended reads stream nothing, refused]
      rfl
    · rw [feed_of_suspended suspended nothing] at failed
      obtain ⟨inHeader, refused⟩ := (suspended.push_run piece).2 cause (congrArg Prod.fst failed)
      rw [ByteReader.schedule_of_piece answer nothing, expected_piece nothing]
      exact (expected_of_isHeaderError (refused _) inHeader).symm
  | case4 decoder reads reader piece next answer last fed =>
    have nothing := empty_of_done suspended fed
    rw [feed_of_empty decoder nothing] at fed
    obtain ⟨index, accepted, signed, bytes, blocks⟩ :=
      suspended.finish_run.2 _ (congrArg Prod.fst fed)
    rw [fed] at signed bytes blocks
    rw [ByteReader.schedule_of_ended answer nothing, expected_ended reads stream nothing, accepted]
    unfold signature?
    rw [signed, bytes, blocks]
    rfl
  | case5 decoder reads reader piece next answer last fed ih
  | case6 decoder reads reader piece next answer last fed ih =>
    obtain ⟨something, suspendedNext⟩ := suspended_of_feed suspended fed (by decide)
    rw [ByteReader.schedule_of_piece answer something, expected_piece something]
    exact ih suspendedNext

end Looping

section Calling

open Decoder (Suspended)

variable {stream : ByteArray} {answers : List ReadOutcome} {answer : ReadOutcome}
  {calls : List SourceCall}

/-- The calls are those of the schedule from its start on, and none was made once the stream read
before was sure to fail. -/
def Heeds (stream : ByteArray) (answers : List ReadOutcome) (calls : List SourceCall) : Prop :=
  ∃ count, calls = (answers.take count).map (.read pieceLength) ∧
    ∀ earlier < count, ¬ Settled (stream ++ joined (answers.take earlier))

theorem heeds_singleton (unsettled : ¬ Settled stream) (answer : ReadOutcome)
    (answers : List ReadOutcome) :
    Heeds stream (answer :: answers) [.read pieceLength answer] := by
  refine ⟨1, rfl, fun earlier less => ?_⟩
  obtain rfl : earlier = 0 := by omega
  rwa [List.take_zero, joined, ByteArray.append_empty]

theorem Heeds.cons (heeds : Heeds (stream ++ answer.bytes) answers calls)
    (unsettled : ¬ Settled stream) :
    Heeds stream (answer :: answers) (.read pieceLength answer :: calls) := by
  obtain ⟨count, same, unsettledLater⟩ := heeds
  refine ⟨count + 1, ?_, fun earlier less => ?_⟩
  · rw [same, List.take_succ_cons, List.map_cons]
  · cases earlier with
    | zero => rwa [List.take_zero, joined, ByteArray.append_empty]
    | succ earlier =>
      rw [List.take_succ_cons, joined, ← ByteArray.append_assoc]
      exact unsettledLater earlier (Nat.lt_of_succ_lt_succ less)

theorem exists_heeds_loop {σ : Type} [ByteReader σ] {decoder : Decoder}
    (suspended : Suspended decoder stream) (reads : Nat) (reader : Recorded σ) :
    ∃ calls, (loop decoder reads reader).reader.calls = reader.calls ++ calls ∧
      Heeds stream (schedule pieceLength reader) calls := by
  fun_induction loop decoder reads reader generalizing stream with
  | case1 decoder reads reader failure next answer =>
    obtain ⟨later, same⟩ := ByteReader.exists_schedule_eq_cons answer
    rw [same]
    exact ⟨_, Recorded.calls_of_read answer, heeds_singleton suspended.not_settled _ _⟩
  | case2 decoder reads reader next answer ih =>
    obtain ⟨calls, made, heeds⟩ := ih suspended
    have onward : Heeds (stream ++ ReadOutcome.interrupted.bytes) (schedule pieceLength next)
        calls := by
      have nothing : ReadOutcome.interrupted.bytes = .empty := rfl
      rwa [nothing, ByteArray.append_empty]
    refine ⟨.read pieceLength .interrupted :: calls, ?_, ?_⟩
    · rw [made, Recorded.calls_of_read answer, List.append_assoc, List.singleton_append]
    · rw [ByteReader.schedule_of_interrupted answer]
      exact onward.cons suspended.not_settled
  | case3 decoder reads reader piece next answer cause last failed =>
    obtain ⟨later, same⟩ := ByteReader.exists_schedule_eq_cons answer
    rw [same]
    exact ⟨_, Recorded.calls_of_read answer, heeds_singleton suspended.not_settled _ _⟩
  | case4 decoder reads reader piece next answer last fed =>
    obtain ⟨later, same⟩ := ByteReader.exists_schedule_eq_cons answer
    rw [same]
    exact ⟨_, Recorded.calls_of_read answer, heeds_singleton suspended.not_settled _ _⟩
  | case5 decoder reads reader piece next answer last fed ih
  | case6 decoder reads reader piece next answer last fed ih =>
    obtain ⟨something, suspendedNext⟩ := suspended_of_feed suspended fed (by decide)
    obtain ⟨calls, made, heeds⟩ := ih suspendedNext
    have onward : Heeds (stream ++ (ReadOutcome.delivered piece).bytes)
        (schedule pieceLength next) calls := heeds
    refine ⟨.read pieceLength (.delivered piece) :: calls, ?_, ?_⟩
    · rw [made, Recorded.calls_of_read answer, List.append_assoc, List.singleton_append]
    · rw [ByteReader.schedule_of_piece answer something]
      exact onward.cons suspended.not_settled

end Calling

end Load

open Decoder Load in
/-- Loading comes to what decoding the bytes comes to that the reader delivers until its stream
ends.  If the reader fails before, loading fails as well: with what is wrong with the header, if
that was delivered, and as the reader did otherwise.  Once it is certain that the stream is
malformed, no further read is made. -/
theorem load_agrees_with_decode {σ : Type} [ByteReader σ] (reader : σ) (sizeHint : Option Nat) :
    let answers := ByteReader.schedule pieceLength reader
    let outcome := (load reader sizeHint).outcome
    ∃ earlier last, answers = earlier ++ [last] ∧ (∀ answer ∈ earlier, answer.goesOn = true) ∧
      (last = .delivered .empty ∨ ∃ failure, last = .failed failure) ∧
      (last = .delivered .empty →
        outcome = (Index.decode? (joined earlier)).map fun index =>
          (index, .ofIndex (joined earlier) (earlier.countP ReadOutcome.isPiece + 1) index)) ∧
      (∀ failure, last = .failed failure →
        (∀ cause, Index.decode? (joined earlier) = .error cause → cause.isHeaderError = true →
          outcome = .error cause) ∧
        ((∀ cause, Index.decode? (joined earlier) = .error cause → cause.isHeaderError = false) →
          outcome = .error (.io failure))) ∧
      (load (Recorded.mk reader []) sizeHint).outcome = outcome ∧
      ∃ count,
        (load (Recorded.mk reader []) sizeHint).reader.calls =
          (answers.take count).map (.read pieceLength) ∧
        ∀ fewer < count, ¬ Settled (joined (answers.take fewer)) := by
  intro answers outcome
  obtain ⟨earlier, last, shape, goesOn, ends⟩ : ∃ earlier last, answers = earlier ++ [last] ∧ _ :=
    ByteReader.exists_last_schedule pieceLength reader
  have suspended := suspended_new sizeHint
  have loaded : outcome = expected .empty 0 answers := outcome_loop suspended 0 reader
  have sameAnswers : ByteReader.schedule pieceLength (Recorded.mk reader []) = answers :=
    ByteReader.schedule_recorded ..
  have expects := loaded
  rw [shape, expected_append goesOn, ByteArray.empty_append, Nat.zero_add] at expects
  refine ⟨earlier, last, shape, goesOn, ends, ?_, ?_, ?_, ?_⟩
  · rintro rfl
    rw [expects, expected_ended _ _ rfl]
  · rintro failure rfl
    rw [expected_failed] at expects
    refine ⟨fun cause refused inHeader => ?_, fun sound => ?_⟩
    · rw [expects, refused]
      exact congrArg Except.error (if_pos inHeader)
    · rw [expects]
      cases refused : Index.decode? (joined earlier) with
      | ok index => rfl
      | error cause =>
        refine congrArg Except.error (if_neg ?_)
        rw [sound cause refused]
        exact Bool.false_ne_true
  · have recorded := outcome_loop suspended 0 (Recorded.mk reader [])
    rw [sameAnswers, ← loaded] at recorded
    exact recorded
  · obtain ⟨calls, made, count, same, unsettled⟩ :=
      exists_heeds_loop suspended 0 (Recorded.mk reader [])
    rw [sameAnswers] at same unsettled
    simp only [ByteArray.empty_append] at unsettled
    exact ⟨count, made.trans same, unsettled⟩

end DeltaSignature
