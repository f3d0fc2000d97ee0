import DeltaSignature.Proofs.Bytes
import DeltaSignature.Transfer.Sink

/-!
# What a sink holds

The laws of sinks are stated like those of readers: over a relation between the states of a sink and
the bytes that it holds.  Every sink adds what it takes to the bytes that it holds, and a sink that
fails has taken a leading part of the piece; a sink without limits never fails.
-/

namespace DeltaSignature

/-- What is written to the sink is added to the bytes that it holds.  A write that fails has added a
leading part of its piece, and `stuck` says what is then true of the sink. -/
structure ByteSink.Appends {τ : Type} [ByteSink τ] (holds stuck : τ → ByteArray → Prop) :
    Prop where
  holds_of_written : ∀ {sink next : τ} {bytes piece : ByteArray}, holds sink bytes →
    ByteSink.write sink piece = (.ok (), next) → holds next (bytes ++ piece)
  stuck_of_failed : ∀ {sink next : τ} {bytes piece : ByteArray} {failure : IoFailure},
    holds sink bytes → ByteSink.write sink piece = (.error failure, next) →
    ∃ taken < piece.size, stuck next (bytes ++ piece.extract 0 taken)
  holds_of_flushed : ∀ {sink next : τ} {bytes : ByteArray} {outcome : Except IoFailure Unit},
    holds sink bytes → ByteSink.flush sink = (outcome, next) → holds next bytes

/-- Everything written to the sink is added to the bytes that it holds. -/
structure ByteSink.Collects {τ : Type} [ByteSink τ] (holds : τ → ByteArray → Prop) : Prop where
  write_ok : ∀ {sink : τ} {bytes : ByteArray} (piece : ByteArray), holds sink bytes →
    ∃ next, ByteSink.write sink piece = (.ok (), next) ∧ holds next (bytes ++ piece)
  flush_ok : ∀ {sink : τ} {bytes : ByteArray}, holds sink bytes →
    ∃ next, ByteSink.flush sink = (.ok (), next) ∧ holds next bytes

/-- Pieces of bytes, one behind the other. -/
def ByteSink.concat : List ByteArray → ByteArray
  | [] => .empty
  | piece :: pieces => piece ++ ByteSink.concat pieces

namespace ByteSink.Appends

variable {τ : Type} [ByteSink τ] {holds stuck : τ → ByteArray → Prop} {sink next : τ}
  {bytes : ByteArray} {pieces : List ByteArray}

theorem holds_of_writeAll (appends : ByteSink.Appends holds stuck) (held : holds sink bytes)
    (written : ByteSink.writeAll sink pieces = (.ok (), next)) :
    holds next (bytes ++ ByteSink.concat pieces) := by
  induction pieces generalizing sink bytes with
  | nil =>
    obtain ⟨-, rfl⟩ := Prod.mk.inj written
    rwa [ByteSink.concat, ByteArray.append_empty]
  | cons piece pieces ih =>
    rw [ByteSink.writeAll] at written
    split at written
    next after first =>
      rw [ByteSink.concat, ← ByteArray.append_assoc]
      exact ih (appends.holds_of_written held first) written
    next => cases congrArg Prod.fst written

/-- Pieces are cut off in the middle like the bytes that they make up. -/
theorem stuck_of_writeAll (appends : ByteSink.Appends holds stuck) {failure : IoFailure}
    (held : holds sink bytes) (failed : ByteSink.writeAll sink pieces = (.error failure, next)) :
    ∃ taken < (ByteSink.concat pieces).size,
      stuck next (bytes ++ (ByteSink.concat pieces).extract 0 taken) := by
  induction pieces generalizing sink bytes with
  | nil => cases congrArg Prod.fst failed
  | cons piece pieces ih =>
    rw [ByteSink.writeAll] at failed
    have extent : (ByteSink.concat (piece :: pieces)).size =
        piece.size + (ByteSink.concat pieces).size := ByteArray.size_append
    split at failed
    next after first =>
      obtain ⟨taken, cut, stopped⟩ := ih (appends.holds_of_written held first) failed
      refine ⟨piece.size + taken, by omega, ?_⟩
      rwa [ByteSink.concat, extract_through_append, ← ByteArray.append_assoc]
    next cause after refused =>
      obtain ⟨-, rfl⟩ := Prod.mk.inj failed
      obtain ⟨taken, cut, stopped⟩ := appends.stuck_of_failed held refused
      refine ⟨taken, by omega, ?_⟩
      rwa [ByteSink.concat, extract_front_append _ (Nat.le_of_lt cut)]

end ByteSink.Appends

theorem ByteSink.Collects.writeAll_ok {τ : Type} [ByteSink τ] {holds : τ → ByteArray → Prop}
    (collects : ByteSink.Collects holds) {sink : τ} {bytes : ByteArray} (pieces : List ByteArray)
    (held : holds sink bytes) :
    ∃ next, ByteSink.writeAll sink pieces = (.ok (), next) ∧
      holds next (bytes ++ ByteSink.concat pieces) := by
  induction pieces generalizing sink bytes with
  | nil => exact ⟨sink, rfl, by rwa [ByteSink.concat, ByteArray.append_empty]⟩
  | cons piece pieces ih =>
    obtain ⟨after, first, holdsAfter⟩ := collects.write_ok piece held
    obtain ⟨next, written, holdsNext⟩ := ih holdsAfter
    refine ⟨next, ?_, ?_⟩
    · rw [ByteSink.writeAll, first]
      exact written
    · rwa [ByteSink.concat, ← ByteArray.append_assoc]

/-- A sink that takes everything never gets stuck. -/
theorem ByteSink.Collects.appends {τ : Type} [ByteSink τ] {holds : τ → ByteArray → Prop}
    (collects : ByteSink.Collects holds) : ByteSink.Appends holds fun _ _ => False where
  holds_of_written := by
    intro sink next bytes piece held written
    obtain ⟨after, succeeded, holdsAfter⟩ := collects.write_ok piece held
    obtain ⟨-, rfl⟩ := Prod.mk.inj (written.symm.trans succeeded)
    exact holdsAfter
  stuck_of_failed := by
    intro sink next bytes piece failure held failed
    obtain ⟨after, succeeded, -⟩ := collects.write_ok piece held
    cases failed.symm.trans succeeded
  holds_of_flushed := by
    intro sink next bytes outcome held flushed
    obtain ⟨after, succeeded, holdsAfter⟩ := collects.flush_ok held
    obtain ⟨-, rfl⟩ := Prod.mk.inj (flushed.symm.trans succeeded)
    exact holdsAfter

theorem ByteSink.collects_byteArray :
    ByteSink.Collects fun (sink bytes : ByteArray) => sink = bytes where
  write_ok := by
    rintro sink bytes piece rfl
    exact ⟨_, rfl, rfl⟩
  flush_ok := by
    rintro sink bytes rfl
    exact ⟨_, rfl, rfl⟩

namespace BoundedSink

/-- A sink that was given this limit and this answer to a flush, and holds no more than it may. -/
structure Within (limit : Option Nat) (flushRefusal : Option IoFailure) (sink : BoundedSink)
    (bytes : ByteArray) : Prop where
  written_eq : sink.written = bytes
  limit_eq : sink.limit = limit
  flushRefusal_eq : sink.flushRefusal = flushRefusal
  size_le : ∀ most, limit = some most → bytes.size ≤ most

/-- A sink that is full. -/
def Full (limit : Option Nat) (sink : BoundedSink) (bytes : ByteArray) : Prop :=
  sink.written = bytes ∧ limit = some bytes.size

theorem flush_snd (sink : BoundedSink) : sink.flush.2 = sink := by
  unfold flush
  cases sink.flushRefusal <;> rfl

theorem flushRefusal_of_flush {sink next : BoundedSink} {failure : IoFailure}
    (refused : ByteSink.flush sink = (.error failure, next)) :
    sink.flushRefusal = some failure := by
  have answer : sink.flush.1 = .error failure := congrArg Prod.fst refused
  unfold flush at answer
  cases refusal : sink.flushRefusal with
  | none =>
    rw [refusal] at answer
    cases answer
  | some cause =>
    rw [refusal] at answer
    exact congrArg some (Except.error.inj answer)

theorem appends (limit : Option Nat) (flushRefusal : Option IoFailure) :
    ByteSink.Appends (Within limit flushRefusal) (Full limit) where
  holds_of_written := by
    intro sink next bytes piece within succeeded
    obtain ⟨rfl, rfl, rfl, bounded⟩ := within
    obtain ⟨fits, rfl⟩ := Prod.mk.inj succeeded
    have whole : ¬ sink.fitting piece < piece.size := by
      intro short
      rw [if_pos short] at fits
      cases fits
    have uncut : piece.extract 0 (sink.fitting piece) = piece.extract 0 piece.size :=
      extract_eq_of_min_eq (by omega)
    rw [ByteArray.extract_zero_size] at uncut
    refine ⟨congrArg (sink.written ++ ·) uncut, rfl, rfl, fun most limited => ?_⟩
    · have before := bounded most limited
      simp only [fitting, limited] at whole
      rw [ByteArray.size_append]
      omega
  stuck_of_failed := by
    intro sink next bytes piece failure within failed
    obtain ⟨rfl, rfl, rfl, bounded⟩ := within
    obtain ⟨cut, rfl⟩ := Prod.mk.inj failed
    have short : sink.fitting piece < piece.size := by
      refine Nat.lt_of_not_le fun whole => ?_
      rw [if_neg (Nat.not_lt.2 whole)] at cut
      cases cut
    refine ⟨_, short, rfl, ?_⟩
    cases limited : sink.limit with
    | none =>
      simp only [fitting, limited] at short
      exact absurd short (Nat.lt_irrefl _)
    | some most =>
      have before := bounded most limited
      simp only [fitting, limited] at short ⊢
      rw [ByteArray.size_append, ByteArray.size_extract]
      exact congrArg some (by omega)
  holds_of_flushed := by
    intro sink next bytes outcome within flushed
    obtain rfl : next = sink := (congrArg Prod.snd flushed).symm.trans sink.flush_snd
    exact within

/-- A sink with this limit holds the leading part that fits of what it was to take. -/
structure Clipped (limit : Nat) (sink : BoundedSink) (stream : ByteArray) : Prop where
  limit_eq : sink.limit = some limit
  written_eq : sink.written = stream.extract 0 limit

section Clipping

variable {limit : Nat} {sink : BoundedSink} {stream : ByteArray}

theorem Clipped.write_eq (clipped : Clipped limit sink stream) (piece : ByteArray) :
    ByteSink.write sink piece =
      (if piece.size ≤ limit - stream.size then .ok () else .error sink.full,
        { sink with written := (stream ++ piece).extract 0 limit }) := by
  have taken : sink.fitting piece = min piece.size (limit - stream.size) := by
    have held := congrArg ByteArray.size clipped.written_eq
    rw [ByteArray.size_extract] at held
    simp only [fitting, clipped.limit_eq]
    omega
  have joined : sink.written ++ piece.extract 0 (sink.fitting piece) =
      (stream ++ piece).extract 0 limit := by
    rw [ByteArray.extract_append, Nat.zero_sub, clipped.written_eq, taken]
    exact congrArg (_ ++ ·) (extract_eq_of_min_eq (by omega))
  change (if sink.fitting piece < piece.size then _ else _, _) = _
  rw [joined]
  by_cases fits : piece.size ≤ limit - stream.size
  · rw [if_pos fits, if_neg (by omega)]
  · rw [if_neg fits, if_pos (by omega)]

/-- Pieces are clipped like the bytes that they make up: a sink that does not take all of a piece is
full, so that the next ones make no difference. -/
theorem Clipped.writeAll_eq (clipped : Clipped limit sink stream) (pieces : List ByteArray) :
    ByteSink.writeAll sink pieces =
      (if (ByteSink.concat pieces).size ≤ limit - stream.size then .ok () else .error sink.full,
        { sink with written := (stream ++ ByteSink.concat pieces).extract 0 limit }) := by
  induction pieces generalizing sink stream with
  | nil =>
    rw [ByteSink.concat, ByteArray.append_empty, ← clipped.written_eq]
    rfl
  | cons piece pieces ih =>
    have extent : (ByteSink.concat (piece :: pieces)).size =
        piece.size + (ByteSink.concat pieces).size := ByteArray.size_append
    have joined : (stream ++ piece).size = stream.size + piece.size := ByteArray.size_append
    rw [ByteSink.writeAll, clipped.write_eq, extent, ByteSink.concat, ← ByteArray.append_assoc]
    by_cases fits : piece.size ≤ limit - stream.size
    · have later : Clipped limit { sink with written := (stream ++ piece).extract 0 limit }
          (stream ++ piece) := ⟨clipped.limit_eq, rfl⟩
      have same : (ByteSink.concat pieces).size ≤ limit - (stream ++ piece).size ↔
          piece.size + (ByteSink.concat pieces).size ≤ limit - stream.size := by omega
      simp only [if_pos fits, ih later, same]
    · have full : (stream ++ piece ++ ByteSink.concat pieces).extract 0 limit =
          (stream ++ piece).extract 0 limit := extract_front_append _ (by omega)
      rw [full, if_neg (by omega : ¬ piece.size + (ByteSink.concat pieces).size ≤ _)]
      simp only [if_neg fits]

end Clipping

end BoundedSink

end DeltaSignature
