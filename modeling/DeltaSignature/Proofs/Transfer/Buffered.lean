import DeltaSignature.Proofs.Transfer.Collection

/-!
# A buffer in front of a sink

The bytes that were passed on, followed by those that wait, are the bytes that were taken.  Waiting
bytes may turn out not to fit later on, so a sink with limited room can fail long after it took
them; but what it has passed on is always a leading part of what it took, and after a flush that
succeeds it is all of it.
-/

namespace DeltaSignature

namespace BufferedSink

/-- What was taken: the bytes that were passed on, and then those that wait. -/
def taken (sink : BufferedSink) : ByteArray :=
  sink.inner.written ++ sink.waiting

/-- A sink in front of one with this limit and this answer to a flush, which has taken `bytes`. -/
structure Within (limit : Option Nat) (flushRefusal : Option IoFailure) (sink : BufferedSink)
    (bytes : ByteArray) : Prop where
  inner : BoundedSink.Within limit flushRefusal sink.inner sink.inner.written
  taken_eq : sink.taken = bytes
  waiting_le : sink.waiting.size ≤ capacity

/-- A sink in front of one that is full. -/
structure Full (limit : Option Nat) (sink : BufferedSink) (bytes : ByteArray) : Prop where
  limit_eq : limit = some sink.inner.written.size
  taken_eq : sink.taken = bytes

variable {limit : Option Nat} {flushRefusal : Option IoFailure} {sink next : BufferedSink}
  {bytes piece : ByteArray} {outcome : Except IoFailure Unit} {failure : IoFailure}

theorem within_blank (limit : Option Nat) (full : IoFailure) (flushRefusal : Option IoFailure) :
    Within limit flushRefusal { inner := { limit, full, flushRefusal } } .empty where
  inner := ⟨rfl, rfl, rfl, fun _ _ => Nat.zero_le _⟩
  taken_eq := ByteArray.append_empty
  waiting_le := Nat.zero_le _

/-- Draining passes on all that waits, or the sink behind is full. -/
theorem Within.drain (within : Within limit flushRefusal sink bytes)
    (drained : sink.drain = (outcome, next)) :
    Within limit flushRefusal next bytes ∧
      (outcome = .ok () ∧ next.waiting = .empty ∨
        (∃ failure, outcome = .error failure) ∧ Full limit next bytes ∧
          next.inner.written.size < bytes.size) := by
  obtain ⟨inner, rfl, small⟩ := within
  have law := BoundedSink.appends limit flushRefusal
  unfold BufferedSink.drain at drained
  generalize passed : sink.inner.write sink.waiting = answer at drained
  obtain ⟨verdict, after⟩ := answer
  obtain ⟨rfl, rfl⟩ := Prod.mk.inj drained
  cases verdict with
  | ok =>
    have innerNext := law.holds_of_written inner passed
    have written := innerNext.written_eq
    have all : after.written.size - sink.inner.written.size = sink.waiting.size := by
      rw [written, ByteArray.size_append, Nat.add_sub_cancel_left]
    have nothing : sink.waiting.extract sink.waiting.size sink.waiting.size = .empty :=
      ByteArray.extract_eq_empty_iff.2 (Nat.min_le_left ..)
    rw [all, nothing]
    refine ⟨⟨written ▸ innerNext, ?_, Nat.zero_le _⟩, .inl ⟨rfl, rfl⟩⟩
    rw [taken, taken, ByteArray.append_empty, written]
  | error failure =>
    obtain ⟨count, cut, written, room⟩ := law.stuck_of_failed inner passed
    have front := size_take (Nat.le_of_lt cut)
    have partly : after.written.size - sink.inner.written.size = count := by
      rw [written, ByteArray.size_append, Nat.add_sub_cancel_left, front]
    have joined := ByteArray.extract_eq_extract_append_extract (a := sink.waiting) (i := 0)
      (k := sink.waiting.size) count (Nat.zero_le _) (Nat.le_of_lt cut)
    rw [ByteArray.extract_zero_size] at joined
    have same : after.written ++ sink.waiting.extract count sink.waiting.size = sink.taken := by
      rw [written, ByteArray.append_assoc, ← joined, taken]
    have sameLimit : after.limit = limit :=
      (congrArg (·.2.limit) passed).symm.trans inner.limit_eq
    have sameRefusal : after.flushRefusal = flushRefusal :=
      (congrArg (·.2.flushRefusal) passed).symm.trans inner.flushRefusal_eq
    rw [← written] at room
    rw [partly]
    refine ⟨⟨⟨rfl, sameLimit, sameRefusal, fun most limited => ?_⟩, same, ?_⟩,
      .inr ⟨⟨failure, rfl⟩, ⟨room, same⟩, ?_⟩⟩
    · exact Nat.le_of_eq (Option.some.inj (room.symm.trans limited))
    · simp only [ByteArray.size_extract]
      omega
    · have extent := congrArg ByteArray.size written
      rw [taken, ByteArray.size_append]
      rw [ByteArray.size_append, front] at extent
      change after.written.size < _
      omega

/-- A piece that fits beside the waiting bytes is kept; one that would fill the buffer alone finds
none waiting, so that it may overtake the buffer. -/
theorem Within.accept (within : Within limit flushRefusal sink bytes)
    (room : sink.waiting.size + piece.size ≤ capacity ∨ sink.waiting.size = 0)
    (accepted : sink.accept piece = (outcome, next)) :
    outcome = .ok () ∧ Within limit flushRefusal next (bytes ++ piece) ∨
      (∃ failure, outcome = .error failure) ∧
        ∃ count < piece.size, Full limit next (bytes ++ piece.extract 0 count) := by
  obtain ⟨inner, rfl, small⟩ := within
  have law := BoundedSink.appends limit flushRefusal
  unfold BufferedSink.accept at accepted
  split at accepted
  next less =>
    obtain ⟨rfl, rfl⟩ := Prod.mk.inj accepted
    refine .inl ⟨rfl, inner, ByteArray.append_assoc.symm, ?_⟩
    rw [ByteArray.size_append]
    omega
  next large =>
    have nothing : sink.waiting = .empty := ByteArray.size_eq_zero_iff.1 (by omega)
    have all : sink.taken = sink.inner.written := by
      rw [taken, nothing, ByteArray.append_empty]
    generalize passed : sink.inner.write piece = answer at accepted
    obtain ⟨verdict, after⟩ := answer
    obtain ⟨rfl, rfl⟩ := Prod.mk.inj accepted
    cases verdict with
    | ok =>
      have innerNext := law.holds_of_written inner passed
      have written := innerNext.written_eq
      refine .inl ⟨rfl, written ▸ innerNext, ?_, small⟩
      rw [taken, nothing, ByteArray.append_empty, written, all]
    | error failure =>
      obtain ⟨count, cut, written, limited⟩ := law.stuck_of_failed inner passed
      refine .inr ⟨⟨failure, rfl⟩, count, cut, ?_, ?_⟩
      · rw [written]
        exact limited
      · rw [taken, nothing, ByteArray.append_empty, written, all]

theorem Within.write (within : Within limit flushRefusal sink bytes)
    (written : sink.write piece = (outcome, next)) :
    outcome = .ok () ∧ Within limit flushRefusal next (bytes ++ piece) ∨
      (∃ failure, outcome = .error failure) ∧
        ∃ count < piece.size, Full limit next (bytes ++ piece.extract 0 count) := by
  unfold BufferedSink.write at written
  split at written
  next room => exact within.accept (.inl room) written
  next crowded =>
    have small := within.waiting_le
    split at written
    next failure after drained =>
      obtain ⟨rfl, rfl⟩ := Prod.mk.inj written
      obtain ⟨-, ⟨failed, -⟩ | ⟨-, full, -⟩⟩ := within.drain drained
      · cases failed
      · have untouched : piece.extract 0 0 = .empty :=
          ByteArray.extract_eq_empty_iff.2 (Nat.min_le_left ..)
        refine .inr ⟨⟨failure, rfl⟩, 0, by omega, ?_⟩
        rwa [untouched, ByteArray.append_empty]
    next after drained =>
      obtain ⟨withinNext, ⟨-, nothing⟩ | ⟨⟨cause, failed⟩, -⟩⟩ := within.drain drained
      · refine withinNext.accept (.inr ?_) written
        rw [nothing, ByteArray.size_empty]
      · cases failed

/-- After a flush that succeeds nothing waits; a flush fails only for want of room, or because the
sink behind refuses it. -/
theorem Within.flush (within : Within limit flushRefusal sink bytes)
    (flushed : sink.flush = (outcome, next)) :
    Within limit flushRefusal next bytes ∧
      (outcome = .ok () ∧ flushRefusal = none ∧ next.waiting = .empty ∨
        (∃ failure, outcome = .error failure) ∧
          ((∃ most, limit = some most ∧ most < bytes.size) ∨ flushRefusal ≠ none)) := by
  unfold BufferedSink.flush at flushed
  split at flushed
  next failure after drained =>
    obtain ⟨rfl, rfl⟩ := Prod.mk.inj flushed
    obtain ⟨withinNext, ⟨failed, -⟩ | ⟨-, full, less⟩⟩ := within.drain drained
    · cases failed
    · exact ⟨withinNext, .inr ⟨⟨failure, rfl⟩, .inl ⟨_, full.limit_eq, less⟩⟩⟩
  next after drained =>
    obtain ⟨withinNext, ⟨-, nothing⟩ | ⟨⟨cause, failed⟩, -⟩⟩ := within.drain drained
    · obtain ⟨rfl, rfl⟩ := Prod.mk.inj flushed
      rw [after.inner.flush_snd]
      refine ⟨withinNext, ?_⟩
      have refusal := withinNext.inner.flushRefusal_eq
      unfold BoundedSink.flush
      rw [refusal]
      cases flushRefusal with
      | none => exact .inl ⟨rfl, rfl, nothing⟩
      | some failure => exact .inr ⟨⟨failure, rfl⟩, .inr nofun⟩
    · cases failed

theorem appends (limit : Option Nat) (flushRefusal : Option IoFailure) :
    ByteSink.Appends (Within limit flushRefusal) (Full limit) where
  holds_of_written := by
    intro sink next bytes piece within succeeded
    obtain ⟨-, withinNext⟩ | ⟨⟨failure, failed⟩, -⟩ := within.write succeeded
    · exact withinNext
    · cases failed
  stuck_of_failed := by
    intro sink next bytes piece failure within failed
    obtain ⟨succeeded, -⟩ | ⟨-, stopped⟩ := within.write failed
    · cases succeeded
    · exact stopped
  holds_of_flushed := by
    intro sink next bytes outcome within flushed
    exact (within.flush flushed).1

/-- Once nothing waits, all that was taken has been passed on. -/
theorem Within.close_eq (within : Within limit flushRefusal sink bytes)
    (nothing : sink.waiting = .empty) : sink.close = bytes := by
  have none : ByteArray.empty.extract 0 (sink.inner.fitting .empty) = .empty :=
    ByteArray.extract_eq_empty_iff.2 (Nat.min_le_right ..)
  rw [← within.taken_eq, taken, nothing, ← none, ← nothing]
  rfl

theorem Within.size_le (within : Within limit flushRefusal sink bytes)
    (nothing : sink.waiting = .empty) (most : Nat) (limited : limit = some most) :
    bytes.size ≤ most := by
  have all := within.taken_eq
  rw [taken, nothing, ByteArray.append_empty] at all
  exact all ▸ within.inner.size_le most limited

/-- What has reached the sink behind in the end is a leading part of what was taken. -/
theorem exists_rest_close (sink : BufferedSink) : ∃ rest, sink.taken = sink.close ++ rest := by
  have bound : sink.inner.fitting sink.waiting ≤ sink.waiting.size := by
    unfold BoundedSink.fitting
    cases sink.inner.limit with
    | none => exact Nat.le_refl _
    | some most => exact Nat.min_le_left ..
  have part := PartAt.cut sink.inner.written .empty bound
  rw [ByteArray.append_empty] at part
  exact part.exists_rest

theorem exists_rest_of_taken {stream : ByteArray} (took : sink.taken = bytes)
    (front : ∃ more, stream = bytes ++ more) : ∃ rest, stream = sink.close ++ rest := by
  obtain ⟨more, rfl⟩ := front
  obtain ⟨rest, whole⟩ := sink.exists_rest_close
  exact ⟨rest ++ more, by rw [← took, whole, ByteArray.append_assoc]⟩

/-- A sink that got stuck has no room for more than it took. -/
theorem Full.lt_size (full : Full limit sink bytes) {stream : ByteArray}
    (cut : bytes.size < stream.size) : ∃ most, limit = some most ∧ most < stream.size := by
  refine ⟨_, full.limit_eq, Nat.lt_of_le_of_lt ?_ cut⟩
  rw [← full.taken_eq, taken, ByteArray.size_append]
  exact Nat.le_add_right ..

end BufferedSink

end DeltaSignature
