import DeltaSignature.Proofs.Stream.Verdict

/-!
# A decoder that waits for more

A decoder whose input has not ended stops for two reasons only: a field is still to arrive, or the
header is at fault.  While it waits, nothing is decided about its stream, and its counters tell how
many bytes have come and how many blocks were read.
-/

namespace DeltaSignature

/-- Whether the header of the stream is at fault. -/
def LoadError.isHeaderError : LoadError → Bool
  | malformed (.blockLength _) | malformed (.strongLength _) | malformed (.params _) => true
  | _ => false

/-- However the stream goes on, decoding it fails for one and the same reason. -/
def Settled (stream : ByteArray) : Prop :=
  ∃ cause, ∀ rest, Index.decode? (stream ++ rest) = .error cause

namespace Decoder

section Waiting

variable {state : State} {field : Field} {needed : Nat} {bytes : ByteArray}

/-- If a stream ends while a field is awaited, it is cut short in that field, or it is complete. -/
theorem verdict_of_awaited (awaits : state.awaited = some (field, needed))
    (short : bytes.size < needed) :
    (∃ index, verdict state bytes = .ok index) ∨
      verdict state bytes = .error (.malformed (.truncated field bytes.size needed)) := by
  by_cases between : field = .weakSum ∧ bytes.size = 0
  · obtain ⟨rfl, none⟩ := between
    cases state with
    | weakSum index =>
      refine .inl ⟨index, ?_⟩
      rw [verdict, if_neg (by omega), if_pos none]
    | _ => cases awaits
  · exact .inr (verdict_of_short awaits short fun weak none => between ⟨weak, none⟩)

theorem verdict_weakSum_empty (index : Index) {bytes : ByteArray} (none : bytes.size = 0) :
    verdict (.weakSum index) bytes = .ok index := by
  rw [verdict, if_neg (by omega), if_pos none]

/-- A stream that ends behind a field is not cut short in that field. -/
theorem verdict_ne_truncated (awaits : state.awaited = some (field, needed))
    (complete : bytes.size = needed) (held : Nat) :
    verdict state bytes ≠ .error (.malformed (.truncated field held needed)) := by
  have behind : (bytes.extract needed bytes.size).size = 0 := by
    rw [size_drop]
    omega
  have enough : needed ≤ bytes.size := Nat.le_of_eq complete.symm
  intro refused
  cases state with
  | tag =>
    obtain ⟨rfl, rfl⟩ := Prod.mk.inj (Option.some.inj awaits)
    rw [verdict, if_pos enough, verdict_of_short rfl (by omega) (by simp)] at refused
    cases refused
  | blockLength tag =>
    obtain ⟨rfl, rfl⟩ := Prod.mk.inj (Option.some.inj awaits)
    rw [verdict, if_pos enough] at refused
    simp only at refused
    split at refused
    · cases refused
    · rw [verdict_of_short rfl (by omega) (by simp)] at refused
      cases refused
  | strongLength tag blockLength =>
    obtain ⟨rfl, rfl⟩ := Prod.mk.inj (Option.some.inj awaits)
    rw [verdict, if_pos enough] at refused
    simp only at refused
    split at refused
    · cases refused
    · split at refused
      · cases refused
      · rw [verdict_weakSum_empty _ behind] at refused
        cases refused
  | weakSum index =>
    obtain ⟨rfl, rfl⟩ := Prod.mk.inj (Option.some.inj awaits)
    rw [verdict, if_pos enough] at refused
    by_cases none : index.params.strongLength = 0
    · have nothing := size_drop (bytes.extract 4 bytes.size) index.params.strongLength
      rw [verdict_strongSum (by omega), verdict_weakSum_empty _ (by omega)] at refused
      cases refused
    · rw [verdict_of_short rfl (by omega) (by simp)] at refused
      cases refused
  | strongSum index weak =>
    obtain ⟨rfl, rfl⟩ := Prod.mk.inj (Option.some.inj awaits)
    rw [verdict_strongSum enough, verdict_weakSum_empty _ behind] at refused
    cases refused
  | done | failed => cases awaits

/-- While a field is awaited, it is open whether and how the stream will fail. -/
theorem exists_rest_of_awaited (awaits : state.awaited = some (field, needed))
    (short : bytes.size < needed) (cause : LoadError) :
    ∃ rest, verdict state (bytes ++ rest) ≠ .error cause := by
  rcases verdict_of_awaited awaits short with ⟨index, accepted⟩ | refused
  · refine ⟨.empty, ?_⟩
    rw [ByteArray.append_empty, accepted]
    simp
  · -- The stream may go on with the rest of the field, and then it is not cut short there.
    by_cases here : cause = .malformed (.truncated field bytes.size needed)
    · refine ⟨⟨Array.replicate (needed - bytes.size) 0⟩, ?_⟩
      have filled : (ByteArray.mk (Array.replicate (needed - bytes.size) 0)).size =
          needed - bytes.size := Array.size_replicate
      rw [here]
      apply verdict_ne_truncated awaits
      rw [ByteArray.size_append, filled]
      omega
    · refine ⟨.empty, ?_⟩
      rw [ByteArray.append_empty, refused]
      exact fun same => here (Except.error.inj same).symm

end Waiting

section Counting

/-- The decoder has counted the bytes that have come and the blocks that it has read. -/
structure Counted (decoder : Decoder) (stream : ByteArray) : Prop where
  totalIn_eq : decoder.queue.totalIn = stream.size
  blocks_eq : decoder.blocks = (decoder.state.index?.map Index.size).getD 0

variable {decoder next : Decoder} {stream piece : ByteArray} {answer : Except LoadError Progress}
  {progress : Progress} {cause : LoadError}

theorem Stepped.blocks_eq (stepped : Stepped decoder (.ok progress) next)
    (blocks : decoder.blocks = (decoder.state.index?.map Index.size).getD 0) :
    next.blocks = (next.state.index?.map Index.size).getD 0 := by
  cases stepped with
  | suspended | done => exact blocks
  | strongSum awaits =>
    rw [awaits] at blocks
    exact (congrArg (· + 1) blocks).trans Index.size_add.symm
  | tag awaits | blockLength awaits | strongLength awaits | weakSum awaits | finished awaits =>
    rw [awaits] at blocks
    exact blocks

theorem Stepped.totalIn_eq (stepped : Stepped decoder answer next) :
    next.queue.totalIn = decoder.queue.totalIn := by
  cases stepped <;> rfl

theorem Stepped.counted (stepped : Stepped decoder (.ok progress) next)
    (counted : Counted decoder stream) : Counted next stream where
  totalIn_eq := stepped.totalIn_eq.trans counted.totalIn_eq
  blocks_eq := stepped.blocks_eq counted.blocks_eq

theorem Ran.counted (ran : Ran decoder answer next) (succeeded : answer = .ok progress)
    (counted : Counted decoder stream) : Counted next stream :=
  ran.keeps (Counted · stream) Stepped.counted succeeded counted

theorem Counted.push (counted : Counted decoder stream) (piece : ByteArray) :
    Counted { decoder with queue := decoder.queue.push piece } (stream ++ piece) where
  totalIn_eq := by
    rw [ByteArray.size_append, ← counted.totalIn_eq]
    exact Queue.totalIn_push ..
  blocks_eq := counted.blocks_eq

end Counting

section Suspending

variable {decoder next : Decoder} {stream piece : ByteArray} {answer : Except LoadError Progress}
  {progress : Progress} {cause : LoadError}

theorem Stepped.awaited_of_inProgress (stepped : Stepped decoder (.ok .inProgress) next) :
    next.state.awaited ≠ none := by
  cases stepped <;> exact Option.some_ne_none _

/-- A run over input that has not ended stops where a field is to come, and asks for it. -/
theorem Ran.waits (ran : Ran decoder answer next) (succeeded : answer = .ok progress)
    (unended : decoder.queue.ended = false) (awaits : decoder.state.awaited ≠ none) :
    progress = .needMoreInput ∧ ∃ field needed, next.state.awaited = some (field, needed) ∧
      next.queue.pending.size < needed := by
  induction ran with
  | last stepped stops =>
    subst succeeded
    cases stepped with
    | suspended awaited short => exact ⟨rfl, _, _, awaited, short⟩
    | finished _ _ ended => cases unended.symm.trans ended
    | done settled =>
      rw [settled] at awaits
      exact absurd rfl awaits
    | _ => exact absurd rfl stops
  | more stepped ran ih =>
    exact ih succeeded (by rw [stepped.ended_eq, unended]) stepped.awaited_of_inProgress

/-- Over input that has not ended, nothing but the header is ever refused. -/
theorem Ran.isHeaderError (ran : Ran decoder answer next) (failed : answer = .error cause)
    (unended : decoder.queue.ended = false) (live : decoder.state ≠ .failed) :
    cause.isHeaderError = true := by
  induction ran with
  | last stepped =>
    subst failed
    cases stepped with
    | blockLengthRefused | strongLengthRefused | paramsRefused => rfl
    | truncated _ _ ended => cases unended.symm.trans ended
    | failed settled => exact absurd settled live
  | more stepped ran ih =>
    exact ih failed (by rw [stepped.ended_eq, unended]) (stepped.live_of_ok live)

/-- A decoder that a field is to come for takes what is pushed. -/
theorem push_of_awaited (awaits : decoder.state.awaited ≠ none)
    (unended : decoder.queue.ended = false) (piece : ByteArray) :
    decoder.push piece = (.ok (), { decoder with queue := decoder.queue.push piece }) := by
  unfold push
  rw [unended]
  cases state : decoder.state with
  | done | failed =>
    rw [state] at awaits
    exact absurd rfl awaits
  | _ => rfl

/-- The decoder was given these bytes and has come as far as it can with them. -/
structure Suspended (decoder : Decoder) (stream : ByteArray) : Prop where
  tracks : Tracks decoder stream
  counted : Counted decoder stream
  unended : decoder.queue.ended = false
  waits : ∃ field needed, decoder.state.awaited = some (field, needed) ∧
    decoder.queue.pending.size < needed

theorem suspended_new (sizeHint : Option Nat) : Suspended (.new sizeHint) .empty where
  tracks := tracks_new sizeHint
  counted := ⟨rfl, rfl⟩
  unended := rfl
  waits := by
    refine ⟨.tag, 4, rfl, ?_⟩
    change ByteArray.empty.size < 4
    decide

theorem Suspended.awaits (suspended : Suspended decoder stream) :
    decoder.state.awaited ≠ none := by
  obtain ⟨field, needed, awaits, -⟩ := suspended.waits
  rw [awaits]
  exact Option.some_ne_none _

theorem Suspended.live (suspended : Suspended decoder stream) : decoder.state ≠ .failed := by
  intro failed
  exact suspended.awaits (by rw [failed]; rfl)

/-- What has come so far is not found to be at fault, except that it may be cut short. -/
theorem Suspended.isHeaderError_eq_false (suspended : Suspended decoder stream)
    (refused : Index.decode? stream = .error cause) : cause.isHeaderError = false := by
  obtain ⟨field, needed, awaits, short⟩ := suspended.waits
  have verdict := suspended.tracks .empty fun _ => rfl
  rw [ByteArray.append_empty, ByteArray.append_empty, ← Index.decode?_eq_verdict, refused]
    at verdict
  rcases verdict_of_awaited awaits short with ⟨index, accepted⟩ | truncated
  · cases verdict.symm.trans accepted
  · obtain rfl := Except.error.inj (verdict.symm.trans truncated)
    rfl

theorem Suspended.not_settled (suspended : Suspended decoder stream) : ¬ Settled stream := by
  rintro ⟨cause, fails⟩
  obtain ⟨field, needed, awaits, short⟩ := suspended.waits
  obtain ⟨rest, differs⟩ := exists_rest_of_awaited awaits short cause
  refine differs ?_
  rw [← fails rest, Index.decode?_eq_verdict]
  apply suspended.tracks
  rw [suspended.unended]
  exact fun ended => absurd ended Bool.false_ne_true

theorem Suspended.push_eq (suspended : Suspended decoder stream) (piece : ByteArray) :
    decoder.push piece = (.ok (), { decoder with queue := decoder.queue.push piece }) :=
  push_of_awaited suspended.awaits suspended.unended piece

/-- What a run makes of another piece: the decoder asks for more again, or the header is at fault,
and then it does not matter what would have come. -/
theorem Suspended.push_run (suspended : Suspended decoder stream) (piece : ByteArray) :
    let pushed := { decoder with queue := decoder.queue.push piece }
    (∀ progress, pushed.run.1 = .ok progress →
      progress = .needMoreInput ∧ Suspended pushed.run.2 (stream ++ piece)) ∧
      ∀ cause, pushed.run.1 = .error cause → cause.isHeaderError = true ∧
        ∀ rest, Index.decode? (stream ++ piece ++ rest) = .error cause := by
  intro pushed
  have ran := ran_run pushed
  have tracks : Tracks pushed (stream ++ piece) := suspended.tracks.push suspended.unended piece
  have unended : pushed.queue.ended = false :=
    (Queue.ended_push decoder.queue piece).trans suspended.unended
  refine ⟨fun progress answered => ?_, fun cause answered => ?_⟩
  · obtain ⟨asks, waits⟩ := ran.waits answered unended suspended.awaits
    exact ⟨asks,
      { tracks := ran.tracks answered tracks
        counted := ran.counted answered (suspended.counted.push piece)
        unended := ran.ended_eq.trans unended
        waits := waits }⟩
  · refine ⟨ran.isHeaderError answered unended suspended.live, fun rest => ?_⟩
    rw [Index.decode?_eq_verdict]
    apply (ran.rejects answered tracks suspended.live).verdict_eq
    rw [unended]
    exact fun ended => absurd ended Bool.false_ne_true

/-- What a run makes of the end of the stream. -/
theorem Suspended.finish_run (suspended : Suspended decoder stream) :
    (∀ cause, decoder.finish.run.1 = .error cause → Index.decode? stream = .error cause) ∧
      ∀ progress, decoder.finish.run.1 = .ok progress →
        ∃ index, Index.decode? stream = .ok index ∧
          decoder.finish.run.2.signature? = .ok index ∧
          decoder.finish.run.2.bytesIn = stream.size ∧
          decoder.finish.run.2.blocks = index.size := by
  have ran := ran_run decoder.finish
  have tracks := suspended.tracks.finish
  have counted : Counted decoder.finish stream :=
    ⟨suspended.counted.totalIn_eq, suspended.counted.blocks_eq⟩
  rw [Index.decode?_eq_verdict]
  refine ⟨fun cause answered => ?_, fun progress answered => ?_⟩
  · have refused := (ran.rejects answered tracks suspended.live).verdict_eq .empty fun _ => rfl
    rwa [ByteArray.append_empty] at refused
  · obtain ⟨-, index, settled⟩ := ran.done_of_ended answered rfl
    have counts := ran.counted answered counted
    have blocks := counts.blocks_eq
    rw [settled] at blocks
    refine ⟨index, (ran.tracks answered tracks).verdict_eq_ok settled, ?_, counts.totalIn_eq,
      blocks⟩
    rw [signature?, settled]

end Suspending

end Decoder

end DeltaSignature
