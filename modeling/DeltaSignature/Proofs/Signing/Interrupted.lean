import DeltaSignature.Proofs.Signing.Course
import DeltaSignature.Proofs.SlidingWindow.ForwardOnly

/-!
# An interrupted signature is the beginning of the whole one

Reading the basis may fail at any byte of it, and a sink with limited room may be full at any byte
of the stream.  Whatever happens, the sink is left with a leading part of the signature.  If reading
failed, this part is a stream of its own with the blocks that could be read; if the sink was full,
it is cut where the room ends.
-/

namespace DeltaSignature

namespace Generator

variable {σ τ : Type} [ByteSource σ]

section Recording

open SlidingWindow (recording request_recording)

variable [ByteSink τ]

theorem signFrom_of_refused {generator : Generator} {writer : Writer τ}
    {window next : SlidingWindow σ} {offset : Nat} {cause : WindowError}
    (refused : window.request offset generator.params.blockLength = (.error cause, next)) :
    generator.signFrom writer window offset = (.error (.window cause), writer, next) := by
  rw [signFrom]
  split <;> cases refused.symm.trans ‹_›
  rfl

theorem signFrom_of_answer {generator : Generator} {writer : Writer τ}
    {window next : SlidingWindow σ} {offset : Nat} {view : SlidingWindow.View}
    (answer : window.request offset generator.params.blockLength = (.ok view, next)) :
    generator.signFrom writer window offset =
      if view.bytes.size = 0 then (.ok offset, writer, next)
      else
        match writer.add (generator.weak view.bytes)
            (generator.strong.sum generator.params.strongLength view.bytes) with
        | (.error failure, writer) => (.error (.io failure), writer, next)
        | (.ok (), writer) =>
          if view.ended then (.ok (offset + view.bytes.size), writer, next)
          else generator.signFrom writer next (offset + view.bytes.size) := by
  rw [signFrom]
  split <;> cases answer.symm.trans ‹_›
  rfl

/-- Whether the source keeps a record of its calls makes no difference to signing. -/
theorem signFrom_recording (generator : Generator) (writer : Writer τ) (window : SlidingWindow σ)
    (offset : Nat) :
    ∃ tape : List SourceCall, ∀ calls,
      generator.signFrom writer (window.recording calls) offset =
        ((generator.signFrom writer window offset).1, (generator.signFrom writer window offset).2.1,
          (generator.signFrom writer window offset).2.2.recording (calls ++ tape)) := by
  fun_induction Generator.signFrom generator writer window offset with
  | case1 writer window offset cause next refused =>
    obtain ⟨tape, same⟩ := request_recording refused
    exact ⟨tape, fun calls => signFrom_of_refused (same calls)⟩
  | case2 writer window offset shown block ended next answer nothing =>
    obtain ⟨tape, same⟩ := request_recording answer
    refine ⟨tape, fun calls => ?_⟩
    rw [signFrom_of_answer (same calls), if_pos nothing]
  | case3 writer window offset shown block ended next answer something failure written failed =>
    obtain ⟨tape, same⟩ := request_recording answer
    refine ⟨tape, fun calls => ?_⟩
    rw [signFrom_of_answer (same calls), if_neg something, failed]
  | case4 writer window offset shown block next something written added answer =>
    obtain ⟨tape, same⟩ := request_recording answer
    refine ⟨tape, fun calls => ?_⟩
    rw [signFrom_of_answer (same calls), if_neg something, added]
    rfl
  | case5 writer window offset shown block ended next answer something written added unended ih =>
    obtain ⟨first, same⟩ := request_recording answer
    obtain ⟨later, sameLater⟩ := ih
    refine ⟨first ++ later, fun calls => ?_⟩
    simp only [signFrom_of_answer (same calls), if_neg something, added, if_neg unended, sameLater,
      List.append_assoc]

theorem generate_recording (generator : Generator) (window : SlidingWindow σ) (sink : τ) :
    ∃ tape : List SourceCall, ∀ calls,
      generator.generate (window.recording calls) sink =
        ⟨(generator.generate window sink).outcome, (generator.generate window sink).complete,
          (generator.generate window sink).window.recording (calls ++ tape),
          (generator.generate window sink).sink⟩ := by
  simp only [generate]
  cases started : Writer.start sink generator.params with
  | error refusal =>
    refine ⟨[], fun calls => ?_⟩
    rw [List.append_nil]
  | ok writer =>
    obtain ⟨tape, same⟩ := signFrom_recording generator writer window 0
    refine ⟨tape, fun calls => ?_⟩
    simp only [same]
    generalize generator.signFrom writer window 0 = signed
    obtain ⟨outcome, last, after⟩ := signed
    cases outcome with
    | error cause => rfl
    | ok basisBytes =>
      cases finished : last.finish with
      | mk flushed emptied =>
        simp only [finished]
        cases flushed <;> rfl

end Recording

section Delivering

variable {basis : ByteArray} {stands : σ → Nat → Prop} {first window : SlidingWindow (Recorded σ)}
  {blockLength number : Nat}

/-- A window that walks from block to block never moves its source, so it reaches as far as the
source has delivered. -/
theorem Walked.delivered_eq (serves : ByteSource.Serves basis stands)
    (faithful : SlidingWindow.Faithful basis (Recorded.Stands stands) first)
    (unmoved : first.start = 0) (blank : first.source.calls = []) (nothing : first.stop = 0)
    (narrow : basis.size + first.limits.span < 0x1_0000_0000_0000_0000)
    (walked : Walked first blockLength number window) :
    (∀ call ∈ window.source.calls, call.isRead = true) ∧
      Record.delivered window.source.calls = window.stop := by
  -- Every block starts in the window or right behind it, so no request asks for a seek.
  induction walked with
  | zero =>
    rw [blank, nothing]
    exact ⟨by simp, rfl⟩
  | @succ number window next view walked answer whole ih =>
    obtain ⟨onlyReads, delivered⟩ := ih
    have ready := walked.ready (Recorded.serves serves) faithful unmoved
    have inside := ready.inside
    have narrowHere : number * blockLength + window.limits.span < 0x1_0000_0000_0000_0000 := by
      rw [walked.setting_eq.1]
      omega
    obtain ⟨calls, advances⟩ :=
      (SlidingWindow.requested_of_answer answer).exists_advances serves ready.faithful narrowHere
    have reads := advances.isRead (by omega) (Nat.le_add_right_of_le ready.le_stop)
    have place := advances.placeAfter_eq
    rw [Record.placeAfter_of_reads reads] at place
    rw [advances.calls_eq, Record.delivered_append, delivered, place]
    exact ⟨List.forall_mem_append.2 ⟨onlyReads, reads⟩, rfl⟩

/-- Whatever a request answers, the calls made before it stay on record. -/
theorem delivered_le_of_answer {next : SlidingWindow (Recorded σ)} {offset length : Nat}
    {answer : Except WindowError SlidingWindow.View}
    (answered : window.request offset length = (answer, next)) :
    Record.delivered window.source.calls ≤ Record.delivered next.source.calls := by
  obtain ⟨tape, own, -⟩ := SlidingWindow.request_onto window offset length
  rw [answered] at own
  rw [own.calls_eq, Record.delivered_append]
  exact Nat.le_add_right ..

end Delivering

section Leaving

variable {generator : Generator} {basis : ByteArray} {limit : Option Nat}
  {flushRefusal : Option IoFailure}

/-- What signing leaves in a sink that was given this limit and this answer to a flush, when these
calls were made of the source.  If reading failed, the blocks that were read before are whole and
there are no others; if writing failed, the room was used up, or all was written and the flush was
refused. -/
structure Leaves (generator : Generator) (basis : ByteArray) (limit : Option Nat)
    (flushRefusal : Option IoFailure) (calls : List SourceCall)
    (outcome : Except GenerateError Stats) (written : ByteArray) : Prop where
  exists_rest : ∃ rest, generator.fullSignature basis = written ++ rest
  of_ok : ∀ stats, outcome = .ok stats →
    written = generator.fullSignature basis ∧
      stats.blocks = blockCount basis.size generator.params.blockLength ∧
      stats.basisBytes = basis.size ∧ stats.streamBytes = written.size
  of_window : ∀ cause, outcome = .error (.window cause) →
    ∃ number ≤ blockCount basis.size generator.params.blockLength,
      number * generator.params.blockLength ≤ Record.delivered calls ∧
      written = generator.signature basis number ∧
      ∃ index, Index.decode? written = .ok index ∧ index.params = generator.params ∧
        index.blocks = (List.range number).map fun number =>
          ⟨number, generator.weak (basisBlock basis generator.params.blockLength number),
            generator.strong.sum generator.params.strongLength
              (basisBlock basis generator.params.blockLength number)⟩
  of_io : ∀ failure, outcome = .error (.io failure) →
    (∃ most, limit = some most ∧ most < (generator.fullSignature basis).size ∧
      written = (generator.fullSignature basis).extract 0 most) ∨
    flushRefusal = some failure ∧ written = generator.fullSignature basis
  of_error : ∀ cause, outcome = .error cause →
    (∃ reason, cause = .window reason) ∨ ∃ failure, cause = .io failure
  unread : ∀ most, limit = some most → most < 12 → calls = []

/-- A sink that got stuck in the middle of a stream has taken it as far as its room goes. -/
theorem part_of_full {sink : BoundedSink} {front piece : ByteArray} (rest : ByteArray) {taken : Nat}
    (full : BoundedSink.Full limit sink (front ++ piece.extract 0 taken))
    (cut : taken < piece.size) :
    limit = some sink.written.size ∧ sink.written.size < (front ++ piece ++ rest).size ∧
      PartAt (front ++ piece ++ rest) 0 sink.written := by
  obtain ⟨written, room⟩ := full
  rw [written]
  refine ⟨room, ?_, PartAt.cut front rest (Nat.le_of_lt cut)⟩
  rw [ByteArray.size_append, ByteArray.size_append, ByteArray.size_append,
    size_take (Nat.le_of_lt cut)]
  omega

theorem leaves_of_full {calls : List SourceCall} {failure : IoFailure} {written : ByteArray}
    (room : limit = some written.size) (short : written.size < (generator.fullSignature basis).size)
    (part : PartAt (generator.fullSignature basis) 0 written)
    (unread : written.size < 12 → calls = []) :
    Leaves generator basis limit flushRefusal calls (.error (.io failure)) written := by
  constructor
  case exists_rest => exact part.exists_rest
  case of_ok | of_window =>
    intro cause same
    cases same
  case of_io =>
    intro cause same
    rw [PartAt, Nat.zero_add] at part
    exact .inl ⟨_, room, short, part⟩
  case of_error =>
    intro cause same
    exact .inr ⟨failure, (Except.error.inj same).symm⟩
  case unread =>
    rintro most rfl few
    exact unread (by rwa [← Option.some.inj room])

/-- A sink that holds whole records has room for the header at least. -/
theorem not_lt_of_within {sink : BoundedSink} {count most : Nat}
    (within : BoundedSink.Within limit flushRefusal sink
      (.empty ++ generator.signature basis count))
    (limited : limit = some most) : ¬ most < 12 := by
  have least := within.size_le most limited
  rw [ByteArray.empty_append] at least
  exact Nat.not_lt.2 (Nat.le_trans (le_size_signature generator basis count) least)

theorem Ended.leaves {stands : σ → Nat → Prop} {first : SlidingWindow (Recorded σ)}
    {result : Result (Recorded σ) BoundedSink} (serves : ByteSource.Serves basis stands)
    (faithful : SlidingWindow.Faithful basis (Recorded.Stands stands) first)
    (unmoved : first.start = 0) (blank : first.source.calls = []) (nothing : first.stop = 0)
    (narrow : basis.size + first.limits.span < 0x1_0000_0000_0000_0000)
    (ended : Ended generator basis .empty (BoundedSink.Within limit flushRefusal)
      (BoundedSink.Full limit) first result) :
    Leaves generator basis limit flushRefusal result.window.source.calls result.outcome
      result.sink.written := by
  cases ended with
  | headless cut stopped =>
    obtain ⟨rest, whole⟩ := exists_signature_append generator basis
      (Nat.zero_le (blockCount basis.size generator.params.blockLength))
    rw [signature_zero] at whole
    rw [← Params.headerLength, ← Params.size_header generator.params] at cut
    obtain ⟨room, short, part⟩ := part_of_full rest stopped cut
    rw [ByteArray.empty_append, ← whole] at short part
    exact leaves_of_full room short part fun _ => blank
  | @unwritten number taken sink window failure inside cut stopped =>
    obtain ⟨rest, whole⟩ := exists_signature_append generator basis (Nat.succ_le_of_lt inside)
    rw [signature_succ] at whole
    obtain ⟨room, short, part⟩ := part_of_full rest stopped cut
    rw [ByteArray.empty_append, ← whole] at short part
    refine leaves_of_full room short part fun few => ?_
    rw [stopped.1, ByteArray.empty_append, ByteArray.size_append] at few
    have least := le_size_signature generator basis number
    omega
  | @unviewed number sink window next cause held walked refused =>
    have ready := walked.ready (Recorded.serves serves) faithful unmoved
    obtain ⟨-, delivered⟩ := walked.delivered_eq serves faithful unmoved blank nothing narrow
    have counted := le_blockCount generator.params.blockLength_pos ready.inside
    have written : sink.written = generator.signature basis number :=
      held.written_eq.trans ByteArray.empty_append
    constructor
    case exists_rest =>
      rw [written]
      exact exists_signature_append generator basis counted
    case of_ok | of_io =>
      intro cause same
      cases same
    case of_window =>
      intro reason same
      refine ⟨number, counted, ?_, written, ?_⟩
      · calc number * generator.params.blockLength
          _ ≤ window.stop := ready.le_stop
          _ = Record.delivered window.source.calls := delivered.symm
          _ ≤ Record.delivered next.source.calls := delivered_le_of_answer refused
      · rw [written]
        exact ⟨_, decode?_signature_eq generator basis number, Index.params_addAll ..,
          blocks_sums generator basis number⟩
    case of_error =>
      intro reason same
      exact .inl ⟨cause, (Except.error.inj same).symm⟩
    case unread => exact fun most limited few => absurd few (not_lt_of_within held limited)
  | @unflushed last sink window stats failure held refused =>
    have heldSink := (BoundedSink.appends limit flushRefusal).holds_of_flushed held refused
    have written : sink.written = generator.fullSignature basis :=
      heldSink.written_eq.trans ByteArray.empty_append
    constructor
    case exists_rest => exact ⟨.empty, by rw [ByteArray.append_empty, written]⟩
    case of_ok | of_window =>
      intro cause same
      cases same
    case of_io =>
      intro cause same
      obtain rfl := GenerateError.io.inj (Except.error.inj same)
      exact .inr ⟨held.flushRefusal_eq.symm.trans (BoundedSink.flushRefusal_of_flush refused),
        written⟩
    case of_error =>
      intro reason same
      exact .inr ⟨failure, (Except.error.inj same).symm⟩
    case unread => exact fun most limited few => absurd few (not_lt_of_within held limited)
  | @complete sink window stats held blocks basisBytes streamBytes =>
    have written : sink.written = generator.fullSignature basis :=
      held.written_eq.trans ByteArray.empty_append
    constructor
    case exists_rest => exact ⟨.empty, by rw [ByteArray.append_empty, written]⟩
    case of_ok =>
      intro reported same
      obtain rfl := Except.ok.inj same
      refine ⟨written, blocks, basisBytes, ?_⟩
      rw [streamBytes, blocks, written]
      exact (size_signature _).symm
    case of_window | of_io | of_error =>
      intro cause same
      cases same
    case unread => exact fun most limited few => absurd few (not_lt_of_within held limited)

/-- Over a well-behaved source, whose reads may fail at any point, and into a blank sink with any
room, which may refuse to be flushed, signing leaves a leading part of the signature, cut just where
the outcome says. -/
theorem generate_leaves (generator : Generator) {stands : σ → Nat → Prop}
    (serves : ByteSource.Serves basis stands) {source : σ} (atStart : stands source 0)
    (limits : SlidingWindow.Limits) (memory : Memory)
    (fits : basis.size + generator.params.blockLength + limits.span < 0x8000_0000_0000_0000)
    (limit : Option Nat) (flushRefusal : Option IoFailure) (full : IoFailure) :
    let sink : BoundedSink := ⟨.empty, limit, full, flushRefusal⟩
    let result := generator.generate (SlidingWindow.fresh source limits memory) sink
    ∃ calls,
      generator.generate (SlidingWindow.fresh (Recorded.mk source []) limits memory) sink =
        ⟨result.outcome, result.complete, result.window.recording calls, result.sink⟩ ∧
      Leaves generator basis limit flushRefusal calls result.outcome result.sink.written := by
  intro sink result
  obtain ⟨calls, recorded⟩ :=
    generate_recording generator (SlidingWindow.fresh source limits memory) sink
  have same : generator.generate (SlidingWindow.fresh (Recorded.mk source []) limits memory) sink =
      ⟨result.outcome, result.complete, result.window.recording calls, result.sink⟩ :=
    recorded []
  have standing : Recorded.Stands stands ⟨source, []⟩ 0 := atStart
  have faithful : SlidingWindow.Faithful basis (Recorded.Stands stands)
      (SlidingWindow.fresh (Recorded.mk source []) limits memory) :=
    SlidingWindow.faithful_fresh standing limits memory
  have within : BoundedSink.Within limit flushRefusal sink .empty :=
    ⟨rfl, rfl, rfl, fun most _ => Nat.zero_le most⟩
  have ended := generate_ended generator (Recorded.serves serves)
    (BoundedSink.appends limit flushRefusal) faithful rfl within
  have narrow : basis.size + limits.span < 0x1_0000_0000_0000_0000 := by omega
  have leaves := ended.leaves serves faithful rfl rfl rfl narrow
  rw [same] at leaves
  exact ⟨calls, same, leaves⟩

/-- Five bytes in blocks of two, into a sink with room for the header and a record and a half. -/
theorem generate_leaves_five :
    let generator : Generator :=
      ⟨⟨Format.adler32Sha256.tag, 2, 1, by decide, by decide, by decide⟩, Adler.sum, .sha256,
        by decide⟩
    let basis : ByteArray := ⟨#[1, 2, 3, 4, 5]⟩
    let result := generator.generate
      (SlidingWindow.fresh (⟨⟨basis, 0⟩⟩ : Forward Cursor)
        ⟨2, 3, by decide, by decide, by decide, by decide⟩ .ordinary)
      (⟨.empty, some 20, ⟨.storageFull, "full"⟩, none⟩ : BoundedSink)
    ∃ calls, Leaves generator basis (some 20) none calls result.outcome result.sink.written := by
  intro generator basis result
  have atStart : Cursor.StandsIn basis ⟨basis, 0⟩ 0 := ⟨rfl, rfl⟩
  obtain ⟨calls, -, leaves⟩ := generate_leaves generator (Forward.serves (Cursor.delivers basis))
    atStart ⟨2, 3, by decide, by decide, by decide, by decide⟩ .ordinary (by decide) (some 20)
    none ⟨.storageFull, "full"⟩
  refine ⟨calls, ?_⟩
  dsimp only [result]
  exact leaves

end Leaving

end Generator

end DeltaSignature
