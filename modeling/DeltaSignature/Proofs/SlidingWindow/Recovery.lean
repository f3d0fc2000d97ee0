import DeltaSignature.Proofs.SlidingWindow.ForwardOnly
import DeltaSignature.Proofs.SlidingWindow.Geometry
import DeltaSignature.Proofs.SlidingWindow.Room
import DeltaSignature.Proofs.Transfer.Pace

/-!
# After a failed read

A read that fails leaves the window where it has moved to, with what was delivered before.  Nothing
stands in the way of making the same request again: the buffer is large enough, and the source
stands right behind what is held, so reading goes on there and no move of the source is needed.
`Recovering` is what every window has in common from the failure on, until a request for another
range comes.
-/

namespace DeltaSignature

namespace SlidingWindow

variable {σ : Type} {content : ByteArray} {stands : σ → Nat → Prop}

section Failures

/-- Reading stops at a failure only if the last call was a read that failed. -/
theorem exists_failed_of_fill [ByteReader σ] {goal reads : Nat} {held : ByteArray}
    {source : Recorded σ} {failure : IoFailure}
    (failed : (fill goal held reads source).stop = .failed failure) :
    ∃ before size, (fill goal held reads source).source.calls =
      source.calls ++ before ++ [.read size (.failed failure)] := by
  fun_induction fill goal held reads source with
  | case1 => cases failed
  | case2 held reads source lacking next answer ih =>
    obtain ⟨before, size, calls_eq⟩ := ih failed
    rw [Recorded.calls_of_read answer, List.append_assoc source.calls] at calls_eq
    exact ⟨_, size, calls_eq⟩
  | case3 held reads source lacking cause next answer =>
    obtain rfl := Stop.failed.inj failed
    refine ⟨[], goal - held.size, ?_⟩
    rw [List.append_nil]
    exact Recorded.calls_of_read answer
  | case4 => cases failed
  | case5 held reads source lacking piece next answer something ih =>
    obtain ⟨before, size, calls_eq⟩ := ih failed
    rw [Recorded.calls_of_read answer, List.append_assoc source.calls] at calls_eq
    exact ⟨_, size, calls_eq⟩

variable [ByteSource σ] {window next : SlidingWindow (Recorded σ)} {offset length : Nat}
  {failure : IoFailure} {calls : List SourceCall}

/-- The last call of a request that reports a failed read is this read. -/
theorem Requested.mem_of_failed
    (requested : Requested window offset length (.error (.read failure)) next)
    (calls_eq : next.source.calls = window.source.calls ++ calls) :
    ∃ size, .read size (.failed failure) ∈ calls := by
  generalize answered : Except.error (WindowError.read failure) = answer at requested
  cases requested with
  | misused | hit | denied | overflowed | unreachable => cases answered
  | @slid grown placed exceeds granted moved =>
    obtain ⟨same, cause_eq, failed⟩ := stop_of_slide_eq_error _ _ (eq_error_of_map answered)
    obtain rfl := WindowError.read.inj cause_eq
    obtain ⟨before, size, filled⟩ := exists_failed_of_fill failed
    have onward : ∃ seeks, placed.source.calls = window.source.calls ++ seeks := by
      obtain rfl := grow_eq_ok granted
      rcases moveSource_eq_ok moved with ⟨-, rfl⟩ | ⟨-, source, sought, rfl⟩
      · exact ⟨[], (List.append_nil _).symm⟩
      · exact ⟨_, Recorded.calls_of_seek sought⟩
    obtain ⟨seeks, sought⟩ := onward
    rw [slide_source] at calls_eq
    have all := calls_eq.symm.trans filled
    rw [sought, List.append_assoc, List.append_assoc] at all
    refine ⟨size, ?_⟩
    rw [List.append_cancel_left all]
    simp

end Failures

section Again

/-- The same request again, or one for a range between these places. -/
def Again (request : Request) (start stop : Nat) (asked : Request) : Prop :=
  asked = request ∨
    0 < asked.length ∧ start ≤ asked.offset ∧ asked.offset + asked.length ≤ stop

/-- Reading has gone on from where the first window ends, without a seek, and the last window holds
all that was delivered: no byte came twice, and none was left out. -/
structure Resumes (content : ByteArray) (stands : σ → Nat → Prop)
    (window last : SlidingWindow (Recorded σ)) (calls : List SourceCall) : Prop where
  calls_eq : last.source.calls = window.source.calls ++ calls
  onlyReads : ∀ call ∈ calls, call.isRead = true
  placesRead_eq : Record.placesRead window.stop calls =
    List.range' window.stop (Record.delivered calls)
  start_eq : last.start = window.start
  stop_eq : last.stop = window.stop + Record.delivered calls
  held_part : PartAt content last.start last.held
  stands_stop : stands last.source.source last.stop

/-- A request is answered with the right view, unless one of its reads failed.  What is in front of
`place` is read no more. -/
structure Answers (content : ByteArray) (place : Nat) (asked : Request)
    (answer : Except WindowError View) (calls : List SourceCall) : Prop where
  answered : (∃ view, answer = .ok view ∧ Shows content asked view) ∨
    ∃ size failure, answer = .error (.read failure) ∧ .read size (.failed failure) ∈ calls
  silent : asked.offset + asked.length ≤ place → calls = []

/-- The window is ready for the request, from `start` on, and holds what is in front of `place`; it
has come as far as the request makes it move. -/
structure Recovering (content : ByteArray) (stands : σ → Nat → Prop) (request : Request)
    (start place : Nat) (window : SlidingWindow (Recorded σ)) : Prop where
  faithful : Faithful content (Recorded.Stands stands) window
  affordable : window.Affordable
  start_eq : window.start = start
  place_le : place ≤ window.stop
  place_lt : place < 0x1_0000_0000_0000_0000
  length_pos : 0 < request.length
  fits : request.offset + request.length < 0x1_0000_0000_0000_0000
  start_le : start ≤ request.offset
  narrow : request.offset + window.limits.span < 0x1_0000_0000_0000_0000
  windowStart_le : window.limits.windowStart request.offset ≤ start
  size_le : max (request.offset + request.length - start) window.limits.span ≤ window.allocated

variable {window middle last : SlidingWindow (Recorded σ)} {earlier later calls : List SourceCall}

theorem Faithful.resumes (faithful : Faithful content (Recorded.Stands stands) last)
    (calls_eq : last.source.calls = window.source.calls ++ calls)
    (onlyReads : ∀ call ∈ calls, call.isRead = true) (start_eq : last.start = window.start)
    (stop_eq : last.stop = window.stop + Record.delivered calls) :
    Resumes content stands window last calls where
  calls_eq := calls_eq
  onlyReads := onlyReads
  placesRead_eq := Record.placesRead_of_reads onlyReads _
  start_eq := start_eq
  stop_eq := stop_eq
  held_part := faithful.held_part
  stands_stop := faithful.stands_stop

theorem Resumes.trans (first : Resumes content stands window middle earlier)
    (second : Resumes content stands middle last later) :
    Resumes content stands window last (earlier ++ later) := by
  have onlyReads := List.forall_mem_append.2 ⟨first.onlyReads, second.onlyReads⟩
  constructor
  case calls_eq => rw [second.calls_eq, first.calls_eq, List.append_assoc]
  case onlyReads => exact onlyReads
  case placesRead_eq => exact Record.placesRead_of_reads onlyReads _
  case start_eq => exact second.start_eq.trans first.start_eq
  case stop_eq =>
    rw [second.stop_eq, first.stop_eq, Record.delivered_append, Nat.add_assoc]
  case held_part => exact second.held_part
  case stands_stop => exact second.stands_stop

variable {request asked : Request} {start place : Nat}

/-- The window does not move for the request any more, so the buffer is large enough. -/
theorem Recovering.reserve_eq
    (recovering : Recovering content stands request start place window) :
    window.memory.reserve (window.moveTo request.offset request.length).size = .ok () := by
  have start_eq : (window.moveTo request.offset request.length).start = start := by
    rw [← recovering.start_eq]
    exact Nat.max_eq_right (recovering.start_eq ▸ recovering.windowStart_le)
  apply Memory.reserve_of_le recovering.affordable
  rw [moveTo_size_eq, start_eq]
  exact recovering.size_le

variable [ByteSource σ]

namespace Recovering

theorem requested (serves : ByteSource.Serves content stands)
    (recovering : Recovering content stands request start place window)
    {answer : Except WindowError View} {next : SlidingWindow (Recorded σ)}
    (requested : Requested window asked.offset asked.length answer next)
    (start_eq : next.start = window.start) (stop_le : window.stop ≤ next.stop) :
    Recovering content stands request start place next := by
  obtain ⟨limits_eq, -⟩ := requested.setting_eq
  constructor
  case faithful => exact recovering.faithful.requested (Recorded.serves serves) requested
  case affordable => exact recovering.affordable.requested requested
  case start_eq => exact start_eq.trans recovering.start_eq
  case place_le => exact Nat.le_trans recovering.place_le stop_le
  case place_lt => exact recovering.place_lt
  case length_pos => exact recovering.length_pos
  case fits => exact recovering.fits
  case start_le => exact recovering.start_le
  case narrow => exact limits_eq ▸ recovering.narrow
  case windowStart_le => exact limits_eq ▸ recovering.windowStart_le
  case size_le =>
    rw [limits_eq]
    exact Nat.le_trans recovering.size_le requested.allocated_le

/-- Nothing but a failed read can keep the request from being answered. -/
theorem failed_of_error (recovering : Recovering content stands request start place window)
    {cause : WindowError} {next : SlidingWindow (Recorded σ)}
    (requested : Requested window request.offset request.length (.error cause) next)
    (advances : Advances window request.offset request.length (.error cause) next calls)
    (onlyReads : ∀ call ∈ calls, call.isRead = true) :
    ∃ size failure, cause = .read failure ∧ .read size (.failed failure) ∈ calls := by
  have isRead : ∃ failure, cause = .read failure := by
    generalize answered : Except.error cause = answer at requested
    cases requested with
    | misused misfit =>
      have := recovering.length_pos
      have := recovering.fits
      have := recovering.start_eq
      have := recovering.start_le
      omega
    | hit => cases answered
    | denied exceeds refused => cases recovering.reserve_eq.symm.trans refused
    | overflowed exceeds granted overflows =>
      exact absurd overflows (exceeds.not_overflows recovering.narrow)
    | unreachable => cases onlyReads _ (advances.refused _ _ answered)
    | slid =>
      obtain ⟨failure, same, -⟩ := stop_of_slide_eq_error _ _ (eq_error_of_map answered)
      exact ⟨failure, same⟩
  obtain ⟨failure, rfl⟩ := isRead
  obtain ⟨size, listed⟩ := requested.mem_of_failed advances.calls_eq
  exact ⟨size, failure, rfl, listed⟩

/-- The request itself, made again, resumes reading. -/
theorem again (serves : ByteSource.Serves content stands)
    (recovering : Recovering content stands request start place window) :
    ∃ calls, Resumes content stands window
        (window.request request.offset request.length).2 calls ∧
      Recovering content stands request start place
        (window.request request.offset request.length).2 ∧
      Answers content place request (window.request request.offset request.length).1 calls := by
  have requested := requested_request window request.offset request.length
  obtain ⟨calls, advances⟩ :=
    requested.exists_advances serves recovering.faithful recovering.narrow
  have faithfulNext := recovering.faithful.requested (Recorded.serves serves) requested
  have extent : window.stop = window.start + window.held.size := rfl
  have settled := recovering.windowStart_le
  rw [← recovering.start_eq] at settled
  -- A seek would go to the start of the window, but the source stands behind its end.
  have onlyReads : ∀ call ∈ calls, call.isRead = true := by
    intro call listed
    cases call with
    | read => rfl
    | seek target outcome =>
      obtain ⟨behind, at_start⟩ := advances.sought target outcome listed
      omega
  have start_eq : (window.request request.offset request.length).2.start = window.start := by
    rcases requested.start_eq with ⟨-, same⟩ | ⟨-, -, moved⟩
    · exact same
    · exact moved.trans (Nat.max_eq_left settled)
  have stop_eq : (window.request request.offset request.length).2.stop =
      window.stop + Record.delivered calls := by
    rw [← advances.placeAfter_eq]
    exact Record.placeAfter_of_reads onlyReads _
  refine ⟨calls, faithfulNext.resumes advances.calls_eq onlyReads start_eq stop_eq,
    recovering.requested serves requested start_eq (stop_eq ▸ Nat.le_add_right ..), ?_⟩
  constructor
  case answered =>
    cases answer : (window.request request.offset request.length).1 with
    | ok view =>
      have shows := recovering.faithful.shows (Recorded.serves serves) request answer
      exact .inl ⟨view, rfl, shows⟩
    | error cause =>
      rw [answer] at requested advances
      obtain ⟨size, failure, rfl, listed⟩ :=
        recovering.failed_of_error requested advances onlyReads
      exact .inr ⟨size, failure, rfl, listed⟩
  case silent =>
    intro inside
    exact advances.silent (.inl (Nat.le_trans inside recovering.place_le))

/-- A request for a part of what is held is answered without a call. -/
theorem inside (serves : ByteSource.Serves content stands)
    (recovering : Recovering content stands request start place window)
    (positive : 0 < asked.length) (start_le : start ≤ asked.offset)
    (le_place : asked.offset + asked.length ≤ place) :
    Resumes content stands window (window.request asked.offset asked.length).2 [] ∧
      Recovering content stands request start place
        (window.request asked.offset asked.length).2 ∧
      Answers content place asked (window.request asked.offset asked.length).1 [] := by
  have requested := requested_request window asked.offset asked.length
  have faithfulNext := recovering.faithful.requested (Recorded.serves serves) requested
  have answer := request_of_covers positive
    (Nat.lt_of_le_of_lt le_place recovering.place_lt) (recovering.start_eq.trans_le start_le)
    (.inl (Nat.le_trans le_place recovering.place_le))
  have source_eq : (window.request asked.offset asked.length).2.source = window.source := by
    rw [answer]
  have start_eq : (window.request asked.offset asked.length).2.start = window.start := by
    rw [answer]
  have stop_eq : (window.request asked.offset asked.length).2.stop = window.stop := by
    rw [answer]
    rfl
  refine ⟨faithfulNext.resumes ?_ (by simp) start_eq stop_eq,
    recovering.requested serves requested start_eq (Nat.le_of_eq stop_eq.symm), ?_⟩
  · rw [source_eq, List.append_nil]
  · have shows := recovering.faithful.shows (Recorded.serves serves) asked
      (congrArg Prod.fst answer)
    constructor
    case answered => exact .inl ⟨_, congrArg Prod.fst answer, shows⟩
    case silent => exact fun _ => rfl

theorem step (serves : ByteSource.Serves content stands)
    (recovering : Recovering content stands request start place window)
    (allowed : Again request start place asked) :
    ∃ calls, Resumes content stands window (window.request asked.offset asked.length).2 calls ∧
      Recovering content stands request start place
        (window.request asked.offset asked.length).2 ∧
      Answers content place asked (window.request asked.offset asked.length).1 calls := by
  rcases allowed with rfl | ⟨positive, start_le, le_place⟩
  · exact recovering.again serves
  · exact ⟨[], recovering.inside serves positive start_le le_place⟩

/-- However often the request is made again, and whatever is asked of what is held, reading goes on
where it has stopped. -/
theorem serve (serves : ByteSource.Serves content stands)
    (recovering : Recovering content stands request start place window) {later : List Request}
    (allowed : ∀ asked ∈ later, Again request start place asked) :
    ∃ calls, Resumes content stands window (window.serve later).2 calls ∧
      Recovering content stands request start place (window.serve later).2 := by
  induction later generalizing window with
  | nil =>
    have faithful := recovering.faithful
    exact ⟨[], faithful.resumes (List.append_nil _).symm (by simp) rfl rfl, recovering⟩
  | cons asked later ih =>
    obtain ⟨now, afterwards⟩ := List.forall_mem_cons.1 allowed
    obtain ⟨first, resumes, recoveringNext, -⟩ := recovering.step serves now
    obtain ⟨rest, resumesLast, recoveringLast⟩ := ih recoveringNext afterwards
    exact ⟨first ++ rest, resumes.trans resumesLast, recoveringLast⟩

end Recovering

end Again

section Recovery

variable [ByteSource σ] {window next : SlidingWindow (Recorded σ)} {request : Request}
  {failure : IoFailure}

/-- What a failed read leaves behind is what a window needs to recover. -/
theorem Requested.recovering (serves : ByteSource.Serves content stands)
    (faithful : Faithful content (Recorded.Stands stands) window) (affordable : window.Affordable)
    (narrow : request.offset + window.limits.span < 0x1_0000_0000_0000_0000)
    (requested : Requested window request.offset request.length (.error (.read failure)) next) :
    Recovering content stands request next.start next.stop next ∧
      next.start = max window.start (window.limits.windowStart request.offset) ∧
      next.ended = false := by
  have faithfulNext := faithful.requested (Recorded.serves serves) requested
  have affordableNext := affordable.requested requested
  obtain ⟨limits_eq, -⟩ := requested.setting_eq
  generalize answered : Except.error (WindowError.read failure) = answer at requested
  cases requested with
  | misused | hit | denied | overflowed | unreachable => cases answered
  | @slid grown placed exceeds granted moved =>
    have poised := faithful.poised (Recorded.serves serves) granted moved
    have filled := size_filling_le granted moved request.offset request.length
    have reach := exceeds.moveTo_end_lt narrow
    have unended : placed.ended = false := poised.ended_eq.trans exceeds.unended
    have start_eq : (placed.slide (window.moveTo request.offset request.length)).2.start =
        max window.start (window.limits.windowStart request.offset) :=
      (slide_start ..).trans (Nat.max_comm ..)
    refine ⟨?_, start_eq, ?_⟩
    · constructor
      case faithful => exact faithfulNext
      case affordable => exact affordableNext
      case start_eq => rfl
      case place_le => exact Nat.le_refl _
      case place_lt =>
        rw [slide_stop]
        omega
      case length_pos => exact exceeds.length_pos
      case fits => exact exceeds.fits
      case start_le =>
        rw [slide_start]
        exact moveTo_start_le request.length exceeds.start_le
      case narrow => exact limits_eq ▸ narrow
      case windowStart_le =>
        rw [limits_eq, start_eq]
        exact Nat.le_max_right ..
      case size_le =>
        obtain ⟨source, position, stats, trace, rfl⟩ := placed_eq granted moved
        rw [slide_start, slide_limits, slide_allocated]
        exact Nat.le_max_right ..
    · obtain ⟨same, -, failed⟩ := stop_of_slide_eq_error _ _ (eq_error_of_map answered)
      rw [Bool.eq_false_iff, Ne, slide_ended_iff _ _ unended, failed]
      intro ended
      cases ended

/-- After a failed read the window holds what the source has delivered up to where it stands, and
reading goes on from there when the request is made again. -/
structure Recovers (content : ByteArray) (stands : σ → Nat → Prop)
    (window : SlidingWindow (Recorded σ)) (request : Request)
    (next : SlidingWindow (Recorded σ)) (calls : List SourceCall) : Prop where
  calls_eq : next.source.calls = window.source.calls ++ calls
  stands_before : stands window.source.source window.stop
  ahead : Record.Ahead window.stop calls
  stop_eq : next.stop = Record.placeAfter window.stop calls
  stands_stop : stands next.source.source next.stop
  start_eq : next.start = max window.start (window.limits.windowStart request.offset)
  held_part : PartAt content next.start next.held
  unended : next.ended = false
  resumes : ∀ later : List Request, (∀ asked ∈ later, Again request next.start next.stop asked) →
    (∃ calls, Resumes content stands next (next.serve later).2 calls) ∧
    ∀ asked, Again request next.start next.stop asked →
      let answered := (next.serve later).2.request asked.offset asked.length
      ∃ calls, answered.2.source.calls = (next.serve later).2.source.calls ++ calls ∧
        Answers content next.stop asked answered.1 calls

/-- A request that fails to read can be made again any number of times, and what the window already
holds stays at hand meanwhile. -/
theorem exists_recovers (serves : ByteSource.Serves content stands) {limits : Limits}
    {memory : Memory} {source : σ} (atStart : stands source 0) {requests : List Request}
    (reached : ((fresh (Recorded.mk source []) limits memory).serve requests).2 = window)
    (narrow : request.offset + limits.span < 0x1_0000_0000_0000_0000)
    (failed : window.request request.offset request.length = (.error (.read failure), next)) :
    ∃ calls, Recovers content stands window request next calls := by
  have standing : Recorded.Stands stands ⟨source, []⟩ 0 := atStart
  have faithfulFresh : Faithful content (Recorded.Stands stands)
      (fresh (Recorded.mk source []) limits memory) := faithful_fresh standing limits memory
  have faithful := faithfulFresh.serve (Recorded.serves serves) requests
  have affordable := (affordable_fresh (Recorded.mk source []) limits memory).serve requests
  have limits_eq : _ = limits :=
    (serve_setting_eq (fresh (Recorded.mk source []) limits memory) requests).1
  rw [reached] at faithful affordable limits_eq
  rw [← limits_eq] at narrow
  have requested := requested_of_answer failed
  obtain ⟨calls, advances⟩ := requested.exists_advances serves faithful narrow
  obtain ⟨recovering, start_eq, unended⟩ :=
    requested.recovering serves faithful affordable narrow
  refine ⟨calls, ?_⟩
  constructor
  case calls_eq => exact advances.calls_eq
  case stands_before => exact faithful.stands_stop
  case ahead => exact advances.ahead
  case stop_eq => exact advances.placeAfter_eq.symm
  case stands_stop => exact recovering.faithful.stands_stop
  case start_eq => exact start_eq
  case held_part => exact recovering.faithful.held_part
  case unended => exact unended
  case resumes =>
    intro later allowed
    obtain ⟨calls, resumes, recoveringLast⟩ := recovering.serve serves allowed
    refine ⟨⟨calls, resumes⟩, fun asked again => ?_⟩
    obtain ⟨own, resumesOwn, -, answers⟩ := recoveringLast.step serves again
    exact ⟨own, resumesOwn.calls_eq, answers⟩

/-- A reader that cannot be moved fails on the way to the second range, between the fifth byte and
the sixth. -/
theorem exists_recovers_twelve :
    let content : ByteArray := ⟨#[1, 2, 3, 4, 5, 6, 7, 8, 9, 10, 11, 12]⟩
    let broken : IoFailure := ⟨.other, "device gone"⟩
    let source : Faltering (Forward Cursor) :=
      ⟨⟨⟨content, 0⟩⟩, [.short 7, .short 1, .failed broken, .short 0, .failed broken]⟩
    let window := ((fresh (Recorded.mk source [])
      ⟨2, 3, by decide, by decide, by decide, by decide⟩ .ordinary).serve [⟨1, 2⟩]).2
    let next := (window.request 7 4).2
    (window.request 7 4).1 = .error (.read broken) ∧ next.start = 2 ∧ next.stop = 5 ∧
      ∃ calls, Recovers content
        (Faltering.Stands (fun source place => source.reader.StandsIn content place)
          fun _ => True) window ⟨7, 4⟩ next calls := by
  intro content broken source window next
  have failed : (window.request 7 4).1 = .error (.read broken) := by decide +kernel
  refine ⟨failed, by decide +kernel, by decide +kernel, ?_⟩
  have serves : ByteSource.Serves content
      (Faltering.Stands (fun (source : Forward Cursor) place =>
        source.reader.StandsIn content place) fun _ => True) :=
    Faltering.serves (Forward.serves (Cursor.delivers content))
  have atStart : Faltering.Stands (fun (source : Forward Cursor) place =>
      source.reader.StandsIn content place) (fun _ => True) source 0 :=
    ⟨⟨rfl, rfl⟩, fun _ _ => trivial⟩
  exact exists_recovers serves atStart rfl (by decide) (Prod.ext failed rfl)

end Recovery

end SlidingWindow

end DeltaSignature
