import DeltaSignature.Proofs.SlidingWindow.Recording
import DeltaSignature.Proofs.SlidingWindow.Steady

/-!
# A window only moves its source forward

As long as the span of the window, counted from the offset asked for, ends before the last 64-bit
place, a request moves the source only if the new window starts behind the end of the old one, and
then to that start.  So the source is never moved back and delivers each byte at most once, however
short its reads are and whatever it refuses.  This is said of sources that keep a record of their
calls, which by `request_recording` makes no difference to a window.
-/

namespace DeltaSignature

namespace SlidingWindow

variable {σ : Type} {content : ByteArray} {stands : σ → Nat → Prop}

/-- What one request makes of the source, and where that leaves the window. -/
structure Advances (window : SlidingWindow (Recorded σ)) (offset length : Nat)
    (answer : Except WindowError View) (next : SlidingWindow (Recorded σ))
    (calls : List SourceCall) : Prop where
  calls_eq : next.source.calls = window.source.calls ++ calls
  start_le : window.start ≤ next.start
  ahead : Record.Ahead window.stop calls
  placeAfter_eq : Record.placeAfter window.stop calls = next.stop
  bytesRead_eq : next.stats.bytesRead = window.stats.bytesRead + Record.delivered calls
  sought : ∀ target outcome, .seek target outcome ∈ calls →
    window.stop < target ∧ target = max (window.limits.windowStart offset) window.start
  refused : ∀ target failure, answer = .error (.seek target failure) →
    .seek target (.error failure) ∈ calls
  silent : offset + length ≤ window.stop ∨ window.ended = true → calls = []

/-- The source of a window has never been moved back and stands where the window ends, and the
window has counted what was delivered. -/
structure Accounted (window : SlidingWindow (Recorded σ)) : Prop where
  ahead : Record.Ahead 0 window.source.calls
  placeAfter_eq : Record.placeAfter 0 window.source.calls = window.stop
  bytesRead_eq : window.stats.bytesRead = Record.delivered window.source.calls

section Steps

variable {window grown placed next : SlidingWindow (Recorded σ)} {offset length : Nat}
  {answer : Except WindowError View} {calls : List SourceCall}

theorem Accounted.advance (accounted : Accounted window)
    (advances : Advances window offset length answer next calls) : Accounted next where
  ahead := by
    rw [advances.calls_eq, Record.ahead_append, accounted.placeAfter_eq]
    exact ⟨accounted.ahead, advances.ahead⟩
  placeAfter_eq := by
    rw [advances.calls_eq, Record.placeAfter_append, accounted.placeAfter_eq]
    exact advances.placeAfter_eq
  bytesRead_eq := by
    rw [advances.calls_eq, Record.delivered_append, ← accounted.bytesRead_eq]
    exact advances.bytesRead_eq

/-- A request that starts at most two chunks behind the end of the window asks for no seek. -/
theorem Advances.isRead (advances : Advances window offset length answer next calls)
    (fits : offset < 0x1_0000_0000_0000_0000)
    (near : offset ≤ window.stop + 2 * window.limits.chunk) :
    ∀ call ∈ calls, call.isRead = true := by
  intro call listed
  cases call with
  | read => rfl
  | seek target outcome =>
    obtain ⟨behind, at_start⟩ := advances.sought target outcome listed
    have back := windowStart_le_sub window.limits offset fits
    have extent : window.stop = window.start + window.held.size := rfl
    omega

/-- A request that the window answers, or that is refused before the source is asked, makes no
call. -/
theorem Advances.of_source_eq (source_eq : next.source = window.source)
    (start_eq : next.start = window.start) (stop_eq : next.stop = window.stop)
    (bytesRead_eq : next.stats.bytesRead = window.stats.bytesRead)
    (unsought : ∀ target failure, answer ≠ .error (.seek target failure)) :
    Advances window offset length answer next [] where
  calls_eq := by rw [source_eq, List.append_nil]
  start_le := Nat.le_of_eq start_eq.symm
  ahead := trivial
  placeAfter_eq := stop_eq.symm
  bytesRead_eq := bytesRead_eq
  sought := by simp
  refused target failure refusal := absurd refusal (unsought target failure)
  silent _ := rfl

/-- The calls by which the source of a window is placed where reading goes on. -/
structure Places (window : SlidingWindow (Recorded σ)) (target : Nat)
    (placed : SlidingWindow (Recorded σ)) (calls : List SourceCall) : Prop where
  calls_eq : placed.source.calls = window.source.calls ++ calls
  ahead : Record.Ahead window.stop calls
  placeAfter_eq : Record.placeAfter window.stop calls = target
  bytesRead_eq : placed.stats.bytesRead = window.stats.bytesRead + Record.delivered calls
  sought : ∀ place outcome, .seek place outcome ∈ calls → window.stop < place ∧ place = target

variable [ByteSource σ]

theorem exists_places {size target : Nat} (standing : window.position = window.stop)
    (onward : window.stop ≤ target) (granted : window.grow size = (.ok (), grown))
    (moved : grown.moveSource target = (.ok (), placed)) :
    ∃ calls, Places window target placed calls := by
  obtain rfl := grow_eq_ok granted
  rcases moveSource_eq_ok moved with ⟨there, rfl⟩ | ⟨elsewhere, source, answer, rfl⟩
  · exact ⟨[], (List.append_nil _).symm, trivial, standing.symm.trans there, rfl, by simp⟩
  · have behind : window.stop < target := by
      have : window.position ≠ target := elsewhere
      omega
    refine ⟨[.seek target (.ok ())], Recorded.calls_of_seek answer, ⟨onward, trivial⟩, rfl, rfl, ?_⟩
    intro place outcome listed
    obtain ⟨rfl, -⟩ := SourceCall.seek.inj (List.mem_singleton.1 listed)
    exact ⟨behind, rfl⟩

/-- A window that moves reads on from where its source was placed. -/
theorem exists_reads (placed : SlidingWindow (Recorded σ)) (move : Move) :
    ∃ reads : List SourceCall, (∀ call ∈ reads, call.isRead = true) ∧
      (placed.slide move).2.source.calls = placed.source.calls ++ reads ∧
      (placed.filling move).held.size = (placed.kept move).size + Record.delivered reads := by
  obtain ⟨reads, onlyReads, extent, same⟩ :=
    fill_recording move.size (placed.kept move) 0 placed.source.source
  have filled : placed.filling move = _ := same placed.source.calls
  refine ⟨reads, onlyReads, ?_, ?_⟩
  · rw [slide_source, filled]
    rfl
  · rw [filled]
    exact extent

theorem slide_ne_seek (placed : SlidingWindow σ) (move : Move) (target : Nat)
    (failure : IoFailure) : (placed.slide move).1 ≠ .error (.seek target failure) := by
  intro refused
  obtain ⟨cause, same, -⟩ := stop_of_slide_eq_error _ _ refused
  cases same

theorem advances_of_refused {failure : IoFailure} {source : Recorded σ}
    (standing : window.position = window.stop) (exceeds : window.Exceeds offset length)
    (granted : window.grow (window.moveTo offset length).size = (.ok (), grown))
    (elsewhere : window.position ≠ (window.moveTo offset length).readStart)
    (refusal : ByteSource.seek window.source (window.moveTo offset length).readStart =
      (.error failure, source)) :
    Advances window offset length
      (.error (.seek (window.moveTo offset length).readStart failure)) { grown with source }
      [.seek (window.moveTo offset length).readStart (.error failure)] := by
  obtain ⟨behind, at_start⟩ := exceeds.lt_of_ne_readStart (standing ▸ elsewhere)
  obtain rfl := grow_eq_ok granted
  constructor
  case calls_eq => exact Recorded.calls_of_seek refusal
  case start_le => exact Nat.le_refl _
  case ahead => exact ⟨Nat.le_refl _, trivial⟩
  case placeAfter_eq => rfl
  case bytesRead_eq => rfl
  case sought =>
    intro target outcome listed
    obtain ⟨rfl, -⟩ := SourceCall.seek.inj (List.mem_singleton.1 listed)
    exact ⟨behind, at_start⟩
  case refused =>
    intro target cause same
    obtain ⟨rfl, rfl⟩ := WindowError.seek.inj (Except.error.inj same)
    exact List.mem_singleton_self _
  case silent => exact fun covers => absurd covers exceeds.not_covers

theorem exists_advances_of_slid (serves : ByteSource.Serves content stands)
    (faithful : Faithful content (Recorded.Stands stands) window)
    (exceeds : window.Exceeds offset length)
    (granted : window.grow (window.moveTo offset length).size = (.ok (), grown))
    (moved : grown.moveSource (window.moveTo offset length).readStart = (.ok (), placed)) :
    ∃ calls, Advances window offset length
      ((placed.slide (window.moveTo offset length)).1.map fun _ =>
        (placed.slide (window.moveTo offset length)).2.view offset length)
      (placed.slide (window.moveTo offset length)).2 calls := by
  have onward := exceeds.moveTo_readStart_eq
  have stop_le : window.stop ≤ (window.moveTo offset length).readStart :=
    onward ▸ Nat.le_max_right ..
  obtain ⟨seeks, places⟩ := exists_places faithful.position_eq stop_le granted moved
  obtain ⟨reads, onlyReads, read_eq, filled⟩ := exists_reads placed (window.moveTo offset length)
  have poised := faithful.poised (Recorded.serves serves) granted moved
  have kept : (placed.kept (window.moveTo offset length)).size =
      (window.moveTo offset length).reused := by
    rw [← (faithful.kept_part offset length).2]
    simp only [SlidingWindow.kept, poised.held_eq, poised.start_eq]
  rw [kept] at filled
  refine ⟨seeks ++ reads, ?_⟩
  constructor
  case calls_eq => rw [read_eq, places.calls_eq, List.append_assoc]
  case start_le =>
    rw [slide_start]
    exact start_le_moveTo_start ..
  case ahead =>
    rw [Record.ahead_append]
    exact ⟨places.ahead, Record.ahead_of_reads onlyReads _⟩
  case placeAfter_eq =>
    rw [Record.placeAfter_append, places.placeAfter_eq, Record.placeAfter_of_reads onlyReads,
      slide_stop, filled, Move.readStart, Nat.add_assoc]
  case bytesRead_eq =>
    rw [slide_stats, places.bytesRead_eq, filled, Nat.add_sub_cancel_left, Nat.add_assoc,
      Record.delivered_append]
  case sought =>
    intro target outcome listed
    rcases List.mem_append.1 listed with sought | read
    · obtain ⟨behind, rfl⟩ := places.sought target outcome sought
      exact ⟨behind, (exceeds.lt_of_ne_readStart (Nat.ne_of_lt behind)).2⟩
    · cases onlyReads _ read
  case refused =>
    intro target failure same
    exact absurd (eq_error_of_map same.symm) (slide_ne_seek placed _ target failure)
  case silent => exact fun covers => absurd covers exceeds.not_covers

theorem Requested.exists_advances (serves : ByteSource.Serves content stands)
    (faithful : Faithful content (Recorded.Stands stands) window)
    (narrow : offset + window.limits.span < 0x1_0000_0000_0000_0000)
    (requested : Requested window offset length answer next) :
    ∃ calls, Advances window offset length answer next calls := by
  cases requested with
  | misused | denied | hit => exact ⟨[], .of_source_eq rfl rfl rfl rfl (by simp)⟩
  | overflowed exceeds granted overflows =>
    exact absurd overflows (exceeds.not_overflows narrow)
  | unreachable exceeds granted elsewhere refusal =>
    exact ⟨_, advances_of_refused faithful.position_eq exceeds granted elsewhere refusal⟩
  | slid exceeds granted moved =>
    exact exists_advances_of_slid serves faithful exceeds granted moved

theorem Accounted.serve (serves : ByteSource.Serves content stands)
    (faithful : Faithful content (Recorded.Stands stands) window)
    (accounted : Accounted window) {requests : List Request}
    (narrow : ∀ request ∈ requests,
      request.offset + window.limits.span < 0x1_0000_0000_0000_0000) :
    Accounted (window.serve requests).2 := by
  induction requests generalizing window with
  | nil => exact accounted
  | cons request requests ih =>
    have requested := requested_request window request.offset request.length
    obtain ⟨first, later⟩ := List.forall_mem_cons.1 narrow
    obtain ⟨calls, advances⟩ := requested.exists_advances serves faithful first
    refine ih (faithful.requested (Recorded.serves serves) requested)
      (accounted.advance advances) ?_
    rwa [requested.setting_eq.1]

end Steps

/-- What is true of a window after a request, and of the calls that the request made.  The source is
asked to move only over a gap, and then to the start of the new window; up to two chunks behind the
end of the window it need not be able to move. -/
structure ReadsForward (stands : σ → Nat → Prop) (window : SlidingWindow (Recorded σ))
    (request : Request) (answer : Except WindowError View) (next : SlidingWindow (Recorded σ))
    (calls : List SourceCall) : Prop where
  calls_eq : next.source.calls = window.source.calls ++ calls
  stands_stop : stands next.source.source next.stop
  position_eq : next.position = next.stop
  placeAfter_eq : Record.placeAfter 0 next.source.calls = next.stop
  start_le : window.start ≤ next.start
  stop_le : window.stop ≤ next.stop
  sought : ∀ target outcome, .seek target outcome ∈ calls →
    window.stop < target ∧ target = max (window.limits.windowStart request.offset) window.start
  pairwise_placesRead : (Record.placesRead 0 next.source.calls).Pairwise (· < ·)
  bytesRead_add_gaps : next.stats.bytesRead + Record.gaps 0 next.source.calls = next.stop
  silent : request.offset + request.length ≤ window.stop ∨ window.ended = true → calls = []
  unsought : request.offset ≤ window.stop + 2 * window.limits.chunk →
    (∀ call ∈ calls, call.isRead = true) ∧
      ∀ target failure, answer ≠ .error (.seek target failure)

/-- Over a well-behaved source that keeps a record of its calls, every request of a run reads
forward, unless the span of the window from some offset on goes past the last 64-bit place. -/
theorem exists_readsForward [ByteSource σ] (serves : ByteSource.Serves content stands)
    {limits : Limits} {memory : Memory} {source : σ} (atStart : stands source 0)
    {requests : List Request} {window : SlidingWindow (Recorded σ)}
    (reached : ((fresh (Recorded.mk source []) limits memory).serve requests).2 = window)
    (request : Request)
    (narrow : ∀ asked ∈ requests ++ [request],
      asked.offset + limits.span < 0x1_0000_0000_0000_0000) :
    ∃ calls, ReadsForward stands window request
      (window.request request.offset request.length).1
      (window.request request.offset request.length).2 calls := by
  obtain ⟨earlier, last⟩ := List.forall_mem_append.1 narrow
  have standing : Recorded.Stands stands ⟨source, []⟩ 0 := atStart
  have faithfulFresh : Faithful content (Recorded.Stands stands)
      (fresh (Recorded.mk source []) limits memory) := faithful_fresh standing limits memory
  have faithful := faithfulFresh.serve (Recorded.serves serves) requests
  have accounted : Accounted ((fresh (Recorded.mk source []) limits memory).serve requests).2 :=
    Accounted.serve serves faithfulFresh ⟨trivial, rfl, rfl⟩ earlier
  have limits_eq : _ = limits :=
    (serve_setting_eq (fresh (Recorded.mk source []) limits memory) requests).1
  rw [reached] at faithful accounted limits_eq
  have narrowLast : request.offset + window.limits.span < 0x1_0000_0000_0000_0000 := by
    rw [limits_eq]
    exact last request (List.mem_singleton_self _)
  have requested := requested_request window request.offset request.length
  obtain ⟨calls, advances⟩ := requested.exists_advances serves faithful narrowLast
  have faithfulNext := faithful.requested (Recorded.serves serves) requested
  have accountedNext := accounted.advance advances
  refine ⟨calls, ?_⟩
  constructor
  case calls_eq => exact advances.calls_eq
  case stands_stop => exact faithfulNext.stands_stop
  case position_eq => exact faithfulNext.position_eq
  case placeAfter_eq => exact accountedNext.placeAfter_eq
  case start_le => exact advances.start_le
  case stop_le =>
    rw [← advances.placeAfter_eq]
    exact advances.ahead.le_placeAfter
  case sought => exact advances.sought
  case pairwise_placesRead => exact accountedNext.ahead.pairwise_placesRead
  case bytesRead_add_gaps =>
    rw [accountedNext.bytesRead_eq, ← accountedNext.placeAfter_eq,
      ← accountedNext.ahead.delivered_add_gaps, Nat.zero_add]
  case silent => exact advances.silent
  case unsought =>
    intro near
    have onlyReads := advances.isRead (by omega) near
    refine ⟨onlyReads, fun target failure refused => ?_⟩
    cases onlyReads _ (advances.refused target failure refused)

/-- The last of two requests over five bytes, behind a reader that cannot be moved. -/
theorem exists_readsForward_five :
    ∃ calls, ReadsForward
      (fun (source : Forward Cursor) place => source.reader.StandsIn ⟨#[1, 2, 3, 4, 5]⟩ place)
      ((fresh (Recorded.mk (⟨⟨⟨#[1, 2, 3, 4, 5]⟩, 0⟩⟩ : Forward Cursor) [])
        ⟨2, 3, by decide, by decide, by decide, by decide⟩ .ordinary).serve [⟨1, 2⟩]).2 ⟨3, 7⟩
      (((fresh (Recorded.mk (⟨⟨⟨#[1, 2, 3, 4, 5]⟩, 0⟩⟩ : Forward Cursor) [])
        ⟨2, 3, by decide, by decide, by decide, by decide⟩ .ordinary).serve [⟨1, 2⟩]).2.request
          3 7).1
      (((fresh (Recorded.mk (⟨⟨⟨#[1, 2, 3, 4, 5]⟩, 0⟩⟩ : Forward Cursor) [])
        ⟨2, 3, by decide, by decide, by decide, by decide⟩ .ordinary).serve [⟨1, 2⟩]).2.request
          3 7).2 calls :=
  exists_readsForward (Forward.serves (Cursor.delivers ⟨#[1, 2, 3, 4, 5]⟩)) ⟨rfl, rfl⟩ rfl ⟨3, 7⟩
    (by decide)

end SlidingWindow

end DeltaSignature
