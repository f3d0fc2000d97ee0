import DeltaSignature.Proofs.SlidingWindow.Room

/-!
# Refused requests leave no trace

A request that is refused by the rules, by the host or by the source reads nothing, notes nothing
and changes nothing that shows.  More than that: such requests can be left out of a run, and all the
other requests are answered and noted as before, with the same calls of the source.  `Mirrors`
relates the windows of the two runs; they differ in their sources and in the size of their buffers.
-/

namespace DeltaSignature

open ByteSource (Replays)

/-- The entries of a list but those at certain places. -/
def without {α : Type} : (Nat → Bool) → List α → List α
  | _, [] => []
  | deleted, entry :: entries =>
    if deleted 0 then without (fun place => deleted (place + 1)) entries
    else entry :: without (fun place => deleted (place + 1)) entries

/-- Whether a window was refused before anything was read for it.  A panic is no refusal. -/
def WindowError.isRefusal : WindowError → Bool
  | invalidArgument _ | seek .. | outOfMemory _ => true
  | read _ | overflow => false

namespace SlidingWindow

variable {σ τ : Type}

section Refusing

/-- What a refused request leaves behind: the window alone, or, when its source has refused to
move, a window that has kept the buffer it was to fill. -/
inductive Refused [ByteSource σ] (window : SlidingWindow σ) : SlidingWindow σ → Prop where
  | alone : Refused window window
  | unreachable {size target : Nat} {failure : IoFailure} {source : σ}
      (refused : ByteSource.seek window.source target = (.error failure, source)) :
      Refused window { window with source, allocated := max window.allocated size }

/-- Nothing of the window has changed but, perhaps, the size of its buffer and its source, which has
been asked to move at most. -/
structure Unshaken (window next : SlidingWindow (Recorded σ)) : Prop where
  trace_eq : next.trace = window.trace
  stats_eq : next.stats = window.stats
  start_eq : next.start = window.start
  held_eq : next.held = window.held
  ended_eq : next.ended = window.ended
  readless : ∃ calls, next.source.calls = window.source.calls ++ calls ∧
    ∀ call ∈ calls, call.isRead = false

variable [ByteSource σ] {offset length : Nat} {cause : WindowError}

theorem slide_ne_refusal (placed : SlidingWindow σ) (move : Move)
    (refusal : cause.isRefusal = true) : (placed.slide move).1 ≠ .error cause := by
  intro failed
  obtain ⟨failure, rfl, -⟩ := stop_of_slide_eq_error _ _ failed
  cases refusal

theorem Requested.refused {window next : SlidingWindow σ}
    (requested : Requested window offset length (.error cause) next)
    (refusal : cause.isRefusal = true) : Refused window next := by
  generalize answered : Except.error cause = answer at requested
  cases requested with
  | misused | denied => exact .alone
  | hit => cases answered
  | overflowed =>
    obtain rfl := Except.error.inj answered
    cases refusal
  | unreachable exceeds granted elsewhere refused =>
    obtain rfl := grow_eq_ok granted
    exact .unreachable refused
  | @slid grown placed exceeds granted moved =>
    exact absurd (eq_error_of_map answered) (slide_ne_refusal placed _ refusal)

theorem Refused.unshaken {window next : SlidingWindow (Recorded σ)}
    (refused : Refused window next) : Unshaken window next := by
  cases refused with
  | alone => exact ⟨rfl, rfl, rfl, rfl, rfl, [], (List.append_nil _).symm, by simp⟩
  | unreachable sought =>
    exact ⟨rfl, rfl, rfl, rfl, rfl, _, Recorded.calls_of_seek sought,
      List.forall_mem_singleton.2 rfl⟩

/-- The window that is left is the old one but for its source and the size of its buffer. -/
theorem Refused.eq_onto_withRoom {window next : SlidingWindow σ} (refused : Refused window next) :
    next = (window.onto next.source).withRoom next.allocated := by
  cases refused <;> rfl

end Refusing

section Observing

/-- What a caller sees of a request, and what the source does. -/
structure Observation where
  answer : Except WindowError View
  notes : List Note
  stats : Stats
  start : Nat
  stop : Nat
  ended : Bool
  calls : List SourceCall

def Observation.isRefused (observation : Observation) : Bool :=
  match observation.answer with
  | .ok _ => false
  | .error cause => cause.isRefusal

theorem Observation.exists_refusal {observation : Observation}
    (refused : observation.isRefused = true) :
    ∃ cause, observation.answer = .error cause ∧ cause.isRefusal = true := by
  unfold isRefused at refused
  cases answered : observation.answer with
  | ok view =>
    rw [answered] at refused
    cases refused
  | error cause =>
    rw [answered] at refused
    exact ⟨cause, rfl, refused⟩

variable [ByteSource σ]

def observe (window : SlidingWindow (Recorded σ)) (request : Request) : Observation :=
  let answered := window.request request.offset request.length
  { answer := answered.1
    notes := answered.2.trace.toList.drop window.trace.size
    stats := answered.2.stats
    start := answered.2.start
    stop := answered.2.stop
    ended := answered.2.ended
    calls := answered.2.source.calls.drop window.source.calls.length }

/-- What is seen of requests that are made one after the other. -/
def observeAll : SlidingWindow (Recorded σ) → List Request → List Observation
  | _, [] => []
  | window, request :: requests =>
    window.observe request ::
      observeAll (window.request request.offset request.length).2 requests

end Observing

/-- The second window does what the first one does as long as its source gives the same answers. -/
structure Mirrors (first : SlidingWindow (Recorded σ)) (second : SlidingWindow (Recorded τ)) :
    Prop where
  second_eq : second = (first.onto second.source).withRoom second.allocated
  affordable : first.Affordable
  affordable_second : second.Affordable

theorem mirrors_fresh (source : σ) (other : τ) (limits : Limits) (memory : Memory) :
    Mirrors (fresh (Recorded.mk source []) limits memory)
      (fresh (Recorded.mk other []) limits memory) where
  second_eq := rfl
  affordable := affordable_fresh ..
  affordable_second := affordable_fresh ..

section Runs

variable [ByteSource σ] {first : SlidingWindow (Recorded σ)} {second : SlidingWindow (Recorded τ)}
  {request : Request} {last : τ}

/-- A refused request that only the first window is asked leaves the two alike. -/
theorem Mirrors.skip (mirrors : Mirrors first second)
    (refused : (first.observe request).isRefused = true) :
    Mirrors (first.request request.offset request.length).2 second := by
  obtain ⟨cause, answered, refusal⟩ := Observation.exists_refusal refused
  have requested : Requested first request.offset request.length (.error cause)
      (first.request request.offset request.length).2 := requested_of_answer (Prod.ext answered rfl)
  refine ⟨?_, mirrors.affordable.requested requested, mirrors.affordable_second⟩
  rw [(requested.refused refusal).eq_onto_withRoom]
  exact mirrors.second_eq

variable [ByteSource τ]

/-- A request that both windows are asked is answered and noted alike, with the same calls. -/
theorem Mirrors.observe_eq (mirrors : Mirrors first second)
    (replays : Replays second.source.source (first.observe request).calls last) :
    second.observe request = first.observe request ∧
      Mirrors (first.request request.offset request.length).2
        (second.request request.offset request.length).2 ∧
      (second.request request.offset request.length).2.source.source = last := by
  -- The first window's own calls are the tape that the second source replays.
  obtain ⟨tape, own, same⟩ := request_onto first request.offset request.length
  have calls : (first.observe request).calls = tape := by
    unfold observe
    simp only [own.calls_eq, List.drop_left]
  rw [calls] at replays
  have answered : (first.onto second.source).request request.offset request.length = _ :=
    same (replays.recorded second.source.calls)
  -- The second window differs from the first one over its source by its buffer only.
  have affordable : (first.onto second.source).Affordable := mirrors.affordable
  have affordableRoom : ((first.onto second.source).withRoom second.allocated).Affordable :=
    mirrors.second_eq ▸ mirrors.affordable_second
  obtain ⟨room, alike⟩ :=
    affordable.request_withRoom affordableRoom request.offset request.length
  rw [← mirrors.second_eq, answered] at alike
  have sameTrace : second.trace = first.trace := by
    rw [mirrors.second_eq]
    rfl
  refine ⟨?_, ⟨?_, ?_, ?_⟩, ?_⟩
  · unfold observe
    rw [alike, sameTrace]
    simp only [withRoom, onto, own.calls_eq, List.drop_left]
    rfl
  · rw [alike]
    rfl
  · exact mirrors.affordable.requested (requested_request ..)
  · exact mirrors.affordable_second.requested (requested_request ..)
  · rw [alike]
    rfl

theorem Mirrors.observeAll_without (mirrors : Mirrors first second) (requests : List Request)
    {deleted : Nat → Bool}
    (harmless : ∀ place observation, (first.observeAll requests)[place]? = some observation →
      deleted place = true → observation.isRefused = true)
    (replays : Replays second.source.source
      ((without deleted (first.observeAll requests)).flatMap Observation.calls) last) :
    second.observeAll (without deleted requests) =
      without deleted (first.observeAll requests) := by
  induction requests generalizing first second deleted with
  | nil => rfl
  | cons request requests ih =>
    have harmlessLater : ∀ place observation,
        ((first.request request.offset request.length).2.observeAll requests)[place]? =
          some observation →
        deleted (place + 1) = true → observation.isRefused = true :=
      fun place => harmless (place + 1)
    simp only [observeAll, without] at replays ⊢
    by_cases omitted : deleted 0 = true
    · rw [if_pos omitted] at replays
      rw [if_pos omitted, if_pos omitted]
      exact ih (mirrors.skip (harmless 0 _ rfl omitted)) harmlessLater replays
    · rw [if_neg omitted, List.flatMap_cons] at replays
      rw [if_neg omitted, if_neg omitted]
      obtain ⟨middle, here, later⟩ := replays.exists_of_append
      obtain ⟨same, mirrorsNext, reached⟩ := mirrors.observe_eq here
      rw [← reached] at later
      rw [observeAll, same, ih mirrorsNext harmlessLater later]

/-- A refused request is invisible: it shows in nothing that it leaves behind, and a run without
any of the refused requests goes on as the full run does, over a source that answers the calls that
are still made as they were answered before. -/
theorem refusals_invisible (limits : Limits) (memory : Memory) :
    (∀ (window next : SlidingWindow (Recorded σ)) (offset length : Nat) (cause : WindowError),
      window.request offset length = (.error cause, next) → cause.isRefusal = true →
      Unshaken window next) ∧
    ∀ (source : σ) (other last : τ) (requests : List Request) (deleted : Nat → Bool),
      let observations := (fresh (Recorded.mk source []) limits memory).observeAll requests
      (∀ place observation, observations[place]? = some observation → deleted place = true →
        observation.isRefused = true) →
      Replays other ((without deleted observations).flatMap Observation.calls) last →
      (fresh (Recorded.mk other []) limits memory).observeAll (without deleted requests) =
        without deleted observations := by
  constructor
  · intro window next offset length cause answered refusal
    exact ((requested_of_answer answered).refused refusal).unshaken
  · intro source other last requests deleted observations harmless replays
    exact (mirrors_fresh source other limits memory).observeAll_without requests harmless replays

/-- Behind a reader that cannot be moved, the second request is refused after the buffer has grown,
and the third one is no request for anything; both are left out. -/
theorem refusals_invisible_five :
    let source : Forward Cursor := ⟨⟨⟨#[1, 2, 3, 4, 5]⟩, 0⟩⟩
    let window := fresh (Recorded.mk source [])
      ⟨2, 3, by decide, by decide, by decide, by decide⟩ .ordinary
    window.observeAll [⟨0, 2⟩, ⟨3, 2⟩] =
      without (fun place => place == 1 || place == 2)
        (window.observeAll [⟨0, 2⟩, ⟨9, 2⟩, ⟨0, 0⟩, ⟨3, 2⟩]) := by
  intro source window
  have harmless : ∀ place observation,
      (window.observeAll [⟨0, 2⟩, ⟨9, 2⟩, ⟨0, 0⟩, ⟨3, 2⟩])[place]? = some observation →
      (place == 1 || place == 2) = true → observation.isRefused = true := by
    have refused : (window.observeAll [⟨0, 2⟩, ⟨9, 2⟩, ⟨0, 0⟩, ⟨3, 2⟩]).map
        Observation.isRefused = [false, true, true, false] := by
      decide +kernel
    intro place observation seen omitted
    have here := congrArg (fun marks => marks[place]?) refused
    simp only [List.getElem?_map, seen] at here
    rcases (by simpa using omitted : place = 1 ∨ place = 2) with rfl | rfl
    · exact Option.some.inj here
    · exact Option.some.inj here
  have reads {position size : Nat} {piece : ByteArray}
      (next : (Cursor.mk ⟨#[1, 2, 3, 4, 5]⟩ position).next size = piece) :
      ByteReader.read (⟨⟨⟨#[1, 2, 3, 4, 5]⟩, position⟩⟩ : Forward Cursor) size =
        (.delivered piece, ⟨⟨⟨#[1, 2, 3, 4, 5]⟩, position + piece.size⟩⟩) := by
    rw [← next]
    rfl
  have replays : Replays source
      ((without (fun place => place == 1 || place == 2)
        (window.observeAll [⟨0, 2⟩, ⟨9, 2⟩, ⟨0, 0⟩, ⟨3, 2⟩])).flatMap Observation.calls)
      ⟨⟨⟨#[1, 2, 3, 4, 5]⟩, 5⟩⟩ := by
    have called : ((without (fun place => place == 1 || place == 2)
        (window.observeAll [⟨0, 2⟩, ⟨9, 2⟩, ⟨0, 0⟩, ⟨3, 2⟩])).flatMap Observation.calls) =
          [.read 3 (.delivered ⟨#[1, 2, 3]⟩), .read 2 (.delivered ⟨#[4, 5]⟩)] := by
      decide +kernel
    rw [called]
    exact .read (reads (by decide)) (.read (reads (by decide)) .nil)
  exact (refusals_invisible _ _).2 source source _ _ _ harmless replays

end Runs

end SlidingWindow

end DeltaSignature
