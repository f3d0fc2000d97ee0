import DeltaSignature.Proofs.SlidingWindow.Pacing

/-!
# Events and counters agree

What a request adds to the events and what it adds to the counters say the same.  `Reconciled` is
that agreement for a stretch of a run, and it holds of two stretches in a row if it holds of each.
Every request tells one of few stories: that it was answered from the window, that the window has
moved, perhaps after the source, or nothing.  The end of the source is told once, and after it
nothing but answers from the window.
-/

namespace DeltaSignature

namespace SlidingWindow

namespace Event

def isHit : Event → Bool
  | hit .. => true
  | _ => false

def isRefill : Event → Bool
  | refill .. => true
  | _ => false

def isSeek : Event → Bool
  | seek _ => true
  | _ => false

def isEnded : Event → Bool
  | ended _ => true
  | _ => false

/-- How many bytes were to be read. -/
def readSize : Event → Nat
  | refill _ _ size _ => size
  | _ => 0

def reused : Event → Nat
  | refill _ _ _ count => count
  | _ => 0

end Event

namespace Stats

/-- The counters of two stretches of a run together. -/
def add (first second : Stats) : Stats where
  hits := first.hits + second.hits
  refills := first.refills + second.refills
  reads := first.reads + second.reads
  seeks := first.seeks + second.seeks
  bytesRead := first.bytesRead + second.bytesRead
  bytesReused := first.bytesReused + second.bytesReused

theorem add_assoc (first second third : Stats) :
    (first.add second).add third = first.add (second.add third) := by
  simp [add, Nat.add_assoc]

@[simp]
theorem empty_add (stats : Stats) : ({} : Stats).add stats = stats := by
  simp [add]

end Stats

/-- The events of a stretch of a run and its answers account for its counters.  A refill is cut
short by the end of the source or by a failure, and by nothing else. -/
structure Reconciled (answers : List (Except WindowError View)) (events : List Event)
    (stats : Stats) : Prop where
  hits_eq : stats.hits = events.countP Event.isHit
  refills_eq : stats.refills = events.countP Event.isRefill
  seeks_eq : stats.seeks = events.countP Event.isSeek
  bytesReused_eq : stats.bytesReused = (events.map Event.reused).sum
  bytesRead_le : stats.bytesRead ≤ (events.map Event.readSize).sum
  bytesRead_eq_iff : stats.bytesRead = (events.map Event.readSize).sum ↔
    (∀ place, .ended place ∉ events) ∧ ∀ failure, .error (.read failure) ∉ answers

namespace Reconciled

variable {answers later : List (Except WindowError View)} {events emitted : List Event}
  {stats added : Stats}

theorem append (first : Reconciled answers events stats)
    (second : Reconciled later emitted added) :
    Reconciled (answers ++ later) (events ++ emitted) (stats.add added) := by
  constructor
  case hits_eq => rw [List.countP_append, ← first.hits_eq, ← second.hits_eq]; rfl
  case refills_eq => rw [List.countP_append, ← first.refills_eq, ← second.refills_eq]; rfl
  case seeks_eq => rw [List.countP_append, ← first.seeks_eq, ← second.seeks_eq]; rfl
  case bytesReused_eq =>
    rw [List.map_append, List.sum_append, ← first.bytesReused_eq, ← second.bytesReused_eq]
    rfl
  case bytesRead_le =>
    rw [List.map_append, List.sum_append]
    exact Nat.add_le_add first.bytesRead_le second.bytesRead_le
  case bytesRead_eq_iff =>
    -- Neither stretch reads too much, so nothing lacks of both just if nothing lacks of either.
    have both : (stats.add added).bytesRead = ((events ++ emitted).map Event.readSize).sum ↔
        stats.bytesRead = (events.map Event.readSize).sum ∧
          added.bytesRead = (emitted.map Event.readSize).sum := by
      have few := first.bytesRead_le
      have fewLater := second.bytesRead_le
      have total : (stats.add added).bytesRead = stats.bytesRead + added.bytesRead := rfl
      rw [List.map_append, List.sum_append]
      omega
    rw [both, first.bytesRead_eq_iff, second.bytesRead_eq_iff]
    simp only [List.mem_append, not_or, forall_and]
    exact and_and_and_comm

theorem of_unread (unread : ∀ failure, .error (.read failure) ∉ answers) :
    Reconciled answers [] {} where
  hits_eq := rfl
  refills_eq := rfl
  seeks_eq := rfl
  bytesReused_eq := rfl
  bytesRead_le := Nat.le_refl _
  bytesRead_eq_iff := by simpa using unread

theorem hit (view : View) (offset length : Nat) :
    Reconciled [.ok view] [.hit offset length] { hits := 1 } where
  hits_eq := rfl
  refills_eq := rfl
  seeks_eq := rfl
  bytesReused_eq := rfl
  bytesRead_le := Nat.le_refl _
  bytesRead_eq_iff := by simp [Event.readSize]

theorem seek {seeks : List Event} {target : Nat} (sought : seeks = [] ∨ seeks = [.seek target]) :
    Reconciled [] seeks { seeks := seeks.length } := by
  rcases sought with rfl | rfl
  · exact of_unread (by simp)
  · exact ⟨rfl, rfl, rfl, rfl, Nat.le_refl _, by simp [Event.readSize]⟩

end Reconciled

section Stories

variable {σ : Type}

/-- The numbers that a refill tells: what is kept and what is read make the window that a range
needs, something is read, and reading goes on behind what is kept. -/
structure Refills (limits : Limits) (request : Request) (start readStart readSize reused : Nat) :
    Prop where
  readStart_eq : readStart = start + reused
  reused_add_readSize :
    reused + readSize = max limits.span (request.offset + request.length - start)
  readSize_pos : 0 < readSize
  start_le : start ≤ request.offset

/-- What one request tells, by its answer, if it leaves a window that ends here. -/
inductive Story (limits : Limits) (request : Request) (stop : Nat) :
    Except WindowError View → List Event → Prop where
  | hit (view : View) :
    Story limits request stop (.ok view) [.hit request.offset request.length]
  | refill (view : View) {seeks ends : List Event} {start readStart readSize reused : Nat}
      (sought : seeks = [] ∨ seeks = [.seek readStart])
      (refills : Refills limits request start readStart readSize reused)
      (ended : ends = [] ∨ ends = [.ended stop]) :
    Story limits request stop (.ok view)
      (seeks ++ .refill start readStart readSize reused :: ends)
  | broken (failure : IoFailure) {seeks : List Event} {start readStart readSize reused : Nat}
      (sought : seeks = [] ∨ seeks = [.seek readStart])
      (refills : Refills limits request start readStart readSize reused) :
    Story limits request stop (.error (.read failure))
      (seeks ++ [.refill start readStart readSize reused])
  | refused {cause : WindowError} (unread : ∀ failure, cause ≠ .read failure) :
    Story limits request stop (.error cause) []

/-- Either the end of the source was not told yet, or it was told once, where the window ends, and
after it there were answers from the window only. -/
inductive Closing (window : SlidingWindow σ) : List Event → Prop where
  | unended {events : List Event} (running : window.ended = false)
      (none : ∀ event ∈ events, event.isEnded = false) : Closing window events
  | ended {before after : List Event} (reached : window.ended = true)
      (none : ∀ event ∈ before, event.isEnded = false)
      (hits : ∀ event ∈ after, event.isHit = true) :
    Closing window (before ++ .ended window.stop :: after)

variable {window next : SlidingWindow σ} {request : Request} {events : List Event}

theorem Closing.none_of_unended (closing : Closing window events)
    (running : window.ended = false) : ∀ event ∈ events, event.isEnded = false := by
  cases closing with
  | unended _ none => exact none
  | ended reached => cases running.symm.trans reached

theorem Closing.of_eq (closing : Closing window events) (ended_eq : next.ended = window.ended)
    (stop_eq : next.stop = window.stop) : Closing next events := by
  cases closing with
  | unended running none => exact .unended (ended_eq.trans running) none
  | ended reached none hits =>
    rw [← stop_eq]
    exact .ended (ended_eq.trans reached) none hits

theorem Closing.hit (closing : Closing window events) (offset length : Nat) :
    Closing window (events ++ [.hit offset length]) := by
  cases closing with
  | unended running none =>
    exact .unended running (List.forall_mem_append.2 ⟨none, List.forall_mem_singleton.2 rfl⟩)
  | ended reached none hits =>
    rw [List.append_assoc, List.cons_append]
    exact .ended reached none (List.forall_mem_append.2 ⟨hits, List.forall_mem_singleton.2 rfl⟩)

theorem Exceeds.refills (exceeds : window.Exceeds request.offset request.length) :
    let move := window.moveTo request.offset request.length
    Refills window.limits request move.start move.readStart move.readSize move.reused := by
  intro move
  have suits : move.Suits window := suits_moveTo ..
  have reused_le := suits.reused_le
  have wide : move.size = max (request.offset + request.length - move.start) window.limits.span :=
    rfl
  have behind : move.start ≤ request.offset := moveTo_start_le request.length exceeds.start_le
  have split : move.readSize = move.size - move.reused := rfl
  constructor
  case readStart_eq => rfl
  case reused_add_readSize => omega
  case readSize_pos =>
    have positive := window.limits.span_pos
    have lacking := exceeds.stop_lt
    have reaches := suits.reaches
    omega
  case start_le => exact behind

end Stories

section Moves

variable {σ : Type} [ByteSource σ] {window : SlidingWindow σ} {move : Move}

theorem slide_answer (window : SlidingWindow σ) (move : Move) :
    (window.slide move).1 =
      match (window.filling move).stop with
      | .full | .ended => .ok ()
      | .failed failure => .error (.read failure) := by
  cases stopped : (window.filling move).stop with
  | full | ended | failed failure =>
    simp only [filling, kept] at stopped
    simp [slide, stopped]

/-- What moving a window counts. -/
def slideStats (window : SlidingWindow σ) (move : Move) : Stats where
  refills := 1
  reads := (window.filling move).reads
  bytesRead := (window.filling move).held.size - move.reused
  bytesReused := move.reused

theorem slide_reconciled (few : (window.filling move).held.size ≤ move.size)
    (positive : 0 < move.readSize) (view : View) :
    Reconciled [(window.slide move).1.map fun _ => view]
      (.refill move.start move.readStart move.readSize move.reused ::
        (window.filling move).ending move.start) (window.slideStats move) := by
  have whole : (window.filling move).stop = .full ↔
      move.size ≤ (window.filling move).held.size := stop_fill_eq_full_iff
  have split : move.readSize = move.size - move.reused := rfl
  have read_le : (window.filling move).held.size - move.reused ≤ move.readSize :=
    Nat.sub_le_sub_right few _
  have read_eq_iff : (window.filling move).held.size - move.reused = move.readSize ↔
      (window.filling move).stop = .full := by
    rw [whole]
    omega
  rw [slide_answer, Filling.ending]
  cases stopped : (window.filling move).stop with
  | full | ended | failed failure =>
    refine ⟨rfl, rfl, rfl, rfl, read_le, ?_⟩
    simpa [stopped, Except.map, Event.readSize, slideStats] using read_eq_iff

end Moves

section Runs

variable {σ : Type} [ByteSource σ] {window next : SlidingWindow σ} {request : Request}
  {answer : Except WindowError View}

/-- A request tells its story and counts what it tells. -/
theorem Requested.story
    (requested : Requested window request.offset request.length answer next) :
    ∃ emitted added, Story window.limits request next.stop answer emitted ∧
      Reconciled [answer] emitted added ∧ next.events = window.events ++ emitted ∧
      next.stats = window.stats.add added := by
  cases requested with
  | misused | denied =>
    exact ⟨[], {}, .refused (by simp), .of_unread (by simp), (List.append_nil _).symm, rfl⟩
  | overflowed exceeds granted | unreachable exceeds granted =>
    obtain rfl := grow_eq_ok granted
    exact ⟨[], {}, .refused (by simp), .of_unread (by simp), (List.append_nil _).symm, rfl⟩
  | hit => exact ⟨_, _, .hit _, .hit _ _ _, events_of_push rfl, rfl⟩
  | @slid grown placed exceeds granted moved =>
    obtain ⟨seeks, sought, counted, events⟩ :=
      exists_seeks granted moved (window.moveTo request.offset request.length)
    have onlySeek := sought.imp_right And.left
    have refills := exceeds.refills
    have second := slide_reconciled
      (size_filling_le granted moved request.offset request.length) refills.readSize_pos
    have stats : (placed.slide (window.moveTo request.offset request.length)).2.stats =
        window.stats.add (Stats.add { seeks := seeks.length }
          (placed.slideStats (window.moveTo request.offset request.length))) := by
      rw [← Stats.add_assoc, slide_stats, counted]
      rfl
    refine ⟨_, _, ?_, (Reconciled.seek onlySeek).append (second _), events, stats⟩
    rw [slide_answer, Filling.ending, slide_stop]
    cases (placed.filling (window.moveTo request.offset request.length)).stop with
    | full => exact .refill _ onlySeek refills (.inl rfl)
    | ended => exact .refill _ onlySeek refills (.inr rfl)
    | failed failure => exact .broken failure onlySeek refills

theorem Closing.requested (closing : Closing window window.events)
    (requested : Requested window request.offset request.length answer next) :
    Closing next next.events := by
  cases requested with
  | misused | denied => exact closing
  | overflowed exceeds granted | unreachable exceeds granted =>
    obtain rfl := grow_eq_ok granted
    exact closing.of_eq rfl rfl
  | hit =>
    rw [events_of_push rfl]
    exact (closing.hit ..).of_eq rfl rfl
  | @slid grown placed exceeds granted moved =>
    obtain ⟨seeks, sought, -, events⟩ :=
      exists_seeks granted moved (window.moveTo request.offset request.length)
    have running : placed.ended = false := by
      obtain ⟨source, position, stats, trace, rfl⟩ := placed_eq granted moved
      exact exceeds.unended
    have ended_iff := slide_ended_iff placed (window.moveTo request.offset request.length) running
    have none := closing.none_of_unended exceeds.unended
    have noneSought : ∀ event ∈ seeks, event.isEnded = false := by
      rcases sought with rfl | ⟨rfl, -⟩ <;> simp [Event.isEnded]
    rw [events, ← List.append_assoc, Filling.ending, ← slide_stop]
    have earlier := List.forall_mem_append.2 ⟨none, noneSought⟩
    cases stopped : (placed.filling (window.moveTo request.offset request.length)).stop with
    | full | failed failure =>
      rw [stopped] at ended_iff
      exact .unended (by simpa using ended_iff)
        (List.forall_mem_append.2 ⟨earlier, List.forall_mem_singleton.2 rfl⟩)
    | ended =>
      rw [List.append_cons]
      exact .ended (ended_iff.2 stopped)
        (List.forall_mem_append.2 ⟨earlier, List.forall_mem_singleton.2 rfl⟩) (by simp)

theorem Closing.serve (closing : Closing window window.events) (requests : List Request) :
    Closing (window.serve requests).2 (window.serve requests).2.events := by
  apply serve_keeps (fun window => Closing window window.events) _ closing
  intro request _ window closing
  exact closing.requested (requested_request ..)

/-- What a run adds to the counters is what it tells. -/
theorem serve_reconciled (window : SlidingWindow σ) (requests : List Request) :
    ∃ emitted added, Reconciled (window.serve requests).1 emitted added ∧
      (window.serve requests).2.events = window.events ++ emitted ∧
      (window.serve requests).2.stats = window.stats.add added := by
  induction requests generalizing window with
  | nil => exact ⟨[], {}, .of_unread (by simp [SlidingWindow.serve]), (List.append_nil _).symm, rfl⟩
  | cons request requests ih =>
    have requested := requested_request window request.offset request.length
    obtain ⟨first, counted, -, reconciled, events, stats⟩ := requested.story
    obtain ⟨later, countedLater, reconciledLater, eventsLater, statsLater⟩ := ih
      (window.request request.offset request.length).2
    refine ⟨first ++ later, counted.add countedLater, reconciled.append reconciledLater, ?_, ?_⟩
    · rw [← List.append_assoc, ← events]
      exact eventsLater
    · rw [← Stats.add_assoc, ← stats]
      exact statsLater

/-- At every moment of a run the counters of a window say what its events say, and every request
tells one of its stories.  A refill is told with the numbers that the range asks for, and the end of
the source is told at most once. -/
theorem serve_reconciles (source : σ) (limits : Limits) (memory : Memory)
    (requests : List Request) :
    let (answers, window) := (fresh source limits memory).serve requests
    Reconciled answers window.events window.stats ∧ Closing window window.events ∧
      ∀ request : Request, ∃ emitted,
        let (answer, next) := window.request request.offset request.length
        next.events = window.events ++ emitted ∧ Story limits request next.stop answer emitted := by
  have limits_eq : _ = limits := (serve_setting_eq (fresh source limits memory) requests).1
  obtain ⟨emitted, added, reconciled, events, stats⟩ :=
    serve_reconciled (fresh source limits memory) requests
  have none : Closing (fresh source limits memory) (fresh source limits memory).events :=
    .unended rfl (by simp [SlidingWindow.events, fresh])
  refine ⟨?_, none.serve requests, fun request => ?_⟩
  · rw [events, stats]
    simpa [SlidingWindow.events, fresh] using reconciled
  · obtain ⟨emitted, -, story, -, appended, -⟩ :=
      (requested_request ((fresh source limits memory).serve requests).2 request.offset
        request.length).story
    rw [limits_eq] at story
    exact ⟨emitted, appended, story⟩

-- Two reads are short and the third one fails; then the range is asked for again.
example :
    let source : Faltering Zeros := ⟨⟨12, 0⟩, [.short 7, .short 1, .failed ⟨.other, "gone"⟩]⟩
    let limits : Limits := ⟨2, 3, by decide, by decide, by decide, by decide⟩
    let window := ((fresh source limits .ordinary).serve [⟨1, 2⟩, ⟨9, 2⟩, ⟨9, 2⟩, ⟨11, 4⟩]).2
    window.events = [.refill 0 0 3 0, .seek 4, .refill 4 4 7 0, .refill 4 6 5 2,
      .refill 6 11 4 5, .ended 12] ∧
    window.stats = ⟨0, 4, 6, 1, 11, 7⟩ := by
  decide +kernel

end Runs

end SlidingWindow

end DeltaSignature
