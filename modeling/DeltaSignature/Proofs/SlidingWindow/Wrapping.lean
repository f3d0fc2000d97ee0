import DeltaSignature.Proofs.SlidingWindow.Checked
import DeltaSignature.Proofs.SlidingWindow.Views
import DeltaSignature.Proofs.Transfer.Zeros

/-!
# The one sum that overflows

Every sum and difference of a request is exact, except for the end of a new window that starts
inside the old one: less than the span of a window before the last 64-bit place it overflows, and
the request panics, although its range is a valid one.  Every other window that moves to a place
inside itself keeps what it holds behind that place.
-/

namespace DeltaSignature

namespace SlidingWindow

variable {σ : Type} {content : ByteArray} {stands : σ → Nat → Prop}

/-- The window is to move to a place inside it, and the end of the new window is beyond 64 bits. -/
structure Wraps (window : SlidingWindow σ) (offset length : Nat) : Prop where
  exceeds : window.Exceeds offset length
  granted : (window.grow (window.moveTo offset length).size).1 = .ok ()
  overflows : window.Overflows offset length

section Moves

variable {window : SlidingWindow σ} {offset length : Nat}

theorem not_wraps (narrow : offset + window.limits.span < 0x1_0000_0000_0000_0000) :
    ¬ window.Wraps offset length :=
  fun wrapping => wrapping.exceeds.not_overflows narrow wrapping.overflows

theorem Wraps.exists_grown (wrapping : window.Wraps offset length) :
    ∃ grown, window.grow (window.moveTo offset length).size = (.ok (), grown) :=
  ⟨_, Prod.ext wrapping.granted rfl⟩

/-- A window over a source whose length fits 64 bits ends at a place that does. -/
theorem Faithful.stop_lt (faithful : Faithful content stands window)
    (small : content.size < 0x1_0000_0000_0000_0000)
    (fits : window.start < 0x1_0000_0000_0000_0000) :
    window.stop < 0x1_0000_0000_0000_0000 := by
  have extent : window.stop = window.start + window.held.size := rfl
  have held := congrArg ByteArray.size faithful.held_part
  rw [ByteArray.size_extract] at held
  omega

end Moves

section Places

variable [ByteSource σ] {window next : SlidingWindow σ} {offset length : Nat}
  {answer : Except WindowError View}

/-- A request moves a window only to places that fit 64 bits. -/
theorem Requested.start_lt (requested : Requested window offset length answer next)
    (fits : window.start < 0x1_0000_0000_0000_0000) :
    next.start < 0x1_0000_0000_0000_0000 := by
  cases requested with
  | misused | denied | hit => exact fits
  | overflowed exceeds granted | unreachable exceeds granted =>
    obtain rfl := grow_eq_ok granted
    exact fits
  | slid exceeds granted moved =>
    rw [slide_start]
    have valid := exceeds.fits
    have behind := moveTo_start_le length exceeds.start_le
    omega

theorem serve_start_lt (fits : window.start < 0x1_0000_0000_0000_0000) (requests : List Request) :
    (window.serve requests).2.start < 0x1_0000_0000_0000_0000 := by
  apply serve_keeps (·.start < 0x1_0000_0000_0000_0000) _ fits
  intro request _ window fits
  exact (requested_request ..).start_lt fits

end Places

section Checks

variable [ByteSource σ] {window after : SlidingWindow σ} {offset length : Nat}

theorem start_le_of_refill (exceeds : window.Exceeds offset length)
    (refilled : window.refill offset length = (.ok (), after)) : after.start ≤ offset := by
  simp only [refill] at refilled
  split at refilled
  next => cases congrArg Prod.fst refilled
  next grown granted =>
    split at refilled
    next => cases congrArg Prod.fst refilled
    next =>
      split at refilled
      next => cases congrArg Prod.fst refilled
      next placed moved =>
        have same := slide_start placed (window.moveTo offset length)
        rw [refilled] at same
        exact same ▸ moveTo_start_le length exceeds.start_le

theorem request_eq_of_exceeds (exceeds : window.Exceeds offset length) :
    window.request offset length =
      match window.refill offset length with
      | (.error cause, window) => (.error cause, window)
      | (.ok (), window) => (.ok (window.view offset length), window) := by
  have uncovered : ¬(offset + length ≤ window.stop ∨ window.ended = true) := exceeds.not_covers
  obtain ⟨length_pos, fits, start_le, -, -⟩ := exceeds
  rw [request, if_neg (by omega), if_neg (by omega), if_neg (by omega)]
  exact if_neg uncovered

theorem request?_eq_of_exceeds (exceeds : window.Exceeds offset length) :
    window.request? offset length =
      (window.refit? (window.moveTo offset length).start (window.moveTo offset length).size).bind
        fun
        | (.error cause, window) => some (.error cause, window)
        | (.ok (), window) =>
          (window.view? offset length).bind fun view => some (.ok view, window) := by
  have sized := refill?_eq_refit? exceeds
  have uncovered : ¬(offset + length ≤ window.stop ∨ window.ended = true) := exceeds.not_covers
  obtain ⟨length_pos, fits, start_le, stop_lt, -⟩ := exceeds
  rw [request?, if_neg (by omega), Word.add?_eq fits]
  simp only []
  rw [if_neg (by omega), stop?_eq (by omega)]
  simp only [Option.bind_eq_bind, Option.bind_some]
  exact (if_neg uncovered).trans (congrArg (Option.bind · _) sized)

theorem request?_eq_none (small : window.stop < 0x1_0000_0000_0000_0000)
    (wrapping : window.Wraps offset length) : window.request? offset length = none := by
  obtain ⟨grown, granted⟩ := wrapping.exists_grown
  obtain ⟨inside, end_ge⟩ := wrapping.overflows
  rw [request?_eq_of_exceeds wrapping.exceeds, refit?_eq_none small granted inside end_ge]
  rfl

/-- Where the end of the new window overflows, a request panics before it asks anything of its
source. -/
theorem Wraps.request_eq (wrapping : window.Wraps offset length) :
    window.request offset length = (.error .overflow,
      { window with allocated := max window.allocated (window.moveTo offset length).size }) := by
  obtain ⟨grown, granted⟩ := wrapping.exists_grown
  rw [request_eq_of_exceeds wrapping.exceeds, refill_of_overflow granted wrapping.overflows,
    grow_eq_ok granted]

/-- A request panics nowhere else. -/
theorem Requested.wraps {next : SlidingWindow σ}
    (requested : Requested window offset length (.error .overflow) next) :
    window.Wraps offset length := by
  generalize answered : Except.error WindowError.overflow = answer at requested
  cases requested with
  | misused | hit | denied | unreachable => cases answered
  | overflowed exceeds granted overflows => exact ⟨exceeds, by rw [granted], overflows⟩
  | slid =>
    obtain ⟨failure, same, -⟩ := stop_of_slide_eq_error _ _ (eq_error_of_map answered)
    cases same

theorem request?_eq_of_not_exceeds (small : window.stop < 0x1_0000_0000_0000_0000)
    (answered : ¬ window.Exceeds offset length)
    (counted : (window.request offset length).2.stats.Fits) :
    window.request? offset length = some (window.request offset length) := by
  rw [request] at counted
  rw [request?, request]
  by_cases zero : length = 0
  · rw [if_pos zero, if_pos zero]
  by_cases overflow : 0x1_0000_0000_0000_0000 ≤ offset + length
  · rw [if_neg zero, Word.add?_eq_none overflow, if_neg zero, if_pos overflow]
  by_cases back : offset < window.start
  · rw [if_neg zero, Word.add?_eq (Nat.lt_of_not_le overflow), if_neg zero, if_neg overflow,
      if_pos back]
    exact if_pos back
  · have covered : offset + length ≤ window.stop ∨ window.ended = true := by
      by_contra uncovered
      refine answered ⟨by omega, by omega, by omega, by omega, ?_⟩
      simpa using fun ended => uncovered (Or.inr ended)
    rw [if_neg zero, if_neg overflow, if_neg back, if_pos covered] at counted ⊢
    rw [if_neg zero, Word.add?_eq (Nat.lt_of_not_le overflow)]
    simp only [if_neg back]
    rw [stop?_eq small]
    simp only [Option.bind_eq_bind, Option.bind_some]
    rw [if_pos covered, Word.add?_eq counted.hits]
    simp only [Option.bind_some]
    have viewed (stats : Stats) (trace : Array Note) :
        ({ window with stats, trace } : SlidingWindow σ).view? offset length =
          some (({ window with stats, trace } : SlidingWindow σ).view offset length) :=
      view?_eq length (Nat.le_of_not_lt back) small
    rw [viewed]
    rfl

/-- Unless the end of the new window wraps, no check of a request fails. -/
theorem request?_eq (small : window.stop < 0x1_0000_0000_0000_0000)
    (unwrapped : ¬ window.Wraps offset length)
    (fits : (window.request offset length).2.stop < 0x1_0000_0000_0000_0000)
    (counted : (window.request offset length).2.stats.Fits) :
    window.request? offset length = some (window.request offset length) := by
  by_cases exceeds : window.Exceeds offset length
  · have same : (window.request offset length).2 = (window.refill offset length).2 := by
      rw [request_eq_of_exceeds exceeds]
      obtain ⟨_ | _, after⟩ := window.refill offset length <;> rfl
    rw [same] at fits counted
    have refitted := refit?_eq exceeds small
      (fun granted overflows => unwrapped ⟨exceeds, granted, overflows⟩) fits counted
    rw [request?_eq_of_exceeds exceeds, refitted, request_eq_of_exceeds exceeds, Option.bind_some]
    cases refilled : window.refill offset length with
    | mk outcome after =>
      rw [refilled] at fits
      cases outcome with
      | error cause => rfl
      | ok =>
        simp only []
        rw [view?_eq length (start_le_of_refill exceeds refilled) fits]
        rfl
  · exact request?_eq_of_not_exceeds small exceeds counted

end Checks

section Events

variable {window next : SlidingWindow σ} {offset length : Nat} {answer : Except WindowError View}

theorem events_of_push {event : Event} (pushed : next.trace = window.trace.push (.event event)) :
    next.events = window.events ++ [event] := by
  rw [events, pushed, Array.toList_push, List.filterMap_append]
  rfl

/-- What an event tells of the window that noted it when it was asked for a range. -/
def Tells (window : SlidingWindow σ) (offset length : Nat) : Event → Prop
  | .refill start readStart _ reused =>
    window.Exceeds offset length ∧
      (window.grow (window.moveTo offset length).size).1 = .ok () ∧
      start = (window.moveTo offset length).start ∧
      readStart = (window.moveTo offset length).readStart ∧
      reused = (window.moveTo offset length).reused
  | .seek target =>
    window.Exceeds offset length ∧
      (window.grow (window.moveTo offset length).size).1 = .ok () ∧
      target = (window.moveTo offset length).readStart ∧ window.position ≠ target
  | .hit .. | .ended _ => True

variable [ByteSource σ]

/-- What is told of the end of the source once a window that starts here was filled. -/
def Filling.ending (filling : Filling σ) (start : Nat) : List Event :=
  match filling.stop with
  | .ended => [.ended (start + filling.held.size)]
  | .full | .failed _ => []

omit [ByteSource σ] in
theorem Filling.exists_of_mem_ending {filling : Filling σ} {start : Nat} {event : Event}
    (listed : event ∈ filling.ending start) : ∃ place, event = .ended place := by
  unfold ending at listed
  split at listed
  next => exact ⟨_, List.mem_singleton.1 listed⟩
  next => cases listed
  next => cases listed

theorem slide_events (window : SlidingWindow σ) (move : Move) :
    (window.slide move).2.events = window.events ++
      .refill move.start move.readStart move.readSize move.reused ::
        (window.filling move).ending move.start := by
  unfold Filling.ending
  cases stopped : (window.filling move).stop with
  | full | ended | failed failure =>
    simp only [filling, kept] at stopped
    simp [slide, stopped, events, Note.event?, filling, kept]

/-- A window that moves tells first of its source, if that had to be moved, and then of itself. -/
theorem exists_seeks {grown placed : SlidingWindow σ} {size target : Nat}
    (granted : window.grow size = (.ok (), grown))
    (moved : grown.moveSource target = (.ok (), placed)) (move : Move) :
    ∃ seeks, (seeks = [] ∨ seeks = [.seek target] ∧ window.position ≠ target) ∧
      placed.stats = { window.stats with seeks := window.stats.seeks + seeks.length } ∧
      (placed.slide move).2.events = window.events ++ (seeks ++
        .refill move.start move.readStart move.readSize move.reused ::
          (placed.filling move).ending move.start) := by
  have slid := slide_events placed move
  obtain rfl := grow_eq_ok granted
  rcases moveSource_eq_ok moved with ⟨-, rfl⟩ | ⟨elsewhere, source, -, rfl⟩
  · exact ⟨[], .inl rfl, rfl, slid⟩
  · refine ⟨[.seek target], .inr ⟨rfl, elsewhere⟩, rfl, ?_⟩
    rw [← List.append_assoc]
    exact slid.trans (congrArg (· ++ _) (events_of_push rfl))

theorem Requested.exists_events (requested : Requested window offset length answer next) :
    ∃ emitted, next.events = window.events ++ emitted ∧
      ∀ event ∈ emitted, window.Tells offset length event := by
  cases requested with
  | misused | denied => exact ⟨[], (List.append_nil _).symm, by simp⟩
  | hit =>
    exact ⟨_, events_of_push rfl, List.forall_mem_singleton.2 trivial⟩
  | overflowed exceeds granted | unreachable exceeds granted =>
    obtain rfl := grow_eq_ok granted
    exact ⟨[], (List.append_nil _).symm, by simp⟩
  | @slid grown placed exceeds granted moved =>
    obtain ⟨seeks, sought, -, events⟩ :=
      exists_seeks granted moved (window.moveTo offset length)
    have allowed : (window.grow (window.moveTo offset length).size).1 = .ok () := by rw [granted]
    refine ⟨_, events, List.forall_mem_append.2 ⟨?_, List.forall_mem_cons.2 ⟨?_, ?_⟩⟩⟩
    · rcases sought with rfl | ⟨rfl, elsewhere⟩
      · simp
      · exact List.forall_mem_singleton.2 ⟨exceeds, allowed, rfl, elsewhere⟩
    · exact ⟨exceeds, allowed, rfl, rfl, rfl⟩
    · intro event listed
      obtain ⟨place, rfl⟩ := Filling.exists_of_mem_ending listed
      trivial

end Events

/-- No sum or difference of a request overflows, as long as the counters of the window fit 64 bits
after it, and the window keeps all that it has of the place to which it moves. -/
structure Exact [ByteSource σ] (window : SlidingWindow σ) (offset length : Nat) : Prop where
  request?_eq : (window.request offset length).2.stats.Fits →
    window.request? offset length = some (window.request offset length)
  ne_overflow : (window.request offset length).1 ≠ .error .overflow
  keeps : ∃ emitted, (window.request offset length).2.events = window.events ++ emitted ∧
    (∀ start readStart readSize reused, .refill start readStart readSize reused ∈ emitted →
      start < window.stop → 0 < reused ∧ reused = window.stop - start ∧
        readStart = window.stop) ∧
    ∀ target, .seek target ∈ emitted → window.stop < target

theorem Faithful.exact [ByteSource σ] (serves : ByteSource.Serves content stands)
    (small : content.size < 0x1_0000_0000_0000_0000) {window : SlidingWindow σ}
    (faithful : Faithful content stands window)
    (start_lt : window.start < 0x1_0000_0000_0000_0000) {offset length : Nat}
    (unwrapped : ¬ window.Wraps offset length) : window.Exact offset length := by
  have requested := requested_request window offset length
  obtain ⟨emitted, appended, tells⟩ := requested.exists_events
  constructor
  case request?_eq =>
    exact request?_eq (faithful.stop_lt small start_lt) unwrapped
      ((faithful.requested serves requested).stop_lt small (requested.start_lt start_lt))
  case ne_overflow =>
    intro panicked
    rw [panicked] at requested
    exact unwrapped requested.wraps
  case keeps =>
    refine ⟨emitted, appended, ?_, ?_⟩
    · intro start readStart readSize reused listed inside
      obtain ⟨exceeds, -, rfl, rfl, rfl⟩ := tells _ listed
      rw [exceeds.moveTo_readStart_eq, exceeds.moveTo_reused_eq]
      omega
    · intro target listed
      obtain ⟨exceeds, -, rfl, elsewhere⟩ := tells _ listed
      have standing := faithful.position_eq
      have onward := exceeds.moveTo_readStart_eq
      omega

/-- Over a well-behaved source whose length fits 64 bits, every request of a run is exact, unless
the end of the new window overflows.  Then the request panics, and all that has changed is the
size of the buffer. -/
theorem exact_of_serve [ByteSource σ] (serves : ByteSource.Serves content stands)
    (small : content.size < 0x1_0000_0000_0000_0000) {limits : Limits} {memory : Memory}
    {source : σ} (atStart : stands source 0) {requests : List Request} {window : SlidingWindow σ}
    (reached : ((fresh source limits memory).serve requests).2 = window) (offset length : Nat) :
    (¬ window.Wraps offset length → window.Exact offset length) ∧
    (window.Wraps offset length → window.request? offset length = none ∧
      window.request offset length = (.error .overflow,
        { window with allocated := max window.allocated (window.moveTo offset length).size })) := by
  have faithfulFresh : Faithful content stands (fresh source limits memory) :=
    faithful_fresh atStart limits memory
  have faithful := faithfulFresh.serve serves requests
  have freshStart : (fresh source limits memory).start < 0x1_0000_0000_0000_0000 := by simp [fresh]
  have start_lt := serve_start_lt freshStart requests
  rw [reached] at faithful start_lt
  exact ⟨faithful.exact serves small start_lt, fun wrapping =>
    ⟨request?_eq_none (faithful.stop_lt small start_lt) wrapping, wrapping.request_eq⟩⟩

/-- A window over zeros up to the last 64-bit place that was asked for a byte near their end. -/
def nearEnd : SlidingWindow Zeros :=
  ((fresh (⟨0xffff_ffff_ffff_ffff, 0⟩ : Zeros)
    ⟨1, 8, by decide, by decide, by decide, by decide⟩ .ordinary).serve
    [⟨0xffff_ffff_ffff_fff6, 1⟩]).2

theorem exact_of_serve_nearEnd : nearEnd.Exact 0xffff_ffff_ffff_fff6 7 :=
  (exact_of_serve (Zeros.serves 0xffff_ffff_ffff_ffff) (by simp) ⟨rfl, rfl⟩ rfl _ _).1
    (not_wraps (by decide +kernel))

/-- The window holds two of the bytes from which on the range is to be read, and one byte behind
them is asked for, but the request panics. -/
theorem nearEnd_not_exact :
    nearEnd.stop = 0xffff_ffff_ffff_fffc ∧ nearEnd.request? 0xffff_ffff_ffff_fffc 1 = none ∧
    (nearEnd.moveTo 0xffff_ffff_ffff_fffc 1).start = 0xffff_ffff_ffff_fffa ∧
    (nearEnd.request 0xffff_ffff_ffff_fffc 1).1 = .error .overflow ∧
    ¬ nearEnd.Exact 0xffff_ffff_ffff_fffc 1 := by
  have stop_eq : nearEnd.stop = 0xffff_ffff_ffff_fffc := by decide +kernel
  have exceeds : nearEnd.Exceeds 0xffff_ffff_ffff_fffc 1 :=
    ⟨by decide, by decide, by decide +kernel, by decide +kernel, by decide +kernel⟩
  have wrapping : nearEnd.Wraps 0xffff_ffff_ffff_fffc 1 :=
    ⟨exceeds, by decide +kernel, by decide +kernel, by decide +kernel⟩
  have panicked : (nearEnd.request 0xffff_ffff_ffff_fffc 1).1 = .error .overflow := by
    rw [wrapping.request_eq]
  exact ⟨stop_eq, request?_eq_none (by rw [stop_eq]; decide) wrapping, by decide +kernel, panicked,
    fun exact => exact.ne_overflow panicked⟩

end SlidingWindow

end DeltaSignature
