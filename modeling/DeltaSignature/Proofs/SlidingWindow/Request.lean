import DeltaSignature.SlidingWindow.Basic

/-!
# What one request does to a window

A request is refused, is answered from the window, or moves the window.  `Requested` says once what
each of these leaves behind; statements about windows are proved by cases on it and never open the
definition of a request again.
-/

namespace DeltaSignature

namespace SlidingWindow

variable {σ : Type}

section Moves

variable {window : SlidingWindow σ} {offset : Nat}

/-- A valid request that the window cannot answer as it is. -/
structure Exceeds (window : SlidingWindow σ) (offset length : Nat) : Prop where
  length_pos : 0 < length
  fits : offset + length < 0x1_0000_0000_0000_0000
  start_le : window.start ≤ offset
  stop_lt : window.stop < offset + length
  unended : window.ended = false

/-- The window holds all of a range, or all that there is of it. -/
def Covers (window : SlidingWindow σ) (offset length : Nat) : Prop :=
  offset + length ≤ window.stop ∨ window.ended = true

theorem Exceeds.not_covers {length : Nat} (exceeds : window.Exceeds offset length) :
    ¬ window.Covers offset length := by
  rintro (covered | ended)
  · exact Nat.not_le.2 exceeds.stop_lt covered
  · cases exceeds.unended.symm.trans ended

theorem start_le_moveTo_start (window : SlidingWindow σ) (offset length : Nat) :
    window.start ≤ (window.moveTo offset length).start :=
  Nat.le_max_right ..

theorem moveTo_start_le (length : Nat) (forward : window.start ≤ offset) :
    (window.moveTo offset length).start ≤ offset :=
  Nat.max_le.2 ⟨window.limits.windowStart_le offset, forward⟩

theorem moveTo_size_eq (window : SlidingWindow σ) (offset length : Nat) :
    (window.moveTo offset length).size =
      max (offset + length - (window.moveTo offset length).start) window.limits.span :=
  rfl

/-- The new window ends where the range ends, or where the span of the window does. -/
theorem moveTo_end_eq (length : Nat) (forward : window.start ≤ offset) :
    (window.moveTo offset length).start + (window.moveTo offset length).size =
      max (offset + length) ((window.moveTo offset length).start + window.limits.span) := by
  have behind := moveTo_start_le length forward
  have wide := moveTo_size_eq window offset length
  omega

theorem le_moveTo_end (length : Nat) (forward : window.start ≤ offset) :
    offset + length ≤
      (window.moveTo offset length).start + (window.moveTo offset length).size := by
  rw [moveTo_end_eq length forward]
  exact Nat.le_max_left ..

theorem moveTo_size_le (length : Nat) (forward : window.start ≤ offset) :
    (window.moveTo offset length).start + (window.moveTo offset length).size ≤
      offset + length + window.limits.span := by
  have behind := moveTo_start_le length forward
  have reach := moveTo_end_eq length forward
  omega

/-- A window does not reach past the last 64-bit place if its span from the offset on does not. -/
theorem Exceeds.moveTo_end_lt {length : Nat} (exceeds : window.Exceeds offset length)
    (narrow : offset + window.limits.span < 0x1_0000_0000_0000_0000) :
    (window.moveTo offset length).start + (window.moveTo offset length).size <
      0x1_0000_0000_0000_0000 := by
  have fits := exceeds.fits
  have behind := moveTo_start_le length exceeds.start_le
  have reach := moveTo_end_eq length exceeds.start_le
  omega

/-- A new window starts inside the old one, and its end is no 64-bit place. -/
def Overflows (window : SlidingWindow σ) (offset length : Nat) : Prop :=
  (window.moveTo offset length).start < window.stop ∧
    0x1_0000_0000_0000_0000 ≤
      (window.moveTo offset length).start + (window.moveTo offset length).size

theorem Exceeds.not_overflows {length : Nat} (exceeds : window.Exceeds offset length)
    (narrow : offset + window.limits.span < 0x1_0000_0000_0000_0000) :
    ¬ window.Overflows offset length :=
  fun overflows => Nat.not_le.2 (exceeds.moveTo_end_lt narrow) overflows.2

theorem windowStart_le_sub (limits : Limits) (offset : Nat)
    (fits : offset < 0x1_0000_0000_0000_0000) :
    limits.windowStart offset ≤ offset - 2 * limits.chunk := by
  simp only [Limits.windowStart]
  split <;> omega

theorem le_windowStart_add (limits : Limits) (offset : Nat) :
    offset ≤ limits.windowStart offset + 3 * limits.chunk := by
  have aligned := Nat.mod_lt (offset - min (2 * limits.chunk) 0xffff_ffff_ffff_ffff)
    limits.chunk_pos
  simp only [Limits.windowStart]
  split <;> omega

/-- However far a window has come, it need not be larger than three chunks and a range. -/
theorem moveTo_size_le_widest (length : Nat) (forward : window.start ≤ offset) :
    (window.moveTo offset length).size ≤
      max (min offset (3 * window.limits.chunk) + length) window.limits.span := by
  have near := le_windowStart_add window.limits offset
  have behind := moveTo_start_le length forward
  have start : (window.moveTo offset length).start =
      max (window.limits.windowStart offset) window.start := rfl
  have wide := moveTo_size_eq window offset length
  omega

theorem Exceeds.moveTo_size_lt {length : Nat} (exceeds : window.Exceeds offset length) :
    (window.moveTo offset length).size < 0x1_0000_0000_0000_0000 := by
  have fits := exceeds.fits
  have span := window.limits.span_lt
  have wide := moveTo_size_eq window offset length
  omega

theorem moveTo_reused_eq_ite (window : SlidingWindow σ) (offset length : Nat) :
    (window.moveTo offset length).reused =
      if (window.moveTo offset length).start < window.stop ∧
        window.stop ≤ (window.moveTo offset length).start + (window.moveTo offset length).size
      then window.stop - (window.moveTo offset length).start else 0 :=
  rfl

/-- Either nothing of the old window is kept, or everything from the new start on is kept, and the
new window has room for it. -/
structure Move.Suits (move : Move) (window : SlidingWindow σ) : Prop where
  start_le : window.start ≤ move.start
  reused_le : move.reused ≤ move.size
  reaches : move.reused = 0 ∨ move.start + move.reused = window.stop

theorem suits_moveTo (window : SlidingWindow σ) (offset length : Nat) :
    (window.moveTo offset length).Suits window := by
  have kept := moveTo_reused_eq_ite window offset length
  constructor
  case start_le => exact start_le_moveTo_start ..
  case reused_le =>
    rw [kept]
    split <;> omega
  case reaches =>
    rw [kept]
    split
    · right
      omega
    · exact Or.inl rfl

/-- The bytes that a window keeps when it moves. -/
def kept (window : SlidingWindow σ) (move : Move) : ByteArray :=
  window.held.extract (if move.reused = 0 then window.held.size else move.start - window.start)
    window.held.size

theorem size_kept {move : Move} (suits : move.Suits window) :
    (window.kept move).size = move.reused := by
  have extent : window.stop = window.start + window.held.size := rfl
  have start_le := suits.start_le
  by_cases none : move.reused = 0
  · simp [kept, none]
  · have reaches := suits.reaches.resolve_left none
    simp only [kept, if_neg none, ByteArray.size_extract]
    omega

/-- A window that moves keeps what it has behind the new start. -/
theorem Exceeds.moveTo_reused_eq {length : Nat} (exceeds : window.Exceeds offset length) :
    (window.moveTo offset length).reused = window.stop - (window.moveTo offset length).start := by
  have reaches := le_moveTo_end length exceeds.start_le
  have lacking := exceeds.stop_lt
  rw [moveTo_reused_eq_ite]
  by_cases inside : (window.moveTo offset length).start < window.stop
  · rw [if_pos ⟨inside, by omega⟩]
  · rw [if_neg (mt And.left inside)]
    omega

/-- Reading goes on where the old window ends, or where the new one starts if that is farther. -/
theorem Exceeds.moveTo_readStart_eq {length : Nat} (exceeds : window.Exceeds offset length) :
    (window.moveTo offset length).readStart =
      max (window.moveTo offset length).start window.stop := by
  rw [Move.readStart, exceeds.moveTo_reused_eq]
  omega

/-- A source that has to be moved stands before the start of the new window, and is moved there. -/
theorem Exceeds.lt_of_ne_readStart {length : Nat} (exceeds : window.Exceeds offset length)
    (elsewhere : window.stop ≠ (window.moveTo offset length).readStart) :
    window.stop < (window.moveTo offset length).readStart ∧
      (window.moveTo offset length).readStart = (window.moveTo offset length).start := by
  have onward := exceeds.moveTo_readStart_eq
  omega

/-- A request that starts inside the window goes on reading where the window ends. -/
theorem moveTo_readStart {length : Nat} (exceeds : window.Exceeds offset length)
    (adjacent : offset ≤ window.stop) :
    (window.moveTo offset length).readStart = window.stop := by
  have behind := moveTo_start_le length exceeds.start_le
  rw [exceeds.moveTo_readStart_eq]
  exact Nat.max_eq_right (Nat.le_trans behind adjacent)

end Moves

section Steps

variable {window next : SlidingWindow σ} {cause : WindowError}

theorem grow_eq_ok {size : Nat} (granted : window.grow size = (.ok (), next)) :
    next = { window with allocated := max window.allocated size } := by
  simp only [grow] at granted
  split at granted
  next larger =>
    split at granted
    next =>
      obtain ⟨-, rfl⟩ := Prod.mk.inj granted
      rw [Nat.max_eq_right (Nat.le_of_lt larger)]
    next => simp at granted
  next large =>
    obtain ⟨-, rfl⟩ := Prod.mk.inj granted
    rw [Nat.max_eq_left (Nat.le_of_not_lt large)]

theorem grow_eq_error {size : Nat} (refused : window.grow size = (.error cause, next)) :
    next = window ∧ ∃ why, cause = .outOfMemory why ∧ window.memory.reserve size = .error why := by
  simp only [grow] at refused
  split at refused
  next =>
    split at refused
    next => simp at refused
    next why denied =>
      obtain ⟨same, rfl⟩ := Prod.mk.inj refused
      exact ⟨rfl, why, (Except.error.inj same).symm, denied⟩
  next => simp at refused

variable [ByteSource σ]

theorem moveSource_eq_ok {target : Nat} (moved : window.moveSource target = (.ok (), next)) :
    (window.position = target ∧ next = window) ∨
      (window.position ≠ target ∧ ∃ source,
        ByteSource.seek window.source target = (.ok (), source) ∧
        next = { window with
          source
          position := target
          stats := { window.stats with seeks := window.stats.seeks + 1 }
          trace := window.trace.push (.event (.seek target)) }) := by
  simp only [moveSource] at moved
  split at moved
  next there =>
    obtain ⟨-, rfl⟩ := Prod.mk.inj moved
    exact Or.inl ⟨there, rfl⟩
  next elsewhere =>
    split at moved
    next => simp at moved
    next source sought =>
      obtain ⟨-, rfl⟩ := Prod.mk.inj moved
      exact Or.inr ⟨elsewhere, source, sought, rfl⟩

theorem moveSource_eq_error {target : Nat}
    (refused : window.moveSource target = (.error cause, next)) :
    window.position ≠ target ∧ ∃ failure source,
      ByteSource.seek window.source target = (.error failure, source) ∧
      cause = .seek target failure ∧ next = { window with source } := by
  simp only [moveSource] at refused
  split at refused
  next => simp at refused
  next elsewhere =>
    split at refused
    next failure source sought =>
      obtain ⟨same, rfl⟩ := Prod.mk.inj refused
      exact ⟨elsewhere, failure, source, sought, (Except.error.inj same).symm, rfl⟩
    next => simp at refused

/-- A window that is about to move differs from what it was in its buffer and its source, and in
what it knows and notes of the source. -/
theorem placed_eq {grown placed : SlidingWindow σ} {size target : Nat}
    (granted : window.grow size = (.ok (), grown))
    (moved : grown.moveSource target = (.ok (), placed)) :
    ∃ source position stats trace, placed = { window with
      source, position, stats, trace
      allocated := max window.allocated size } := by
  obtain rfl := grow_eq_ok granted
  rcases moveSource_eq_ok moved with ⟨-, rfl⟩ | ⟨-, source, -, rfl⟩
  · exact ⟨_, _, _, _, rfl⟩
  · exact ⟨_, _, _, _, rfl⟩

end Steps

section Sliding

variable [ByteSource σ] (window : SlidingWindow σ) (move : Move)

/-- What is read, and how reading stops, when a window moves. -/
def filling : Filling σ :=
  fill move.size (window.kept move) 0 window.source

@[simp]
theorem slide_source : (window.slide move).2.source = (window.filling move).source := by
  simp only [slide]
  split <;> rfl

@[simp]
theorem slide_held : (window.slide move).2.held = (window.filling move).held := by
  simp only [slide]
  split <;> rfl

@[simp]
theorem slide_start : (window.slide move).2.start = move.start := by
  simp only [slide]
  split <;> rfl

@[simp]
theorem slide_limits : (window.slide move).2.limits = window.limits := by
  simp only [slide]
  split <;> rfl

@[simp]
theorem slide_memory : (window.slide move).2.memory = window.memory := by
  simp only [slide]
  split <;> rfl

@[simp]
theorem slide_allocated : (window.slide move).2.allocated = window.allocated := by
  simp only [slide]
  split <;> rfl

@[simp]
theorem slide_position : (window.slide move).2.position =
    window.position + ((window.filling move).held.size - move.reused) := by
  simp only [slide]
  split <;> rfl

@[simp]
theorem slide_stats : (window.slide move).2.stats =
    { window.stats with
      refills := window.stats.refills + 1
      reads := window.stats.reads + (window.filling move).reads
      bytesRead := window.stats.bytesRead + ((window.filling move).held.size - move.reused)
      bytesReused := window.stats.bytesReused + move.reused } := by
  simp only [slide]
  split <;> rfl

theorem slide_stop : (window.slide move).2.stop =
    move.start + (window.filling move).held.size := by
  simp [stop]

theorem slide_ended_iff (unended : window.ended = false) :
    (window.slide move).2.ended = true ↔ (window.filling move).stop = .ended := by
  simp only [filling, kept, slide]
  split
  next full => simp [unended, full]
  next ended => simp [ended]
  next failure failed => simp [unended, failed]

/-- A window is refused after it has moved only if a read failed. -/
theorem stop_of_slide_eq_error {cause : WindowError}
    (refused : (window.slide move).1 = .error cause) :
    ∃ failure, cause = .read failure ∧ (window.filling move).stop = .failed failure := by
  simp only [slide] at refused
  split at refused
  next => cases refused
  next => cases refused
  next failure failed => exact ⟨failure, (Except.error.inj refused).symm, failed⟩

end Sliding

variable [ByteSource σ]

/-- What a request for a range answers and leaves behind.  When the window has to move, the host may
deny it the memory, the end of the new window may be no 64-bit place, or the source may refuse the
place from which the window reads on. -/
inductive Requested (window : SlidingWindow σ) (offset length : Nat) :
    Except WindowError View → SlidingWindow σ → Prop where
  | misused {misuse : Misuse}
      (misfit : length = 0 ∨ 0x1_0000_0000_0000_0000 ≤ offset + length ∨ offset < window.start) :
      Requested window offset length (.error (.invalidArgument misuse)) window
  | hit (length_pos : 0 < length) (fits : offset + length < 0x1_0000_0000_0000_0000)
      (start_le : window.start ≤ offset) (covers : window.Covers offset length) :
      Requested window offset length (.ok (window.view offset length))
        { window with
          stats := { window.stats with hits := window.stats.hits + 1 }
          trace := window.trace.push (.event (.hit offset length)) }
  | denied {why : AllocationFailure} (exceeds : window.Exceeds offset length)
      (refused : window.memory.reserve (window.moveTo offset length).size = .error why) :
      Requested window offset length (.error (.outOfMemory why)) window
  | overflowed {grown : SlidingWindow σ} (exceeds : window.Exceeds offset length)
      (granted : window.grow (window.moveTo offset length).size = (.ok (), grown))
      (overflows : window.Overflows offset length) :
      Requested window offset length (.error .overflow) grown
  | unreachable {grown : SlidingWindow σ} {source : σ} {failure : IoFailure}
      (exceeds : window.Exceeds offset length)
      (granted : window.grow (window.moveTo offset length).size = (.ok (), grown))
      (elsewhere : window.position ≠ (window.moveTo offset length).readStart)
      (refused : ByteSource.seek window.source (window.moveTo offset length).readStart =
        (.error failure, source)) :
      Requested window offset length
        (.error (.seek (window.moveTo offset length).readStart failure)) { grown with source }
  | slid {grown placed : SlidingWindow σ} (exceeds : window.Exceeds offset length)
      (granted : window.grow (window.moveTo offset length).size = (.ok (), grown))
      (moved : grown.moveSource (window.moveTo offset length).readStart = (.ok (), placed)) :
      Requested window offset length
        ((placed.slide (window.moveTo offset length)).1.map fun _ =>
          (placed.slide (window.moveTo offset length)).2.view offset length)
        (placed.slide (window.moveTo offset length)).2

section Refilling

variable {window grown : SlidingWindow σ} {offset length : Nat}

theorem refill_of_granted
    (granted : window.grow (window.moveTo offset length).size = (.ok (), grown))
    (fits : ¬ window.Overflows offset length) :
    window.refill offset length =
      match grown.moveSource (window.moveTo offset length).readStart with
      | (.error cause, window) => (.error cause, window)
      | (.ok (), placed) => placed.slide (window.moveTo offset length) := by
  obtain rfl := grow_eq_ok granted
  simp only [refill, granted]
  exact if_neg fits

theorem refill_of_overflow
    (granted : window.grow (window.moveTo offset length).size = (.ok (), grown))
    (overflows : window.Overflows offset length) :
    window.refill offset length = (.error .overflow, grown) := by
  obtain rfl := grow_eq_ok granted
  simp only [refill, granted]
  exact if_pos overflows

end Refilling

/-- A move that is answered by a refusal was refused for the same reason. -/
theorem eq_error_of_map {α β : Type} {outcome : Except WindowError α} {shown : α → β}
    {cause : WindowError} (answered : .error cause = outcome.map shown) :
    outcome = .error cause := by
  cases outcome with
  | ok => cases answered
  | error why => rw [Except.error.inj answered]

theorem requested_refill {window : SlidingWindow σ} {offset length : Nat}
    (exceeds : window.Exceeds offset length) :
    Requested window offset length
      ((window.refill offset length).1.map fun _ =>
        (window.refill offset length).2.view offset length)
      (window.refill offset length).2 := by
  cases grew : window.grow (window.moveTo offset length).size with
  | mk outcome grown =>
    cases outcome with
    | error cause =>
      obtain ⟨rfl, why, rfl, denied⟩ := grow_eq_error grew
      simp only [refill, grew]
      exact .denied exceeds denied
    | ok =>
      by_cases overflows : window.Overflows offset length
      · rw [refill_of_overflow grew overflows]
        exact .overflowed exceeds grew overflows
      · rw [refill_of_granted grew overflows]
        split
        next cause after refused =>
          obtain ⟨elsewhere, failure, source, sought, rfl, rfl⟩ := moveSource_eq_error refused
          have sameSource : grown.source = window.source := by rw [grow_eq_ok grew]
          have samePosition : grown.position = window.position := by rw [grow_eq_ok grew]
          rw [sameSource] at sought
          rw [samePosition] at elsewhere
          exact .unreachable exceeds grew elsewhere sought
        next placed moved => exact .slid exceeds grew moved

theorem requested_request (window : SlidingWindow σ) (offset length : Nat) :
    Requested window offset length (window.request offset length).1
      (window.request offset length).2 := by
  simp only [request]
  split
  next zero => exact .misused (Or.inl zero)
  next nonzero =>
    split
    next overflow => exact .misused (Or.inr (Or.inl overflow))
    next fits =>
      split
      next back => exact .misused (Or.inr (Or.inr back))
      next forward =>
        split
        next covers => exact .hit (by omega) (by omega) (by omega) covers
        next lacking =>
          have exceeds : window.Exceeds offset length :=
            { length_pos := by omega
              fits := by omega
              start_le := by omega
              stop_lt := by omega
              unended := by simpa using fun ended => lacking (Or.inr ended) }
          have refilled := requested_refill exceeds
          split
          next cause after failed =>
            rw [failed] at refilled
            exact refilled
          next after done =>
            rw [done] at refilled
            exact refilled

/-- A range that a window covers is answered from it. -/
theorem request_of_covers {window : SlidingWindow σ} {offset length : Nat} (length_pos : 0 < length)
    (fits : offset + length < 0x1_0000_0000_0000_0000) (start_le : window.start ≤ offset)
    (covers : window.Covers offset length) :
    window.request offset length = (.ok (window.view offset length), { window with
      stats := { window.stats with hits := window.stats.hits + 1 }
      trace := window.trace.push (.event (.hit offset length)) }) := by
  rw [request, if_neg (by omega), if_neg (by omega), if_neg (by omega)]
  exact if_pos covers

theorem requested_of_answer {window next : SlidingWindow σ} {offset length : Nat}
    {answer : Except WindowError View} (answered : window.request offset length = (answer, next)) :
    Requested window offset length answer next := by
  have requested := requested_request window offset length
  rwa [answered] at requested

end SlidingWindow

end DeltaSignature
