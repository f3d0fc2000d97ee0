import DeltaSignature.Proofs.SlidingWindow.Recording

/-!
# The size of the buffer does not show

A window asks its host for memory before it asks its source to move, so a refused move may leave it
with a larger buffer.  A host that has granted a block grants every smaller one too (`Affordable`).
Then a window with any such buffer does the same as with any other, and only the size of the buffer
differs afterwards.
-/

namespace DeltaSignature

theorem Memory.reserve_of_le {memory : Memory} {smaller larger : Nat}
    (granted : memory.reserve larger = .ok ()) (le : smaller ≤ larger) :
    memory.reserve smaller = .ok () := by
  unfold reserve at granted ⊢
  split at granted
  · contradiction
  · split at granted
    · contradiction
    · rw [if_neg (by omega), if_neg (by omega)]

namespace SlidingWindow

variable {σ : Type} {window next : SlidingWindow σ} {room offset length : Nat}

/-- The window with a buffer of another size. -/
def withRoom (window : SlidingWindow σ) (room : Nat) : SlidingWindow σ :=
  { window with allocated := room }

/-- The host grants a buffer of the size that the window has, and every smaller one. -/
def Affordable (window : SlidingWindow σ) : Prop :=
  window.memory.reserve window.allocated = .ok ()

theorem affordable_fresh (source : σ) (limits : Limits) (memory : Memory) :
    (fresh source limits memory).Affordable :=
  rfl

/-- An affordable window grows just if the host grants the new size, whatever size it has. -/
theorem Affordable.grow_eq (affordable : window.Affordable) (size : Nat) :
    ∃ room, window.grow size =
      ((window.memory.reserve size).mapError .outOfMemory, window.withRoom room) := by
  unfold grow
  by_cases larger : window.allocated < size
  · rw [if_pos larger]
    cases window.memory.reserve size with
    | ok => exact ⟨size, rfl⟩
    | error cause => exact ⟨window.allocated, rfl⟩
  · rw [if_neg larger, Memory.reserve_of_le affordable (Nat.le_of_not_lt larger)]
    exact ⟨window.allocated, rfl⟩

theorem Affordable.grown (affordable : window.Affordable) {size : Nat}
    (granted : window.grow size = (.ok (), next)) : next.Affordable := by
  obtain rfl := grow_eq_ok granted
  rcases Nat.le_total size window.allocated with small | large
  · rw [Nat.max_eq_left small]
    exact affordable
  · rw [Nat.max_eq_right large]
    obtain ⟨room, same⟩ := affordable.grow_eq size
    have allowed := congrArg Prod.fst (granted.symm.trans same)
    cases outcome : window.memory.reserve size with
    | ok => exact outcome
    | error cause =>
      rw [outcome] at allowed
      cases allowed

theorem Affordable.grow_withRoom (affordable : window.Affordable)
    (affordableRoom : (window.withRoom room).Affordable) (size : Nat) :
    ∃ room', (window.withRoom room).grow size =
      ((window.grow size).1, (window.grow size).2.withRoom room') := by
  obtain ⟨own, grew⟩ := affordable.grow_eq size
  obtain ⟨other, grewRoom⟩ := affordableRoom.grow_eq size
  refine ⟨other, ?_⟩
  rw [grew, grewRoom]
  rfl

variable [ByteSource σ]

theorem moveSource_withRoom (window : SlidingWindow σ) (room target : Nat) :
    (window.withRoom room).moveSource target =
      ((window.moveSource target).1, (window.moveSource target).2.withRoom room) := by
  have samePosition : (window.withRoom room).position = window.position := rfl
  have sameSource : (window.withRoom room).source = window.source := rfl
  unfold moveSource
  rw [samePosition, sameSource]
  split
  · rfl
  · split <;> rfl

theorem slide_withRoom (window : SlidingWindow σ) (room : Nat) (move : Move) :
    (window.withRoom room).slide move =
      ((window.slide move).1, (window.slide move).2.withRoom room) := by
  simp only [slide, withRoom]
  split <;> rfl

theorem Affordable.refill_withRoom (affordable : window.Affordable)
    (affordableRoom : (window.withRoom room).Affordable) (offset length : Nat) :
    ∃ room', (window.withRoom room).refill offset length =
      ((window.refill offset length).1, (window.refill offset length).2.withRoom room') := by
  obtain ⟨room', sameGrowth⟩ :=
    affordable.grow_withRoom affordableRoom (window.moveTo offset length).size
  refine ⟨room', ?_⟩
  cases granted : window.grow (window.moveTo offset length).size with
  | mk allowed grown =>
    rw [granted] at sameGrowth
    cases allowed with
    | error cause =>
      rw [refill_of_denied granted]
      exact refill_of_denied sameGrowth
    | ok =>
      by_cases overflows : window.Overflows offset length
      · rw [refill_of_overflow granted overflows]
        exact refill_of_overflow sameGrowth overflows
      · have sameMoves := moveSource_withRoom grown room' (window.moveTo offset length).readStart
        cases outcome : grown.moveSource (window.moveTo offset length).readStart with
        | mk reached placed =>
          rw [outcome] at sameMoves
          cases reached with
          | error cause =>
            rw [refill_of_unreachable granted overflows outcome]
            exact refill_of_unreachable sameGrowth overflows sameMoves
          | ok =>
            rw [refill_of_placed granted overflows outcome]
            exact (refill_of_placed sameGrowth overflows sameMoves).trans
              (slide_withRoom placed room' _)

theorem Affordable.request_withRoom (affordable : window.Affordable)
    (affordableRoom : (window.withRoom room).Affordable) (offset length : Nat) :
    ∃ room', (window.withRoom room).request offset length =
      ((window.request offset length).1, (window.request offset length).2.withRoom room') := by
  obtain ⟨room', same⟩ := affordable.refill_withRoom affordableRoom offset length
  have sameStart : (window.withRoom room).start = window.start := rfl
  have sameStop : (window.withRoom room).stop = window.stop := rfl
  have sameEnded : (window.withRoom room).ended = window.ended := rfl
  simp only [request, sameStart, sameStop, sameEnded]
  split_ifs
  case neg =>
    refine ⟨room', ?_⟩
    rw [same]
    obtain ⟨outcome, after⟩ := window.refill offset length
    cases outcome <;> rfl
  all_goals exact ⟨room, rfl⟩

theorem Affordable.requested {answer : Except WindowError View} (affordable : window.Affordable)
    (requested : Requested window offset length answer next) : next.Affordable := by
  cases requested with
  | misused | denied | hit => exact affordable
  | overflowed exceeds granted | unreachable exceeds granted =>
    have affordableGrown := affordable.grown granted
    exact affordableGrown
  | slid exceeds granted moved =>
    have affordableGrown := affordable.grown granted
    obtain ⟨source, position, stats, trace, rfl⟩ := placed_eq granted moved
    obtain rfl := grow_eq_ok granted
    unfold Affordable
    rw [slide_memory, slide_allocated]
    exact affordableGrown

theorem Affordable.serve (affordable : window.Affordable) (requests : List Request) :
    (window.serve requests).2.Affordable := by
  apply serve_keeps Affordable _ affordable
  intro request _ window affordable
  exact affordable.requested (requested_request ..)

end SlidingWindow

end DeltaSignature
