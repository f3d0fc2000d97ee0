import DeltaSignature.Proofs.SlidingWindow.Steady

/-!
# Where a window stands and how large it gets

A window starts where the farthest request that has moved it wants it to start, on a multiple of the
chunk size.  However the requests jump and whatever is refused, its buffer is no larger than the
span of the window, or than the longest range asked for and what is needed to look back and to be
aligned.  None of this depends on the source.
-/

namespace DeltaSignature

namespace SlidingWindow

variable {σ : Type}

section Limits

namespace Limits

theorem dvd_windowStart (limits : Limits) (offset : Nat) :
    limits.chunk ∣ limits.windowStart offset := by
  simp only [windowStart]
  split
  · exact Nat.dvd_sub_mod _
  · exact Nat.dvd_zero _

/-- The start of a window moves on with the offset. -/
theorem windowStart_le_windowStart (limits : Limits) {near far : Nat} (ordered : near ≤ far) :
    limits.windowStart near ≤ limits.windowStart far := by
  have aligned (place : Nat) :
      place - place % limits.chunk = limits.chunk * (place / limits.chunk) := by
    have parts := Nat.div_add_mod place limits.chunk
    omega
  simp only [windowStart, aligned]
  split
  next =>
    rw [if_pos (by omega)]
    exact Nat.mul_le_mul_left _ (Nat.div_le_div_right (by omega))
  next => exact Nat.zero_le _

/-- An offset is less than three chunks behind the start of its window. -/
theorem lt_windowStart_add (limits : Limits) (offset : Nat) :
    offset < limits.windowStart offset + 3 * limits.chunk := by
  have positive := limits.chunk_pos
  have aligned := Nat.mod_lt (offset - min (2 * limits.chunk) 0xffff_ffff_ffff_ffff) positive
  simp only [windowStart]
  split <;> omega

end Limits

end Limits

section Moves

variable {window : SlidingWindow σ} {offset length longest : Nat}

theorem moveTo_size_le_longest (short : length ≤ longest) (forward : window.start ≤ offset) :
    (window.moveTo offset length).size ≤
      max window.limits.span (longest + 3 * window.limits.chunk - 1) := by
  have near := window.limits.lt_windowStart_add offset
  have behind := moveTo_start_le length forward
  have start : (window.moveTo offset length).start =
      max (window.limits.windowStart offset) window.start := rfl
  have wide := moveTo_size_eq window offset length
  omega

/-- Reading fills a window up to its goal and no farther. -/
theorem size_fill_le [ByteReader σ] {goal : Nat} {held : ByteArray} (room : held.size ≤ goal)
    (reads : Nat) (source : σ) : (fill goal held reads source).held.size ≤ goal := by
  fun_induction fill goal held reads source with
  | case1 => exact room
  | case2 held reads source lacking next answer ih => exact ih room
  | case3 => exact room
  | case4 => exact room
  | case5 held reads source lacking piece next answer something ih =>
    have fits := ByteReader.size_le_of_delivered source (goal - held.size) piece (by rw [answer])
    apply ih
    rw [ByteArray.size_append]
    omega

end Moves

section Requests

variable [ByteSource σ] {window next : SlidingWindow σ} {offset length longest : Nat}
  {answer : Except WindowError View}

/-- The requests that moved the window, in order. -/
def movers : SlidingWindow σ → List Request → List Request
  | _, [] => []
  | window, request :: requests =>
    let next := (window.request request.offset request.length).2
    if next.stats.refills = window.stats.refills then movers next requests
    else request :: movers next requests

/-- A request counts as one that moved the window, or it leaves the window where it was. -/
theorem Requested.start_eq (requested : Requested window offset length answer next) :
    next.stats.refills = window.stats.refills ∧ next.start = window.start ∨
      next.stats.refills = window.stats.refills + 1 ∧ window.Exceeds offset length ∧
        next.start = max window.start (window.limits.windowStart offset) := by
  cases requested with
  | misused | denied | hit => exact .inl ⟨rfl, rfl⟩
  | overflowed exceeds granted | unreachable exceeds granted =>
    obtain rfl := grow_eq_ok granted
    exact .inl ⟨rfl, rfl⟩
  | slid exceeds granted moved =>
    right
    rw [slide_stats, slide_start]
    obtain rfl := grow_eq_ok granted
    rcases moveSource_eq_ok moved with ⟨-, rfl⟩ | ⟨-, source, -, rfl⟩
    · exact ⟨rfl, exceeds, Nat.max_comm ..⟩
    · exact ⟨rfl, exceeds, Nat.max_comm ..⟩

/-- The buffer never shrinks. -/
theorem Requested.allocated_le (requested : Requested window offset length answer next) :
    window.allocated ≤ next.allocated := by
  cases requested with
  | misused | denied | hit => exact Nat.le_refl _
  | overflowed exceeds granted | unreachable exceeds granted =>
    obtain rfl := grow_eq_ok granted
    exact Nat.le_max_left ..
  | slid exceeds granted moved =>
    obtain ⟨source, position, stats, trace, rfl⟩ := placed_eq granted moved
    rw [slide_allocated]
    exact Nat.le_max_left ..

theorem mem_movers (window : SlidingWindow σ) (requests : List Request) :
    ∀ request ∈ window.movers requests,
      request.offset + request.length < 0x1_0000_0000_0000_0000 := by
  induction requests generalizing window with
  | nil => simp [movers]
  | cons request requests ih =>
    have requested := requested_request window request.offset request.length
    rw [movers]
    rcases requested.start_eq with ⟨stays, -⟩ | ⟨-, exceeds, -⟩
    · rw [if_pos stays]
      exact ih _
    · split
      · exact ih _
      · exact List.forall_mem_cons.2 ⟨exceeds.fits, ih _⟩

/-- Each request that moves a window moves it to where it wants it to start, but never back. -/
theorem start_serve (window : SlidingWindow σ) (requests : List Request) :
    (window.serve requests).2.start =
      ((window.movers requests).map fun request =>
        window.limits.windowStart request.offset).foldl max window.start := by
  induction requests generalizing window with
  | nil => rfl
  | cons request requests ih =>
    have requested := requested_request window request.offset request.length
    have later := ih (window.request request.offset request.length).2
    rw [requested.setting_eq.1] at later
    rw [movers]
    rcases requested.start_eq with ⟨stays, same⟩ | ⟨counted, -, moved⟩
    · rw [if_pos stays, ← same]
      exact later
    · rw [if_neg (by omega), List.map_cons, List.foldl_cons, ← moved]
      exact later

/-- A window that has moved holds no more than it was to hold. -/
theorem size_filling_le {grown placed : SlidingWindow σ} {size target : Nat}
    (granted : window.grow size = (.ok (), grown))
    (moved : grown.moveSource target = (.ok (), placed)) (offset length : Nat) :
    (placed.filling (window.moveTo offset length)).held.size ≤
      (window.moveTo offset length).size := by
  have suits := suits_moveTo window offset length
  obtain ⟨source, position, stats, trace, rfl⟩ := placed_eq granted moved
  apply size_fill_le
  calc (window.kept (window.moveTo offset length)).size
    _ = (window.moveTo offset length).reused := size_kept suits
    _ ≤ (window.moveTo offset length).size := suits.reused_le

/-- What is held fits the buffer, and the buffer is not too large for the longest range. -/
structure Roomy (longest : Nat) (window : SlidingWindow σ) : Prop where
  size_le : window.held.size ≤ window.allocated
  allocated_le : window.allocated ≤
    max window.limits.span (longest + 3 * window.limits.chunk - 1)

theorem Roomy.requested (roomy : Roomy longest window) (short : length ≤ longest)
    (requested : Requested window offset length answer next) : Roomy longest next := by
  obtain ⟨size_le, allocated_le⟩ := roomy
  cases requested with
  | misused | denied => exact ⟨size_le, allocated_le⟩
  | hit => exact ⟨size_le, allocated_le⟩
  | overflowed exceeds granted | unreachable exceeds granted =>
    have small := moveTo_size_le_longest short exceeds.start_le
    obtain rfl := grow_eq_ok granted
    exact ⟨Nat.le_trans size_le (Nat.le_max_left ..), Nat.max_le.2 ⟨allocated_le, small⟩⟩
  | @slid grown placed exceeds granted moved =>
    have small := moveTo_size_le_longest short exceeds.start_le
    have filled := size_filling_le granted moved offset length
    obtain ⟨source, position, stats, trace, rfl⟩ := placed_eq granted moved
    constructor
    case size_le =>
      rw [slide_held, slide_allocated]
      exact Nat.le_trans filled (Nat.le_max_right ..)
    case allocated_le =>
      rw [slide_allocated, slide_limits]
      exact Nat.max_le.2 ⟨allocated_le, small⟩

theorem Roomy.serve (roomy : Roomy longest window) {requests : List Request}
    (short : ∀ request ∈ requests, request.length ≤ longest) :
    Roomy longest (window.serve requests).2 := by
  apply serve_keeps (Roomy longest) _ roomy
  intro request listed window roomy
  exact roomy.requested (short request listed) (requested_request ..)

/-- A range that does not start before the window is not refused as one that does. -/
theorem request_ne_movedBack (forward : window.start ≤ offset) (length : Nat) :
    (window.request offset length).1 ≠ .error (.invalidArgument .movedBack) := by
  by_cases exceeds : window.Exceeds offset length
  · have requested := requested_request window offset length
    intro refused
    rw [refused] at requested
    generalize answered : Except.error (WindowError.invalidArgument .movedBack) = answer
      at requested
    generalize (window.request offset length).2 = next at requested
    cases requested with
    | misused misfit =>
      obtain ⟨length_pos, fits, start_le, -, -⟩ := exceeds
      omega
    | hit | denied | overflowed | unreachable => cases answered
    | slid =>
      obtain ⟨failure, same, -⟩ := stop_of_slide_eq_error _ _ (eq_error_of_map answered)
      cases same
  · simp only [request]
    split_ifs with zero overflow back covers
    · simp
    · simp
    · omega
    · simp
    · refine absurd ?_ exceeds
      exact
        { length_pos := by omega
          fits := by omega
          start_le := forward
          stop_lt := by omega
          unended := by simpa using fun ended => covers (Or.inr ended) }

/-- What is true of a window after these requests, if these are the ones that have moved it.  It
starts where the farthest of them wants it to start, and later ones may look back by two chunks. -/
structure Bounded (limits : Limits) (requests moved : List Request) (window : SlidingWindow σ) :
    Prop where
  chunk_dvd_start : limits.chunk ∣ window.start
  start_eq : window.start =
    ((moved.map Request.offset).max?.map limits.windowStart).getD 0
  start_le_sub : ∀ farthest, (moved.map Request.offset).max? = some farthest →
    window.start ≤ farthest - 2 * limits.chunk
  looks_back : ∀ farthest, (moved.map Request.offset).max? = some farthest →
    ∀ offset length, farthest - 2 * limits.chunk ≤ offset →
      (window.request offset length).1 ≠ .error (.invalidArgument .movedBack)
  size_le : window.held.size ≤ window.allocated
  allocated_le : window.allocated ≤
    max limits.span (((requests.map Request.length).max?.getD 0) + 3 * limits.chunk - 1)

theorem max?_map_windowStart (limits : Limits) {offsets : List Nat} {farthest : Nat}
    (last : offsets.max? = some farthest) :
    (offsets.map limits.windowStart).max? = some (limits.windowStart farthest) := by
  obtain ⟨listed, greatest⟩ := List.max?_eq_some_iff.1 last
  refine List.max?_eq_some_iff.2 ⟨List.mem_map_of_mem listed, ?_⟩
  simp only [List.forall_mem_map]
  exact fun offset other => limits.windowStart_le_windowStart (greatest offset other)

section Fresh

variable (limits : Limits) (memory : Memory) (source : σ) (requests : List Request)

theorem start_serve_fresh :
    ((fresh source limits memory).serve requests).2.start =
      ((((fresh source limits memory).movers requests).map Request.offset).max?.map
        limits.windowStart).getD 0 := by
  have wanted : (((fresh source limits memory).serve requests).2.start) =
      ((((fresh source limits memory).movers requests).map Request.offset).map
        limits.windowStart).foldl max 0 := by
    rw [start_serve, List.map_map]
    rfl
  rw [wanted, List.foldl_max, Nat.zero_max]
  cases last : (((fresh source limits memory).movers requests).map Request.offset).max? with
  | none =>
    rw [List.max?_eq_none_iff.1 last]
    rfl
  | some farthest =>
    rw [max?_map_windowStart limits last]
    rfl

theorem start_serve_le_sub {farthest : Nat}
    (last : (((fresh source limits memory).movers requests).map Request.offset).max? =
      some farthest) :
    ((fresh source limits memory).serve requests).2.start ≤ farthest - 2 * limits.chunk := by
  obtain ⟨request, listed, rfl⟩ := List.mem_map.1 (List.max?_eq_some_iff.1 last).1
  have fits := mem_movers _ requests request listed
  rw [start_serve_fresh, last]
  exact windowStart_le_sub limits request.offset (by omega)

theorem roomy_serve_fresh :
    Roomy ((requests.map Request.length).max?.getD 0)
      ((fresh source limits memory).serve requests).2 := by
  have empty : Roomy ((requests.map Request.length).max?.getD 0) (fresh source limits memory) :=
    ⟨Nat.le_refl 0, Nat.zero_le _⟩
  exact empty.serve fun request listed =>
    List.le_max?_getD_of_mem (List.mem_map_of_mem listed)

/-- After every sequence of requests, refused and failed ones included, a window is aligned, stands
where the farthest request that has moved it wants it, and is no larger than the longest one
needs. -/
theorem serve_bounded :
    Bounded limits requests ((fresh source limits memory).movers requests)
      ((fresh source limits memory).serve requests).2 := by
  have roomy := roomy_serve_fresh limits memory source requests
  constructor
  case chunk_dvd_start =>
    rw [start_serve_fresh]
    cases (((fresh source limits memory).movers requests).map Request.offset).max? with
    | none => exact Nat.dvd_zero _
    | some farthest => exact limits.dvd_windowStart farthest
  case start_eq => exact start_serve_fresh limits memory source requests
  case start_le_sub => exact fun farthest => start_serve_le_sub limits memory source requests
  case looks_back =>
    intro farthest last offset length near
    have behind := start_serve_le_sub limits memory source requests last
    exact request_ne_movedBack (Nat.le_trans behind near) length
  case size_le => exact roomy.size_le
  case allocated_le =>
    have allocated_le := roomy.allocated_le
    rwa [(serve_setting_eq _ requests).1] at allocated_le

end Fresh

end Requests

end SlidingWindow

end DeltaSignature
