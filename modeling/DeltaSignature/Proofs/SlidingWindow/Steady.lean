import DeltaSignature.Proofs.SlidingWindow.Views

/-!
# Reading on without a gap

Over a source whose reads never fail, a window that is asked for ranges that start inside it, or
right behind it, needs neither luck nor a source that can be moved: as long as the host grants the
memory, every request is answered.
-/

namespace DeltaSignature

namespace SlidingWindow

variable {σ : Type} {content : ByteArray} {stands : σ → Nat → Prop}

section Setting

variable {window : SlidingWindow σ} {offset length : Nat}

/-- A range that starts in the window or right behind it, and that the host has the memory for. -/
structure Within (window : SlidingWindow σ) (offset length : Nat) : Prop where
  length_pos : 0 < length
  start_le : window.start ≤ offset
  le_stop : offset ≤ window.stop
  fits : offset + length + window.limits.span < 0x1_0000_0000_0000_0000
  sized : max (min offset (3 * window.limits.chunk) + length) window.limits.span <
    0x8000_0000_0000_0000
  granted : max (min offset (3 * window.limits.chunk) + length) window.limits.span ≤
    window.memory.largest

theorem Within.reserve_eq (within : window.Within offset length) :
    window.memory.reserve (window.moveTo offset length).size = .ok () := by
  have bounded := moveTo_size_le length within.start_le
  have widest := moveTo_size_le_widest length within.start_le
  have sized := within.sized
  have granted := within.granted
  rw [Memory.reserve, if_neg (by omega), if_neg (by omega)]

end Setting

section Requests

variable [ByteSource σ] {window next : SlidingWindow σ} {offset length : Nat}
  {answer : Except WindowError View}

/-- No request changes the shape of the window or what the host grants. -/
theorem Requested.setting_eq (requested : Requested window offset length answer next) :
    next.limits = window.limits ∧ next.memory = window.memory := by
  cases requested with
  | misused | denied => exact ⟨rfl, rfl⟩
  | hit => exact ⟨rfl, rfl⟩
  | overflowed exceeds granted | unreachable exceeds granted =>
    obtain rfl := grow_eq_ok granted
    exact ⟨rfl, rfl⟩
  | slid exceeds granted moved =>
    obtain ⟨source, position, stats, trace, rfl⟩ := placed_eq granted moved
    exact ⟨slide_limits .., slide_memory ..⟩

theorem serve_setting_eq (window : SlidingWindow σ) (requests : List Request) :
    (window.serve requests).2.limits = window.limits ∧
      (window.serve requests).2.memory = window.memory := by
  induction requests generalizing window with
  | nil => exact ⟨rfl, rfl⟩
  | cons request requests ih =>
    obtain ⟨sameLimits, sameMemory⟩ :=
      (requested_request window request.offset request.length).setting_eq
    obtain ⟨limits, memory⟩ := ih (window.request request.offset request.length).2
    exact ⟨limits.trans sameLimits, memory.trans sameMemory⟩

theorem Faithful.answered (serves : ByteSource.Serves content stands)
    (steady : ByteReader.NeverFails stands) (faithful : Faithful content stands window)
    (within : window.Within offset length)
    (requested : Requested window offset length answer next) : ∃ view, answer = .ok view := by
  have fits := within.fits
  cases requested with
  | misused misfit =>
    have := within.length_pos
    have := within.start_le
    omega
  | hit => exact ⟨_, rfl⟩
  | denied exceeds refused => cases within.reserve_eq.symm.trans refused
  | overflowed exceeds granted overflows =>
    exact absurd overflows (exceeds.not_overflows (by omega))
  | unreachable exceeds granted elsewhere refused =>
    have onward := moveTo_readStart exceeds within.le_stop
    exact absurd (faithful.position_eq.trans onward.symm) elsewhere
  | @slid grown placed exceeds granted moved =>
    have sound := faithful.filling_sound serves (faithful.poised serves granted moved)
    have succeeded : (placed.slide (window.moveTo offset length)).1 = .ok () := by
      simp only [SlidingWindow.slide]
      split
      next => rfl
      next => rfl
      next failure failed => exact absurd failed (sound.ne_failed steady failure)
    exact ⟨_, by rw [succeeded]; rfl⟩

/-- A request that is answered leaves a window in which the next range may start right behind the
view. -/
theorem Faithful.le_stop_of_granted (serves : ByteSource.Serves content stands)
    (faithful : Faithful content stands window) {view : View}
    (requested : Requested window offset length answer next) (granted : answer = .ok view)
    (inside : offset ≤ content.size) : offset + view.bytes.size ≤ next.stop := by
  have faithfulNext := faithful.requested serves requested
  obtain ⟨rfl, forward, covers⟩ := faithful.granted serves requested granted
  rw [faithfulNext.view_bytes forward covers, ByteArray.size_extract]
  rcases covers with covered | ended
  · omega
  · have atEnd := faithfulNext.size_le_stop ended
    omega

end Requests

end SlidingWindow

end DeltaSignature
