import DeltaSignature.Proofs.SlidingWindow.Request
import DeltaSignature.Proofs.Transfer.Delivery

/-!
# A window shows its source

A window over a well-behaved source is faithful: what it holds is a piece of the content, the source
stands right behind that piece, and once the end was noticed nothing is left behind it.  Every
request preserves this, whatever it answers, and every view of a faithful window shows the range
that was asked for.
-/

namespace DeltaSignature

namespace SlidingWindow

variable {σ : Type} {content : ByteArray} {stands : σ → Nat → Prop}

/-- The window holds a piece of the content, and its source stands, as the window knows, right
behind it.  Once the end was noticed nothing follows. -/
structure Faithful (content : ByteArray) (stands : σ → Nat → Prop) (window : SlidingWindow σ) :
    Prop where
  stands_stop : stands window.source window.stop
  position_eq : window.position = window.stop
  held_part : PartAt content window.start window.held
  size_le_stop : window.ended = true → content.size ≤ window.stop

/-- A window that has read nothing yet. -/
def fresh (source : σ) (limits : Limits) (memory : Memory) : SlidingWindow σ :=
  { source, limits, memory }

theorem faithful_fresh {source : σ} (atStart : stands source 0) (limits : Limits)
    (memory : Memory) : Faithful content stands (fresh source limits memory) where
  stands_stop := atStart
  position_eq := rfl
  held_part := PartAt.empty content 0
  size_le_stop := by simp [fresh]

section Views

variable {window : SlidingWindow σ} {offset length : Nat}

/-- The part of a view that is inside the window is the part of the content that was asked for. -/
theorem Faithful.view_bytes (faithful : Faithful content stands window)
    (forward : window.start ≤ offset) (covers : window.Covers offset length) :
    (window.view offset length).bytes = content.extract offset (offset + length) := by
  have extent : window.stop = window.start + window.held.size := rfl
  have held := faithful.held_part
  rw [PartAt, ← extent] at held
  have atEnd := faithful.size_le_stop
  simp only [view]
  by_cases inside : offset ≤ window.stop
  · have shown : window.start + min (offset - window.start) window.held.size = offset := by omega
    rw [held, ByteArray.extract_extract, ← held, shown]
    apply extract_eq_of_min_eq
    rcases covers with covered | ended
    · omega
    · have := atEnd ended
      omega
  · have ended : window.ended = true := covers.resolve_left (by omega)
    have := atEnd ended
    have nothing : content.extract offset (offset + length) = .empty := by
      rw [ByteArray.extract_eq_empty_iff]
      omega
    rw [nothing, ByteArray.extract_eq_empty_iff]
    omega

theorem Faithful.view_ended_of_short (forward : window.start ≤ offset)
    (covers : window.Covers offset length)
    (short : (window.view offset length).bytes.size < length) :
    (window.view offset length).ended = true := by
  have extent : window.stop = window.start + window.held.size := rfl
  simp only [view, ByteArray.size_extract, Bool.and_eq_true, beq_iff_eq] at short ⊢
  constructor
  · exact covers.resolve_left (by omega)
  · omega

theorem Faithful.size_le_of_view_ended (faithful : Faithful content stands window)
    (forward : window.start ≤ offset) (ended : (window.view offset length).ended = true) :
    content.size ≤ offset + (window.view offset length).bytes.size := by
  have extent : window.stop = window.start + window.held.size := rfl
  simp only [view, ByteArray.size_extract, Bool.and_eq_true, beq_iff_eq] at ended ⊢
  have atEnd := faithful.size_le_stop ended.1
  have last := ended.2
  omega

end Views

section Filling

variable [ByteReader σ]

/-- What reading into a window comes to, if the window is to hold `goal` bytes from `start` on and
holds `before` of them.  Reading stops short of the goal only at the end of the content, or at a
failed read. -/
structure Filling.Sound (content : ByteArray) (stands : σ → Nat → Prop)
    (start goal before : Nat) (filling : Filling σ) : Prop where
  held_part : PartAt content start filling.held
  stands_stop : stands filling.source (start + filling.held.size)
  before_le : before ≤ filling.held.size
  goal_le : filling.stop = .full → goal ≤ filling.held.size
  size_le : filling.stop = .ended → content.size ≤ start + filling.held.size
  ne_failed : ByteReader.NeverFails stands → ∀ failure, filling.stop ≠ .failed failure

theorem fill_sound (delivers : ByteReader.Delivers content stands) {start goal reads : Nat}
    {held : ByteArray} {source : σ} (part : PartAt content start held)
    (standing : stands source (start + held.size)) :
    (fill goal held reads source).Sound content stands start goal held.size := by
  fun_induction fill goal held reads source with
  | case1 held reads source reached =>
    exact
      { held_part := part
        stands_stop := standing
        before_le := Nat.le_refl _
        goal_le := fun _ => reached
        size_le := by simp
        ne_failed := by simp }
  | case2 held reads source lacking next answer ih =>
    exact ih part (delivers.stands_of_interrupted standing (by omega) answer)
  | case3 held reads source lacking failure next answer =>
    exact
      { held_part := part
        stands_stop := delivers.stands_of_failed standing (by omega) answer
        before_le := Nat.le_refl _
        goal_le := by simp
        size_le := by simp
        ne_failed := fun steady _ => absurd answer (steady standing (by omega)) }
  | case4 held reads source lacking piece next answer nothing =>
    obtain ⟨-, moved⟩ := delivers.part_of_delivered standing (by omega) answer
    have none : piece.size = 0 := by simpa [ByteArray.isEmpty] using nothing
    rw [none, Nat.add_zero] at moved
    have atEnd := delivers.size_le_of_empty standing (by omega) answer nothing
    exact
      { held_part := part
        stands_stop := moved
        before_le := Nat.le_refl _
        goal_le := by simp
        size_le := fun _ => atEnd
        ne_failed := by simp }
  | case5 held reads source lacking piece next answer something ih =>
    obtain ⟨follows, moved⟩ := delivers.part_of_delivered standing (by omega) answer
    have extent : (held ++ piece).size = held.size + piece.size := ByteArray.size_append
    have sound := ih (part.append follows) (by rwa [extent, ← Nat.add_assoc])
    exact { sound with before_le := by have := sound.before_le; omega }

end Filling

section Sliding

variable {window grown placed : SlidingWindow σ} {offset length : Nat}

/-- The window has not moved yet, and its source stands where reading is to go on. -/
structure Poised (stands : σ → Nat → Prop) (window : SlidingWindow σ) (target : Nat)
    (placed : SlidingWindow σ) : Prop where
  stands_target : stands placed.source target
  position_eq : placed.position = target
  held_eq : placed.held = window.held
  start_eq : placed.start = window.start
  ended_eq : placed.ended = window.ended

theorem Faithful.poised [ByteSource σ] (serves : ByteSource.Serves content stands)
    (faithful : Faithful content stands window) {size target : Nat}
    (granted : window.grow size = (.ok (), grown))
    (moved : grown.moveSource target = (.ok (), placed)) : Poised stands window target placed := by
  obtain rfl := grow_eq_ok granted
  rcases moveSource_eq_ok moved with ⟨there, rfl⟩ | ⟨-, source, sought, rfl⟩
  · have standing := faithful.stands_stop
    rw [← faithful.position_eq, show window.position = target from there] at standing
    exact ⟨standing, there, rfl, rfl, rfl⟩
  · exact ⟨serves.stands_of_moved faithful.stands_stop sought, rfl, rfl, rfl, rfl⟩

/-- What a window keeps when it moves is the start of what it is to hold. -/
theorem Faithful.kept_part (faithful : Faithful content stands window) (offset length : Nat) :
    PartAt content (window.moveTo offset length).start (window.kept (window.moveTo offset length)) ∧
      (window.kept (window.moveTo offset length)).size = (window.moveTo offset length).reused := by
  have suits := suits_moveTo window offset length
  refine ⟨?_, size_kept suits⟩
  by_cases none : (window.moveTo offset length).reused = 0
  · have nothing : window.kept (window.moveTo offset length) = .empty := by
      simp [kept, none]
    rw [nothing]
    exact PartAt.empty ..
  · have reaches := suits.reaches.resolve_left none
    have extent : window.stop = window.start + window.held.size := rfl
    have cut : (window.moveTo offset length).start - window.start ≤ window.held.size := by omega
    have part := faithful.held_part.extract cut (Nat.le_refl _)
    rw [Nat.add_sub_cancel' suits.start_le] at part
    rwa [kept, if_neg none]

variable [ByteSource σ]

theorem Faithful.filling_sound (serves : ByteSource.Serves content stands)
    (faithful : Faithful content stands window)
    (poised : Poised stands window (window.moveTo offset length).readStart placed) :
    (placed.filling (window.moveTo offset length)).Sound content stands
      (window.moveTo offset length).start (window.moveTo offset length).size
      (window.moveTo offset length).reused := by
  obtain ⟨part, extent⟩ := faithful.kept_part offset length
  have same : placed.kept (window.moveTo offset length) =
      window.kept (window.moveTo offset length) := by
    simp only [kept, poised.held_eq, poised.start_eq]
  have standing := poised.stands_target
  rw [Move.readStart, ← extent] at standing
  rw [filling, same, ← extent]
  exact fill_sound serves.toDelivers part standing

theorem Faithful.slide (serves : ByteSource.Serves content stands)
    (faithful : Faithful content stands window) (exceeds : window.Exceeds offset length)
    (poised : Poised stands window (window.moveTo offset length).readStart placed) :
    Faithful content stands (placed.slide (window.moveTo offset length)).2 := by
  have sound := faithful.filling_sound serves poised
  have before := sound.before_le
  have unended : placed.ended = false := poised.ended_eq.trans exceeds.unended
  constructor
  · rw [slide_source, slide_stop]
    exact sound.stands_stop
  · rw [slide_position, slide_stop, poised.position_eq, Move.readStart]
    omega
  · rw [slide_start, slide_held]
    exact sound.held_part
  · rw [slide_stop]
    intro ended
    apply sound.size_le
    exact (slide_ended_iff _ _ unended).1 ended

/-- A window that has moved without a failed read covers the range asked for. -/
theorem Faithful.covers_of_slide (serves : ByteSource.Serves content stands)
    (faithful : Faithful content stands window) (exceeds : window.Exceeds offset length)
    (poised : Poised stands window (window.moveTo offset length).readStart placed)
    (succeeded : (placed.slide (window.moveTo offset length)).1 = .ok ()) :
    (placed.slide (window.moveTo offset length)).2.Covers offset length := by
  have sound := faithful.filling_sound serves poised
  have reaches := le_moveTo_end length exceeds.start_le
  rw [Covers, slide_stop]
  simp only [SlidingWindow.slide] at succeeded ⊢
  split at succeeded
  next full =>
    left
    have := sound.goal_le full
    omega
  next => exact Or.inr rfl
  next => contradiction

end Sliding

section Requests

variable [ByteSource σ] {window next : SlidingWindow σ} {offset length : Nat}
  {answer : Except WindowError View}

/-- Whatever a request answers, it leaves a faithful window behind. -/
theorem Faithful.requested (serves : ByteSource.Serves content stands)
    (faithful : Faithful content stands window)
    (requested : Requested window offset length answer next) : Faithful content stands next := by
  cases requested with
  | misused | denied => exact faithful
  | hit => exact ⟨faithful.1, faithful.2, faithful.3, faithful.4⟩
  | overflowed exceeds granted =>
    obtain rfl := grow_eq_ok granted
    exact ⟨faithful.1, faithful.2, faithful.3, faithful.4⟩
  | unreachable exceeds granted elsewhere refused =>
    obtain rfl := grow_eq_ok granted
    have standing := serves.stands_of_refused faithful.stands_stop refused
    exact ⟨standing, faithful.2, faithful.3, faithful.4⟩
  | slid exceeds granted moved =>
    exact faithful.slide serves exceeds (faithful.poised serves granted moved)

/-- A view that was granted is one of the window as it is now, and the window covers it. -/
theorem Faithful.granted (serves : ByteSource.Serves content stands)
    (faithful : Faithful content stands window) {view : View}
    (requested : Requested window offset length answer next) (granted : answer = .ok view) :
    view = next.view offset length ∧ next.start ≤ offset ∧ next.Covers offset length := by
  cases requested with
  | misused | denied | overflowed | unreachable => cases granted
  | hit length_pos fits start_le covers => exact ⟨(Except.ok.inj granted).symm, start_le, covers⟩
  | @slid grown placed exceeds grew moved =>
    have poised := faithful.poised serves grew moved
    cases succeeded : (placed.slide (window.moveTo offset length)).1 with
    | error cause =>
      rw [succeeded] at granted
      cases granted
    | ok =>
      rw [succeeded] at granted
      refine ⟨(Except.ok.inj granted).symm, ?_, ?_⟩
      · rw [slide_start]
        exact moveTo_start_le length exceeds.start_le
      · exact faithful.covers_of_slide serves exceeds poised succeeded

end Requests

end SlidingWindow

end DeltaSignature
