import DeltaSignature.Proofs.SlidingWindow.Views
import DeltaSignature.Proofs.Transfer.Replay

/-!
# A window over another source

All that a window gets from its source are answers.  So it does the same over any other source that
gives the answers that its own source gave, and that is said here of each step and of a request.  A
recorded source is such a source: over it the window does what it does without a record, and the
calls that it makes are added to the record.  While it moves it makes reads only, and it holds what
they deliver.
-/

namespace DeltaSignature

namespace SlidingWindow

open ByteSource (Replays)

variable {σ : Type}

section Filling

variable [ByteReader σ] {goal reads : Nat} {held : ByteArray} {source next : σ}

theorem fill_of_full (reached : goal ≤ held.size) :
    fill goal held reads source = ⟨.full, held, reads, source⟩ := by
  rw [fill, if_pos reached]

theorem fill_of_interrupted (lacking : ¬ goal ≤ held.size)
    (answer : ByteReader.read source (goal - held.size) = (.interrupted, next)) :
    fill goal held reads source = fill goal held (reads + 1) next := by
  rw [fill, if_neg lacking]
  split <;> cases answer.symm.trans ‹_›
  rfl

theorem fill_of_failed (lacking : ¬ goal ≤ held.size) {failure : IoFailure}
    (answer : ByteReader.read source (goal - held.size) = (.failed failure, next)) :
    fill goal held reads source = ⟨.failed failure, held, reads + 1, next⟩ := by
  rw [fill, if_neg lacking]
  split <;> cases answer.symm.trans ‹_›
  rfl

theorem fill_of_delivered (lacking : ¬ goal ≤ held.size) {piece : ByteArray}
    (answer : ByteReader.read source (goal - held.size) = (.delivered piece, next)) :
    fill goal held reads source =
      if piece.isEmpty then ⟨.ended, held, reads + 1, next⟩
      else fill goal (held ++ piece) (reads + 1) next := by
  rw [fill, if_neg lacking]
  split <;> cases answer.symm.trans ‹_›
  rfl

/-- The outcome of reading, with another source in the place of what is left of its own. -/
def Filling.onto {τ : Type} (filling : Filling σ) (source : τ) : Filling τ where
  stop := filling.stop
  held := filling.held
  reads := filling.reads
  source := source

end Filling

/-- Reading into a window makes reads only, holds what they deliver, and depends on nothing else. -/
theorem fill_onto [ByteSource σ] (goal : Nat) (held : ByteArray) (reads : Nat) (source : σ) :
    ∃ tape : List SourceCall, (∀ call ∈ tape, call.isRead = true) ∧
      (fill goal held reads source).held.size = held.size + Record.delivered tape ∧
      Replays source tape (fill goal held reads source).source ∧
      ∀ {τ : Type} [ByteSource τ] {other last : τ}, Replays other tape last →
        fill goal held reads other = (fill goal held reads source).onto last := by
  fun_induction fill goal held reads source with
  | case1 held reads source reached =>
    refine ⟨[], by simp, rfl, .nil, fun replays => ?_⟩
    cases replays
    exact fill_of_full reached
  | case2 held reads source lacking next answer ih =>
    obtain ⟨tape, onlyReads, extent, own, same⟩ := ih
    refine ⟨.read (goal - held.size) .interrupted :: tape,
      List.forall_mem_cons.2 ⟨rfl, onlyReads⟩, ?_, .read answer own, fun replays => ?_⟩
    · rw [extent, Record.delivered, Record.delivered, List.map_cons, List.sum_cons]
      exact congrArg (held.size + ·) (Nat.zero_add _).symm
    · cases replays with
      | read answer later => rw [fill_of_interrupted lacking answer, same later]
  | case3 held reads source lacking failure next answer =>
    refine ⟨[.read (goal - held.size) (.failed failure)], by simp [SourceCall.isRead], rfl,
      .read answer .nil, fun replays => ?_⟩
    cases replays with
    | read answer later =>
      cases later
      exact fill_of_failed lacking answer
  | case4 held reads source lacking piece next answer nothing =>
    have none : piece.size = 0 := by simpa [ByteArray.isEmpty] using nothing
    refine ⟨[.read (goal - held.size) (.delivered piece)], by simp [SourceCall.isRead], ?_,
      .read answer .nil, fun replays => ?_⟩
    · exact congrArg (held.size + ·) none.symm
    · cases replays with
      | read answer later =>
        cases later
        rw [fill_of_delivered lacking answer, if_pos nothing]
        rfl
  | case5 held reads source lacking piece next answer something ih =>
    obtain ⟨tape, onlyReads, extent, own, same⟩ := ih
    refine ⟨.read (goal - held.size) (.delivered piece) :: tape,
      List.forall_mem_cons.2 ⟨rfl, onlyReads⟩, ?_, .read answer own, fun replays => ?_⟩
    · rw [extent, ByteArray.size_append, Nat.add_assoc]
      rfl
    · cases replays with
      | read answer later => rw [fill_of_delivered lacking answer, if_neg something, same later]

/-- The window with another source in the place of its own. -/
def onto {τ : Type} (window : SlidingWindow σ) (source : τ) : SlidingWindow τ where
  source := source
  limits := window.limits
  memory := window.memory
  held := window.held
  start := window.start
  allocated := window.allocated
  position := window.position
  ended := window.ended
  stats := window.stats
  trace := window.trace

section Steps

theorem grow_onto {τ : Type} (window : SlidingWindow σ) (other : τ) (size : Nat) :
    (window.onto other).grow size =
      ((window.grow size).1, (window.grow size).2.onto other) := by
  have sameAllocated : (window.onto other).allocated = window.allocated := rfl
  have sameMemory : (window.onto other).memory = window.memory := rfl
  rw [grow, sameAllocated, sameMemory, grow]
  by_cases larger : window.allocated < size
  · rw [if_pos larger, if_pos larger]
    cases window.memory.reserve size <;> rfl
  · rw [if_neg larger, if_neg larger]

variable [ByteSource σ]

theorem moveSource_onto (window : SlidingWindow σ) (target : Nat) :
    ∃ tape : List SourceCall, Replays window.source tape (window.moveSource target).2.source ∧
      ∀ {τ : Type} [ByteSource τ] {other last : τ}, Replays other tape last →
        (window.onto other).moveSource target =
          ((window.moveSource target).1, (window.moveSource target).2.onto last) := by
  have samePosition {τ : Type} (other : τ) :
      (window.onto other).position = window.position := rfl
  by_cases there : window.position = target
  · rw [moveSource, if_pos there]
    refine ⟨[], .nil, fun replays => ?_⟩
    cases replays
    rw [moveSource, samePosition, if_pos there]
  · cases answer : ByteSource.seek window.source target with
    | mk outcome source =>
      rw [moveSource, if_neg there, answer]
      refine ⟨[.seek target outcome], ?_, fun {τ} _ {other last} replays => ?_⟩
      · cases outcome <;> exact .seek answer .nil
      · cases replays with
        | seek answer later =>
          cases later
          have answered : ByteSource.seek (window.onto other).source target = (outcome, _) :=
            answer
          rw [moveSource, samePosition, if_neg there, answered]
          cases outcome <;> rfl

theorem slide_onto (window : SlidingWindow σ) (move : Move) :
    ∃ tape : List SourceCall, Replays window.source tape (window.slide move).2.source ∧
      ∀ {τ : Type} [ByteSource τ] {other last : τ}, Replays other tape last →
        (window.onto other).slide move =
          ((window.slide move).1, (window.slide move).2.onto last) := by
  obtain ⟨tape, -, -, own, same⟩ := fill_onto move.size (window.kept move) 0 window.source
  refine ⟨tape, by rwa [slide_source], fun {τ} _ {other last} replays => ?_⟩
  have sameFilling : (window.onto other).filling move = (window.filling move).onto last :=
    same replays
  cases filled : window.filling move with
  | mk stop held reads source =>
    rw [filled] at sameFilling
    simp only [filling, kept] at filled
    simp only [filling, kept, onto] at sameFilling
    simp only [slide, onto, sameFilling, filled, Filling.onto]
    cases stop <;> rfl

theorem refill_of_denied {window grown : SlidingWindow σ} {offset length : Nat}
    {cause : WindowError}
    (denied : window.grow (window.moveTo offset length).size = (.error cause, grown)) :
    window.refill offset length = (.error cause, grown) := by
  rw [refill, denied]

theorem refill_of_unreachable {window grown placed : SlidingWindow σ} {offset length : Nat}
    {cause : WindowError}
    (granted : window.grow (window.moveTo offset length).size = (.ok (), grown))
    (fits : ¬ window.Overflows offset length)
    (refused : grown.moveSource (window.moveTo offset length).readStart = (.error cause, placed)) :
    window.refill offset length = (.error cause, placed) := by
  rw [refill_of_granted granted fits, refused]

theorem refill_of_placed {window grown placed : SlidingWindow σ} {offset length : Nat}
    (granted : window.grow (window.moveTo offset length).size = (.ok (), grown))
    (fits : ¬ window.Overflows offset length)
    (moved : grown.moveSource (window.moveTo offset length).readStart = (.ok (), placed)) :
    window.refill offset length = placed.slide (window.moveTo offset length) := by
  rw [refill_of_granted granted fits, moved]

theorem refill_onto (window : SlidingWindow σ) (offset length : Nat) :
    ∃ tape : List SourceCall,
      Replays window.source tape (window.refill offset length).2.source ∧
      ∀ {τ : Type} [ByteSource τ] {other last : τ}, Replays other tape last →
        (window.onto other).refill offset length =
          ((window.refill offset length).1, (window.refill offset length).2.onto last) := by
  cases granted : window.grow (window.moveTo offset length).size with
  | mk allowed grown =>
    have grownOnto {τ : Type} (other : τ) :
        (window.onto other).grow (window.moveTo offset length).size =
          (allowed, grown.onto other) := by
      rw [grow_onto, granted]
    cases allowed with
    | error cause =>
      obtain ⟨rfl, -⟩ := grow_eq_error granted
      rw [refill_of_denied granted]
      refine ⟨[], .nil, fun {τ} _ {other last} replays => ?_⟩
      cases replays
      exact refill_of_denied (grownOnto other)
    | ok =>
      have sameSource : grown.source = window.source := by rw [grow_eq_ok granted]
      by_cases overflows : window.Overflows offset length
      · rw [refill_of_overflow granted overflows, ← sameSource]
        refine ⟨[], .nil, fun {τ} _ {other last} replays => ?_⟩
        cases replays
        exact refill_of_overflow (grownOnto other) overflows
      · obtain ⟨sought, own, moved⟩ :=
          moveSource_onto grown (window.moveTo offset length).readStart
        rw [sameSource] at own
        cases outcome : grown.moveSource (window.moveTo offset length).readStart with
        | mk reached placed =>
          rw [outcome] at own moved
          cases reached with
          | error cause =>
            rw [refill_of_unreachable granted overflows outcome]
            exact ⟨sought, own, fun {τ} _ {other last} replays =>
              refill_of_unreachable (grownOnto other) overflows (moved replays)⟩
          | ok =>
            obtain ⟨read, ownReads, slid⟩ := slide_onto placed (window.moveTo offset length)
            rw [refill_of_placed granted overflows outcome]
            refine ⟨sought ++ read, own.trans ownReads, fun {τ} _ {other last} replays => ?_⟩
            obtain ⟨middle, first, second⟩ := replays.exists_of_append
            exact (refill_of_placed (grownOnto other) overflows (moved first)).trans (slid second)

theorem request_onto (window : SlidingWindow σ) (offset length : Nat) :
    ∃ tape : List SourceCall,
      Replays window.source tape (window.request offset length).2.source ∧
      ∀ {τ : Type} [ByteSource τ] {other last : τ}, Replays other tape last →
        (window.onto other).request offset length =
          ((window.request offset length).1, (window.request offset length).2.onto last) := by
  obtain ⟨tape, own, same⟩ := refill_onto window offset length
  have sameStart {τ : Type} (other : τ) : (window.onto other).start = window.start := rfl
  have sameStop {τ : Type} (other : τ) : (window.onto other).stop = window.stop := rfl
  have sameEnded {τ : Type} (other : τ) : (window.onto other).ended = window.ended := rfl
  simp only [request, sameStart, sameStop, sameEnded]
  split_ifs
  case neg =>
    generalize window.refill offset length = refilled at own same
    obtain ⟨outcome, after⟩ := refilled
    refine ⟨tape, ?_, fun replays => ?_⟩
    · cases outcome <;> exact own
    · simp only [same replays]
      cases outcome <;> rfl
  all_goals
    refine ⟨[], .nil, fun replays => ?_⟩
    cases replays
    rfl

end Steps

section Recording

variable [ByteSource σ]

/-- The window with a record of calls added to its source. -/
def recording (window : SlidingWindow σ) (calls : List SourceCall) :
    SlidingWindow (Recorded σ) :=
  window.onto ⟨window.source, calls⟩

/-- Reading into a window makes reads only, and it holds what they deliver. -/
theorem fill_recording (goal : Nat) (held : ByteArray) (reads : Nat) (source : σ) :
    ∃ tape : List SourceCall, (∀ call ∈ tape, call.isRead = true) ∧
      (fill goal held reads source).held.size = held.size + Record.delivered tape ∧
      ∀ calls, fill goal held reads (⟨source, calls⟩ : Recorded σ) =
        (fill goal held reads source).onto
          ⟨(fill goal held reads source).source, calls ++ tape⟩ := by
  obtain ⟨tape, onlyReads, extent, own, same⟩ := fill_onto goal held reads source
  exact ⟨tape, onlyReads, extent, fun calls => same (own.recorded calls)⟩

theorem request_recording {window next : SlidingWindow σ} {offset length : Nat}
    {answer : Except WindowError View} (answered : window.request offset length = (answer, next)) :
    ∃ tape : List SourceCall, ∀ calls, (window.recording calls).request offset length =
      (answer, next.recording (calls ++ tape)) := by
  obtain ⟨tape, own, same⟩ := request_onto window offset length
  rw [answered] at own same
  exact ⟨tape, fun calls => same (own.recorded calls)⟩

end Recording

end SlidingWindow

end DeltaSignature
