import DeltaSignature.Proofs.SlidingWindow.Geometry
import DeltaSignature.Proofs.SlidingWindow.Recording
import DeltaSignature.Proofs.SlidingWindow.Wrapping
import DeltaSignature.Proofs.Transfer.Pace

/-!
# The pace of a source does not show

A window reads until it has what it was to hold, or until nothing is left.  Unless a read fails,
what it holds then depends on the content alone.  So two windows over sources that deliver the same
content at different paces, and that agree on whether they can be moved, cannot be told apart, but
for the number of their reads.  `Alike` relates two such windows, and every request keeps it.
-/

namespace DeltaSignature

open ByteSource (Agree Twins)

namespace SlidingWindow

variable {σ τ : Type} {content : ByteArray} {stands : σ → Nat → Prop}
  {standsOther : τ → Nat → Prop}

section Filling

variable [ByteReader σ] {goal : Nat}

/-- Unless nothing is lacking, reading stops at the end of the source or because it fails. -/
theorem stop_fill_eq_full_iff {held : ByteArray} {reads : Nat} {source : σ} :
    (fill goal held reads source).stop = .full ↔
      goal ≤ (fill goal held reads source).held.size := by
  fun_induction fill goal held reads source with
  | case1 held reads source reached => exact iff_of_true rfl reached
  | case2 held reads source lacking next answer ih => exact ih
  | case3 held reads source lacking | case4 held reads source lacking =>
    refine iff_of_false ?_ lacking
    intro full
    cases full
  | case5 held reads source lacking piece next answer something ih => exact ih

/-- Reading notices the end of the source only while something is lacking. -/
theorem size_fill_lt_of_ended {held : ByteArray} {reads : Nat} {source : σ}
    (ended : (fill goal held reads source).stop = .ended) :
    (fill goal held reads source).held.size < goal := by
  apply Nat.lt_of_not_le
  intro reached
  cases ended.symm.trans (stop_fill_eq_full_iff.2 reached)

/-- What every read of a source keeps is kept when a window is filled. -/
theorem fill_keeps (keeps : σ → Prop)
    (step : ∀ (source : σ) (size : Nat), keeps source → keeps (ByteReader.read source size).2)
    {source : σ} (kept : keeps source) (held : ByteArray) (reads : Nat) :
    keeps (fill goal held reads source).source := by
  fun_induction fill goal held reads source with
  | case1 => exact kept
  | case2 held reads source lacking next answer ih =>
    have read := step source (goal - held.size) kept
    rw [answer] at read
    exact ih read
  | case3 held reads source lacking failure next answer
  | case4 held reads source lacking piece next answer =>
    have read := step source (goal - held.size) kept
    rwa [answer] at read
  | case5 held reads source lacking piece next answer something ih =>
    have read := step source (goal - held.size) kept
    rw [answer] at read
    exact ih read

/-- All of a range was read, as far as there is any of it, and the end was noticed just if the range
goes past it. -/
structure Filling.Whole (content : ByteArray) (start goal : Nat) (filling : Filling σ) : Prop where
  held_eq : filling.held = content.extract start (start + goal)
  stop_eq : filling.stop = if start + goal ≤ content.size then .full else .ended

theorem Filling.Sound.whole {start before : Nat} {filling : Filling σ}
    (sound : filling.Sound content stands start goal before)
    (steady : ByteReader.NeverFails stands) (positive : 0 < goal)
    (small : filling.held.size ≤ goal)
    (lacking : filling.stop = .ended → filling.held.size < goal) :
    filling.Whole content start goal := by
  have part := sound.held_part
  have extent := congrArg ByteArray.size part
  rw [ByteArray.size_extract] at extent
  cases outcome : filling.stop with
  | full =>
    have reached := Nat.le_antisymm small (sound.goal_le outcome)
    constructor
    · rwa [PartAt, reached] at part
    · rw [if_pos (by omega), outcome]
  | ended =>
    have atEnd := sound.size_le outcome
    have short := lacking outcome
    constructor
    · exact part.trans (extract_eq_of_min_eq (by omega))
    · rw [if_neg (by omega), outcome]
  | failed failure => exact absurd outcome (sound.ne_failed steady failure)

end Filling

section Answers

/-- The same answer, or refusals of the same move with failures that are `like` each other. -/
inductive SameAnswer {α : Type} (like : IoFailure → IoFailure → Prop) :
    Except WindowError α → Except WindowError α → Prop where
  | same (answer : Except WindowError α) : SameAnswer like answer answer
  | seek {target : Nat} {failure other : IoFailure} (alike : like failure other) :
      SameAnswer like (.error (.seek target failure)) (.error (.seek target other))

/-- The window with another number of reads. -/
def withReads (window : SlidingWindow σ) (reads : Nat) : SlidingWindow σ :=
  { window with stats := { window.stats with reads } }

/-- The windows differ in nothing but their sources, which are related, and the number of their
reads. -/
structure Alike (related : σ → τ → Prop) (first : SlidingWindow σ) (second : SlidingWindow τ) :
    Prop where
  second_eq : second = (first.onto second.source).withReads second.stats.reads
  sources : related first.source second.source

namespace Alike

variable {related : σ → τ → Prop} {first : SlidingWindow σ} {second : SlidingWindow τ}

theorem start_eq (alike : Alike related first second) : second.start = first.start := by
  rw [alike.second_eq]
  rfl

theorem held_eq (alike : Alike related first second) : second.held = first.held := by
  rw [alike.second_eq]
  rfl

theorem stop_eq (alike : Alike related first second) : second.stop = first.stop := by
  rw [stop, stop, alike.start_eq, alike.held_eq]

theorem ended_eq (alike : Alike related first second) : second.ended = first.ended := by
  rw [alike.second_eq]
  rfl

theorem memory_eq (alike : Alike related first second) : second.memory = first.memory := by
  rw [alike.second_eq]
  rfl

theorem allocated_eq (alike : Alike related first second) :
    second.allocated = first.allocated := by
  rw [alike.second_eq]
  rfl

theorem position_eq (alike : Alike related first second) : second.position = first.position := by
  rw [alike.second_eq]
  rfl

theorem trace_eq (alike : Alike related first second) : second.trace = first.trace := by
  rw [alike.second_eq]
  rfl

theorem stats_eq (alike : Alike related first second) :
    { second.stats with reads := first.stats.reads } = first.stats := by
  rw [alike.second_eq]
  rfl

theorem moveTo_eq (alike : Alike related first second) (offset length : Nat) :
    second.moveTo offset length = first.moveTo offset length := by
  rw [alike.second_eq]
  rfl

theorem overflows_iff (alike : Alike related first second) {offset length : Nat} :
    second.Overflows offset length ↔ first.Overflows offset length := by
  rw [Overflows, alike.moveTo_eq, alike.stop_eq]
  rfl

theorem view_eq (alike : Alike related first second) (offset length : Nat) :
    second.view offset length = first.view offset length := by
  rw [alike.second_eq]
  rfl

end Alike

end Answers

section Steps

variable {like : IoFailure → IoFailure → Prop} {related : σ → τ → Prop}
  {first : SlidingWindow σ} {second : SlidingWindow τ} {offset length : Nat}

theorem Alike.grow (alike : Alike related first second) (size : Nat) :
    (second.grow size).1 = (first.grow size).1 ∧
      Alike related (first.grow size).2 (second.grow size).2 := by
  simp only [SlidingWindow.grow, alike.allocated_eq, alike.memory_eq]
  split
  next =>
    split
    next =>
      refine ⟨rfl, ?_, alike.sources⟩
      rw [alike.second_eq]
      rfl
    next => exact ⟨rfl, alike⟩
  next => exact ⟨rfl, alike⟩

variable [ByteSource σ] [ByteSource τ]

theorem Alike.moveSource (agree : Agree like stands standsOther related)
    (alike : Alike related first second) {place : Nat} (standing : stands first.source place)
    (standingOther : standsOther second.source place) (target : Nat) :
    SameAnswer like (first.moveSource target).1 (second.moveSource target).1 ∧
      Alike related (first.moveSource target).2 (second.moveSource target).2 := by
  obtain ⟨outcomes, sourcesNext⟩ := agree.seek target alike.sources standing standingOther
  simp only [SlidingWindow.moveSource, alike.position_eq]
  split
  next => exact ⟨.same _, alike⟩
  next =>
    generalize ByteSource.seek first.source target = sought at outcomes sourcesNext
    generalize ByteSource.seek second.source target = soughtOther at outcomes sourcesNext
    obtain ⟨outcome, source⟩ := sought
    obtain ⟨outcomeOther, other⟩ := soughtOther
    cases outcomes with
    | moved =>
      refine ⟨.same _, ?_, sourcesNext⟩
      rw [alike.second_eq]
      rfl
    | refused likely =>
      refine ⟨.seek likely, ?_, sourcesNext⟩
      rw [alike.second_eq]
      rfl

theorem Alike.slide (agree : Agree like stands standsOther related)
    (alike : Alike related first second) {move : Move} {start goal : Nat}
    (whole : (first.filling move).Whole content start goal)
    (wholeOther : (second.filling move).Whole content start goal) :
    (second.slide move).1 = (first.slide move).1 ∧
      Alike related (first.slide move).2 (second.slide move).2 := by
  have sameKept : second.kept move = first.kept move := by
    rw [alike.second_eq]
    rfl
  have sourceRead : related (first.filling move).source second.source :=
    fill_keeps (related · second.source) (fun _ => agree.related_of_read) alike.sources _ _
  have sources : related (first.filling move).source (second.filling move).source :=
    fill_keeps (related (first.filling move).source) (fun _ => agree.related_of_read_other)
      sourceRead _ _
  have sameHeld := wholeOther.held_eq.trans whole.held_eq.symm
  have sameStop := wholeOther.stop_eq.trans whole.stop_eq.symm
  obtain ⟨second_eq, -⟩ := alike
  generalize second.source = other, second.stats.reads = count at second_eq
  subst second_eq
  cases filled : first.filling move with
  | mk stop held reads source =>
    cases filledOther : ((first.onto other).withReads count).filling move with
    | mk stopOther heldOther readsOther sourceOther =>
      rw [filled, filledOther] at sources sameHeld sameStop
      obtain rfl : heldOther = held := sameHeld
      obtain rfl : stopOther = stop := sameStop
      simp only [filling, kept] at filled
      simp only [filling, kept, withReads, onto] at filledOther
      simp only [SlidingWindow.slide, withReads, onto, filled, filledOther]
      cases stopOther <;> exact ⟨rfl, rfl, sources⟩

end Steps

section Slides

variable [ByteSource σ] {window grown placed : SlidingWindow σ} {offset length : Nat}

/-- A window that moves to a range reads all of it, unless a read fails. -/
theorem Faithful.filling_whole (serves : ByteSource.Serves content stands)
    (steady : ByteReader.NeverFails stands) (faithful : Faithful content stands window)
    (granted : window.grow (window.moveTo offset length).size = (.ok (), grown))
    (moved : grown.moveSource (window.moveTo offset length).readStart = (.ok (), placed)) :
    (placed.filling (window.moveTo offset length)).Whole content
      (window.moveTo offset length).start (window.moveTo offset length).size := by
  have sound := faithful.filling_sound serves (faithful.poised serves granted moved)
  have wide := moveTo_size_eq window offset length
  have span_pos := window.limits.span_pos
  exact sound.whole steady (by omega) (size_filling_le granted moved offset length)
    size_fill_lt_of_ended

end Slides

section Runs

variable [ByteSource σ] [ByteSource τ] {like : IoFailure → IoFailure → Prop}
  {related : σ → τ → Prop} {first grown : SlidingWindow σ}
  {second grownOther : SlidingWindow τ} {offset length : Nat}

/-- Two windows over sources of the same content that cannot be told apart but by their reads. -/
structure Paired (content : ByteArray) (stands : σ → Nat → Prop) (standsOther : τ → Nat → Prop)
    (related : σ → τ → Prop) (first : SlidingWindow σ) (second : SlidingWindow τ) : Prop where
  faithful : Faithful content stands first
  faithful_other : Faithful content standsOther second
  alike : Alike related first second

theorem Paired.refill_of_grown (twins : Twins content like stands standsOther related)
    (paired : Paired content stands standsOther related first second)
    (granted : first.grow (first.moveTo offset length).size = (.ok (), grown))
    (grantedOther : second.grow (second.moveTo offset length).size = (.ok (), grownOther))
    (alikeGrown : Alike related grown grownOther) (fits : ¬ first.Overflows offset length) :
    SameAnswer like (first.refill offset length).1 (second.refill offset length).1 ∧
      Alike related (first.refill offset length).2 (second.refill offset length).2 := by
  obtain ⟨faithful, faithfulOther, alike⟩ := paired
  have sameMove := alike.moveTo_eq offset length
  have fitsOther : ¬ second.Overflows offset length := by
    rwa [alike.overflows_iff]
  -- The sources agree on the move because both stand where the windows end.
  have standing : stands grown.source first.stop := by
    rw [grow_eq_ok granted]
    exact faithful.stands_stop
  have standingOther : standsOther grownOther.source first.stop := by
    rw [grow_eq_ok grantedOther, ← alike.stop_eq]
    exact faithfulOther.stands_stop
  obtain ⟨sameMoves, alikePlaced⟩ := alikeGrown.moveSource twins.agree standing standingOther
    (first.moveTo offset length).readStart
  cases moved : grown.moveSource (first.moveTo offset length).readStart with
  | mk reached placed =>
    cases movedOther : grownOther.moveSource (first.moveTo offset length).readStart with
    | mk reachedOther placedOther =>
      rw [moved, movedOther] at sameMoves alikePlaced
      rw [← sameMove] at movedOther
      cases reached with
      | error cause =>
        cases reachedOther with
        | ok => cases sameMoves
        | error causeOther =>
          rw [refill_of_unreachable granted fits moved,
            refill_of_unreachable grantedOther fitsOther movedOther]
          exact ⟨sameMoves, alikePlaced⟩
      | ok =>
        cases reachedOther with
        | error causeOther => cases sameMoves
        | ok =>
          have whole := faithful.filling_whole twins.serves twins.steady granted moved
          have wholeOther := faithfulOther.filling_whole twins.serves_other twins.steady_other
            grantedOther movedOther
          rw [refill_of_placed granted fits moved,
            refill_of_placed grantedOther fitsOther movedOther]
          rw [sameMove] at wholeOther ⊢
          obtain ⟨same, alikeNext⟩ := alikePlaced.slide twins.agree whole wholeOther
          rw [same]
          exact ⟨.same _, alikeNext⟩

theorem Paired.refill (twins : Twins content like stands standsOther related)
    (paired : Paired content stands standsOther related first second) (offset length : Nat) :
    SameAnswer like (first.refill offset length).1 (second.refill offset length).1 ∧
      Alike related (first.refill offset length).2 (second.refill offset length).2 := by
  have sameMove := paired.alike.moveTo_eq offset length
  obtain ⟨sameGrowth, alikeGrown⟩ := paired.alike.grow (first.moveTo offset length).size
  cases granted : first.grow (first.moveTo offset length).size with
  | mk allowed grown =>
    cases grantedOther : second.grow (first.moveTo offset length).size with
    | mk allowedOther grownOther =>
      rw [granted, grantedOther] at sameGrowth alikeGrown
      obtain rfl : allowedOther = allowed := sameGrowth
      rw [← sameMove] at grantedOther
      cases allowedOther with
      | error cause =>
        rw [refill_of_denied granted, refill_of_denied grantedOther]
        exact ⟨.same _, alikeGrown⟩
      | ok =>
        by_cases overflows : first.Overflows offset length
        · rw [refill_of_overflow granted overflows,
            refill_of_overflow grantedOther (paired.alike.overflows_iff.2 overflows)]
          exact ⟨.same _, alikeGrown⟩
        · exact paired.refill_of_grown twins granted grantedOther alikeGrown overflows

theorem Paired.request (twins : Twins content like stands standsOther related)
    (paired : Paired content stands standsOther related first second) (offset length : Nat) :
    SameAnswer like (first.request offset length).1 (second.request offset length).1 ∧
      Paired content stands standsOther related (first.request offset length).2
        (second.request offset length).2 := by
  have faithfulNext := paired.faithful.requested twins.serves
    (requested_request first offset length)
  have faithfulOtherNext := paired.faithful_other.requested twins.serves_other
    (requested_request second offset length)
  have answered : SameAnswer like (first.request offset length).1
        (second.request offset length).1 ∧
      Alike related (first.request offset length).2 (second.request offset length).2 := by
    obtain ⟨sameRefill, alikeNext⟩ := paired.refill twins offset length
    have alike := paired.alike
    simp only [SlidingWindow.request, alike.start_eq, alike.stop_eq, alike.ended_eq]
    split_ifs with zero overflow back covers
    · exact ⟨.same _, alike⟩
    · exact ⟨.same _, alike⟩
    · exact ⟨.same _, alike⟩
    · rw [alike.second_eq]
      exact ⟨.same _, rfl, alike.sources⟩
    · generalize first.refill offset length = refilled at sameRefill alikeNext
      generalize second.refill offset length = refilledOther at sameRefill alikeNext
      obtain ⟨outcome, next⟩ := refilled
      obtain ⟨outcomeOther, nextOther⟩ := refilledOther
      have sameView := alikeNext.view_eq offset length
      cases sameRefill with
      | seek likely => exact ⟨.seek likely, alikeNext⟩
      | same =>
        cases outcome with
        | error cause => exact ⟨.same _, alikeNext⟩
        | ok =>
          simp only [sameView]
          exact ⟨.same _, alikeNext⟩
  exact ⟨answered.1, faithfulNext, faithfulOtherNext, answered.2⟩

/-- Every request of two runs is answered alike, and the windows stay alike. -/
theorem Paired.serve (twins : Twins content like stands standsOther related)
    (paired : Paired content stands standsOther related first second) (requests : List Request) :
    List.Forall₂ (SameAnswer like) (first.serve requests).1 (second.serve requests).1 ∧
      Paired content stands standsOther related (first.serve requests).2
        (second.serve requests).2 := by
  induction requests generalizing first second with
  | nil => exact ⟨.nil, paired⟩
  | cons request requests ih =>
    obtain ⟨answer, pairedNext⟩ := paired.request twins request.offset request.length
    obtain ⟨answers, pairedLast⟩ := ih pairedNext
    exact ⟨.cons answer answers, pairedLast⟩

end Runs

section Refills

variable [ByteSource σ] {window next placed : SlidingWindow σ} {offset length : Nat}
  {answer : Except WindowError View}

/-- A request that notes a refill has moved the window to where the note says. -/
theorem Requested.exists_slide (requested : Requested window offset length answer next)
    {emitted : List Event} (appended : next.events = window.events ++ emitted)
    {start readStart readSize reused : Nat}
    (listed : .refill start readStart readSize reused ∈ emitted) :
    ∃ grown placed, window.Exceeds offset length ∧
      window.grow (window.moveTo offset length).size = (.ok (), grown) ∧
      grown.moveSource (window.moveTo offset length).readStart = (.ok (), placed) ∧
      next = (placed.slide (window.moveTo offset length)).2 ∧
      (window.moveTo offset length).start = start ∧
      (window.moveTo offset length).size = readSize + reused := by
  have unmoved (same : next.events = window.events) : False := by
    obtain rfl := List.append_right_eq_self.1 (appended.symm.trans same)
    cases listed
  cases requested with
  | misused | denied => exact absurd rfl unmoved
  | overflowed exceeds granted | unreachable exceeds granted =>
    obtain rfl := grow_eq_ok granted
    exact absurd rfl unmoved
  | hit =>
    obtain rfl := List.append_cancel_left (appended.symm.trans (events_of_push rfl))
    simp at listed
  | @slid grown placed exceeds granted moved =>
    have suits := suits_moveTo window offset length
    obtain ⟨seeks, sought, -, events⟩ :=
      exists_seeks granted moved (window.moveTo offset length)
    obtain rfl := List.append_cancel_left (appended.symm.trans events)
    refine ⟨grown, placed, exceeds, granted, moved, rfl, ?_⟩
    rcases List.mem_append.1 listed with seek | refill
    · rcases sought with rfl | ⟨rfl, -⟩
      · cases seek
      · cases List.mem_singleton.1 seek
    · rcases List.mem_cons.1 refill with same | later
      · obtain ⟨rfl, -, rfl, rfl⟩ := Event.refill.inj same
        refine ⟨rfl, ?_⟩
        rw [Move.readSize]
        have := suits.reused_le
        omega
      · obtain ⟨place, same⟩ := Filling.exists_of_mem_ending later
        cases same

/-- After a refill a window holds what there is of the range to which it has moved, and it has
noticed the end of the source just if the range goes past it. -/
theorem Faithful.refilled (serves : ByteSource.Serves content stands)
    (steady : ByteReader.NeverFails stands) (faithful : Faithful content stands window)
    (requested : Requested window offset length answer next)
    {emitted : List Event} (appended : next.events = window.events ++ emitted)
    {start readStart readSize reused : Nat}
    (listed : .refill start readStart readSize reused ∈ emitted) :
    next.start = start ∧
      next.stop = max start (min (start + (readSize + reused)) content.size) ∧
      (next.ended = true ↔ content.size < start + (readSize + reused)) := by
  obtain ⟨grown, placed, exceeds, granted, moved, rfl, rfl, extent⟩ :=
    requested.exists_slide appended listed
  have poised := faithful.poised serves granted moved
  have whole := faithful.filling_whole serves steady granted moved
  have unended : placed.ended = false := poised.ended_eq.trans exceeds.unended
  refine ⟨slide_start .., ?_, ?_⟩
  · rw [slide_stop, whole.held_eq, ByteArray.size_extract, extent]
    omega
  · rw [slide_ended_iff _ _ unended, whole.stop_eq, extent]
    split
    next inside =>
      constructor
      · intro same
        cases same
      · intro outside
        omega
    next outside =>
      constructor
      · intro same
        omega
      · intro same
        rfl

end Refills

/-- Two runs are answered alike, give out the same events and log lines, and leave windows that show
no difference but in the number of reads. -/
structure SameCourse (like : IoFailure → IoFailure → Prop)
    (first : List (Except WindowError View) × SlidingWindow σ)
    (second : List (Except WindowError View) × SlidingWindow τ) : Prop where
  answers : List.Forall₂ (SameAnswer like) first.1 second.1
  trace_eq : second.2.trace = first.2.trace
  start_eq : second.2.start = first.2.start
  stop_eq : second.2.stop = first.2.stop
  held_eq : second.2.held = first.2.held
  ended_eq : second.2.ended = first.2.ended
  stats_eq : { second.2.stats with reads := first.2.stats.reads } = first.2.stats

/-- How a source paces its reads does not show: over another source of the same content that can be
moved where it can, every run takes the same course.  For each refill leaves a window with what
there is of its range, and the end has been noticed just if the range goes past it. -/
theorem pace_invisible [ByteSource σ] [ByteSource τ] {like : IoFailure → IoFailure → Prop}
    {related : σ → τ → Prop} (twins : Twins content like stands standsOther related)
    {source : σ} {other : τ} (atStart : stands source 0) (atStartOther : standsOther other 0)
    (sources : related source other) (limits : Limits) (memory : Memory)
    (requests : List Request) :
    SameCourse like ((fresh source limits memory).serve requests)
      ((fresh other limits memory).serve requests) ∧
    ∀ (request : Request) (emitted : List Event),
      let window := ((fresh source limits memory).serve requests).2
      let next := (window.request request.offset request.length).2
      next.events = window.events ++ emitted →
      ∀ start readStart readSize reused, .refill start readStart readSize reused ∈ emitted →
        next.start = start ∧
          next.stop = max start (min (start + (readSize + reused)) content.size) ∧
          (next.ended = true ↔ content.size < start + (readSize + reused)) := by
  have paired : Paired content stands standsOther related (fresh source limits memory)
      (fresh other limits memory) :=
    { faithful := faithful_fresh atStart limits memory
      faithful_other := faithful_fresh atStartOther limits memory
      alike := ⟨rfl, sources⟩ }
  obtain ⟨answers, last⟩ := paired.serve twins requests
  constructor
  · exact
      { answers := answers
        trace_eq := last.alike.trace_eq
        start_eq := last.alike.start_eq
        stop_eq := last.alike.stop_eq
        held_eq := last.alike.held_eq
        ended_eq := last.alike.ended_eq
        stats_eq := last.alike.stats_eq }
  · intro request emitted window next appended start readStart readSize reused listed
    exact last.faithful.refilled twins.serves twins.steady
      (requested_request window request.offset request.length) appended listed

/-- Five bytes, read at once or by and by; the second request asks either source to move, which both
refuse. -/
theorem pace_invisible_five :
    let source : Forward Cursor := ⟨⟨⟨#[1, 2, 3, 4, 5]⟩, 0⟩⟩
    let limits : Limits := ⟨2, 3, by decide, by decide, by decide, by decide⟩
    let first := (fresh source limits .ordinary).serve [⟨1, 2⟩, ⟨9, 1⟩, ⟨3, 7⟩]
    let second := (fresh (Faltering.mk source [.interrupted, .short 0, .interrupted, .short 1])
      limits .ordinary).serve [⟨1, 2⟩, ⟨9, 1⟩, ⟨3, 7⟩]
    SameCourse Eq first second ∧ first.2.stats.reads < second.2.stats.reads := by
  intro source limits first second
  have serves := Forward.serves (Cursor.delivers ⟨#[1, 2, 3, 4, 5]⟩)
  have steady := Forward.neverFails (Cursor.neverFails ⟨#[1, 2, 3, 4, 5]⟩)
  have twins : Twins ⟨#[1, 2, 3, 4, 5]⟩ Eq _
      (Faltering.Stands _ fun hitch => ∀ failure, hitch ≠ .failed failure)
      fun (_ : Forward Cursor) (_ : Faltering (Forward Cursor)) => True :=
    { serves := serves
      serves_other := Faltering.serves serves
      steady := steady
      steady_other := Faltering.neverFails steady fun failure allowed => allowed failure rfl
      agree :=
        { related_of_read := fun _ _ => trivial
          related_of_read_other := fun _ _ => trivial
          seek := fun _ _ _ _ => ⟨.refused rfl, trivial⟩ } }
  refine ⟨(pace_invisible twins ?_ ?_ trivial limits .ordinary _).1, by decide +kernel⟩
  · exact ⟨rfl, rfl⟩
  · exact ⟨⟨rfl, rfl⟩, by simp⟩

end SlidingWindow

end DeltaSignature
