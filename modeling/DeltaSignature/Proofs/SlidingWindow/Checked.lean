import DeltaSignature.Proofs.SlidingWindow.Fidelity

/-!
# Requests with checked arithmetic

A request adds and subtracts 64-bit words.  Here every addition and subtraction is made where a
request makes it, and where one is not exact the whole request has no result.  Each step has the
result of the step without checks as long as what it leaves behind fits 64 bits.
-/

namespace DeltaSignature

namespace Word

/-- The sum of two words, if it is a word. -/
def add? (a b : Nat) : Option Nat :=
  if a + b < 0x1_0000_0000_0000_0000 then some (a + b) else none

/-- The difference of two words, if it is a word. -/
def sub? (a b : Nat) : Option Nat :=
  if b ≤ a then some (a - b) else none

variable {a b : Nat}

theorem add?_eq (fits : a + b < 0x1_0000_0000_0000_0000) : add? a b = some (a + b) :=
  if_pos fits

theorem add?_eq_none (wraps : 0x1_0000_0000_0000_0000 ≤ a + b) : add? a b = none :=
  if_neg (Nat.not_lt.2 wraps)

theorem sub?_eq (ordered : b ≤ a) : sub? a b = some (a - b) :=
  if_pos ordered

end Word

namespace SlidingWindow

variable {σ : Type}

def Limits.windowStart? (limits : Limits) (offset : Nat) : Option Nat :=
  let back := min (2 * limits.chunk) 0xffff_ffff_ffff_ffff
  if back < offset then do
    let place ← Word.sub? offset back
    let mask ← Word.sub? limits.chunk 1
    some (place - place % (mask + 1))
  else some 0

def stop? (window : SlidingWindow σ) : Option Nat :=
  Word.add? window.start window.held.size

def view? (window : SlidingWindow σ) (offset length : Nat) : Option View := do
  let skipped := min (← Word.sub? offset window.start) window.held.size
  let count := min length (← Word.sub? window.held.size skipped)
  let last ← Word.add? skipped count
  some
    { offset
      bytes := window.held.extract skipped last
      ended := window.ended && last == window.held.size }

/-- How much memory a window lacks. -/
def shortfall? (window : SlidingWindow σ) (size : Nat) : Option Nat :=
  if window.allocated < size then Word.sub? size window.allocated else some 0

/-- Where reading goes on for a new window, and how much of the old one is kept. -/
def reuse? (window : SlidingWindow σ) (start size : Nat) : Option (Nat × Nat) := do
  let stop ← window.stop?
  let overlaps ←
    if start < stop then (Word.add? start size).map fun reach => decide (stop ≤ reach)
    else some false
  if overlaps then do
    let reused ← Word.sub? stop start
    some (stop, reused)
  else some (start, 0)

/-- Reads into a window that keeps `reused` bytes and has read `total` of the `readSize` bytes that
it lacks.  The result is how much was read in all, and what the loop leaves behind. -/
def fill? [ByteReader σ] (reused readSize total : Nat) (held : ByteArray) (reads : Nat)
    (source : σ) : Option (Nat × Filling σ) :=
  if total < readSize then
    (Word.add? reused total).bind fun first =>
    (Word.add? reused readSize).bind fun last =>
    (Word.sub? last first).bind fun room =>
    (Word.add? reads 1).bind fun reads =>
    match _ : ByteReader.read source room with
    | (.interrupted, source) => fill? reused readSize total held reads source
    | (.failed failure, source) => some (total, ⟨.failed failure, held, reads, source⟩)
    | (.delivered piece, source) =>
      if piece.isEmpty then some (total, ⟨.ended, held, reads, source⟩)
      else
        (Word.add? total piece.size).bind fun total =>
        fill? reused readSize total (held ++ piece) reads source
  else some (total, ⟨.full, held, reads, source⟩)
termination_by ByteReader.left source
decreasing_by
  · exact ByteReader.left_lt_of_interrupted ‹_›
  · exact ByteReader.left_lt_of_delivered ‹_› ‹_›

section Steps

variable [ByteSource σ]

def moveSource? (window : SlidingWindow σ) (target : Nat) :
    Option (Except WindowError Unit × SlidingWindow σ) :=
  if window.position = target then some (.ok (), window)
  else
    match ByteSource.seek window.source target with
    | (.error failure, source) => some (.error (.seek target failure), { window with source })
    | (.ok (), source) => do
      let seeks ← Word.add? window.stats.seeks 1
      some (.ok (), { window with
        source
        position := target
        stats := { window.stats with seeks }
        trace := window.trace.push (.event (.seek target)) })

/-- The bytes that are shifted to the front when a window moves. -/
def kept? (window : SlidingWindow σ) (move : Move) : Option ByteArray :=
  if 0 < move.reused then do
    let first ← Word.sub? move.start window.start
    let last ← Word.add? first move.reused
    some (window.held.extract first last)
  else some .empty

def slide? (window : SlidingWindow σ) (move : Move) (readStart : Nat) :
    Option (Except WindowError Unit × SlidingWindow σ) := do
  let kept ← window.kept? move
  let refills ← Word.add? window.stats.refills 1
  let bytesReused ← Word.add? window.stats.bytesReused move.reused
  let readSize ← Word.sub? move.size move.reused
  let trace := window.trace.push
    (.event (.refill move.start readStart readSize move.reused))
  let (total, filling) ← fill? move.reused readSize 0 kept window.stats.reads window.source
  let position ← Word.add? window.position total
  let extent ← Word.add? move.reused total
  let bytesRead ← Word.add? window.stats.bytesRead total
  let moved (ended : Bool) (trace : Array Note) : SlidingWindow σ :=
    { window with
      source := filling.source
      held := filling.held
      start := move.start
      position
      ended
      stats := { window.stats with refills, reads := filling.reads, bytesRead, bytesReused }
      trace }
  match filling.stop with
  | .full => some (.ok (), moved window.ended trace)
  | .ended => do
    let stop ← Word.add? move.start extent
    some (.ok (), moved true (trace.push (.event (.ended stop))))
  | .failed failure => do
    let stop ← Word.add? readStart total
    some (.error (.read failure), moved window.ended (trace.push (.readFailed stop failure)))

/-- Moves a window to a place and a size that are known. -/
def refit? (window : SlidingWindow σ) (start size : Nat) :
    Option (Except WindowError Unit × SlidingWindow σ) := do
  let _ ← window.shortfall? size
  match window.grow size with
  | (.error cause, window) => some (.error cause, window)
  | (.ok (), window) => do
    let (readStart, reused) ← window.reuse? start size
    match ← window.moveSource? readStart with
    | (.error cause, window) => some (.error cause, window)
    | (.ok (), window) => window.slide? ⟨start, size, reused⟩ readStart

def refill? (window : SlidingWindow σ) (offset finish : Nat) :
    Option (Except WindowError Unit × SlidingWindow σ) := do
  let start := max (← window.limits.windowStart? offset) window.start
  let size := max (← Word.sub? finish start) window.limits.span
  window.refit? start size

def request? (window : SlidingWindow σ) (offset length : Nat) :
    Option (Except WindowError View × SlidingWindow σ) :=
  if length = 0 then some (.error (.invalidArgument .zeroLength), window)
  else
    -- This sum is the one that a request itself checks.
    match Word.add? offset length with
    | none => some (.error (.invalidArgument .endOverflow), window)
    | some finish =>
      if offset < window.start then some (.error (.invalidArgument .movedBack), window)
      else do
        let stop ← window.stop?
        if finish ≤ stop ∨ window.ended then do
          let hits ← Word.add? window.stats.hits 1
          let window := { window with
            stats := { window.stats with hits }
            trace := window.trace.push (.event (.hit offset length)) }
          some (.ok (← window.view? offset length), window)
        else
          match ← window.refill? offset finish with
          | (.error cause, window) => some (.error cause, window)
          | (.ok (), window) => some (.ok (← window.view? offset length), window)

end Steps

theorem Limits.windowStart?_eq (limits : Limits) (offset : Nat) :
    limits.windowStart? offset = some (limits.windowStart offset) := by
  have positive := limits.chunk_pos
  simp only [windowStart?, windowStart]
  split
  next ahead =>
    rw [Word.sub?_eq (Nat.le_of_lt ahead), Word.sub?_eq positive]
    simp only [Option.bind_eq_bind, Option.bind_some, Nat.sub_add_cancel positive]
  next => rfl

theorem stop?_eq {window : SlidingWindow σ} (fits : window.stop < 0x1_0000_0000_0000_0000) :
    window.stop? = some window.stop :=
  Word.add?_eq fits

theorem view?_eq {window : SlidingWindow σ} {offset : Nat} (length : Nat)
    (start_le : window.start ≤ offset) (fits : window.stop < 0x1_0000_0000_0000_0000) :
    window.view? offset length = some (window.view offset length) := by
  have extent : window.stop = window.start + window.held.size := rfl
  rw [view?, Word.sub?_eq start_le]
  simp only [Option.bind_eq_bind, Option.bind_some]
  rw [Word.sub?_eq (Nat.min_le_right ..)]
  simp only [Option.bind_some]
  rw [Word.add?_eq (by omega)]
  rfl

section Reading

variable [ByteReader σ]

theorem le_reads_fill (goal : Nat) (held : ByteArray) (reads : Nat) (source : σ) :
    reads ≤ (fill goal held reads source).reads := by
  fun_induction fill goal held reads source with
  | case1 => exact Nat.le_refl _
  | case2 held reads source lacking next answer ih => exact Nat.le_of_succ_le ih
  | case3 => exact Nat.le_succ _
  | case4 => exact Nat.le_succ _
  | case5 held reads source lacking piece next answer something ih => exact Nat.le_of_succ_le ih

theorem size_le_size_fill (goal : Nat) (held : ByteArray) (reads : Nat) (source : σ) :
    held.size ≤ (fill goal held reads source).held.size := by
  fun_induction fill goal held reads source with
  | case1 => exact Nat.le_refl _
  | case2 held reads source lacking next answer ih => exact ih
  | case3 => exact Nat.le_refl _
  | case4 => exact Nat.le_refl _
  | case5 held reads source lacking piece next answer something ih =>
    rw [ByteArray.size_append] at ih
    exact Nat.le_of_add_right_le ih

/-- One turn of the reading loop. -/
theorem fill?_of_lt {reused readSize total reads : Nat} (held : ByteArray) (source : σ)
    (lacking : total < readSize) (fits : reused + readSize < 0x1_0000_0000_0000_0000)
    (counted : reads + 1 < 0x1_0000_0000_0000_0000) :
    fill? reused readSize total held reads source =
      match ByteReader.read source (readSize - total) with
      | (.interrupted, source) => fill? reused readSize total held (reads + 1) source
      | (.failed failure, source) => some (total, ⟨.failed failure, held, reads + 1, source⟩)
      | (.delivered piece, source) =>
        if piece.isEmpty then some (total, ⟨.ended, held, reads + 1, source⟩)
        else
          (Word.add? total piece.size).bind fun total =>
          fill? reused readSize total (held ++ piece) (reads + 1) source := by
  rw [fill?, if_pos lacking, Word.add?_eq (by omega), Word.add?_eq fits]
  simp only [Option.bind_some]
  rw [Word.sub?_eq (by omega), Word.add?_eq counted, Nat.add_sub_add_left]
  simp only [Option.bind_some]
  split <;> simp only [*]

theorem fill?_eq {reused readSize goal total base reads : Nat} {held : ByteArray} {source : σ}
    (fits : goal < 0x1_0000_0000_0000_0000) (room : reused + readSize = goal)
    (extent : held.size = reused + total)
    (counted : base + (fill goal held reads source).reads < 0x1_0000_0000_0000_0000) :
    fill? reused readSize total held (base + reads) source =
      some ((fill goal held reads source).held.size - reused,
        { fill goal held reads source with
          reads := base + (fill goal held reads source).reads }) := by
  fun_induction fill goal held reads source generalizing total with
  | case1 held reads source reached =>
    rw [fill?, if_neg (by omega), extent, Nat.add_sub_cancel_left]
  | case2 held reads source lacking next answer ih =>
    have later := le_reads_fill goal held (reads + 1) next
    have sameRoom : readSize - total = goal - held.size := by omega
    rw [fill?_of_lt held source (by omega) (by omega) (by omega), sameRoom, answer]
    exact ih extent counted
  | case3 held reads source lacking failure next answer =>
    have sameRoom : readSize - total = goal - held.size := by omega
    have sameTotal : total = held.size - reused := by omega
    have turn : base + reads + 1 < 0x1_0000_0000_0000_0000 := counted
    rw [fill?_of_lt held source (by omega) (by omega) turn, sameRoom, answer, sameTotal]
    rfl
  | case4 held reads source lacking piece next answer nothing =>
    have sameRoom : readSize - total = goal - held.size := by omega
    have sameTotal : total = held.size - reused := by omega
    have turn : base + reads + 1 < 0x1_0000_0000_0000_0000 := counted
    rw [fill?_of_lt held source (by omega) (by omega) turn, sameRoom, answer, sameTotal]
    exact if_pos nothing
  | case5 held reads source lacking piece next answer something ih =>
    have later := le_reads_fill goal (held ++ piece) (reads + 1) next
    have sameRoom : readSize - total = goal - held.size := by omega
    have within : piece.size ≤ goal - held.size :=
      ByteReader.size_le_of_delivered source _ piece (by rw [answer])
    rw [fill?_of_lt held source (by omega) (by omega) (by omega), sameRoom, answer]
    simp only [if_neg something]
    rw [Word.add?_eq (by omega), Option.bind_some]
    exact ih (by rw [ByteArray.size_append, extent, Nat.add_assoc]) counted

end Reading

/-- No counter of a window goes beyond 64 bits. -/
structure Stats.Fits (stats : Stats) : Prop where
  hits : stats.hits < 0x1_0000_0000_0000_0000
  refills : stats.refills < 0x1_0000_0000_0000_0000
  reads : stats.reads < 0x1_0000_0000_0000_0000
  seeks : stats.seeks < 0x1_0000_0000_0000_0000
  bytesRead : stats.bytesRead < 0x1_0000_0000_0000_0000
  bytesReused : stats.bytesReused < 0x1_0000_0000_0000_0000

theorem kept?_eq {window : SlidingWindow σ} {move : Move} (suits : move.Suits window)
    (fits : window.stop < 0x1_0000_0000_0000_0000) :
    window.kept? move = some (window.kept move) := by
  have extent : window.stop = window.start + window.held.size := rfl
  have start_le := suits.start_le
  by_cases none : move.reused = 0
  · simp [kept?, kept, none]
  · have reaches := suits.reaches.resolve_left none
    have upTo : move.start - window.start + move.reused = window.held.size := by omega
    rw [kept?, if_pos (by omega), kept, if_neg none, Word.sub?_eq start_le]
    simp only [Option.bind_eq_bind, Option.bind_some]
    rw [Word.add?_eq (by omega), upTo]
    rfl

section Moves

variable {window : SlidingWindow σ} {offset length : Nat}

theorem reuse?_eq (exceeds : window.Exceeds offset length)
    (small : window.stop < 0x1_0000_0000_0000_0000)
    (unwrapped : ¬ window.Overflows offset length) :
    window.reuse? (window.moveTo offset length).start (window.moveTo offset length).size =
      some ((window.moveTo offset length).readStart, (window.moveTo offset length).reused) := by
  have kept := exceeds.moveTo_reused_eq
  have onward := exceeds.moveTo_readStart_eq
  have reaches := le_moveTo_end length exceeds.start_le
  have lacking := exceeds.stop_lt
  rw [reuse?, stop?_eq small]
  simp only [Option.bind_eq_bind, Option.bind_some]
  by_cases inside : (window.moveTo offset length).start < window.stop
  · have covered : window.stop ≤
        (window.moveTo offset length).start + (window.moveTo offset length).size := by omega
    have endFits := Nat.lt_of_not_le fun end_ge => unwrapped ⟨inside, end_ge⟩
    rw [if_pos inside, Word.add?_eq endFits, Option.map_some, decide_eq_true covered]
    simp only [Option.bind_some, if_true]
    rw [Word.sub?_eq (Nat.le_of_lt inside), onward, kept, Nat.max_eq_right (Nat.le_of_lt inside)]
    rfl
  · rw [if_neg inside, onward, kept, Nat.max_eq_left (Nat.le_of_not_lt inside),
      Nat.sub_eq_zero_of_le (Nat.le_of_not_lt inside)]
    rfl

/-- The end of the new window is looked at only if its start is inside the old one. -/
theorem reuse?_eq_none {start size : Nat} (small : window.stop < 0x1_0000_0000_0000_0000)
    (inside : start < window.stop) (wraps : 0x1_0000_0000_0000_0000 ≤ start + size) :
    window.reuse? start size = none := by
  rw [reuse?, stop?_eq small]
  simp only [Option.bind_eq_bind, Option.bind_some]
  rw [if_pos inside, Word.add?_eq_none wraps]
  rfl

/-- Memory has no part in what is kept. -/
theorem reuse?_of_grow {grown : SlidingWindow σ} {reserved : Nat}
    (granted : window.grow reserved = (.ok (), grown)) (start size : Nat) :
    grown.reuse? start size = window.reuse? start size := by
  rw [grow_eq_ok granted]
  rfl

theorem shortfall?_eq (window : SlidingWindow σ) (size : Nat) :
    window.shortfall? size = some (size - window.allocated) := by
  rw [shortfall?]
  split
  next larger => exact Word.sub?_eq (Nat.le_of_lt larger)
  next large => rw [Nat.sub_eq_zero_of_le (Nat.le_of_not_lt large)]

end Moves

variable [ByteSource σ] {window : SlidingWindow σ} {offset length : Nat}

theorem moveSource?_eq {target : Nat}
    (counted : (window.moveSource target).2.stats.seeks < 0x1_0000_0000_0000_0000) :
    window.moveSource? target = some (window.moveSource target) := by
  by_cases there : window.position = target
  · rw [moveSource?, if_pos there, moveSource, if_pos there]
  · rw [moveSource, if_neg there] at counted
    rw [moveSource?, if_neg there, moveSource, if_neg there]
    cases answer : ByteSource.seek window.source target with
    | mk outcome source =>
      simp only [answer] at counted ⊢
      cases outcome with
      | error failure => rfl
      | ok => exact congrArg (Option.bind · _) (Word.add?_eq counted)

theorem slide?_eq {move : Move} (suits : move.Suits window)
    (size_lt : move.size < 0x1_0000_0000_0000_0000)
    (standing : window.position = move.readStart) (small : window.stop < 0x1_0000_0000_0000_0000)
    (fits : (window.slide move).2.stop < 0x1_0000_0000_0000_0000)
    (counted : (window.slide move).2.stats.Fits) :
    window.slide? move move.readStart = some (window.slide move) := by
  have startKept := size_kept suits
  rw [slide_stop] at fits
  rw [slide_stats] at counted
  have before : move.reused ≤ (window.filling move).held.size :=
    startKept ▸ size_le_size_fill ..
  have readStart : move.readStart = move.start + move.reused := rfl
  have filled : fill? move.reused (move.size - move.reused) 0 (window.kept move)
      (window.stats.reads + 0) window.source = some ((window.filling move).held.size - move.reused,
        { window.filling move with
          reads := window.stats.reads + (window.filling move).reads }) :=
    fill?_eq size_lt (Nat.add_sub_cancel' suits.reused_le) startKept counted.reads
  rw [Nat.add_zero] at filled
  rw [slide?, kept?_eq suits small, Word.add?_eq counted.refills, Word.add?_eq counted.bytesReused,
    Word.sub?_eq suits.reused_le]
  simp only [Option.bind_eq_bind, Option.bind_some, filled]
  rw [Word.add?_eq (by omega), Word.add?_eq (by omega), Word.add?_eq counted.bytesRead]
  simp only [Option.bind_some]
  rw [Word.add?_eq (by omega), Word.add?_eq (by omega), Nat.add_sub_cancel' before, readStart,
    Nat.add_assoc, Nat.add_sub_cancel' before]
  simp only [Option.bind_some]
  cases outcome : window.filling move with
  | mk stop held reads source =>
    simp only [filling, kept] at outcome
    simp only [slide, outcome]
    cases stop <;> rfl

theorem refit?_eq (exceeds : window.Exceeds offset length)
    (small : window.stop < 0x1_0000_0000_0000_0000)
    (unwrapped : (window.grow (window.moveTo offset length).size).1 = .ok () →
      ¬ window.Overflows offset length)
    (fits : (window.refill offset length).2.stop < 0x1_0000_0000_0000_0000)
    (counted : (window.refill offset length).2.stats.Fits) :
    window.refit? (window.moveTo offset length).start (window.moveTo offset length).size =
      some (window.refill offset length) := by
  rw [refit?, shortfall?_eq]
  simp only [Option.bind_eq_bind, Option.bind_some]
  cases grew : window.grow (window.moveTo offset length).size with
  | mk outcome grown =>
    cases outcome with
    | error cause =>
      simp only [refill, grew]
    | ok =>
      have refilled := refill_of_granted grew (unwrapped (by rw [grew]))
      have reused : grown.reuse? (window.moveTo offset length).start
          (window.moveTo offset length).size =
            some ((window.moveTo offset length).readStart,
              (window.moveTo offset length).reused) := by
        rw [reuse?_of_grow grew]
        exact reuse?_eq exceeds small (unwrapped (by rw [grew]))
      rw [refilled] at fits counted ⊢
      simp only [reused, Option.bind_some]
      cases moved : grown.moveSource (window.moveTo offset length).readStart with
      | mk outcome placed =>
        simp only [moved] at fits counted ⊢
        cases outcome with
        | error cause =>
          rw [moveSource?_eq (by rw [moved]; exact counted.seeks), moved]
          rfl
        | ok =>
          have seeks := counted.seeks
          rw [slide_stats] at seeks
          rw [moveSource?_eq (by rw [moved]; exact seeks), moved]
          simp only [Option.bind_some]
          have suits := suits_moveTo window offset length
          have size_lt := exceeds.moveTo_size_lt
          obtain rfl := grow_eq_ok grew
          rcases moveSource_eq_ok moved with ⟨there, rfl⟩ | ⟨-, source, -, rfl⟩
          · exact slide?_eq ⟨suits.1, suits.2, suits.3⟩ size_lt there small fits counted
          · exact slide?_eq ⟨suits.1, suits.2, suits.3⟩ size_lt rfl small fits counted

theorem refit?_eq_none {start size : Nat} (small : window.stop < 0x1_0000_0000_0000_0000)
    {grown : SlidingWindow σ} (granted : window.grow size = (.ok (), grown))
    (inside : start < window.stop) (wraps : 0x1_0000_0000_0000_0000 ≤ start + size) :
    window.refit? start size = none := by
  have none : grown.reuse? start size = none := by
    rw [reuse?_of_grow granted]
    exact reuse?_eq_none small inside wraps
  rw [refit?, shortfall?_eq]
  simp only [Option.bind_eq_bind, Option.bind_some, granted]
  rw [none]
  rfl

/-- The sizes of a new window are exact for every valid request. -/
theorem refill?_eq_refit? (exceeds : window.Exceeds offset length) :
    window.refill? offset (offset + length) =
      window.refit? (window.moveTo offset length).start (window.moveTo offset length).size := by
  have behind : max (window.limits.windowStart offset) window.start ≤ offset + length :=
    Nat.le_trans (moveTo_start_le length exceeds.start_le) (Nat.le_add_right ..)
  rw [refill?, Limits.windowStart?_eq]
  simp only [Option.bind_eq_bind, Option.bind_some]
  rw [Word.sub?_eq behind]
  rfl

end SlidingWindow

end DeltaSignature
