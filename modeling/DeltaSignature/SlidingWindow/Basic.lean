import DeltaSignature.Bytes
import DeltaSignature.SlidingWindow.Limits
import DeltaSignature.SlidingWindow.Note
import DeltaSignature.Transfer.Reader

/-!
# A sliding window over a source

A window gives views of ranges of a source that may be unable to move back, as long as requests
move forward.  When a request goes past the window, the window moves: it starts anew up to two
chunks before the offset asked for, keeps what it already holds of that range, and reads only what
is missing.
-/

namespace DeltaSignature

namespace SlidingWindow

/-- The part of a requested range that exists; it is shorter than the range only at the end of the
source. -/
structure View where
  offset : Nat
  bytes : ByteArray
  ended : Bool
deriving DecidableEq

inductive Stop where
  | full
  | ended
  | failed (failure : IoFailure)

structure Filling (σ : Type) where
  stop : Stop
  held : ByteArray
  reads : Nat
  source : σ

/-- Reads until `goal` bytes are held; interrupted reads are repeated. -/
def fill {σ : Type} [ByteReader σ] (goal : Nat) (held : ByteArray) (reads : Nat) (source : σ) :
    Filling σ :=
  if goal ≤ held.size then ⟨.full, held, reads, source⟩
  else
    match _ : ByteReader.read source (goal - held.size) with
    | (.interrupted, source) => fill goal held (reads + 1) source
    | (.failed failure, source) => ⟨.failed failure, held, reads + 1, source⟩
    | (.delivered piece, source) =>
      if piece.isEmpty then ⟨.ended, held, reads + 1, source⟩
      else fill goal (held ++ piece) (reads + 1) source
termination_by ByteReader.left source
decreasing_by
  · exact ByteReader.left_lt_of_interrupted ‹_›
  · exact ByteReader.left_lt_of_delivered ‹_› ‹_›

end SlidingWindow

open SlidingWindow in
/-- A window over a source, which is believed to read next at `position`.  A block of memory of the
size `allocated` was reserved. -/
structure SlidingWindow (σ : Type) where
  source : σ
  limits : Limits
  memory : Memory := .ordinary
  held : ByteArray := .empty
  start : Nat := 0
  allocated : Nat := 0
  position : Nat := 0
  ended : Bool := false
  stats : Stats := {}
  trace : Array Note := #[]

namespace SlidingWindow

variable {σ : Type}

/-- The place after the last byte retained. -/
def stop (window : SlidingWindow σ) : Nat :=
  window.start + window.held.size

def events (window : SlidingWindow σ) : List Event :=
  window.trace.toList.filterMap Note.event?

def log (window : SlidingWindow σ) : List Log.Line :=
  window.trace.toList.filterMap Note.line?

/-- The part of a range that is retained. -/
def view (window : SlidingWindow σ) (offset length : Nat) : View :=
  let skipped := min (offset - window.start) window.held.size
  let count := min length (window.held.size - skipped)
  { offset
    bytes := window.held.extract skipped (skipped + count)
    ended := window.ended && skipped + count == window.held.size }

/-- Where a window moves to, and how many bytes at the end of the old one it keeps. -/
structure Move where
  start : Nat
  size : Nat
  reused : Nat
deriving DecidableEq, Repr

def Move.readStart (move : Move) : Nat :=
  move.start + move.reused

def Move.readSize (move : Move) : Nat :=
  move.size - move.reused

/-- The move that serves a range.  The window never moves back, and it keeps its end if the new
window starts before it and reaches over it. -/
def moveTo (window : SlidingWindow σ) (offset length : Nat) : Move :=
  let start := max (window.limits.windowStart offset) window.start
  let size := max (offset + length - start) window.limits.span
  let overlaps := start < window.stop ∧ window.stop ≤ start + size
  { start, size, reused := if overlaps then window.stop - start else 0 }

/-- Reserves memory for a window of this size. -/
def grow (window : SlidingWindow σ) (size : Nat) :
    Except WindowError Unit × SlidingWindow σ :=
  if window.allocated < size then
    match window.memory.reserve size with
    | .ok () => (.ok (), { window with allocated := size })
    | .error cause => (.error (.outOfMemory cause), window)
  else
    (.ok (), window)

variable [ByteSource σ]

/-- Moves the source if it is elsewhere.  A refusal leaves the window as it was. -/
def moveSource (window : SlidingWindow σ) (target : Nat) :
    Except WindowError Unit × SlidingWindow σ :=
  if window.position = target then (.ok (), window)
  else
    match ByteSource.seek window.source target with
    | (.error failure, source) => (.error (.seek target failure), { window with source })
    | (.ok (), source) =>
      (.ok (), { window with
        source
        position := target
        stats := { window.stats with seeks := window.stats.seeks + 1 }
        trace := window.trace.push (.event (.seek target)) })

/-- Drops what the new window does not need and reads what it lacks. -/
def slide (window : SlidingWindow σ) (move : Move) : Except WindowError Unit × SlidingWindow σ :=
  match window with
  | { source, limits, memory, held, start, allocated, position, ended, stats, trace } =>
    let kept := held.extract (if move.reused = 0 then held.size else move.start - start) held.size
    let trace := trace.push
      (.event (.refill move.start move.readStart move.readSize move.reused))
    let filling := fill move.size kept 0 source
    let total := filling.held.size - move.reused
    let stats := { stats with
      refills := stats.refills + 1
      reads := stats.reads + filling.reads
      bytesRead := stats.bytesRead + total
      bytesReused := stats.bytesReused + move.reused }
    let stop := move.start + filling.held.size
    let moved (ended : Bool) (trace : Array Note) : SlidingWindow σ :=
      { source := filling.source, limits, memory, held := filling.held, start := move.start,
        allocated, position := position + total, ended, stats, trace }
    match filling.stop with
    | .full => (.ok (), moved ended trace)
    | .ended => (.ok (), moved true (trace.push (.event (.ended stop))))
    | .failed failure =>
      (.error (.read failure), moved ended (trace.push (.readFailed stop failure)))

/-- Makes the window hold a range, as far as the source has it.  The end of the new window is
computed, as a 64-bit sum, only if that window starts inside the old one. -/
def refill (window : SlidingWindow σ) (offset length : Nat) :
    Except WindowError Unit × SlidingWindow σ :=
  let move := window.moveTo offset length
  match window.grow move.size with
  | (.error cause, window) => (.error cause, window)
  | (.ok (), window) =>
    if move.start < window.stop ∧ 0x1_0000_0000_0000_0000 ≤ move.start + move.size then
      (.error .overflow, window)
    else
      match window.moveSource move.readStart with
      | (.error cause, window) => (.error cause, window)
      | (.ok (), window) => window.slide move

/-- A view of the `length` bytes from `offset` on.  A range that is retained, or any range once the
source has ended, is answered from the window. -/
def request (window : SlidingWindow σ) (offset length : Nat) :
    Except WindowError View × SlidingWindow σ :=
  if length = 0 then (.error (.invalidArgument .zeroLength), window)
  else if 0x1_0000_0000_0000_0000 ≤ offset + length then
    (.error (.invalidArgument .endOverflow), window)
  else if offset < window.start then (.error (.invalidArgument .movedBack), window)
  else if offset + length ≤ window.stop ∨ window.ended then
    let window := { window with
      stats := { window.stats with hits := window.stats.hits + 1 }
      trace := window.trace.push (.event (.hit offset length)) }
    (.ok (window.view offset length), window)
  else
    match window.refill offset length with
    | (.error cause, window) => (.error cause, window)
    | (.ok (), window) => (.ok (window.view offset length), window)

theorem lt_of_request_eq_ok {window next : SlidingWindow σ} {offset length : Nat} {view : View}
    (granted : window.request offset length = (.ok view, next)) :
    offset + length < 0x1_0000_0000_0000_0000 := by
  simp only [request] at granted
  split at granted
  next => simp at granted
  next =>
    split at granted
    next => simp at granted
    next fits => omega

end SlidingWindow

end DeltaSignature
