import DeltaSignature.Memory
import DeltaSignature.Transfer.Failure

/-!
# The shape of a sliding window

A window starts on a multiple of the chunk size, up to two chunks before the offset asked for, and
covers at least a given number of bytes.  This file also names what can be wrong with a request.
-/

namespace DeltaSignature

namespace SlidingWindow

/-- How a caller breaks the rules of a window. -/
inductive Misuse where
  | chunkSize
  | windowSize
  | zeroLength
  | endOverflow
  | movedBack
  | other (reason : String)
deriving DecidableEq, Repr

def Misuse.reason : Misuse → String
  | chunkSize => "chunk size must be a power of two"
  | windowSize => "window size must be non-zero"
  | zeroLength => "zero-length window request"
  | endOverflow => "window end overflows"
  | movedBack => "offset precedes the retained window"
  | other reason => reason

end SlidingWindow

open SlidingWindow in
/-- Why a window, or a view of it, was refused.  An overflow is no refusal: there the checked sum
of the window panics. -/
inductive WindowError where
  | invalidArgument (misuse : Misuse)
  | read (failure : IoFailure)
  | seek (offset : Nat) (failure : IoFailure)
  | outOfMemory (cause : AllocationFailure)
  | overflow
deriving DecidableEq, Repr

def WindowError.message : WindowError → String
  | invalidArgument misuse => s!"invalid argument: {misuse.reason}"
  | read failure => s!"read error from source: {failure.text}"
  | seek offset failure => s!"cannot seek source to {offset}: {failure.text}"
  | outOfMemory cause => s!"out of memory growing window: {cause.message}"
  | overflow => "attempt to add with overflow"

namespace SlidingWindow

/-- The shape of a window: the unit of alignment and of looking back, and the least number of bytes
that it spans. -/
structure Limits where
  chunk : Nat
  span : Nat
  one_shiftLeft_log2_chunk : 1 <<< chunk.log2 = chunk
  chunk_lt : chunk < 0x1_0000_0000_0000_0000
  span_pos : 0 < span
  span_lt : span < 0x1_0000_0000_0000_0000
deriving Repr

namespace Limits

/-- The limits with these sizes.  A bad chunk size is reported before a bad span. -/
def ofSizes? (chunk span : UInt64) : Except WindowError Limits :=
  if power : 1 <<< chunk.toNat.log2 = chunk.toNat then
    if positive : 0 < span.toNat then
      .ok ⟨chunk.toNat, span.toNat, power, chunk.toNat_lt, positive, span.toNat_lt⟩
    else
      .error (.invalidArgument .windowSize)
  else
    .error (.invalidArgument .chunkSize)

/-- Chunks of 32 KiB and windows of 256 KiB. -/
def standard : Limits where
  chunk := 32 * 1024
  span := 256 * 1024
  one_shiftLeft_log2_chunk := by decide
  chunk_lt := by decide
  span_pos := by decide
  span_lt := by decide

theorem chunk_pos (limits : Limits) : 0 < limits.chunk := by
  have positive := Nat.two_pow_pos limits.chunk.log2
  rwa [← Nat.one_shiftLeft, limits.one_shiftLeft_log2_chunk] at positive

/-- Where the window that serves a request at `offset` starts. -/
def windowStart (limits : Limits) (offset : Nat) : Nat :=
  let back := min (2 * limits.chunk) 0xffff_ffff_ffff_ffff
  if back < offset then (offset - back) - (offset - back) % limits.chunk else 0

theorem windowStart_le (limits : Limits) (offset : Nat) : limits.windowStart offset ≤ offset := by
  simp only [windowStart]
  split <;> omega

end Limits

end SlidingWindow

end DeltaSignature
