import DeltaSignature.Log
import DeltaSignature.Transfer.Failure

/-!
# What a window notes

Every request that is answered from the window or moves it leaves notes.  Events and log lines are
two views of these notes: moves of the source are events only, and failed reads are log lines only.
-/

namespace DeltaSignature

namespace SlidingWindow

/-- What a request did to the window.  A refill tells the new start of the window, where reading
goes on, how many bytes are to be read, and how many bytes of the old window were kept. -/
inductive Event where
  | hit (offset length : Nat)
  | refill (windowStart readStart readSize reused : Nat)
  | seek (offset : Nat)
  | ended (position : Nat)
deriving DecidableEq, Repr

/-- An event, or a read that failed after the source had delivered all before a position. -/
inductive Note where
  | event (effect : Event)
  | readFailed (position : Nat) (failure : IoFailure)
deriving DecidableEq, Repr

namespace Note

def event? : Note → Option Event
  | event effect => some effect
  | readFailed .. => none

/-- The note as a log line, if it has one. -/
def line? : Note → Option Log.Line
  | event (.hit offset length) => some ⟨.trace, s!"window hit at {offset}+{length}"⟩
  | event (.refill windowStart readStart readSize reused) => some ⟨.debug,
      s!"refill window at {windowStart}: read {readSize} bytes from {readStart}, reuse {reused}"⟩
  | event (.seek _) => none
  | event (.ended position) => some ⟨.debug, s!"source reached end of stream at {position}"⟩
  | readFailed position failure =>
    some ⟨.error, s!"read error in window refill at {position}: {failure.text}"⟩

end Note

structure Stats where
  hits : Nat := 0
  refills : Nat := 0
  reads : Nat := 0
  seeks : Nat := 0
  bytesRead : Nat := 0
  bytesReused : Nat := 0
deriving DecidableEq, Repr

end SlidingWindow

end DeltaSignature
