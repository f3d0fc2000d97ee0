import DeltaSignature.Proofs.Bytes
import DeltaSignature.Stream.Queue

/-!
# A queue is what is pending

How a queue stores its bytes does not show: taking bytes depends on the pending ones only and
removes them from the front, and pushing adds to their end.
-/

namespace DeltaSignature

namespace Queue

/-- The queue after so many more bytes have been handed out. -/
def skip (queue : Queue) (count : Nat) : Queue :=
  { queue with taken := queue.taken + count }

theorem available_eq_size_pending (queue : Queue) : queue.available = queue.pending.size := by
  simp [available, pending]

@[simp]
theorem pending_skip (queue : Queue) (count : Nat) :
    (queue.skip count).pending = queue.pending.extract count queue.pending.size := by
  simp only [pending, skip, ByteArray.extract_extract, ByteArray.size_extract]
  exact extract_eq_of_min_eq (by omega)

/-- The bytes that are handed out were pending before. -/
theorem size_pending_skip {queue : Queue} {count : Nat} (complete : count ≤ queue.pending.size) :
    (queue.skip count).pending.size + count = queue.pending.size := by
  rw [pending_skip, size_drop]
  omega

theorem compact_held (queue : Queue) : queue.compact.held = queue.pending := by
  simp only [compact]
  split
  next untouched => simp [pending, untouched]
  next => rfl

theorem compact_taken (queue : Queue) : queue.compact.taken = 0 := by
  simp only [compact]
  split
  next untouched => exact untouched
  next => rfl

theorem held_push (queue : Queue) (piece : ByteArray) :
    (queue.push piece).held = queue.pending ++ piece := by
  rw [← compact_held]
  rfl

@[simp]
theorem pending_push (queue : Queue) (piece : ByteArray) :
    (queue.push piece).pending = queue.pending ++ piece := by
  have taken : (queue.push piece).taken = 0 := queue.compact_taken
  rw [pending, held_push, taken, ByteArray.extract_zero_size]

@[simp]
theorem totalIn_push (queue : Queue) (piece : ByteArray) :
    (queue.push piece).totalIn = queue.totalIn + piece.size := by
  simp only [push, compact]
  split <;> rfl

@[simp]
theorem ended_push (queue : Queue) (piece : ByteArray) :
    (queue.push piece).ended = queue.ended := by
  simp only [push, compact]
  split <;> rfl

theorem take?_eq (queue : Queue) (count : Nat) :
    queue.take? count =
      if count ≤ queue.pending.size then some (queue.pending.extract 0 count, queue.skip count)
      else none := by
  rw [take?, available_eq_size_pending]
  split
  next enough =>
    have cut : queue.held.extract queue.taken (queue.taken + count) =
        queue.pending.extract 0 count := by
      rw [← available_eq_size_pending, available] at enough
      rw [pending, ByteArray.extract_extract]
      exact extract_eq_of_min_eq (by omega)
    exact congrArg (fun bytes => some (bytes, queue.skip count)) cut
  next => rfl

theorem takeWord?_eq (queue : Queue) :
    queue.takeWord? =
      if 4 ≤ queue.pending.size then some (BigEndian.decode queue.pending, queue.skip 4)
      else none := by
  rw [takeWord?, take?_eq]
  split
  next => simp
  next => rfl

theorem takeSigned?_eq (queue : Queue) :
    queue.takeSigned? =
      if 4 ≤ queue.pending.size then
        some (BigEndian.signed (BigEndian.decode queue.pending), queue.skip 4)
      else none := by
  rw [takeSigned?, takeWord?_eq]
  split <;> rfl

end Queue

end DeltaSignature
