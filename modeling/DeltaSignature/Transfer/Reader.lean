import DeltaSignature.Transfer.Failure

/-!
# Readers and sources

A `ByteReader` hands out bytes in pieces of its own choosing.  Every reader carries a bound on how
many calls can still be answered by an interruption or by bytes; the bound is what makes a loop
that reads to the end finite.  A `ByteSource` can also be asked to move to an absolute position.
-/

namespace DeltaSignature

/-- The answer to a call.  No bytes at all mean that the stream has ended; after an interruption the
call may be repeated. -/
inductive ReadOutcome where
  | delivered (bytes : ByteArray)
  | interrupted
  | failed (failure : IoFailure)

namespace ReadOutcome

/-- Whether the reader may be called again for more: the stream has neither ended nor failed. -/
def goesOn : ReadOutcome → Bool
  | delivered bytes => !bytes.isEmpty
  | interrupted => true
  | failed _ => false

end ReadOutcome

/-- Something that hands out bytes.  Every call after which reading goes on uses up some of what is
left. -/
class ByteReader (σ : Type) where
  read : σ → Nat → ReadOutcome × σ
  left : σ → Nat
  left_read_lt : ∀ source size, (read source size).1.goesOn = true →
    left (read source size).2 < left source
  size_le_of_delivered : ∀ source size piece, (read source size).1 = .delivered piece →
    piece.size ≤ size

namespace ByteReader

variable {σ : Type} [ByteReader σ] {reader next : σ} {size : Nat}

theorem left_lt_of_interrupted (answer : read reader size = (.interrupted, next)) :
    left next < left reader := by
  simpa [answer] using left_read_lt reader size (by simp [answer, ReadOutcome.goesOn])

theorem left_lt_of_delivered {piece : ByteArray}
    (answer : read reader size = (.delivered piece, next)) (nonempty : ¬piece.isEmpty = true) :
    left next < left reader := by
  have goesOn : (read reader size).1.goesOn = true := by
    simpa [answer, ReadOutcome.goesOn] using nonempty
  simpa [answer] using left_read_lt reader size goesOn

end ByteReader

/-- A reader that may also be moved to an absolute position. -/
class ByteSource (σ : Type) extends ByteReader σ where
  seek : σ → Nat → Except IoFailure Unit × σ

/-- A reader that can only move forward. -/
structure Forward (σ : Type) where
  reader : σ

namespace Forward

/-- The answer of every forward-only reader to a seek. -/
def seekFailure : IoFailure :=
  ⟨.unsupported, "source does not support seeking"⟩

instance {σ : Type} [ByteReader σ] : ByteReader (Forward σ) where
  read source size :=
    let answer := ByteReader.read source.reader size
    (answer.1, ⟨answer.2⟩)
  left source := ByteReader.left source.reader
  left_read_lt source size goesOn := ByteReader.left_read_lt source.reader size goesOn
  size_le_of_delivered source := ByteReader.size_le_of_delivered source.reader

instance {σ : Type} [ByteReader σ] : ByteSource (Forward σ) where
  seek source _ := (.error seekFailure, source)

end Forward

/-- A reader that may fail where the one behind it ends. -/
structure Breaking (σ : Type) where
  reader : σ
  failure : Option IoFailure

namespace Breaking

variable {σ : Type} [ByteReader σ]

/-- The answer of the reader behind, with the failure in place of its end. -/
def outcome (source : Breaking σ) (size : Nat) : ReadOutcome :=
  match (ByteReader.read source.reader size).1, source.failure with
  | .delivered piece, some failure => if piece.isEmpty then .failed failure else .delivered piece
  | outcome, _ => outcome

theorem goesOn_outcome (source : Breaking σ) (size : Nat) :
    (source.outcome size).goesOn = (ByteReader.read source.reader size).1.goesOn := by
  unfold outcome
  split
  next piece failure delivered _ =>
    rw [delivered]
    by_cases nothing : piece.isEmpty = true
    · rw [if_pos nothing, ReadOutcome.goesOn, ReadOutcome.goesOn, nothing, Bool.not_true]
    · rw [if_neg nothing]
  next => rfl

theorem delivered_of_outcome {source : Breaking σ} {size : Nat} {piece : ByteArray}
    (answer : source.outcome size = .delivered piece) :
    (ByteReader.read source.reader size).1 = .delivered piece := by
  unfold outcome at answer
  split at answer
  next shown failure delivered _ =>
    rw [delivered]
    split at answer
    next => cases answer
    next => exact answer
  next => exact answer

instance : ByteReader (Breaking σ) where
  read source size :=
    (source.outcome size, ⟨(ByteReader.read source.reader size).2, source.failure⟩)
  left source := ByteReader.left source.reader
  left_read_lt source size goesOn :=
    ByteReader.left_read_lt source.reader size (goesOn_outcome source size ▸ goesOn)
  size_le_of_delivered source size piece answer :=
    ByteReader.size_le_of_delivered source.reader size piece (delivered_of_outcome answer)

end Breaking

/-- Bytes in memory with a reading position. -/
structure Cursor where
  bytes : ByteArray
  position : Nat := 0

namespace Cursor

/-- The next bytes, as many as there are up to `size`. -/
def next (cursor : Cursor) (size : Nat) : ByteArray :=
  cursor.bytes.extract cursor.position (cursor.position + min size cursor.bytes.size)

/-- Hands out the next bytes and moves past them. -/
def read (cursor : Cursor) (size : Nat) : ReadOutcome × Cursor :=
  let piece := cursor.next size
  (.delivered piece, { cursor with position := cursor.position + piece.size })

theorem size_next_le (cursor : Cursor) (size : Nat) : (cursor.next size).size ≤ size := by
  simp only [next, ByteArray.size_extract]
  omega

theorem size_next_le_left (cursor : Cursor) (size : Nat) :
    (cursor.next size).size ≤ cursor.bytes.size - cursor.position := by
  simp only [next, ByteArray.size_extract]
  omega

theorem left_read_lt (cursor : Cursor) (size : Nat)
    (goesOn : (cursor.read size).1.goesOn = true) :
    (cursor.read size).2.bytes.size - (cursor.read size).2.position <
      cursor.bytes.size - cursor.position := by
  have nonempty : (cursor.next size).size ≠ 0 := by
    simpa [read, ReadOutcome.goesOn, ByteArray.isEmpty] using goesOn
  have available := cursor.size_next_le_left size
  simp only [read]
  omega

instance : ByteReader Cursor where
  read := read
  left cursor := cursor.bytes.size - cursor.position
  left_read_lt := left_read_lt
  size_le_of_delivered cursor size piece delivered := by
    obtain rfl := by simpa [read] using delivered
    exact cursor.size_next_le size

end Cursor

end DeltaSignature
