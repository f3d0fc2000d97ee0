import DeltaSignature.Bytes

/-!
# Byte queue

Input arrives in pieces of any size and is asked for in fields of fixed size.  The queue keeps
what has arrived and hands out exactly the bytes of a field once they are all there.  Bytes that
have been handed out are dropped when the next piece arrives.
-/

namespace DeltaSignature

/-- Bytes that have arrived, the first `taken` of them already handed out, and the number of all
that ever arrived. -/
structure Queue where
  held : ByteArray := .empty
  taken : Nat := 0
  totalIn : Nat := 0
  ended : Bool := false

namespace Queue

def available (queue : Queue) : Nat :=
  queue.held.size - queue.taken

/-- The bytes held and not yet handed out. -/
def pending (queue : Queue) : ByteArray :=
  queue.held.extract queue.taken queue.held.size

def compact (queue : Queue) : Queue :=
  if queue.taken = 0 then queue else { queue with held := queue.pending, taken := 0 }

/-- Takes a piece in.  The room that it needs is taken to be there. -/
def push (queue : Queue) (piece : ByteArray) : Queue :=
  let queue := queue.compact
  { queue with held := queue.held ++ piece, totalIn := queue.totalIn + piece.size }

/-- Hands out the next `count` bytes, or nothing if they have not all arrived. -/
def take? (queue : Queue) (count : Nat) : Option (ByteArray × Queue) :=
  if count ≤ queue.available then
    let stop := queue.taken + count
    some (queue.held.extract queue.taken stop, { queue with taken := stop })
  else
    none

def takeWord? (queue : Queue) : Option (UInt32 × Queue) :=
  (queue.take? 4).map fun (bytes, queue) => (BigEndian.decode bytes, queue)

def takeSigned? (queue : Queue) : Option (Int × Queue) :=
  queue.takeWord?.map fun (word, queue) => (BigEndian.signed word, queue)

theorem available_of_take? {queue rest : Queue} {count : Nat} {bytes : ByteArray}
    (served : queue.take? count = some (bytes, rest)) :
    rest.available + count = queue.available := by
  simp only [take?] at served
  split at served
  next enough =>
    obtain ⟨_, rfl⟩ := by simpa using served
    simp only [available] at enough ⊢
    omega
  next => simp at served

theorem available_of_takeWord? {queue rest : Queue} {word : UInt32}
    (served : queue.takeWord? = some (word, rest)) : rest.available + 4 = queue.available := by
  obtain ⟨⟨bytes, rest'⟩, taken, same⟩ := Option.map_eq_some_iff.1 served
  obtain ⟨_, rfl⟩ := by simpa using same
  exact available_of_take? taken

theorem available_of_takeSigned? {queue rest : Queue} {value : Int}
    (served : queue.takeSigned? = some (value, rest)) : rest.available + 4 = queue.available := by
  obtain ⟨⟨word, rest'⟩, taken, same⟩ := Option.map_eq_some_iff.1 served
  obtain ⟨_, rfl⟩ := by simpa using same
  exact available_of_takeWord? taken

theorem ended_of_take? {queue rest : Queue} {count : Nat} {bytes : ByteArray}
    (served : queue.take? count = some (bytes, rest)) : rest.ended = queue.ended := by
  simp only [take?] at served
  split at served
  next =>
    obtain ⟨_, rfl⟩ := by simpa using served
    rfl
  next => simp at served

theorem ended_of_takeWord? {queue rest : Queue} {word : UInt32}
    (served : queue.takeWord? = some (word, rest)) : rest.ended = queue.ended := by
  obtain ⟨⟨bytes, rest'⟩, taken, same⟩ := Option.map_eq_some_iff.1 served
  obtain ⟨_, rfl⟩ := by simpa using same
  exact ended_of_take? taken

theorem ended_of_takeSigned? {queue rest : Queue} {value : Int}
    (served : queue.takeSigned? = some (value, rest)) : rest.ended = queue.ended := by
  obtain ⟨⟨word, rest'⟩, taken, same⟩ := Option.map_eq_some_iff.1 served
  obtain ⟨_, rfl⟩ := by simpa using same
  exact ended_of_takeWord? taken

def finish (queue : Queue) : Queue :=
  { queue with ended := true }

end Queue

end DeltaSignature
