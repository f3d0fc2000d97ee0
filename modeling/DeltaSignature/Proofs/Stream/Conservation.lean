import DeltaSignature.Proofs.Stream.Pending

/-!
# A queue loses nothing

Bytes are pushed into a queue and taken out of it in any order of calls.  What was handed out, with
what is pending behind it, is always what was pushed: each call keeps this (`Obeyed.conserved`), and
so does every sequence of calls (`Conserved.perform`).  When a queue drops the bytes that it has
handed out does not show, for queues with the same bytes pending answer alike for ever.
-/

namespace DeltaSignature

open BigEndian

namespace Queue

/-- What a queue can be asked to do. -/
inductive Call where
  | push (piece : ByteArray)
  | take (count : Nat)
  | takeWord
  | takeSigned
  | finish
  | compact
deriving DecidableEq

/-- What a call answers.  A field that has not arrived in full is not handed out. -/
inductive Answer where
  | done
  | bytes (field : Option ByteArray)
  | word (field : Option UInt32)
  | signed (field : Option Int)
deriving DecidableEq

/-- The field that was asked for and the queue without it, or the queue as it was. -/
def orStay {α : Type} (queue : Queue) : Option (α × Queue) → Option α × Queue
  | some (field, rest) => (some field, rest)
  | none => (none, queue)

def obey (queue : Queue) : Call → Answer × Queue
  | .push piece => (.done, queue.push piece)
  | .take count => (queue.orStay (queue.take? count)).map .bytes id
  | .takeWord => (queue.orStay queue.takeWord?).map .word id
  | .takeSigned => (queue.orStay queue.takeSigned?).map .signed id
  | .finish => (.done, queue.finish)
  | .compact => (.done, queue.compact)

/-- Makes calls in order, whatever they answer. -/
def perform (queue : Queue) : List Call → List Answer × Queue
  | [] => ([], queue)
  | call :: calls =>
    ((queue.obey call).1 :: ((queue.obey call).2.perform calls).1,
      ((queue.obey call).2.perform calls).2)

/-- The bytes that arrive with a call. -/
def Call.piece : Call → ByteArray
  | push piece => piece
  | take _ | takeWord | takeSigned | finish | compact => .empty

/-- The bytes of all pushes, in order. -/
def pushed : List Call → ByteArray
  | [] => .empty
  | call :: calls => call.piece ++ pushed calls

/-- The bytes that leave the queue with an answer.  Those of a number are its layout as a word. -/
def Answer.field : Answer → ByteArray
  | bytes (some field) => field
  | word (some value) => encode value
  | signed (some value) => encode (UInt32.ofInt value)
  | done | bytes none | word none | signed none => .empty

/-- The bytes of all fields that were handed out, in order. -/
def handedOut : List Answer → ByteArray
  | [] => .empty
  | answer :: answers => answer.field ++ handedOut answers

/-- The call concerns the storage of a queue and nothing else. -/
def Call.isIdle : Call → Bool
  | compact => true
  | push piece => piece.isEmpty
  | take _ | takeWord | takeSigned | finish => false

/-- The answers to the calls that are not idle. -/
def told : List Call → List Answer → List Answer
  | call :: calls, answer :: answers =>
    if call.isIdle then told calls answers else answer :: told calls answers
  | _, _ => []

variable {queue first second next : Queue} {call : Call} {answer : Answer}

section Steps

@[simp]
theorem pending_compact (queue : Queue) : queue.compact.pending = queue.pending := by
  rw [pending, compact_taken, compact_held, ByteArray.extract_zero_size]

@[simp]
theorem totalIn_compact (queue : Queue) : queue.compact.totalIn = queue.totalIn := by
  simp only [compact]
  split <;> rfl

@[simp]
theorem ended_compact (queue : Queue) : queue.compact.ended = queue.ended := by
  simp only [compact]
  split <;> rfl

theorem obey_take (queue : Queue) (count : Nat) :
    queue.obey (.take count) =
      if count ≤ queue.pending.size then
        (.bytes (some (queue.pending.extract 0 count)), queue.skip count)
      else (.bytes none, queue) := by
  rw [obey, take?_eq]
  split <;> rfl

theorem obey_takeWord (queue : Queue) :
    queue.obey .takeWord =
      if 4 ≤ queue.pending.size then (.word (some (decode queue.pending)), queue.skip 4)
      else (.word none, queue) := by
  rw [obey, takeWord?_eq]
  split <;> rfl

theorem obey_takeSigned (queue : Queue) :
    queue.obey .takeSigned =
      if 4 ≤ queue.pending.size then
        (.signed (some (BigEndian.signed (decode queue.pending))), queue.skip 4)
      else (.signed none, queue) := by
  rw [obey, takeSigned?_eq]
  split <;> rfl

/-- What a call can do to a queue. -/
inductive Obeyed (queue : Queue) : Call → Answer → Queue → Prop where
  | pushed (piece : ByteArray) : Obeyed queue (.push piece) .done (queue.push piece)
  | served {call : Call} {answer : Answer} {count : Nat} (bare : call.piece = .empty)
      (complete : count ≤ queue.pending.size)
      (front : answer.field = queue.pending.extract 0 count) :
      Obeyed queue call answer (queue.skip count)
  | refused {call : Call} {answer : Answer} (bare : call.piece = .empty)
      (nothing : answer.field = .empty) : Obeyed queue call answer queue
  | finished : Obeyed queue .finish .done queue.finish
  | compacted : Obeyed queue .compact .done queue.compact

theorem obeyed_obey (queue : Queue) (call : Call) :
    Obeyed queue call (queue.obey call).1 (queue.obey call).2 := by
  cases call with
  | push piece => exact .pushed piece
  | take count =>
    rw [obey_take]
    split
    next complete => exact .served rfl complete rfl
    next => exact .refused rfl rfl
  | takeWord =>
    rw [obey_takeWord]
    split
    next complete =>
      refine .served rfl complete ?_
      rw [Answer.field, ← decode_extract, encode_decode (size_take complete)]
    next => exact .refused rfl rfl
  | takeSigned =>
    rw [obey_takeSigned]
    split
    next complete =>
      refine .served rfl complete ?_
      rw [Answer.field, ofInt_signed, ← decode_extract, encode_decode (size_take complete)]
    next => exact .refused rfl rfl
  | finish => exact .finished
  | compact => exact .compacted

end Steps

section Conservation

/-- The queue was given `stream` and has handed out `front`. -/
structure Conserved (front stream : ByteArray) (queue : Queue) : Prop where
  append_pending : front ++ queue.pending = stream
  totalIn_eq : queue.totalIn = stream.size
  taken_le : queue.taken ≤ queue.held.size

variable {front stream : ByteArray}

theorem conserved_new : Conserved .empty .empty {} :=
  ⟨rfl, rfl, Nat.le_refl 0⟩

theorem Obeyed.conserved (obeyed : Obeyed queue call answer next)
    (conserved : Conserved front stream queue) :
    Conserved (front ++ answer.field) (stream ++ call.piece) next := by
  obtain ⟨whole, total, inside⟩ := conserved
  cases obeyed with
  | pushed piece =>
    refine ⟨?_, ?_, ?_⟩
    · rw [Answer.field, ByteArray.append_empty, pending_push, ← ByteArray.append_assoc, whole,
        Call.piece]
    · rw [totalIn_push, total, ByteArray.size_append, Call.piece]
    · exact (compact_taken queue).symm ▸ Nat.zero_le _
  | served bare complete taken =>
    have joined := ByteArray.extract_eq_extract_append_extract (a := queue.pending)
      (i := 0) (k := queue.pending.size) _ (Nat.zero_le _) complete
    rw [ByteArray.extract_zero_size] at joined
    rw [bare, taken, ByteArray.append_empty]
    refine ⟨?_, total, ?_⟩
    · rw [pending_skip, ByteArray.append_assoc, ← joined, whole]
    · rw [← available_eq_size_pending, available] at complete
      simp only [skip]
      omega
  | refused bare nothing =>
    rw [bare, nothing, ByteArray.append_empty, ByteArray.append_empty]
    exact ⟨whole, total, inside⟩
  | finished =>
    rw [Call.piece, Answer.field, ByteArray.append_empty, ByteArray.append_empty]
    exact ⟨whole, total, inside⟩
  | compacted =>
    rw [Call.piece, Answer.field, ByteArray.append_empty, ByteArray.append_empty]
    refine ⟨?_, ?_, ?_⟩
    · rw [pending_compact, whole]
    · rw [totalIn_compact, total]
    · exact (compact_taken queue).symm ▸ Nat.zero_le _

theorem Conserved.perform (conserved : Conserved front stream queue) (calls : List Call) :
    Conserved (front ++ handedOut (queue.perform calls).1) (stream ++ pushed calls)
      (queue.perform calls).2 := by
  induction calls generalizing queue front stream with
  | nil =>
    rw [Queue.perform, handedOut, pushed, ByteArray.append_empty, ByteArray.append_empty]
    exact conserved
  | cons call calls ih =>
    have later := ih ((obeyed_obey queue call).conserved conserved)
    rw [Queue.perform, handedOut, pushed, ← ByteArray.append_assoc, ← ByteArray.append_assoc]
    exact later

end Conservation

section Storage

/-- The queues differ in nothing but the bytes that they have handed out and still hold. -/
structure Alike (first second : Queue) : Prop where
  pending_eq : first.pending = second.pending
  totalIn_eq : first.totalIn = second.totalIn
  ended_eq : first.ended = second.ended

theorem Alike.available_eq (alike : Alike first second) : first.available = second.available := by
  rw [available_eq_size_pending, alike.pending_eq, available_eq_size_pending]

theorem Alike.push (alike : Alike first second) (piece : ByteArray) :
    Alike (first.push piece) (second.push piece) := by
  constructor
  · rw [pending_push, pending_push, alike.pending_eq]
  · rw [totalIn_push, totalIn_push, alike.totalIn_eq]
  · rw [ended_push, ended_push, alike.ended_eq]

theorem Alike.skip (alike : Alike first second) (count : Nat) :
    Alike (first.skip count) (second.skip count) := by
  constructor
  · rw [pending_skip, pending_skip, alike.pending_eq]
  · exact alike.totalIn_eq
  · exact alike.ended_eq

theorem Alike.compact (alike : Alike first second) : Alike first.compact second := by
  constructor
  · rw [pending_compact, alike.pending_eq]
  · rw [totalIn_compact, alike.totalIn_eq]
  · rw [ended_compact, alike.ended_eq]

theorem Alike.trans {third : Queue} (alike : Alike first second) (further : Alike second third) :
    Alike first third :=
  ⟨alike.pending_eq.trans further.pending_eq, alike.totalIn_eq.trans further.totalIn_eq,
    alike.ended_eq.trans further.ended_eq⟩

theorem Alike.symm (alike : Alike first second) : Alike second first :=
  ⟨alike.pending_eq.symm, alike.totalIn_eq.symm, alike.ended_eq.symm⟩

theorem Alike.obey (alike : Alike first second) (call : Call) :
    (first.obey call).1 = (second.obey call).1 ∧
      Alike (first.obey call).2 (second.obey call).2 := by
  cases call with
  | push piece => exact ⟨rfl, alike.push piece⟩
  | take count =>
    rw [obey_take, obey_take, alike.pending_eq]
    split
    next => exact ⟨rfl, alike.skip count⟩
    next => exact ⟨rfl, alike⟩
  | takeWord =>
    rw [obey_takeWord, obey_takeWord, alike.pending_eq]
    split
    next => exact ⟨rfl, alike.skip 4⟩
    next => exact ⟨rfl, alike⟩
  | takeSigned =>
    rw [obey_takeSigned, obey_takeSigned, alike.pending_eq]
    split
    next => exact ⟨rfl, alike.skip 4⟩
    next => exact ⟨rfl, alike⟩
  | finish => exact ⟨rfl, alike.pending_eq, alike.totalIn_eq, rfl⟩
  | compact => exact ⟨rfl, alike.symm.compact.symm.compact⟩

theorem Alike.idle (alike : Alike first second) (idle : call.isIdle = true) :
    Alike (first.obey call).2 second := by
  cases call with
  | push piece =>
    have nothing : piece = .empty :=
      ByteArray.size_eq_zero_iff.1 (by simpa [Call.isIdle, ByteArray.isEmpty] using idle)
    subst nothing
    constructor
    · exact (pending_push first .empty).trans (ByteArray.append_empty.trans alike.pending_eq)
    · exact (totalIn_push first .empty).trans alike.totalIn_eq
    · exact (ended_push first .empty).trans alike.ended_eq
  | compact => exact alike.compact
  | take | takeWord | takeSigned | finish => cases idle

/-- Leaving out idle calls changes no other answer. -/
theorem Alike.perform (alike : Alike first second) (calls : List Call) :
    told calls (first.perform calls).1 =
        (second.perform (calls.filter fun call => !call.isIdle)).1 ∧
      Alike (first.perform calls).2
        (second.perform (calls.filter fun call => !call.isIdle)).2 := by
  induction calls generalizing first second with
  | nil => exact ⟨rfl, alike⟩
  | cons call calls ih =>
    rw [Queue.perform, told]
    cases idle : call.isIdle with
    | true =>
      rw [List.filter_cons_of_neg (by simp [idle])]
      exact ih (alike.idle idle)
    | false =>
      obtain ⟨answered, alikeNext⟩ := alike.obey call
      obtain ⟨answers, alikeLast⟩ := ih alikeNext
      rw [List.filter_cons_of_pos (by simp [idle]), Queue.perform]
      exact ⟨congrArg₂ List.cons answered answers, alikeLast⟩

end Storage

/-- The queue hands out what is asked for from the front of what is pending.  If that is not enough
it hands out nothing and stays as it is. -/
structure Serving (queue : Queue) : Prop where
  available_eq : queue.available = queue.pending.size
  take_eq_some : ∀ count ≤ queue.available, ∃ field rest,
    queue.obey (.take count) = (.bytes (some field), rest) ∧ field.size = count ∧
      field ++ rest.pending = queue.pending
  take_eq_none : ∀ count, queue.available < count →
    queue.obey (.take count) = (.bytes none, queue)
  number_eq_some : ∀ first second third fourth rest,
    queue.pending = ⟨#[first, second, third, fourth]⟩ ++ rest →
      let value :=
        ((first.toNat * 256 + second.toNat) * 256 + third.toNat) * 256 + fourth.toNat
      ∃ word next, word.toNat = value ∧ next.pending = rest ∧
        queue.obey .takeWord = (.word (some word), next) ∧
        queue.obey .takeSigned = (.signed (some (Int.bmod value (2 ^ 32))), next)
  number_eq_none : queue.available < 4 →
    queue.obey .takeWord = (.word none, queue) ∧ queue.obey .takeSigned = (.signed none, queue)

theorem serving (queue : Queue) : Serving queue := by
  have available := queue.available_eq_size_pending
  constructor
  case available_eq => exact available
  case take_eq_some =>
    intro count enough
    rw [available] at enough
    refine ⟨queue.pending.extract 0 count, queue.skip count, ?_, size_take enough, ?_⟩
    · rw [obey_take, if_pos enough]
    · rw [pending_skip,
        ← ByteArray.extract_eq_extract_append_extract count (Nat.zero_le _) enough,
        ByteArray.extract_zero_size]
  case take_eq_none =>
    intro count short
    rw [obey_take, if_neg (by omega)]
  case number_eq_some =>
    intro first second third fourth rest pending value
    have four : (⟨#[first, second, third, fourth]⟩ : ByteArray).size = 4 := rfl
    have complete : 4 ≤ queue.pending.size := by
      rw [pending, ByteArray.size_append, four]
      omega
    have toNat : (decode queue.pending).toNat = value := by
      rw [pending, decode_append rest (Nat.le_of_eq four.symm), toNat_decode]
    have behind := extract_append_size ⟨#[first, second, third, fourth]⟩ rest
    rw [← ByteArray.size_append, ← pending, four] at behind
    refine ⟨decode queue.pending, queue.skip 4, toNat, ?_, ?_, ?_⟩
    · rw [pending_skip, behind]
    · rw [obey_takeWord, if_pos complete]
    · rw [obey_takeSigned, if_pos complete, signed_eq_bmod, toNat]
  case number_eq_none =>
    intro short
    rw [obey_takeWord, obey_takeSigned, if_neg (by omega), if_neg (by omega)]
    exact ⟨rfl, rfl⟩

/-- Whatever is asked of a new queue, the bytes that it has handed out with those pending behind
them are those that were pushed, and it serves the next field from the front of those pending.
Compacting it and pushing nothing, as often as one likes and at any time, has no part in what it
answers. -/
theorem perform_conserves (calls : List Call) :
    let answers := (perform {} calls).1
    let last := (perform {} calls).2
    handedOut answers ++ last.pending = pushed calls ∧ last.totalIn = (pushed calls).size ∧
    last.taken ≤ last.held.size ∧ Serving last ∧
    ∀ others, (others.filter fun call => !call.isIdle) = (calls.filter fun call => !call.isIdle) →
      told others (perform {} others).1 = told calls answers ∧
        Alike (perform {} others).2 last ∧ (perform {} others).2.available = last.available := by
  intro answers last
  obtain ⟨whole, total, inside⟩ : Conserved _ _ last := conserved_new.perform calls
  rw [ByteArray.empty_append, ByteArray.empty_append] at whole
  rw [ByteArray.empty_append] at total
  refine ⟨whole, total, inside, serving last, fun others same => ?_⟩
  have new : Alike {} {} := ⟨rfl, rfl, rfl⟩
  obtain ⟨answered, alike⟩ := new.perform calls
  obtain ⟨answeredOthers, alikeOthers⟩ := new.perform others
  rw [same] at answeredOthers alikeOthers
  have alikeLast := alikeOthers.trans alike.symm
  exact ⟨answeredOthers.trans answered.symm, alikeLast, alikeLast.available_eq⟩

-- A field that is cut in two, with the queue compacted in between.
example :
    (perform {} [.push ⟨#[1, 0xff, 0xff]⟩, .take 1, .takeSigned, .compact, .push ⟨#[0xff, 0xfe]⟩,
      .takeSigned]).1 =
      [.done, .bytes (some ⟨#[1]⟩), .signed none, .done, .done, .signed (some (-2))] := by
  decide

end Queue

end DeltaSignature
