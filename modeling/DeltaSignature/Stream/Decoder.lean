import DeltaSignature.Stream.Note
import DeltaSignature.Stream.Queue

/-!
# Decoding a stream as it arrives

A decoder is given the bytes of a signature stream in pieces of any size.  Each step reads at most
one field; a field whose bytes have not all arrived leaves the decoder as it was.  So every record
enters the index exactly once, however the stream was cut.
-/

namespace DeltaSignature

namespace Decoder

/-- What a decoder waits for: a field of the header, the weak sum of the next block or the end of
the stream, or the strong sum of the block whose weak sum was read.  Nothing more is awaited once
the stream has ended between two records, or an error was reported. -/
inductive State where
  | tag
  | blockLength (tag : UInt32)
  | strongLength (tag : UInt32) (blockLength : Nat)
  | weakSum (index : Index)
  | strongSum (index : Index) (weak : UInt32)
  | done (index : Index)
  | failed

namespace State

def name : State → String
  | tag => Field.tag.name
  | blockLength _ => Field.blockLength.name
  | strongLength .. => Field.strongLength.name
  | weakSum _ => Field.weakSum.name
  | strongSum .. => Field.strongSum.name
  | done _ => "done"
  | failed => "failed"

/-- The blocks read so far, once the header is complete. -/
def index? : State → Option Index
  | weakSum index | strongSum index _ | done index => some index
  | _ => none

def blockLength? : State → Option Nat
  | strongLength _ length => some length
  | weakSum index | strongSum index _ | done index => some index.params.blockLength
  | _ => none

end State

/-- What a step, or a run of steps, came to.  More input is needed if the field awaited has not
arrived in full. -/
inductive Progress where
  | inProgress
  | needMoreInput
  | done
deriving DecidableEq, Repr

end Decoder

open Decoder in
/-- A reader of one signature stream.  The size of the whole stream, if it was declared, is only
used to make room. -/
structure Decoder where
  state : State := .tag
  queue : Queue := {}
  blocks : Nat := 0
  sizeHint : Option Nat := none
  trace : Array Note := #[]

namespace Decoder

def new (sizeHint : Option Nat) : Decoder :=
  { sizeHint }

def bytesIn (decoder : Decoder) : Nat :=
  decoder.queue.totalIn

/-- Whether the stream has ended between two records. -/
def isDone (decoder : Decoder) : Bool :=
  decoder.state matches .done _

def events (decoder : Decoder) : List Event :=
  decoder.trace.toList.filterMap Note.event?

def log (decoder : Decoder) : List Log.Line :=
  decoder.trace.toList.map Note.line

def push (decoder : Decoder) (piece : ByteArray) : Except LoadError Unit × Decoder :=
  if decoder.queue.ended || decoder.state matches .done _ | .failed then
    (.error .terminated, decoder)
  else
    (.ok (), { decoder with queue := decoder.queue.push piece })

def finish (decoder : Decoder) : Decoder :=
  { decoder with queue := decoder.queue.finish }

/-- Gives up for a reason. -/
def fail (decoder : Decoder) (cause : LoadError) : Except LoadError Progress × Decoder :=
  (.error cause, { decoder with state := .failed })

/-- Gives up because of a defect, which is noted. -/
def refuse (decoder : Decoder) (defect : Malformed) : Except LoadError Progress × Decoder :=
  { decoder with trace := decoder.trace.push (.defect defect) }.fail (.malformed defect)

/-- The answer when a field is not there in full: a suspension, or a defect once input has ended. -/
def starve (decoder : Decoder) (field : Field) (needed : Nat) :
    Except LoadError Progress × Decoder :=
  if decoder.queue.ended then
    decoder.refuse (.truncated field decoder.queue.available needed)
  else
    (.ok .needMoreInput, decoder)

/-- Makes the index that the header describes. -/
def openIndex (sizeHint : Option Nat) (tag : UInt32) (blockLength strongLength : Nat) :
    Except ParamsError (Nat × Index) := do
  let params ← Params.ofHeader? tag blockLength strongLength
  let hint := params.capacityHint sizeHint
  let index ← Index.withCapacity? params hint
  return (hint, index)

/-- Reads at most one field. -/
def step : Decoder → Except LoadError Progress × Decoder
  | decoder@⟨.tag, queue, blocks, sizeHint, trace⟩ =>
    match queue.takeWord? with
    | none => decoder.starve .tag 4
    | some (tag, queue) =>
      (.ok .inProgress,
        ⟨.blockLength tag, queue, blocks, sizeHint, trace.push (.event (.tag tag))⟩)
  | decoder@⟨.blockLength tag, queue, blocks, sizeHint, trace⟩ =>
    match queue.takeSigned? with
    | none => decoder.starve .blockLength 4
    | some (value, queue) =>
      if value < 1 then
        refuse ⟨.failed, queue, blocks, sizeHint, trace⟩ (.blockLength value)
      else
        let blockLength := value.toNat
        (.ok .inProgress,
          ⟨.strongLength tag blockLength, queue, blocks, sizeHint,
            trace.push (.event (.blockLength blockLength))⟩)
  | decoder@⟨.strongLength tag blockLength, queue, blocks, sizeHint, trace⟩ =>
    match queue.takeSigned? with
    | none => decoder.starve .strongLength 4
    | some (value, queue) =>
      if value < 0 ∨ maxStrongLength < value then
        refuse ⟨.failed, queue, blocks, sizeHint, trace⟩ (.strongLength value)
      else
        let strongLength := value.toNat
        let trace := trace.push (.event (.strongLength strongLength))
        match openIndex sizeHint tag blockLength strongLength with
        | .error cause =>
          fail ⟨.failed, queue, blocks, sizeHint, trace⟩ (.malformed (.params cause))
        | .ok (hint, index) =>
          (.ok .inProgress,
            ⟨.weakSum index, queue, blocks, sizeHint, trace.push (.event (.indexReady hint))⟩)
  | decoder@⟨.weakSum index, queue, blocks, sizeHint, trace⟩ =>
    match queue.takeWord? with
    | none =>
      if queue.ended ∧ queue.available = 0 then
        (.ok .done,
          ⟨.done index, queue, blocks, sizeHint, trace.push (.event (.done index.size))⟩)
      else
        decoder.starve .weakSum 4
    | some (weak, queue) =>
      (.ok .inProgress, ⟨.strongSum index weak, queue, blocks, sizeHint, trace⟩)
  | decoder@⟨.strongSum index weak, queue, blocks, sizeHint, trace⟩ =>
    match queue.take? index.params.strongLength with
    | none => decoder.starve .strongSum index.params.strongLength
    | some (strong, queue) =>
      match index.push weak strong with
      | .error cause => fail ⟨.failed, queue, blocks, sizeHint, trace⟩ (.ofPushError cause)
      | .ok (number, index) =>
        (.ok .inProgress,
          ⟨.weakSum index, queue, blocks + 1, sizeHint,
            trace.push (.event (.block ⟨number, weak, strong⟩))⟩)
  | decoder@⟨.done _, _, _, _, _⟩ => (.ok .done, decoder)
  | decoder@⟨.failed, _, _, _, _⟩ => decoder.fail .terminated

/-- A bound on the fields that can still be read without more input. -/
def remaining (decoder : Decoder) : Nat :=
  match decoder.state with
  | .strongSum .. => decoder.queue.available + 1
  | _ => decoder.queue.available

theorem starve_ne_inProgress (decoder next : Decoder) (field : Field) (needed : Nat) :
    decoder.starve field needed ≠ (.ok .inProgress, next) := by
  simp only [starve, refuse, fail]
  split <;> simp

theorem step_remaining_lt {decoder next : Decoder}
    (reads : decoder.step = (.ok .inProgress, next)) :
    next.remaining < decoder.remaining := by
  obtain ⟨state, queue, blocks, sizeHint, trace⟩ := decoder
  cases state <;> simp only [step, refuse, fail] at reads
  case tag =>
    split at reads
    next => exact (starve_ne_inProgress _ _ _ _ reads).elim
    next served =>
      have := Queue.available_of_takeWord? served
      obtain rfl := by simpa using reads
      simp only [remaining]
      omega
  case blockLength =>
    split at reads
    next => exact (starve_ne_inProgress _ _ _ _ reads).elim
    next served =>
      have := Queue.available_of_takeSigned? served
      split at reads
      next => simp at reads
      next =>
        obtain rfl := by simpa using reads
        simp only [remaining]
        omega
  case strongLength =>
    split at reads
    next => exact (starve_ne_inProgress _ _ _ _ reads).elim
    next served =>
      have := Queue.available_of_takeSigned? served
      split at reads
      next => simp at reads
      next =>
        split at reads
        next => simp at reads
        next =>
          obtain rfl := by simpa using reads
          simp only [remaining]
          omega
  case weakSum =>
    split at reads
    next =>
      split at reads
      next => simp at reads
      next => exact (starve_ne_inProgress _ _ _ _ reads).elim
    next served =>
      have := Queue.available_of_takeWord? served
      obtain rfl := by simpa using reads
      simp only [remaining]
      omega
  case strongSum =>
    split at reads
    next => exact (starve_ne_inProgress _ _ _ _ reads).elim
    next served =>
      have := Queue.available_of_take? served
      split at reads
      next => simp at reads
      next =>
        obtain rfl := by simpa using reads
        simp only [remaining]
        omega
  case done | failed => simp at reads

/-- Steps until more input is needed or the stream has ended. -/
def run (decoder : Decoder) : Except LoadError Progress × Decoder :=
  match _ : decoder.step with
  | (.ok .inProgress, next) => next.run
  | answer => answer
termination_by decoder.remaining
decreasing_by exact step_remaining_lt ‹_›

theorem starve_of_ended {decoder next : Decoder} {field : Field} {needed : Nat}
    {progress : Progress} (ended : decoder.queue.ended = true) :
    decoder.starve field needed ≠ (.ok progress, next) := by
  simp [starve, refuse, fail, ended]

/-- Once the input has ended no step waits for more of it. -/
theorem step_of_ended {decoder next : Decoder} {progress : Progress}
    (ended : decoder.queue.ended = true) (stepped : decoder.step = (.ok progress, next)) :
    progress = .done ∨ progress = .inProgress ∧ next.queue.ended = true := by
  obtain ⟨state, queue, blocks, sizeHint, trace⟩ := decoder
  cases state <;> simp only [step, refuse, fail] at stepped
  case tag =>
    split at stepped
    next => exact (starve_of_ended ended stepped).elim
    next served =>
      have same := Queue.ended_of_takeWord? served
      obtain ⟨rfl, rfl⟩ := by simpa using stepped
      exact .inr ⟨rfl, same.trans ended⟩
  case blockLength =>
    split at stepped
    next => exact (starve_of_ended ended stepped).elim
    next served =>
      have same := Queue.ended_of_takeSigned? served
      split at stepped
      next => simp at stepped
      next =>
        obtain ⟨rfl, rfl⟩ := by simpa using stepped
        exact .inr ⟨rfl, same.trans ended⟩
  case strongLength =>
    split at stepped
    next => exact (starve_of_ended ended stepped).elim
    next served =>
      have same := Queue.ended_of_takeSigned? served
      split at stepped
      next => simp at stepped
      next =>
        split at stepped
        next => simp at stepped
        next =>
          obtain ⟨rfl, rfl⟩ := by simpa using stepped
          exact .inr ⟨rfl, same.trans ended⟩
  case weakSum =>
    split at stepped
    next =>
      split at stepped
      next =>
        obtain ⟨rfl, -⟩ := by simpa using stepped
        exact .inl rfl
      next => exact (starve_of_ended ended stepped).elim
    next served =>
      have same := Queue.ended_of_takeWord? served
      obtain ⟨rfl, rfl⟩ := by simpa using stepped
      exact .inr ⟨rfl, same.trans ended⟩
  case strongSum =>
    split at stepped
    next => exact (starve_of_ended ended stepped).elim
    next served =>
      have same := Queue.ended_of_take? served
      split at stepped
      next => simp at stepped
      next =>
        obtain ⟨rfl, rfl⟩ := by simpa using stepped
        exact .inr ⟨rfl, same.trans ended⟩
  case done =>
    obtain ⟨rfl, -⟩ := by simpa using stepped
    exact .inl rfl
  case failed => simp at stepped

/-- Once the input has ended a run comes to the end of the stream or to an error. -/
theorem run_of_ended {decoder next : Decoder} {progress : Progress}
    (ended : decoder.queue.ended = true) (ran : decoder.run = (.ok progress, next)) :
    progress = .done := by
  fun_induction run decoder with
  | case1 decoder middle goesOn ih =>
    rcases step_of_ended ended goesOn with done | ⟨-, endedNext⟩
    · cases done
    · exact ih endedNext ran
  | case2 decoder stops =>
    rcases step_of_ended ended ran with done | ⟨rfl, -⟩
    · exact done
    · exact (stops _ ran).elim

/-- The signature, once the stream has ended. -/
def signature? (decoder : Decoder) : Except LoadError Index :=
  match decoder.state with
  | .done index => .ok index
  | .failed => .error .terminated
  | _ => .error .incomplete

end Decoder

/-- The signature that a complete stream holds. -/
def Index.decode? (stream : ByteArray) : Except LoadError Index := do
  let (pushed, decoder) := (Decoder.new (some stream.size)).push stream
  pushed
  let (ran, decoder) := decoder.finish.run
  let _ ← ran
  decoder.signature?

end DeltaSignature
