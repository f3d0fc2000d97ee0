import DeltaSignature.Proofs.Stream.Reports
import DeltaSignature.Proofs.Stream.Waiting

/-!
# Every byte is accounted for

A decoder that has not failed has read the header as far as its state says, a whole record for
every block, and a weak sum if it waits for the strong sum behind it; the rest is pending.  This
balance is kept by every call.  A run that asks for more input leaves less than one field pending,
so that all whole records are in the index, and the next push finds little to keep.
-/

namespace DeltaSignature

namespace Decoder

namespace State

/-- How many bytes of the header were read. -/
def headerRead : State → Nat
  | tag => 0
  | blockLength _ => 4
  | strongLength .. => 8
  | _ => 12

/-- The size of a record, once it is known. -/
def recordLength (state : State) : Nat :=
  (state.index?.map fun index => index.params.recordLength).getD 0

/-- How many bytes were read of the record that comes next. -/
def recordRead : State → Nat
  | strongSum .. => 4
  | _ => 0

theorem needed_le {state : State} {field : Field} {needed : Nat}
    (awaits : state.awaited = some (field, needed)) : needed ≤ maxStrongLength := by
  cases state with
  | strongSum index =>
    obtain ⟨-, rfl⟩ := Prod.mk.inj (Option.some.inj awaits)
    exact index.params.strongLength_le_max
  | done | failed => cases awaits
  | _ =>
    obtain ⟨-, rfl⟩ := Prod.mk.inj (Option.some.inj awaits)
    decide

/-- Behind the header, the field awaited is the rest of a record or its first part. -/
theorem inside_record {state : State} {field : Field} {needed : Nat} {index : Index}
    (awaits : state.awaited = some (field, needed)) (opened : state.index? = some index) :
    state.headerRead = Params.headerLength ∧
      state.recordLength = 4 + index.params.strongLength ∧
      state.recordRead + needed ≤ 4 + index.params.strongLength := by
  cases state with
  | weakSum =>
    obtain ⟨-, rfl⟩ := Prod.mk.inj (Option.some.inj awaits)
    obtain rfl := Option.some.inj opened
    exact ⟨rfl, rfl, Nat.le_add_right 4 _⟩
  | strongSum =>
    obtain ⟨-, rfl⟩ := Prod.mk.inj (Option.some.inj awaits)
    obtain rfl := Option.some.inj opened
    exact ⟨rfl, rfl, Nat.le_refl _⟩
  | done => cases awaits
  | _ => cases opened

end State

variable {decoder next : Decoder} {answer : Except LoadError Progress} {progress : Progress}

/-- All the bytes that have come were read as what the state and the blocks say, or are pending. -/
structure Balanced (decoder : Decoder) : Prop where
  blocks_eq : decoder.blocks = (decoder.state.index?.map Index.size).getD 0
  bytesIn_eq : decoder.bytesIn = decoder.state.headerRead +
    decoder.blocks * decoder.state.recordLength + decoder.state.recordRead +
      decoder.queue.pending.size

theorem balanced_new (sizeHint : Option Nat) : Balanced (.new sizeHint) where
  blocks_eq := rfl
  bytesIn_eq := rfl

theorem Stepped.balanced (stepped : Stepped decoder (.ok progress) next)
    (balanced : Balanced decoder) : Balanced next := by
  refine ⟨stepped.blocks_eq balanced.blocks_eq, ?_⟩
  obtain ⟨blocks, total⟩ := balanced
  rw [bytesIn, stepped.totalIn_eq]
  rw [bytesIn] at total
  cases stepped with
  | suspended | done => exact total
  | tag awaits complete | blockLength awaits complete | weakSum awaits complete =>
    have taken := Queue.size_pending_skip complete
    rw [awaits] at blocks total
    simp only [State.headerRead, State.recordLength, State.recordRead, State.index?] at total ⊢
    omega
  | strongLength awaits complete =>
    have taken := Queue.size_pending_skip complete
    rw [awaits] at blocks total
    have none : decoder.blocks = 0 := blocks
    simp only [State.headerRead, State.recordRead, none, Nat.zero_mul] at total ⊢
    omega
  | @strongSum index weak strong awaits complete =>
    have taken := Queue.size_pending_skip complete
    have whole : index.params.recordLength = 4 + index.params.strongLength := rfl
    have same : (State.weakSum (index.add weak strong)).recordLength =
        index.params.recordLength := rfl
    have before : (State.strongSum index weak).recordLength = index.params.recordLength := rfl
    rw [awaits, before] at total
    simp only [State.headerRead, same, State.recordRead, Nat.add_one_mul] at total ⊢
    omega
  | finished awaits =>
    rw [awaits] at total
    exact total

theorem Ran.balanced (ran : Ran decoder answer next) (succeeded : answer = .ok progress)
    (balanced : Balanced decoder) : Balanced next :=
  ran.keeps Balanced Stepped.balanced succeeded balanced

theorem Balanced.push (balanced : Balanced decoder) (piece : ByteArray) :
    Balanced { decoder with queue := decoder.queue.push piece } where
  blocks_eq := balanced.blocks_eq
  bytesIn_eq := by
    have total := balanced.bytesIn_eq
    simp only [bytesIn, Queue.totalIn_push, Queue.pending_push, ByteArray.size_append] at total ⊢
    omega

/-- A call keeps the balance, unless the decoder fails by it. -/
theorem Balanced.obey (balanced : Balanced decoder) (call : Call)
    (live : (decoder.obey call).2.state ≠ .failed) : Balanced (decoder.obey call).2 := by
  cases call with
  | push piece =>
    rcases decoder.push_cases piece with refused | ⟨-, taken⟩
    · simp only [Decoder.obey, refused]
      exact balanced
    · simp only [Decoder.obey, taken]
      exact balanced.push piece
  | step =>
    have stepped := stepped_step decoder
    cases answered : decoder.step.1 with
    | ok progress =>
      rw [answered] at stepped
      exact stepped.balanced balanced
    | error cause =>
      rw [answered] at stepped
      exact absurd stepped.failed_of_error live
  | run =>
    have ran := ran_run decoder
    cases answered : decoder.run.1 with
    | ok progress => exact ran.balanced answered balanced
    | error cause => exact absurd (ran.failed_of_error answered) live
  | finish => exact ⟨balanced.blocks_eq, balanced.bytesIn_eq⟩

theorem Balanced.perform (balanced : Balanced decoder) (calls : List Call)
    (live : (decoder.perform calls).2.state ≠ .failed) : Balanced (decoder.perform calls).2 := by
  induction calls generalizing decoder with
  | nil => exact balanced
  | cons call calls ih =>
    apply ih
    · apply balanced.obey
      exact fun failed => live (perform_of_failed failed calls).1
    · exact live

/-- A decoder that has reported no error has not failed. -/
theorem live_of_harmless {sizeHint : Option Nat} {calls : List Call}
    (harmless : ∀ cause, .error cause ∈ ((new sizeHint).perform calls).1 → cause = .terminated) :
    ((new sizeHint).perform calls).2.state ≠ .failed := by
  have performed := (tracks_new sizeHint).performed (by simp [new]) calls
  generalize (new sizeHint).perform calls = outcome at performed harmless
  obtain ⟨answers, last⟩ := outcome
  cases performed with
  | tracking tracks live => exact live
  | rejected place reported ne_terminated =>
    exact absurd (harmless _ (List.mem_of_getElem? reported)) ne_terminated

section Waiting

variable {field : Field} {needed : Nat}

theorem Ran.short (ran : Ran decoder answer next) (waits : answer = .ok .needMoreInput) :
    ∃ field needed, next.state.awaited = some (field, needed) ∧
      next.queue.pending.size < needed ∧ next.queue.ended = false := by
  induction ran with
  | last stepped =>
    subst waits
    cases stepped with
    | suspended awaits short unended => exact ⟨_, _, awaits, short, unended⟩
  | more stepped ran ih => exact ih waits

theorem Stepped.of_short (stepped : Stepped decoder answer next)
    (awaits : decoder.state.awaited = some (field, needed))
    (short : decoder.queue.pending.size < needed) (unended : decoder.queue.ended = false) :
    answer = .ok .needMoreInput ∧ next = decoder := by
  cases stepped with
  | suspended => exact ⟨rfl, rfl⟩
  | truncated _ _ ended | finished _ _ ended => cases unended.symm.trans ended
  | done settled | failed settled =>
    rw [settled] at awaits
    cases awaits
  | tag here complete | blockLengthRefused here complete | blockLength here complete
  | strongLengthRefused here complete | paramsRefused here complete | strongLength here complete
  | weakSum here complete | strongSum here complete =>
    rw [here] at awaits
    obtain ⟨-, rfl⟩ := Prod.mk.inj (Option.some.inj awaits)
    omega

/-- Steps and runs are answered like the step before, as long as that asks for more input. -/
theorem perform_of_suspended (waits : decoder.step = (.ok .needMoreInput, decoder))
    {calls : List Call} (driven : ∀ call ∈ calls, call = .step ∨ call = .run) :
    decoder.perform calls = (calls.map fun _ => .ok (some .needMoreInput), decoder) := by
  have run : decoder.run = (.ok .needMoreInput, decoder) := by rw [Decoder.run, waits]
  induction calls with
  | nil => rfl
  | cons call calls ih =>
    obtain ⟨first, later⟩ := List.forall_mem_cons.1 driven
    have obeyed : decoder.obey call = (.ok (some .needMoreInput), decoder) := by
      rcases first with rfl | rfl
      · rw [obey, waits]
        rfl
      · rw [obey, run]
        rfl
    rw [perform, obeyed, ih later]
    rfl

/-- Without more input there is nothing that a step or a run can do. -/
theorem perform_of_short (awaits : decoder.state.awaited = some (field, needed))
    (short : decoder.queue.pending.size < needed) (unended : decoder.queue.ended = false)
    {calls : List Call} (driven : ∀ call ∈ calls, call = .step ∨ call = .run) :
    (decoder.perform calls).2 = decoder := by
  have waits := (stepped_step decoder).of_short awaits short unended
  rw [perform_of_suspended (Prod.ext_iff.2 waits) driven]

/-- What is true of a decoder that asks for more input.  Every record that has come in full is in
the index, and however many more steps are made, the next piece finds but a few bytes held. -/
structure Drained (decoder : Decoder) : Prop where
  short : ∃ field needed, decoder.state.awaited = some (field, needed) ∧
    decoder.queue.available < needed
  available_le : decoder.queue.available ≤ 31
  whole : ∀ index, decoder.state.index? = some index →
    index.size = decoder.blocks ∧
      decoder.blocks = (decoder.bytesIn - Params.headerLength) / (4 + index.params.strongLength)
  held_le : ∀ calls piece, (∀ call ∈ calls, call = .step ∨ call = .run) →
    let pushed := (decoder.perform calls).2.obey (.push piece)
    pushed.1 = .ok none ∧ pushed.2.queue.held.size ≤ 31 + piece.size

/-- The next record is not there in full, so that the whole ones are the blocks. -/
theorem Balanced.blocks_eq_div (balanced : Balanced decoder)
    (awaits : decoder.state.awaited = some (field, needed))
    (short : decoder.queue.pending.size < needed) {index : Index}
    (opened : decoder.state.index? = some index) :
    decoder.blocks = (decoder.bytesIn - Params.headerLength) / (4 + index.params.strongLength) := by
  have total := balanced.bytesIn_eq
  have ⟨header, whole, inside⟩ := State.inside_record awaits opened
  rw [header, whole, Nat.add_assoc, Nat.add_assoc] at total
  rw [total, Nat.add_sub_cancel_left, Nat.mul_comm, Nat.mul_add_div (by omega),
    Nat.div_eq_of_lt (by omega), Nat.add_zero]

/-- A run stops to wait only when it has read all that there is to read. -/
theorem Ran.drained (ran : Ran decoder answer next) (waits : answer = .ok .needMoreInput)
    (balanced : Balanced decoder) : Drained next := by
  obtain ⟨field, needed, awaits, short, unended⟩ := ran.short waits
  have after := ran.balanced waits balanced
  have few : next.queue.pending.size ≤ 31 :=
    Nat.le_of_lt_succ (Nat.lt_of_lt_of_le short (State.needed_le awaits))
  rw [← Queue.available_eq_size_pending] at few
  constructor
  case short =>
    rw [Queue.available_eq_size_pending]
    exact ⟨field, needed, awaits, short⟩
  case available_le => exact few
  case whole =>
    intro index opened
    refine ⟨?_, after.blocks_eq_div awaits short opened⟩
    rw [after.blocks_eq, opened]
    rfl
  case held_le =>
    intro calls piece driven
    have accepted := push_of_awaited (by rw [awaits]; exact Option.some_ne_none _) unended piece
    simp only [perform_of_short awaits short unended driven, Decoder.obey, accepted,
      Queue.held_push, ByteArray.size_append, ← Queue.available_eq_size_pending]
    exact ⟨rfl, Nat.add_le_add_right few piece.size⟩

end Waiting

/-- After any calls that no error came of, except that input was pushed behind its end, all bytes
are accounted for; and whenever a run asks for more of them, all records that are there were read,
and next to nothing is kept. -/
theorem perform_balances (sizeHint : Option Nat) (calls : List Call) :
    let (answers, last) := (new sizeHint).perform calls
    ((∀ cause, .error cause ∈ answers → cause = .terminated) →
      last.bytesIn = last.state.headerRead + last.blocks * last.state.recordLength +
        last.state.recordRead + last.queue.available) ∧
    (last.run.1 = .ok .needMoreInput → Drained last.run.2) := by
  have balanced := (balanced_new sizeHint).perform calls
  refine ⟨fun harmless => ?_, fun waits => ?_⟩
  · rw [Queue.available_eq_size_pending]
    exact (balanced (live_of_harmless harmless)).bytesIn_eq
  · apply (ran_run _).drained waits
    apply balanced
    intro failed
    rw [run_of_failed failed] at waits
    cases waits

end Decoder

end DeltaSignature
