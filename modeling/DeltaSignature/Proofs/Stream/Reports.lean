import DeltaSignature.Proofs.Stream.Course
import DeltaSignature.Proofs.Stream.Schedule

/-!
# What a decoder reports

However a decoder is driven, its events are a leading part of the course of the bytes that it
accepted, and they agree with its counter and its index.  A decoder that was driven until it came to
rest has reported everything that these bytes and the end of input allow, so it does not show in the
trace how they arrived.
-/

namespace DeltaSignature

namespace Decoder

namespace Event

def isBlock : Event → Bool
  | block _ => true
  | _ => false

def isDone : Event → Bool
  | done _ => true
  | _ => false

end Event

variable {decoder next : Decoder} {sizeHint : Option Nat} {stream : ByteArray}

section Tally

/-- The events agree with the counter, the index and the state of the decoder. -/
structure Tallied (decoder : Decoder) : Prop where
  countP_isBlock : decoder.events.countP Event.isBlock = decoder.blocks
  filter_isDone : decoder.events.filter Event.isDone =
    if decoder.isDone then [.done decoder.blocks] else []
  size_eq : ∀ index, decoder.state.index? = some index → index.size = decoder.blocks
  blocks_eq_zero : decoder.state.index? = none → decoder.state ≠ .failed → decoder.blocks = 0
  ended_of_isDone : decoder.isDone = true → decoder.queue.ended = true

theorem tallied_new (sizeHint : Option Nat) : Tallied (.new sizeHint) where
  countP_isBlock := rfl
  filter_isDone := rfl
  size_eq index held := by cases held
  blocks_eq_zero _ _ := rfl
  ended_of_isDone settled := by cases settled

theorem events_of_trace {added : List Note}
    (noted : next.trace.toList = decoder.trace.toList ++ added) :
    next.events = decoder.events ++ added.filterMap Note.event? := by
  rw [events, noted, List.filterMap_append]
  rfl

/-- A step before the end keeps the tally if it counts the blocks that it reports. -/
theorem Tallied.add (tallied : Tallied decoder) (undone : decoder.isDone = false)
    (undoneNext : next.isDone = false) {added : List Note}
    (noted : next.trace.toList = decoder.trace.toList ++ added)
    (unfinished : (added.filterMap Note.event?).filter Event.isDone = [])
    (counted : next.blocks = decoder.blocks + (added.filterMap Note.event?).countP Event.isBlock)
    (size_eq : ∀ index, next.state.index? = some index → index.size = next.blocks)
    (blocks_eq_zero : next.state.index? = none → next.state ≠ .failed → next.blocks = 0) :
    Tallied next where
  countP_isBlock := by
    rw [events_of_trace noted, List.countP_append, tallied.countP_isBlock, counted]
  filter_isDone := by
    rw [events_of_trace noted, List.filter_append, tallied.filter_isDone, unfinished, undone,
      undoneNext]
    rfl
  size_eq := size_eq
  blocks_eq_zero := blocks_eq_zero
  ended_of_isDone settled := by
    rw [undoneNext] at settled
    cases settled

theorem isDone_of_awaited {field : Field} {needed : Nat}
    (awaits : decoder.state.awaited = some (field, needed)) : decoder.isDone = false := by
  rw [isDone]
  split
  next settled =>
    rw [settled] at awaits
    cases awaits
  next => rfl

theorem Stepped.tallied {answer : Except LoadError Progress}
    (stepped : Stepped decoder answer next) (tallied : Tallied decoder) : Tallied next := by
  have sizes := tallied.size_eq
  have unread := tallied.blocks_eq_zero
  cases stepped with
  | suspended | done | failed => exact tallied
  | tag awaits | blockLength awaits =>
    rw [awaits] at unread
    exact tallied.add (by rw [isDone, awaits]) rfl Array.toList_push rfl rfl
      (fun index held => by cases held) fun _ _ => unread rfl (by simp)
  | strongLength awaits =>
    rw [awaits] at unread
    refine tallied.add (by rw [isDone, awaits]) rfl
      (by rw [Array.toList_push, Array.toList_push, List.append_assoc]) rfl rfl
      (fun index held => ?_) fun missing => by cases missing
    obtain rfl := Option.some.inj held
    exact (unread rfl (by simp)).symm
  | weakSum awaits =>
    rw [awaits] at sizes
    exact tallied.add (by rw [isDone, awaits]) rfl (List.append_nil _).symm rfl rfl sizes
      fun missing => by cases missing
  | strongSum awaits =>
    rw [awaits] at sizes
    refine tallied.add (by rw [isDone, awaits]) rfl Array.toList_push rfl rfl
      (fun index held => ?_) fun missing => by cases missing
    obtain rfl := Option.some.inj held
    rw [Index.size_add, sizes _ rfl]
  | blockLengthRefused awaits | strongLengthRefused awaits | paramsRefused awaits =>
    exact tallied.add (by rw [isDone, awaits]) rfl Array.toList_push rfl rfl
      (fun index held => by cases held) fun _ live => absurd rfl live
  | truncated awaits =>
    exact tallied.add (isDone_of_awaited awaits) rfl Array.toList_push rfl rfl
      (fun index held => by cases held) fun _ live => absurd rfl live
  | finished awaits empty ended =>
    rw [awaits] at sizes
    have undone : decoder.isDone = false := by rw [isDone, awaits]
    constructor
    case countP_isBlock =>
      rw [events_of_trace Array.toList_push, List.countP_append, tallied.countP_isBlock]
      rfl
    case filter_isDone =>
      rw [events_of_trace Array.toList_push, List.filter_append, tallied.filter_isDone, undone,
        sizes _ rfl]
      rfl
    case size_eq => exact sizes
    case blocks_eq_zero => exact fun missing => by cases missing
    case ended_of_isDone => exact fun _ => ended

end Tally

section Calls

/-- What the decoder has reported and what it will report, whatever comes behind the bytes pending,
are the course of the whole stream.  Nothing comes once the stream has ended. -/
structure Reporting (sizeHint : Option Nat) (stream : ByteArray) (decoder : Decoder) : Prop
    extends Tallied decoder where
  sizeHint_eq : decoder.sizeHint = sizeHint
  events_append : ∀ rest, (decoder.queue.ended = true → rest = .empty) →
    decoder.events ++ upcoming sizeHint decoder.state (decoder.queue.pending ++ rest) =
      course sizeHint (stream ++ rest)

theorem reporting_new (sizeHint : Option Nat) : Reporting sizeHint .empty (.new sizeHint) where
  toTallied := tallied_new sizeHint
  sizeHint_eq := rfl
  events_append rest _ := upcoming_tag sizeHint (ByteArray.empty ++ rest)

theorem Stepped.reporting {answer : Except LoadError Progress}
    (stepped : Stepped decoder answer next) (reporting : Reporting sizeHint stream decoder) :
    Reporting sizeHint stream next where
  toTallied := stepped.tallied reporting.toTallied
  sizeHint_eq := stepped.sizeHint_eq.trans reporting.sizeHint_eq
  events_append rest closed := by
    rw [stepped.ended_eq] at closed
    have same := stepped.upcoming_eq closed
    rw [reporting.sizeHint_eq] at same
    rw [same, reporting.events_append rest closed]

theorem Ran.reporting {answer : Except LoadError Progress} (ran : Ran decoder answer next)
    (reporting : Reporting sizeHint stream decoder) : Reporting sizeHint stream next := by
  induction ran with
  | last stepped => exact stepped.reporting reporting
  | more stepped ran ih => exact ih (stepped.reporting reporting)

theorem Reporting.push (reporting : Reporting sizeHint stream decoder)
    (unended : decoder.queue.ended = false) (piece : ByteArray) :
    Reporting sizeHint (stream ++ piece)
      { decoder with queue := decoder.queue.push piece } where
  countP_isBlock := reporting.countP_isBlock
  filter_isDone := reporting.filter_isDone
  size_eq := reporting.size_eq
  blocks_eq_zero := reporting.blocks_eq_zero
  ended_of_isDone settled := by
    rw [Queue.ended_push]
    exact reporting.ended_of_isDone settled
  sizeHint_eq := reporting.sizeHint_eq
  events_append rest _ := by
    have goesOn : decoder.queue.ended = true → piece ++ rest = .empty := by
      rw [unended]
      intro ended
      contradiction
    rw [Queue.pending_push, ByteArray.append_assoc, ByteArray.append_assoc]
    exact reporting.events_append (piece ++ rest) goesOn

theorem Reporting.finish (reporting : Reporting sizeHint stream decoder) :
    Reporting sizeHint stream decoder.finish where
  countP_isBlock := reporting.countP_isBlock
  filter_isDone := reporting.filter_isDone
  size_eq := reporting.size_eq
  blocks_eq_zero := reporting.blocks_eq_zero
  ended_of_isDone _ := rfl
  sizeHint_eq := reporting.sizeHint_eq
  events_append rest closed := reporting.events_append rest fun _ => closed rfl

theorem Reporting.obey (reporting : Reporting sizeHint stream decoder) (call : Call) :
    Reporting sizeHint (stream ++ arrived call (decoder.obey call).1) (decoder.obey call).2 := by
  cases call with
  | push piece =>
    rcases decoder.push_cases piece with refused | ⟨unended, taken⟩
    · simp only [Decoder.obey, refused]
      rwa [Except.map, arrived_of_error, ByteArray.append_empty]
    · simp only [Decoder.obey, taken]
      exact reporting.push unended piece
  | step =>
    rw [arrived, ByteArray.append_empty]
    · exact (stepped_step decoder).reporting reporting
    · simp
  | run =>
    rw [arrived, ByteArray.append_empty]
    · exact (ran_run decoder).reporting reporting
    · simp
  | finish =>
    rw [arrived, ByteArray.append_empty]
    · exact reporting.finish
    · simp

theorem Reporting.perform (reporting : Reporting sizeHint stream decoder) (calls : List Call) :
    Reporting sizeHint (stream ++ accepted calls (decoder.perform calls).1)
      (decoder.perform calls).2 := by
  induction calls generalizing decoder stream with
  | nil =>
    rwa [accepted, ByteArray.append_empty]
    simp
  | cons call calls ih =>
    have later := ih (reporting.obey call)
    rwa [ByteArray.append_assoc] at later

end Calls

section Silence

/-- A decoder that has come to its end, or has failed, stays as it is and notes nothing. -/
theorem Stepped.of_awaited_none {answer : Except LoadError Progress}
    (stepped : Stepped decoder answer next) (settled : decoder.state.awaited = none) :
    next = decoder ∧ answer ≠ .ok .inProgress := by
  cases stepped with
  | done | failed => exact ⟨rfl, by simp⟩
  | suspended awaits | truncated awaits => cases settled.symm.trans awaits
  | tag awaits | blockLengthRefused awaits | blockLength awaits | strongLengthRefused awaits
  | paramsRefused awaits | strongLength awaits | weakSum awaits | strongSum awaits
  | finished awaits =>
    rw [awaits] at settled
    cases settled

theorem Ran.of_awaited_none {answer : Except LoadError Progress} (ran : Ran decoder answer next)
    (settled : decoder.state.awaited = none) : next = decoder := by
  cases ran with
  | last stepped => exact (stepped.of_awaited_none settled).1
  | more stepped => exact absurd rfl (stepped.of_awaited_none settled).2

theorem obey_of_awaited_none (settled : decoder.state.awaited = none) (call : Call) :
    (decoder.obey call).2.state = decoder.state ∧
      (decoder.obey call).2.events = decoder.events := by
  cases call with
  | push piece =>
    rcases decoder.push_cases piece with refused | ⟨-, taken⟩
    · simp only [obey, refused, and_self]
    · simp only [obey, taken, true_and]
      rfl
  | step =>
    have same := ((stepped_step decoder).of_awaited_none settled).1
    simp only [obey, same, and_self]
  | run =>
    have same := (ran_run decoder).of_awaited_none settled
    simp only [obey, same, and_self]
  | finish => exact ⟨rfl, rfl⟩

theorem perform_of_awaited_none (settled : decoder.state.awaited = none) (calls : List Call) :
    (decoder.perform calls).2.events = decoder.events := by
  induction calls generalizing decoder with
  | nil => rfl
  | cons call calls ih =>
    obtain ⟨stays, silent⟩ := obey_of_awaited_none settled call
    rw [perform, ih (by rw [stays, settled]), silent]

/-- A step that neither reads on nor waits is the last one that matters. -/
theorem Stepped.awaited_eq_none {answer : Except LoadError Progress}
    (stepped : Stepped decoder answer next)
    (concludes : answer = .ok .done ∨ ∃ cause, answer = .error cause) :
    next.state.awaited = none := by
  cases stepped with
  | done settled | failed settled => rw [settled]; rfl
  | blockLengthRefused | strongLengthRefused | paramsRefused | truncated | finished => rfl
  | _ => simp at concludes

theorem Ran.awaited_eq_none {answer : Except LoadError Progress} (ran : Ran decoder answer next)
    (concludes : answer = .ok .done ∨ ∃ cause, answer = .error cause) :
    next.state.awaited = none := by
  induction ran with
  | last stepped => exact stepped.awaited_eq_none concludes
  | more stepped ran ih => exact ih concludes

/-- A push is refused for one of two reasons. -/
theorem ended_or_awaited_eq_none {piece : ByteArray} {cause : LoadError}
    (refused : (decoder.push piece).1 = .error cause) :
    decoder.queue.ended = true ∨ decoder.state.awaited = none := by
  cases ended : decoder.queue.ended with
  | true => exact .inl rfl
  | false =>
    right
    cases awaits : decoder.state with
    | done | failed => rfl
    | _ =>
      rw [push, awaits, ended, Bool.or_false, if_neg Bool.false_ne_true] at refused
      cases refused

/-- After the last answer that matters nothing is left to do, unless that answer refused a push
behind the end of input. -/
theorem obey_concludes {call : Call} {answer : Answer} (obeyed : decoder.obey call = (answer, next))
    (concludes : answer = .ok (some .done) ∨ ∃ cause, answer = .error cause) :
    (∃ piece, call = .push piece) ∧ decoder.queue.ended = true ∨ next.state.awaited = none := by
  obtain rfl : (decoder.obey call).1 = answer := congrArg Prod.fst obeyed
  obtain rfl : (decoder.obey call).2 = next := congrArg Prod.snd obeyed
  cases call with
  | push piece =>
    simp only [obey] at concludes ⊢
    cases answered : (decoder.push piece).1 with
    | ok =>
      rw [answered] at concludes
      simp [Except.map] at concludes
    | error cause =>
      refine (ended_or_awaited_eq_none answered).imp (fun ended => ⟨⟨piece, rfl⟩, ended⟩) ?_
      rcases decoder.push_cases piece with refused | ⟨-, taken⟩
      · rw [refused]
        exact id
      · rw [taken] at answered
        cases answered
  | step =>
    refine .inr ((stepped_step decoder).awaited_eq_none ?_)
    simp only [obey] at concludes
    cases answered : decoder.step.1 <;> simp_all [Except.map]
  | run =>
    refine .inr ((ran_run decoder).awaited_eq_none ?_)
    simp only [obey] at concludes
    cases answered : decoder.run.1 <;> simp_all [Except.map]
  | finish => simp [obey] at concludes

end Silence

section Schedules

variable {calls : List Call} {place : Nat} {answer : Answer}

theorem perform_append (decoder : Decoder) (earlier later : List Call) :
    decoder.perform (earlier ++ later) =
      ((decoder.perform earlier).1 ++ ((decoder.perform earlier).2.perform later).1,
        ((decoder.perform earlier).2.perform later).2) := by
  induction earlier generalizing decoder with
  | nil => rfl
  | cons call earlier ih =>
    simp only [List.cons_append, perform, ih]

theorem ended_perform (decoder : Decoder) (calls : List Call) :
    (decoder.perform calls).2.queue.ended = true ↔
      decoder.queue.ended = true ∨ .finish ∈ calls := by
  induction calls generalizing decoder with
  | nil => simp [perform]
  | cons call calls ih =>
    rw [perform, ih, List.mem_cons, ← or_assoc]
    refine or_congr_left ?_
    by_cases last : call = .finish
    · subst last
      simp [obey, finish, Queue.finish]
    · rw [decoder.ended_obey call last]
      simp [Ne.symm last]

/-- The call that was answered at this place, and what it left to the calls behind it. -/
theorem exists_obey_of_answer (answered : (decoder.perform calls).1[place]? = some answer) :
    ∃ call, calls[place]? = some call ∧
      (decoder.perform (calls.take place)).2.obey call =
        (answer, (decoder.perform (calls.take (place + 1))).2) ∧
      (decoder.perform calls).2 =
        ((decoder.perform (calls.take (place + 1))).2.perform (calls.drop (place + 1))).2 := by
  induction calls generalizing decoder place with
  | nil => simp [perform] at answered
  | cons call calls ih =>
    cases place with
    | zero =>
      obtain rfl := Option.some.inj answered
      exact ⟨call, rfl, rfl, rfl⟩
    | succ place => exact ih answered

end Schedules

section Rest

/-- The decoder is finished or has failed, or it waits for a field that is still to come. -/
inductive Resting (decoder : Decoder) : Prop where
  | settled (settled : decoder.state.awaited = none)
  | waiting {field : Field} {needed : Nat} (awaits : decoder.state.awaited = some (field, needed))
      (short : decoder.queue.pending.size < needed) (unended : decoder.queue.ended = false)

theorem Stepped.resting {answer : Except LoadError Progress}
    (stepped : Stepped decoder answer next) (stops : answer ≠ .ok .inProgress) :
    Resting next := by
  cases stepped with
  | suspended awaits short unended => exact .waiting awaits short unended
  | done settled | failed settled => exact .settled (by rw [settled]; rfl)
  | blockLengthRefused | strongLengthRefused | paramsRefused | truncated | finished =>
    exact .settled rfl
  | _ => exact absurd rfl stops

theorem Ran.resting {answer : Except LoadError Progress} (ran : Ran decoder answer next) :
    Resting next := by
  induction ran with
  | last stepped stops => exact stepped.resting stops
  | more stepped ran ih => exact ih

/-- To a decoder that waits, nothing but the end can come. -/
theorem upcoming_of_waiting {state : State} {field : Field} {needed : Nat} {bytes : ByteArray}
    (awaits : state.awaited = some (field, needed)) (short : bytes.size < needed) :
    (upcoming sizeHint state bytes).filter (!·.isDone) = [] := by
  by_cases between : field = .weakSum ∧ bytes.size = 0
  · obtain ⟨rfl, none⟩ := between
    cases state with
    | weakSum index =>
      rw [upcoming, if_neg (by omega), if_pos none]
      rfl
    | _ => cases awaits
  · rw [upcoming_of_short awaits short fun weak none => between ⟨weak, none⟩, List.filter_nil]

theorem Tallied.filter_not_isDone (tallied : Tallied decoder) (undone : decoder.isDone = false) :
    decoder.events.filter (!·.isDone) = decoder.events := by
  have dones := tallied.filter_isDone
  rw [undone] at dones
  rw [List.filter_eq_self]
  intro event noted
  simpa using List.filter_eq_nil_iff.1 dones event noted

/-- At rest a decoder has reported the whole course of its stream, except that it can tell the end
only when it was told of it. -/
theorem Reporting.events_of_resting (reporting : Reporting sizeHint stream decoder)
    (resting : Resting decoder) :
    decoder.events =
      if decoder.queue.ended then course sizeHint stream
      else (course sizeHint stream).filter (!·.isDone) := by
  have whole := reporting.events_append .empty fun _ => rfl
  rw [ByteArray.append_empty, ByteArray.append_empty] at whole
  have told (unended : decoder.queue.ended = false) :
      decoder.events.filter (!·.isDone) = decoder.events := by
    refine reporting.filter_not_isDone (Bool.eq_false_of_not_eq_true fun settled => ?_)
    rw [reporting.ended_of_isDone settled] at unended
    cases unended
  cases resting with
  | settled settled =>
    rw [upcoming_of_awaited_none settled, List.append_nil] at whole
    rw [← whole]
    split
    next => rfl
    next unended => exact (told (Bool.eq_false_of_not_eq_true unended)).symm
  | waiting awaits short unended =>
    rw [← whole, List.filter_append, upcoming_of_waiting awaits short, told unended,
      List.append_nil, if_neg (by simp [unended])]

/-- The last call was a step or a run, and it left nothing to do. -/
def Rested (calls : List Call) (answers : List Answer) : Prop :=
  ∃ earlier call, calls = earlier ++ [call] ∧ (call = .step ∨ call = .run) ∧
    answers.getLast? ≠ some (.ok (some .inProgress))

theorem Rested.resting {calls : List Call} (rested : Rested calls (decoder.perform calls).1) :
    Resting (decoder.perform calls).2 := by
  obtain ⟨earlier, call, rfl, drives, stops⟩ := rested
  rw [perform_append] at stops ⊢
  simp only [perform, List.getLast?_append, List.getLast?_singleton, Option.some_or] at stops ⊢
  rcases drives with rfl | rfl
  · refine (stepped_step _).resting fun goesOn => stops ?_
    simp only [obey, goesOn]
    rfl
  · exact (ran_run _).resting

end Rest

/-- What the events of a decoder tell that was driven by these calls.  Nothing follows the end or an
error, unless a push was refused because the input had been declared complete. -/
structure Reports (sizeHint : Option Nat) (calls : List Call) (answers : List Answer)
    (last : Decoder) : Prop where
  events_prefix : last.events <+: course sizeHint (accepted calls answers)
  countP_isBlock : last.events.countP Event.isBlock = last.blocks
  size_eq : ∀ index, last.state.index? = some index → index.size = last.blocks
  filter_isDone : last.events.filter Event.isDone =
    if last.isDone then [.done last.blocks] else []
  silent : ∀ place answer, answers[place]? = some answer →
    (answer = .ok (some .done) ∨ ∃ cause, answer = .error cause) →
    (∃ piece, calls[place]? = some (.push piece)) ∧ .finish ∈ calls.take place ∨
      last.events = ((new sizeHint).perform (calls.take (place + 1))).2.events
  at_rest : Rested calls answers → last.events =
    if .finish ∈ calls then course sizeHint (accepted calls answers)
    else (course sizeHint (accepted calls answers)).filter (!·.isDone)

/-- However a decoder is driven, its events follow the course of the bytes that it accepted, and
count each record once.  At rest they depend on nothing but these bytes, the size declared, and
whether the input was declared complete. -/
theorem perform_reports (sizeHint : Option Nat) (calls : List Call) :
    Reports sizeHint calls ((new sizeHint).perform calls).1 ((new sizeHint).perform calls).2 ∧
    ∀ others,
      Rested calls ((new sizeHint).perform calls).1 →
      Rested others ((new sizeHint).perform others).1 →
      accepted calls ((new sizeHint).perform calls).1 =
        accepted others ((new sizeHint).perform others).1 →
      (.finish ∈ calls ↔ .finish ∈ others) →
      ((new sizeHint).perform calls).2.events = ((new sizeHint).perform others).2.events := by
  have reports (calls : List Call) : Reports sizeHint calls ((new sizeHint).perform calls).1
      ((new sizeHint).perform calls).2 := by
    have reporting := (reporting_new sizeHint).perform calls
    rw [ByteArray.empty_append] at reporting
    constructor
    case events_prefix =>
      have whole := reporting.events_append .empty fun _ => rfl
      rw [ByteArray.append_empty, ByteArray.append_empty] at whole
      exact ⟨_, whole⟩
    case countP_isBlock => exact reporting.countP_isBlock
    case size_eq => exact reporting.size_eq
    case filter_isDone => exact reporting.filter_isDone
    case silent =>
      intro place answer answered concludes
      obtain ⟨call, listed, obeyed, after⟩ := exists_obey_of_answer answered
      rcases obey_concludes obeyed concludes with ⟨⟨piece, pushed⟩, ended⟩ | settled
      · refine .inl ⟨⟨piece, listed.trans (congrArg some pushed)⟩, ?_⟩
        exact ((ended_perform _ _).1 ended).resolve_left Bool.false_ne_true
      · exact .inr (by rw [after, perform_of_awaited_none settled])
    case at_rest =>
      intro rested
      rw [reporting.events_of_resting rested.resting]
      refine if_congr ?_ rfl rfl
      exact (ended_perform _ _).trans (or_iff_right Bool.false_ne_true)
  refine ⟨reports calls, fun others rested restedOther sameBytes sameEnd => ?_⟩
  rw [(reports calls).at_rest rested, (reports others).at_rest restedOther, sameBytes]
  exact if_congr sameEnd rfl rfl

/-- A push behind the end of input is refused, and the decoder goes on to report what it had
accepted before. -/
theorem events_after_refused_push :
    let calls : List Call := [.push ⟨#[0x72, 0x73, 0x01, 0x36]⟩, .finish, .push ⟨#[0]⟩, .step]
    ((new none).perform calls).1[2]? = some (.error .terminated) ∧
      ((new none).perform (calls.take 3)).2.events = [] ∧
      ((new none).perform calls).2.events = [.tag 0x72730136] := by
  decide

end Decoder

end DeltaSignature
