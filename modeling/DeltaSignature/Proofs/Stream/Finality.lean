import DeltaSignature.Proofs.Stream.Accounting

/-!
# Waiting changes nothing, and the end is final

A step that asks for more input leaves the decoder as it was, and so does a push that is refused.
A step or a run that reports an error, or the end of the stream, is the last one that does anything:
from then on every call has a fixed answer (`closing`), and no counter, event or signature changes.
As long as there was no such step or run, there is no signature to be had.
-/

namespace DeltaSignature

namespace Decoder

/-- What is answered to a call once a decoder answers all steps and runs with `ending`. -/
def closing (ending : Answer) : Call → Answer
  | .push _ => .error .terminated
  | .step | .run => ending
  | .finish => .ok none

/-- What a decoder that waits for nothing answers to steps and runs. -/
def State.ending : State → Answer
  | done _ => .ok (some .done)
  | _ => .error .terminated

/-- Whatever is asked of the decoder from now on, it answers steps and runs with `ending`, takes no
input, reports nothing and hands out the same signature, or none for the same reason. -/
structure Final (decoder : Decoder) (ending : Answer) (signature : Except LoadError Index) : Prop
    where
  answers_eq : ∀ calls, (decoder.perform calls).1 = calls.map (closing ending)
  events_eq : ∀ calls, (decoder.perform calls).2.events = decoder.events
  blocks_eq : ∀ calls, (decoder.perform calls).2.blocks = decoder.blocks
  bytesIn_eq : ∀ calls, (decoder.perform calls).2.bytesIn = decoder.bytesIn
  signature?_eq : ∀ calls, (decoder.perform calls).2.signature? = signature

/-- The call is a step or a run, and it was answered that there is nothing left to do. -/
def Concludes (call : Call) (answer : Answer) : Prop :=
  (call = .step ∨ call = .run) ∧ (answer = .ok (some .done) ∨ ∃ cause, answer = .error cause)

variable {decoder next : Decoder} {answer : Except LoadError Progress}

section Settled

theorem step_of_settled (settled : decoder.state.awaited = none) :
    (decoder.obey .step).1 = decoder.state.ending ∧ decoder.step.2 = decoder := by
  obtain ⟨state, queue, blocks, sizeHint, trace⟩ := decoder
  cases state with
  | done | failed => exact ⟨rfl, rfl⟩
  | _ => cases settled

theorem run_of_settled (settled : decoder.state.awaited = none) : decoder.run = decoder.step := by
  have stops := ((stepped_step decoder).of_awaited_none settled).2
  rw [run]
  split
  next next goesOn => exact absurd (congrArg Prod.fst goesOn) stops
  next => rfl

theorem push_of_settled (settled : decoder.state.awaited = none) (piece : ByteArray) :
    decoder.push piece = (.error .terminated, decoder) := by
  cases awaits : decoder.state with
  | done | failed => rw [push, awaits, Bool.or_true, if_pos rfl]
  | _ =>
    rw [awaits] at settled
    cases settled

theorem obey_of_settled (settled : decoder.state.awaited = none) (call : Call) :
    (decoder.obey call).1 = closing decoder.state.ending call ∧
      ((decoder.obey call).2 = decoder ∨ (decoder.obey call).2 = decoder.finish) := by
  obtain ⟨answered, same⟩ := step_of_settled settled
  cases call with
  | push piece =>
    rw [obey, push_of_settled settled]
    exact ⟨rfl, .inl rfl⟩
  | step => exact ⟨answered, .inl same⟩
  | run =>
    rw [obey, run_of_settled settled]
    exact ⟨answered, .inl same⟩
  | finish => exact ⟨rfl, .inr rfl⟩

/-- Of a decoder that waits for nothing, no call changes more than that its input is over. -/
theorem perform_of_settled (settled : decoder.state.awaited = none) (calls : List Call) :
    (decoder.perform calls).1 = calls.map (closing decoder.state.ending) ∧
      ((decoder.perform calls).2 = decoder ∨ (decoder.perform calls).2 = decoder.finish) := by
  induction calls generalizing decoder with
  | nil => exact ⟨rfl, .inl rfl⟩
  | cons call calls ih =>
    obtain ⟨answered, after⟩ := obey_of_settled settled call
    rw [perform, answered, List.map_cons]
    rcases after with same | finished
    · obtain ⟨answers, last⟩ := ih settled
      rw [same]
      exact ⟨congrArg (List.cons _) answers, last⟩
    · have settledStill : decoder.finish.state.awaited = none := settled
      obtain ⟨answers, last⟩ := ih settledStill
      rw [finished]
      exact ⟨congrArg (List.cons _) answers, .inr (last.elim id id)⟩

theorem final_of_settled (settled : decoder.state.awaited = none) :
    Final decoder decoder.state.ending decoder.signature? := by
  have after (calls : List Call) := (perform_of_settled settled calls).2
  constructor
  case answers_eq => exact fun calls => (perform_of_settled settled calls).1
  all_goals
    intro calls
    rcases after calls with same | finished
    · rw [same]
    · rw [finished]
      rfl

theorem final_of_failed (failed : decoder.state = .failed) :
    Final decoder (.error .terminated) (.error .terminated) := by
  have settled : decoder.state.awaited = none := congrArg State.awaited failed
  have final := final_of_settled settled
  rwa [signature?, failed] at final

theorem final_of_done {index : Index} (ended : decoder.state = .done index) :
    Final decoder (.ok (some .done)) (.ok index) := by
  have settled : decoder.state.awaited = none := congrArg State.awaited ended
  have final := final_of_settled settled
  rwa [signature?, ended] at final

end Settled

section Waiting

theorem signature?_eq_incomplete_iff :
    decoder.signature? = .error .incomplete ↔ decoder.state.awaited ≠ none := by
  rw [signature?]
  cases decoder.state with
  | done | failed => simp [State.awaited]
  | _ => simp [State.awaited]

/-- A decoder that has only been told to wait, or to go on, still waits for a field. -/
theorem Stepped.awaited_ne_none (stepped : Stepped decoder answer next)
    (goesOn : answer ≠ .ok .done) (unfailing : ∀ cause, answer ≠ .error cause) :
    next.state.awaited ≠ none := by
  match answer with
  | .ok .inProgress => exact stepped.awaited_of_inProgress
  | .ok .needMoreInput =>
    cases stepped with
    | suspended awaits =>
      rw [awaits]
      exact Option.some_ne_none _
  | .ok .done => exact absurd rfl goesOn
  | .error cause => exact absurd rfl (unfailing cause)

theorem Ran.awaited_ne_none (ran : Ran decoder answer next)
    (goesOn : answer ≠ .ok .done) (unfailing : ∀ cause, answer ≠ .error cause) :
    next.state.awaited ≠ none := by
  induction ran with
  | last stepped => exact stepped.awaited_ne_none goesOn unfailing
  | more stepped ran ih => exact ih goesOn unfailing

theorem obey_of_drives (decoder : Decoder) {call : Call} (drives : call = .step ∨ call = .run) :
    ∃ progress, (decoder.obey call).1 = progress.map some ∧
      (Stepped decoder progress (decoder.obey call).2 ∨
        Ran decoder progress (decoder.obey call).2) := by
  rcases drives with rfl | rfl
  · exact ⟨decoder.step.1, rfl, .inl (stepped_step decoder)⟩
  · exact ⟨decoder.run.1, rfl, .inr (ran_run decoder)⟩

theorem awaited_obey_eq_none {call : Call} (concludes : Concludes call (decoder.obey call).1) :
    (decoder.obey call).2.state.awaited = none := by
  obtain ⟨drives, ends⟩ := concludes
  obtain ⟨progress, answered, driven⟩ := decoder.obey_of_drives drives
  have ended : progress = .ok .done ∨ ∃ cause, progress = .error cause := by
    rw [answered] at ends
    cases progress <;> simp_all [Except.map]
  exact driven.elim (·.awaited_eq_none ended) (·.awaited_eq_none ended)

theorem awaited_obey_ne_none {call : Call} (awaits : decoder.state.awaited ≠ none)
    (open' : ¬ Concludes call (decoder.obey call).1) :
    (decoder.obey call).2.state.awaited ≠ none := by
  have waits_of_drives (drives : call = .step ∨ call = .run) :
      (decoder.obey call).2.state.awaited ≠ none := by
    obtain ⟨progress, answered, driven⟩ := decoder.obey_of_drives drives
    have goesOn : progress ≠ .ok .done := by
      rintro rfl
      exact open' ⟨drives, .inl answered⟩
    have unfailing : ∀ cause, progress ≠ .error cause := by
      rintro cause rfl
      exact open' ⟨drives, .inr ⟨cause, answered⟩⟩
    exact driven.elim (·.awaited_ne_none goesOn unfailing) (·.awaited_ne_none goesOn unfailing)
  cases call with
  | push piece =>
    rcases decoder.push_cases piece with refused | ⟨-, taken⟩
    · simpa only [obey, refused] using awaits
    · simpa only [obey, taken] using awaits
  | step => exact waits_of_drives (.inl rfl)
  | run => exact waits_of_drives (.inr rfl)
  | finish => exact awaits

/-- A decoder waits for a field as long as no step or run has reported the end or an error. -/
theorem awaited_perform_ne_none_iff (awaits : decoder.state.awaited ≠ none) (calls : List Call) :
    (decoder.perform calls).2.state.awaited ≠ none ↔
      ∀ pair ∈ calls.zip (decoder.perform calls).1, ¬ Concludes pair.1 pair.2 := by
  induction calls generalizing decoder with
  | nil => simpa [perform] using awaits
  | cons call calls ih =>
    rw [perform, List.zip_cons_cons, List.forall_mem_cons]
    by_cases concludes : Concludes call (decoder.obey call).1
    · have settled := awaited_obey_eq_none concludes
      have stays : ((decoder.obey call).2.perform calls).2.state.awaited = none := by
        rcases (perform_of_settled settled calls).2 with same | finished
        · rw [same, settled]
        · rw [finished]
          exact settled
      exact ⟨fun waits => absurd stays waits, fun open' => absurd concludes open'.1⟩
    · rw [ih (awaited_obey_ne_none awaits concludes)]
      exact ⟨fun later => ⟨concludes, later⟩, And.right⟩

end Waiting

/-- A step that asks for more input leaves the decoder as it was. -/
theorem step_of_suspended (waits : decoder.step.1 = .ok .needMoreInput) :
    decoder.step = (.ok .needMoreInput, decoder) := by
  have stepped := stepped_step decoder
  rw [waits] at stepped
  refine Prod.ext waits ?_
  generalize decoder.step.2 = next at stepped
  cases stepped
  rfl

/-- A call that reports the end leaves a decoder that has come to it. -/
theorem Stepped.exists_done (stepped : Stepped decoder answer next) (ends : answer = .ok .done) :
    ∃ index, next.state = .done index := by
  subst ends
  cases stepped with
  | finished => exact ⟨_, rfl⟩
  | done settled => exact ⟨_, settled⟩

theorem Ran.exists_done (ran : Ran decoder answer next) (ends : answer = .ok .done) :
    ∃ index, next.state = .done index := by
  induction ran with
  | last stepped => exact stepped.exists_done ends
  | more stepped ran ih => exact ih ends

/-- However a decoder was driven: a step that asks for more input has no effect, nor has a push that
is refused; after a step or a run that reports an error, or the end, nothing changes any more; and
the signature is said to be incomplete just as long as that has not happened. -/
theorem perform_settles (sizeHint : Option Nat) (calls : List Call) :
    let (answers, last) := (new sizeHint).perform calls
    (last.step.1 = .ok .needMoreInput → last.step.2 = last ∧
      ∀ driven, (∀ call ∈ driven, call = .step ∨ call = .run) →
        last.perform driven = (driven.map fun _ => .ok (some .needMoreInput), last)) ∧
    (∀ piece, (last.push piece).1 = .error .terminated → (last.push piece).2 = last) ∧
    (∀ call, call = .step ∨ call = .run →
      (∀ cause, (last.obey call).1 = .error cause →
        Final (last.obey call).2 (.error .terminated) (.error .terminated)) ∧
      ((last.obey call).1 = .ok (some .done) →
        ∃ index, Final (last.obey call).2 (.ok (some .done)) (.ok index))) ∧
    (last.signature? = .error .incomplete ↔
      ∀ pair ∈ calls.zip answers, ¬ Concludes pair.1 pair.2) := by
  generalize driven : (new sizeHint).perform calls = outcome
  obtain ⟨answers, last⟩ := outcome
  refine ⟨fun waits => ?_, fun piece refused => ?_, fun call drives => ?_, ?_⟩
  · have suspended := step_of_suspended waits
    exact ⟨congrArg Prod.snd suspended, fun driven => perform_of_suspended suspended⟩
  · rcases last.push_cases piece with same | ⟨-, taken⟩
    · rw [same]
    · rw [taken] at refused
      cases refused
  · obtain ⟨progress, answered, driven⟩ := last.obey_of_drives drives
    rw [answered]
    cases progress with
    | error cause =>
      refine ⟨fun _ _ => final_of_failed ?_, fun ended => ?_⟩
      · exact driven.elim (·.failed_of_error) (·.failed_of_error rfl)
      · cases ended
    | ok progress =>
      refine ⟨fun cause failed => ?_, fun ended => ?_⟩
      · cases failed
      · cases ended
        obtain ⟨index, ended⟩ := driven.elim (·.exists_done rfl) (·.exists_done rfl)
        exact ⟨index, final_of_done ended⟩
  · have awaits : (new sizeHint).state.awaited ≠ none := Option.some_ne_none _
    have waits := awaited_perform_ne_none_iff awaits calls
    rw [driven] at waits
    rw [signature?_eq_incomplete_iff]
    exact waits

end Decoder

end DeltaSignature
