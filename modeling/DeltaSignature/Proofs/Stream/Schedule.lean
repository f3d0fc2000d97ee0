import DeltaSignature.Proofs.Stream.Verdict

/-!
# However a stream arrives

Bytes are pushed in pieces of any size, and steps, runs and the end of input come in any order in
between.  What the decoder makes of them is what it makes of the bytes that it accepted, given to it
all at once.  Each call keeps to the verdict on the bytes accepted so far or reports it
(`Tracks.obeyed`), and so does every sequence of calls (`Tracks.performed`).
-/

namespace DeltaSignature

namespace Decoder

/-- What a decoder can be asked to do. -/
inductive Call where
  | push (piece : ByteArray)
  | step
  | run
  | finish
deriving DecidableEq

/-- What a call answers.  Only steps and runs report progress. -/
abbrev Answer :=
  Except LoadError (Option Progress)

def obey (decoder : Decoder) : Call → Answer × Decoder
  | .push piece => ((decoder.push piece).1.map fun _ => none, (decoder.push piece).2)
  | .step => (decoder.step.1.map some, decoder.step.2)
  | .run => (decoder.run.1.map some, decoder.run.2)
  | .finish => (.ok none, decoder.finish)

/-- Makes calls in order, whatever they answer. -/
def perform (decoder : Decoder) : List Call → List Answer × Decoder
  | [] => ([], decoder)
  | call :: calls =>
    ((decoder.obey call).1 :: ((decoder.obey call).2.perform calls).1,
      ((decoder.obey call).2.perform calls).2)

/-- The bytes that arrived with a call. -/
def arrived : Call → Answer → ByteArray
  | .push piece, .ok _ => piece
  | _, _ => .empty

/-- The bytes of all the pushes that were accepted. -/
def accepted : List Call → List Answer → ByteArray
  | call :: calls, answer :: answers => arrived call answer ++ accepted calls answers
  | _, _ => .empty

variable {decoder : Decoder} {stream : ByteArray}

theorem arrived_of_error (call : Call) (cause : LoadError) :
    arrived call (.error cause) = .empty := by
  cases call <;> rfl

theorem push_cases (decoder : Decoder) (piece : ByteArray) :
    decoder.push piece = (.error .terminated, decoder) ∨
      decoder.queue.ended = false ∧
        decoder.push piece = (.ok (), { decoder with queue := decoder.queue.push piece }) := by
  cases ended : decoder.queue.ended with
  | true => exact .inl (by rw [push, ended, Bool.true_or, if_pos rfl])
  | false =>
    cases awaits : decoder.state with
    | done | failed => exact .inl (by rw [push, awaits, Bool.or_true, if_pos rfl])
    | _ => exact .inr ⟨rfl, by rw [push, awaits, ended, Bool.or_false, if_neg Bool.false_ne_true]⟩

theorem push_of_failed (failed : decoder.state = .failed) (piece : ByteArray) :
    decoder.push piece = (.error .terminated, decoder) := by
  rw [push, failed, Bool.or_true, if_pos rfl]

theorem step_of_failed (failed : decoder.state = .failed) :
    decoder.step = (.error .terminated, decoder) := by
  obtain ⟨state, queue, blocks, sizeHint, trace⟩ := decoder
  obtain rfl : state = .failed := failed
  rfl

theorem run_of_failed (failed : decoder.state = .failed) :
    decoder.run = (.error .terminated, decoder) := by
  rw [run, step_of_failed failed]

theorem state_of_isDone (settled : decoder.isDone = true) :
    ∃ index, decoder.state = .done index := by
  rw [isDone] at settled
  split at settled
  next index awaits => exact ⟨index, awaits⟩
  next => exact absurd settled Bool.false_ne_true

theorem ended_obey (decoder : Decoder) (call : Call) (goesOn : call ≠ .finish) :
    (decoder.obey call).2.queue.ended = decoder.queue.ended := by
  cases call with
  | push piece =>
    rcases decoder.push_cases piece with refused | ⟨unended, taken⟩
    · simp only [obey, refused]
    · simp only [obey, taken, Queue.ended_push]
  | step => exact (stepped_step decoder).ended_eq
  | run => exact (ran_run decoder).ended_eq
  | finish => exact absurd rfl goesOn

/-- A decoder that has failed answers with that and accepts nothing. -/
theorem obey_of_failed (failed : decoder.state = .failed) (call : Call) :
    (decoder.obey call).2.state = .failed ∧ arrived call (decoder.obey call).1 = .empty ∧
      ∀ cause, (decoder.obey call).1 = .error cause → cause = .terminated := by
  cases call with
  | push piece =>
    simp only [obey, push_of_failed failed]
    exact ⟨failed, rfl, fun cause same => (Except.error.inj same).symm⟩
  | step =>
    simp only [obey, step_of_failed failed]
    exact ⟨failed, rfl, fun cause same => (Except.error.inj same).symm⟩
  | run =>
    simp only [obey, run_of_failed failed]
    exact ⟨failed, rfl, fun cause same => (Except.error.inj same).symm⟩
  | finish => exact ⟨failed, rfl, fun cause same => by cases same⟩

theorem perform_of_failed (failed : decoder.state = .failed) (calls : List Call) :
    (decoder.perform calls).2.state = .failed ∧
      accepted calls (decoder.perform calls).1 = .empty ∧
      ∀ cause, .error cause ∈ (decoder.perform calls).1 → cause = .terminated := by
  induction calls generalizing decoder with
  | nil => exact ⟨failed, rfl, by simp [perform]⟩
  | cons call calls ih =>
    obtain ⟨stays, nothing, harmless⟩ := obey_of_failed failed call
    obtain ⟨last, nothingLater, harmlessLater⟩ := ih stays
    refine ⟨last, ?_, fun cause member => ?_⟩
    · rw [perform, accepted, nothing, nothingLater, ByteArray.append_empty]
    · rcases List.mem_cons.1 member with first | later
      · exact harmless cause first.symm
      · exact harmlessLater cause later

/-- What a call comes to when the bytes accepted before it are `stream`. -/
inductive Obeyed (decoder : Decoder) (stream : ByteArray) (call : Call) : Answer → Decoder → Prop
    where
  | tracking {answer : Answer} {next : Decoder}
      (tracks : Tracks next (stream ++ arrived call answer)) (live : next.state ≠ .failed)
      (harmless : ∀ cause, answer = .error cause → cause = .terminated) :
      Obeyed decoder stream call answer next
  | rejected {cause : LoadError} {next : Decoder} (rejects : Rejects decoder stream cause next) :
      Obeyed decoder stream call (.error cause) next

theorem obeyed_progress {answer : Except LoadError Progress} {next : Decoder} {call : Call}
    (nothing : ∀ answer, arrived call answer = .empty)
    (goesOn : ∀ progress, answer = .ok progress → Tracks next stream ∧ next.state ≠ .failed)
    (rejects : ∀ cause, answer = .error cause → Rejects decoder stream cause next) :
    Obeyed decoder stream call (answer.map some) next := by
  cases answer with
  | error cause => exact .rejected (rejects cause rfl)
  | ok progress =>
    obtain ⟨tracks, live⟩ := goesOn progress rfl
    refine .tracking ?_ live fun cause same => by cases same
    rwa [nothing, ByteArray.append_empty]

theorem Tracks.obeyed (tracks : Tracks decoder stream) (live : decoder.state ≠ .failed)
    (call : Call) : Obeyed decoder stream call (decoder.obey call).1 (decoder.obey call).2 := by
  cases call with
  | push piece =>
    rcases decoder.push_cases piece with refused | ⟨unended, taken⟩
    · simp only [obey, refused]
      refine .tracking ?_ live fun cause same => (Except.error.inj same).symm
      rwa [Except.map, arrived_of_error, ByteArray.append_empty]
    · simp only [obey, taken]
      exact .tracking (tracks.push unended piece) live fun cause same => by cases same
  | step =>
    have stepped := stepped_step decoder
    refine obeyed_progress (fun _ => rfl) (fun progress answered => ?_) (fun cause answered => ?_)
    · rw [answered] at stepped
      exact ⟨stepped.tracks tracks, stepped.live_of_ok live⟩
    · rw [answered] at stepped
      exact stepped.rejects tracks live
  | run =>
    have ran := ran_run decoder
    exact obeyed_progress (fun _ => rfl)
      (fun progress answered => ⟨ran.tracks answered tracks, ran.live_of_ok answered live⟩)
      (fun cause answered => ran.rejects answered tracks live)
  | finish =>
    refine .tracking ?_ live fun cause same => by cases same
    rw [arrived, ByteArray.append_empty]
    · exact tracks.finish
    · simp

/-- What a sequence of calls comes to when the bytes accepted before it are `stream`. -/
inductive Performed (decoder : Decoder) (stream : ByteArray) (calls : List Call) :
    List Answer → Decoder → Prop where
  | tracking {answers : List Answer} {last : Decoder}
      (tracks : Tracks last (stream ++ accepted calls answers)) (live : last.state ≠ .failed)
      (harmless : ∀ cause, .error cause ∈ answers → cause = .terminated) :
      Performed decoder stream calls answers last
  | rejected {answers : List Answer} {last : Decoder} (place : Nat) {cause : LoadError}
      (reported : answers[place]? = some (.error cause)) (ne_terminated : cause ≠ .terminated)
      (alone : ∀ other cause', answers[other]? = some (.error cause') →
        other = place ∨ cause' = .terminated)
      (failed : last.state = .failed)
      (verdict_eq : ∀ rest,
        (decoder.queue.ended = true ∨ .finish ∈ calls.take place → rest = .empty) →
          verdict .tag (stream ++ accepted calls answers ++ rest) = .error cause) :
      Performed decoder stream calls answers last

theorem Tracks.performed (tracks : Tracks decoder stream) (live : decoder.state ≠ .failed)
    (calls : List Call) :
    Performed decoder stream calls (decoder.perform calls).1 (decoder.perform calls).2 := by
  induction calls generalizing decoder stream with
  | nil =>
    refine .tracking ?_ live (by simp [perform])
    rwa [accepted, ByteArray.append_empty]
    simp
  | cons call calls ih =>
    have first := tracks.obeyed live call
    simp only [perform]
    generalize called : decoder.obey call = outcome at first
    obtain ⟨answer, next⟩ := outcome
    cases first with
    | tracking tracks live harmless =>
      have ended (closed : next.queue.ended = true) :
          decoder.queue.ended = true ∨ call = .finish := by
        by_cases last : call = .finish
        · exact .inr last
        · have same := ended_obey decoder call last
          rw [called] at same
          exact .inl (same ▸ closed)
      have later := ih tracks live
      generalize next.perform calls = outcome at later
      obtain ⟨answers, last⟩ := outcome
      cases later with
      | tracking tracksLater live harmlessLater =>
        refine .tracking ?_ live fun cause member => ?_
        · rwa [accepted, ← ByteArray.append_assoc]
        · rcases List.mem_cons.1 member with here | there
          · exact harmless cause here.symm
          · exact harmlessLater cause there
      | rejected place reported ne_terminated alone failed verdict_eq =>
        refine .rejected (place + 1) reported ne_terminated (fun other cause' at' => ?_) failed
          (fun rest closed => ?_)
        · cases other with
          | zero => exact .inr (harmless cause' (Option.some.inj at'))
          | succ other => exact (alone other cause' at').imp_left (congrArg (· + 1))
        · rw [accepted, ← ByteArray.append_assoc]
          refine verdict_eq rest fun settled => closed ?_
          rw [List.take_succ_cons, List.mem_cons]
          rcases settled with settled | finished
          · exact (ended settled).imp_right (.inl ·.symm)
          · exact .inr (.inr finished)
    | @rejected cause _ rejects =>
      obtain ⟨failed, nothing, harmless⟩ := perform_of_failed rejects.failed calls
      refine .rejected 0 rfl rejects.ne_terminated (fun other cause' at' => ?_) failed
        (fun rest closed => ?_)
      · cases other with
        | zero => exact .inl rfl
        | succ other => exact .inr (harmless cause' (List.mem_of_getElem? at'))
      · rw [accepted, arrived_of_error, nothing, ByteArray.append_empty, ByteArray.append_empty]
        exact rejects.verdict_eq rest fun ended => closed (.inl ended)

/-- However a decoder is driven, it comes to what decoding the bytes that it accepted at once comes
to: in the error that it reports, in the index that it holds, and in what is to be expected when the
input is ended. -/
theorem perform_agrees_with_decode (sizeHint : Option Nat) (calls : List Call) :
    let answers := ((new sizeHint).perform calls).1
    let last := ((new sizeHint).perform calls).2
    let stream := accepted calls answers
    (∀ place cause, answers[place]? = some (.error cause) → cause ≠ .terminated →
      Index.decode? stream = .error cause ∧
        (.finish ∉ calls.take place → ∀ rest, Index.decode? (stream ++ rest) = .error cause)) ∧
    (last.isDone = true →
      ∃ index, last.signature? = .ok index ∧ Index.decode? stream = .ok index) ∧
    ((∀ cause, .error cause ∈ answers → cause = .terminated) → last.isDone = false →
      last.finish.run.1 = (Index.decode? stream).map (fun _ => .done) ∧
        ∀ index, Index.decode? stream = .ok index → last.finish.run.2.signature? = .ok index) := by
  intro answers last stream
  have performed : Performed (.new sizeHint) .empty calls answers last :=
    (tracks_new sizeHint).performed (by simp [new]) calls
  have whole : ByteArray.empty ++ accepted calls answers = stream := ByteArray.empty_append
  simp only [Index.decode?_eq_verdict]
  clear_value answers last
  cases performed with
  | tracking tracks live harmless =>
    rw [whole] at tracks
    refine ⟨fun place cause reported ne_terminated => ?_, fun settled => ?_, fun _ _ => ?_⟩
    · exact absurd (harmless cause (List.mem_of_getElem? reported)) ne_terminated
    · obtain ⟨index, settled⟩ := state_of_isDone settled
      refine ⟨index, ?_, tracks.verdict_eq_ok settled⟩
      rw [signature?, settled]
    · exact tracks.finish.run_of_ended live rfl
  | rejected place reported ne_terminated alone failed verdict_eq =>
    rw [whole] at verdict_eq
    refine ⟨fun other cause' at' ne_terminated' => ?_, fun settled => ?_, fun harmless _ => ?_⟩
    · obtain rfl := (alone other cause' at').resolve_right ne_terminated'
      obtain rfl := Except.error.inj (Option.some.inj (at'.symm.trans reported))
      refine ⟨?_, fun unfinished rest => verdict_eq rest fun closed => ?_⟩
      · simpa using verdict_eq .empty fun _ => rfl
      · exact absurd (closed.resolve_left Bool.false_ne_true) unfinished
    · obtain ⟨index, settled⟩ := state_of_isDone settled
      cases failed.symm.trans settled
    · exact absurd (harmless _ (List.mem_of_getElem? reported)) ne_terminated

-- A block length of zero, with the word that names the format cut in two.
example :
    ((new none).perform [.push ⟨#[0x72, 0x73]⟩, .run, .push ⟨#[0x01, 0x36, 0, 0, 0, 0]⟩, .step,
      .step, .run]).1 =
      [.ok none, .ok (some .needMoreInput), .ok none, .ok (some .inProgress),
        .error (.malformed (.blockLength 0)), .error .terminated] := by
  cbv

end Decoder

end DeltaSignature
