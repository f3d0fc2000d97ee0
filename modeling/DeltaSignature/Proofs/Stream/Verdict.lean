import DeltaSignature.Proofs.Stream.Step

/-!
# The verdict on the bytes to come

Once it is known which field a decoder awaits, the bytes still to be read decide what will become of
it.  `verdict` is that decision for bytes after which the stream ends.  A step changes the
field awaited and the bytes pending, but never the verdict, so a decoder that has accepted some
bytes is as good as one that is about to read all of them.
-/

namespace DeltaSignature

namespace Decoder

/-- What becomes of a decoder in this state if just these bytes are left of its stream. -/
def verdict : State → ByteArray → Except LoadError Index
  | .tag, bytes =>
    if 4 ≤ bytes.size then
      verdict (.blockLength (BigEndian.decode bytes)) (bytes.extract 4 bytes.size)
    else
      .error (.malformed (.truncated .tag bytes.size 4))
  | .blockLength tag, bytes =>
    if 4 ≤ bytes.size then
      let value := BigEndian.signed (BigEndian.decode bytes)
      if value < 1 then .error (.malformed (.blockLength value))
      else verdict (.strongLength tag value.toNat) (bytes.extract 4 bytes.size)
    else
      .error (.malformed (.truncated .blockLength bytes.size 4))
  | .strongLength tag blockLength, bytes =>
    if 4 ≤ bytes.size then
      let value := BigEndian.signed (BigEndian.decode bytes)
      if value < 0 ∨ maxStrongLength < value then .error (.malformed (.strongLength value))
      else
        match Params.ofHeader? tag blockLength value.toNat with
        | .error cause => .error (.malformed (.params cause))
        | .ok params => verdict (.weakSum (.empty params)) (bytes.extract 4 bytes.size)
    else
      .error (.malformed (.truncated .strongLength bytes.size 4))
  | .weakSum index, bytes =>
    if 4 ≤ bytes.size then
      verdict (.strongSum index (BigEndian.decode bytes)) (bytes.extract 4 bytes.size)
    else if bytes.size = 0 then .ok index
    else .error (.malformed (.truncated .weakSum bytes.size 4))
  | .strongSum index weak, bytes =>
    if index.params.strongLength ≤ bytes.size then
      match index.push weak (bytes.extract 0 index.params.strongLength) with
      | .error cause => .error (.ofPushError cause)
      | .ok (_, grown) =>
        verdict (.weakSum grown) (bytes.extract index.params.strongLength bytes.size)
    else
      .error (.malformed (.truncated .strongSum bytes.size index.params.strongLength))
  | .done index, _ => .ok index
  | .failed, _ => .error .terminated
termination_by state bytes =>
  bytes.size + match state with
    | .strongSum .. => 1
    | _ => 0
decreasing_by
  all_goals
    simp only [ByteArray.size_extract]
    omega

theorem verdict_strongSum {index : Index} {weak : UInt32} {bytes : ByteArray}
    (complete : index.params.strongLength ≤ bytes.size) :
    verdict (.strongSum index weak) bytes =
      verdict (.weakSum (index.add weak (bytes.extract 0 index.params.strongLength)))
        (bytes.extract index.params.strongLength bytes.size) := by
  conv => lhs; rw [verdict, if_pos complete, Index.push_eq, if_pos (size_take complete)]

theorem verdict_done (index : Index) (bytes : ByteArray) :
    verdict (.done index) bytes = .ok index := by
  rw [verdict]

theorem verdict_of_short {state : State} {field : Field} {needed : Nat} {bytes : ByteArray}
    (awaits : state.awaited = some (field, needed)) (short : bytes.size < needed)
    (inside : field = .weakSum → bytes.size ≠ 0) :
    verdict state bytes = .error (.malformed (.truncated field bytes.size needed)) := by
  cases state with
  | tag | blockLength | strongLength | strongSum =>
    obtain ⟨rfl, rfl⟩ := Prod.mk.inj (Option.some.inj awaits)
    rw [verdict, if_neg (Nat.not_le.2 short)]
  | weakSum =>
    obtain ⟨rfl, rfl⟩ := Prod.mk.inj (Option.some.inj awaits)
    rw [verdict, if_neg (Nat.not_le.2 short), if_neg (inside rfl)]
  | done | failed => cases awaits

variable {decoder next : Decoder} {answer : Except LoadError Progress} {progress : Progress}
  {cause : LoadError}

theorem Stepped.ended_eq (stepped : Stepped decoder answer next) :
    next.queue.ended = decoder.queue.ended := by
  cases stepped <;> rfl

/-- Reading a field moves it from the bytes to come into the state. -/
theorem Stepped.verdict_eq (stepped : Stepped decoder (.ok .inProgress) next) (rest : ByteArray) :
    verdict next.state (next.queue.pending ++ rest) =
      verdict decoder.state (decoder.queue.pending ++ rest) := by
  cases stepped with
  | tag awaits complete =>
    rw [awaits, verdict, if_pos (le_size_append rest complete),
      BigEndian.decode_append rest complete, extract_back_append rest complete,
      Queue.pending_skip]
  | blockLength awaits complete read good =>
    rw [awaits, verdict, if_pos (le_size_append rest complete),
      BigEndian.decode_append rest complete, extract_back_append rest complete,
      Queue.pending_skip, ← read]
    exact (if_neg good).symm
  | strongLength awaits complete read good accepted =>
    rw [awaits, verdict, if_pos (le_size_append rest complete),
      BigEndian.decode_append rest complete, extract_back_append rest complete,
      Queue.pending_skip, ← read]
    simp only [if_neg good, accepted]
  | weakSum awaits complete =>
    rw [awaits, verdict, if_pos (le_size_append rest complete),
      BigEndian.decode_append rest complete, extract_back_append rest complete,
      Queue.pending_skip]
  | strongSum awaits complete read =>
    rw [awaits, verdict_strongSum (le_size_append rest complete),
      extract_front_append rest complete, extract_back_append rest complete,
      Queue.pending_skip, ← read]

/-- A field that is refused would be refused whatever comes behind it, unless the stream has ended
and nothing does. -/
theorem Stepped.verdict_eq_error (stepped : Stepped decoder (.error cause) next)
    (live : decoder.state ≠ .failed) {rest : ByteArray}
    (closed : decoder.queue.ended = true → rest = .empty) :
    verdict decoder.state (decoder.queue.pending ++ rest) = .error cause := by
  cases stepped with
  | blockLengthRefused awaits complete read bad =>
    rw [awaits, verdict, if_pos (le_size_append rest complete),
      BigEndian.decode_append rest complete, ← read]
    exact if_pos bad
  | strongLengthRefused awaits complete read bad =>
    rw [awaits, verdict, if_pos (le_size_append rest complete),
      BigEndian.decode_append rest complete, ← read]
    exact if_pos bad
  | paramsRefused awaits complete read good refused =>
    rw [awaits, verdict, if_pos (le_size_append rest complete),
      BigEndian.decode_append rest complete, ← read]
    simp only [if_neg good, refused]
  | truncated awaits short ended inside =>
    rw [closed ended, ByteArray.append_empty]
    exact verdict_of_short awaits short inside
  | failed settled => exact absurd settled live

theorem Stepped.error_ne_terminated (stepped : Stepped decoder (.error cause) next)
    (live : decoder.state ≠ .failed) : cause ≠ .terminated := by
  cases stepped with
  | failed settled => exact absurd settled live
  | _ => simp

theorem Stepped.failed_of_error (stepped : Stepped decoder (.error cause) next) :
    next.state = .failed := by
  cases stepped with
  | failed settled => exact settled
  | _ => rfl

theorem Stepped.live_of_ok (stepped : Stepped decoder (.ok progress) next)
    (live : decoder.state ≠ .failed) : next.state ≠ .failed := by
  cases stepped with
  | suspended | done => exact live
  | _ => simp

/-- Whatever comes behind the bytes pending, the verdict is that on the whole stream.  Nothing comes
once the stream has ended. -/
def Tracks (decoder : Decoder) (stream : ByteArray) : Prop :=
  ∀ rest, (decoder.queue.ended = true → rest = .empty) →
    verdict decoder.state (decoder.queue.pending ++ rest) = verdict .tag (stream ++ rest)

variable {stream : ByteArray}

theorem Stepped.tracks (stepped : Stepped decoder (.ok progress) next)
    (tracks : Tracks decoder stream) : Tracks next stream := by
  intro rest closed
  rw [stepped.ended_eq] at closed
  cases progress with
  | inProgress => rw [stepped.verdict_eq, tracks rest closed]
  | needMoreInput =>
    cases stepped with
    | suspended => exact tracks rest closed
  | done =>
    rw [← tracks rest closed]
    cases stepped with
    | finished awaits empty ended =>
      have nothing : decoder.queue.pending ++ rest = .empty := by
        rw [closed ended, ByteArray.append_empty, ← ByteArray.size_eq_zero_iff, empty]
      rw [awaits, nothing]
      simp [verdict]
    | done => rfl

theorem Ran.tracks (ran : Ran decoder answer next) (succeeded : answer = .ok progress)
    (tracks : Tracks decoder stream) : Tracks next stream :=
  ran.keeps (Tracks · stream) Stepped.tracks succeeded tracks

theorem Ran.live_of_ok (ran : Ran decoder answer next) (succeeded : answer = .ok progress)
    (live : decoder.state ≠ .failed) : next.state ≠ .failed :=
  ran.keeps (·.state ≠ .failed) Stepped.live_of_ok succeeded live

theorem Ran.ended_eq (ran : Ran decoder answer next) :
    next.queue.ended = decoder.queue.ended := by
  induction ran with
  | last stepped => exact stepped.ended_eq
  | more stepped ran ih => rw [ih, stepped.ended_eq]

theorem Ran.failed_of_error (ran : Ran decoder answer next) (failed : answer = .error cause) :
    next.state = .failed := by
  induction ran with
  | last stepped =>
    subst failed
    exact stepped.failed_of_error
  | more stepped ran ih => exact ih failed

/-- What a decoder that failed had read, and what its stream was worth. -/
structure Rejects (decoder : Decoder) (stream : ByteArray) (cause : LoadError) (next : Decoder) :
    Prop where
  failed : next.state = .failed
  ne_terminated : cause ≠ .terminated
  verdict_eq : ∀ rest, (decoder.queue.ended = true → rest = .empty) →
    verdict .tag (stream ++ rest) = .error cause

theorem Stepped.rejects (stepped : Stepped decoder (.error cause) next)
    (tracks : Tracks decoder stream) (live : decoder.state ≠ .failed) :
    Rejects decoder stream cause next where
  failed := stepped.failed_of_error
  ne_terminated := stepped.error_ne_terminated live
  verdict_eq rest closed := by rw [← tracks rest closed, stepped.verdict_eq_error live closed]

theorem Ran.rejects (ran : Ran decoder answer next) (failed : answer = .error cause)
    (tracks : Tracks decoder stream) (live : decoder.state ≠ .failed) :
    Rejects decoder stream cause next := by
  induction ran with
  | last stepped =>
    subst failed
    exact stepped.rejects tracks live
  | more stepped ran ih =>
    have rejects := ih failed (stepped.tracks tracks) (stepped.live_of_ok live)
    exact { rejects with
      verdict_eq := fun rest closed =>
        rejects.verdict_eq rest (by rwa [stepped.ended_eq]) }

theorem Ran.done_of_ended (ran : Ran decoder answer next) (succeeded : answer = .ok progress)
    (ended : decoder.queue.ended = true) :
    progress = .done ∧ ∃ index, next.state = .done index := by
  induction ran with
  | last stepped stops =>
    subst succeeded
    cases stepped with
    | suspended _ _ unended =>
      rw [unended] at ended
      contradiction
    | finished => exact ⟨rfl, _, rfl⟩
    | done settled => exact ⟨rfl, _, settled⟩
    | _ => exact absurd rfl stops
  | more stepped ran ih => exact ih succeeded (by rw [stepped.ended_eq, ended])

theorem Tracks.verdict_eq_ok (tracks : Tracks decoder stream) {index : Index}
    (settled : decoder.state = .done index) : verdict .tag stream = .ok index := by
  have whole := tracks .empty fun _ => rfl
  rw [ByteArray.append_empty, ByteArray.append_empty, settled, verdict_done] at whole
  exact whole.symm

/-- Once a stream has ended, a run comes to the verdict on it. -/
theorem Tracks.run_of_ended (tracks : Tracks decoder stream) (live : decoder.state ≠ .failed)
    (ended : decoder.queue.ended = true) :
    decoder.run.1 = (verdict .tag stream).map (fun _ => .done) ∧
      ∀ index, verdict .tag stream = .ok index → decoder.run.2.signature? = .ok index := by
  have ran := ran_run decoder
  cases answered : decoder.run.1 with
  | error cause =>
    have refused := (ran.rejects answered tracks live).verdict_eq .empty fun _ => rfl
    rw [ByteArray.append_empty] at refused
    rw [refused]
    exact ⟨rfl, by simp⟩
  | ok progress =>
    obtain ⟨rfl, index, settled⟩ := ran.done_of_ended answered ended
    have accepted := (ran.tracks answered tracks).verdict_eq_ok settled
    rw [accepted]
    refine ⟨rfl, fun _ same => ?_⟩
    rw [signature?, settled]
    exact same

theorem tracks_new (sizeHint : Option Nat) : Tracks (.new sizeHint) .empty :=
  fun _ _ => rfl

theorem Tracks.push (tracks : Tracks decoder stream) (unended : decoder.queue.ended = false)
    (piece : ByteArray) :
    Tracks { decoder with queue := decoder.queue.push piece } (stream ++ piece) := by
  intro rest _
  have goesOn : decoder.queue.ended = true → piece ++ rest = .empty := by
    rw [unended]
    intro ended
    contradiction
  simpa only [Queue.pending_push, ByteArray.append_assoc] using tracks (piece ++ rest) goesOn

theorem Tracks.finish (tracks : Tracks decoder stream) : Tracks decoder.finish stream := by
  intro rest closed
  have nothing := closed rfl
  exact tracks rest fun _ => nothing

end Decoder

theorem Index.decode?_eq_verdict (stream : ByteArray) :
    decode? stream = Decoder.verdict .tag stream := by
  let pushed : Decoder :=
    { Decoder.new (some stream.size) with queue := Queue.push {} stream }
  have tracks : Decoder.Tracks pushed.finish stream := by
    rw [← ByteArray.empty_append (b := stream)]
    exact ((Decoder.tracks_new (some stream.size)).push rfl stream).finish
  obtain ⟨ran, signed⟩ := tracks.run_of_ended (by simp [pushed, Decoder.finish, Decoder.new]) rfl
  change (do let _ ← pushed.finish.run.1; pushed.finish.run.2.signature?) = _
  rw [ran]
  cases verdict : Decoder.verdict .tag stream with
  | error cause => rfl
  | ok index => exact signed index verdict

end DeltaSignature
