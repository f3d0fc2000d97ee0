import DeltaSignature.Proofs.Stream.Reports

/-!
# How long a run takes

A strong sum of no bytes is read without taking any, so the number of pending bytes alone does not
bound a run.  But every record costs four bytes at least and is read in two steps, and at most one
strong sum is due before the first of them: `pace` counts just that, and every step that reads on
lowers it.  Once the input has ended, a run does not stop to wait either.
-/

namespace DeltaSignature

namespace Decoder

variable {decoder next : Decoder}

/-- A bound on the steps that read on before more input is needed. -/
def pace (decoder : Decoder) : Nat :=
  2 * (decoder.queue.pending.size / 4) +
    match decoder.state with
    | .strongSum .. => 1
    | _ => 0

theorem pace_le (decoder : Decoder) :
    decoder.pace ≤ 2 * (decoder.queue.pending.size / 4) + 1 := by
  unfold pace
  split <;> omega

theorem Stepped.pace_lt (stepped : Stepped decoder (.ok .inProgress) next) :
    next.pace < decoder.pace := by
  cases stepped with
  | tag awaits complete | blockLength awaits complete | strongLength awaits complete
  | weakSum awaits complete =>
    -- Four bytes pay for the word that was read and for a strong sum behind it.
    simp only [pace, awaits, Queue.pending_skip, size_drop]
    omega
  | strongSum awaits complete =>
    simp only [pace, awaits, Queue.pending_skip, size_drop]
    omega

/-- Steps until more input is needed or the stream has ended, but gives up rather than take more
than so many steps. -/
def runWithin : Nat → Decoder → Option (Except LoadError Progress × Decoder)
  | 0, _ => none
  | steps + 1, decoder =>
    match decoder.step with
    | (.ok .inProgress, next) => next.runWithin steps
    | answer => some answer

theorem runWithin_eq_run {steps : Nat} (enough : decoder.pace < steps) :
    decoder.runWithin steps = some decoder.run := by
  obtain ⟨steps, rfl⟩ := Nat.exists_eq_add_one_of_ne_zero (Nat.ne_zero_of_lt enough)
  fun_induction run decoder generalizing steps with
  | case1 decoder next goesOn ih =>
    have stepped := stepped_step decoder
    rw [goesOn] at stepped
    have lower : next.pace < decoder.pace := stepped.pace_lt
    obtain ⟨fewer, rfl⟩ : ∃ fewer, steps = fewer + 1 :=
      Nat.exists_eq_add_one_of_ne_zero (by omega)
    rw [runWithin, goesOn]
    apply ih
    omega
  | case2 decoder stops =>
    rw [runWithin]
    split
    next next goesOn => exact (stops next goesOn).elim
    next => rfl

theorem run_settles (ended : decoder.queue.ended = true) :
    decoder.run.1 = .ok .done ∨ ∃ cause, decoder.run.1 = .error cause := by
  cases answered : decoder.run.1 with
  | error cause => exact .inr ⟨cause, rfl⟩
  | ok progress =>
    obtain rfl := run_of_ended ended (Prod.ext answered rfl)
    exact .inl rfl

/-- Whatever a decoder waits for and however much is pending, a run takes at most two steps for
every four pending bytes and two steps more.  Once the input was declared complete, a run never
asks for more of it. -/
theorem run_terminates (decoder : Decoder) :
    decoder.runWithin (2 * (decoder.queue.available / 4) + 2) = some decoder.run ∧
      ∀ calls, let last := (decoder.finish.perform calls).2
        last.run.1 = .ok .done ∨ ∃ cause, last.run.1 = .error cause := by
  constructor
  · apply runWithin_eq_run
    rw [Queue.available_eq_size_pending]
    exact Nat.lt_succ_of_le decoder.pace_le
  · intro calls last
    apply run_settles
    exact (ended_perform decoder.finish calls).2 (.inl rfl)

-- A decoder with nothing pending takes both steps if it waits for a strong sum of no bytes.
example :
    let stream : ByteArray := ⟨#[0x72, 0x73, 0x01, 0x36, 0, 0, 0, 1, 0, 0, 0, 0, 0, 0, 0, 7]⟩
    let decoder := ((new none).perform [.push stream, .run, .push ⟨#[0, 0, 0, 8]⟩, .step]).2
    decoder.queue.available = 0 ∧ (decoder.runWithin 1).isNone = true := by
  decide +kernel

end Decoder

end DeltaSignature
