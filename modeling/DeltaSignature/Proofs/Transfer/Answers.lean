import DeltaSignature.Proofs.Transfer.Recorded

/-!
# The schedule of a reader

Whoever asks a reader for pieces of one size again and again meets a fixed list of answers:
interruptions and pieces, and last of all the end of the stream or a failure.  This list, its bytes
and its last answer are all that a loop over the reader can depend on.
-/

namespace DeltaSignature

namespace ReadOutcome

/-- The bytes that were delivered. -/
def bytes : ReadOutcome → ByteArray
  | delivered bytes => bytes
  | _ => .empty

/-- Whether some bytes were delivered. -/
def isPiece : ReadOutcome → Bool
  | delivered bytes => !bytes.isEmpty
  | _ => false

def failure? : ReadOutcome → Option IoFailure
  | failed failure => some failure
  | _ => none

end ReadOutcome

/-- The bytes of all the pieces, one after the other. -/
def joined : List ReadOutcome → ByteArray
  | [] => .empty
  | answer :: answers => answer.bytes ++ joined answers

namespace ByteReader

variable {σ : Type} [ByteReader σ] {reader next : σ} {size : Nat} {piece : ByteArray}

/-- The answers of a reader that is asked for so many bytes again and again, until it has nothing
more to give or fails. -/
def schedule (size : Nat) (reader : σ) : List ReadOutcome :=
  match _ : read reader size with
  | (.interrupted, next) => .interrupted :: schedule size next
  | (.failed failure, _) => [.failed failure]
  | (.delivered piece, next) =>
    if piece.isEmpty then [.delivered piece] else .delivered piece :: schedule size next
termination_by left reader
decreasing_by
  · exact left_lt_of_interrupted ‹_›
  · exact left_lt_of_delivered ‹_› ‹_›

theorem schedule_of_interrupted (answer : read reader size = (.interrupted, next)) :
    schedule size reader = .interrupted :: schedule size next := by
  rw [schedule]
  split <;> cases answer.symm.trans ‹_›
  rfl

theorem schedule_of_failed {failure : IoFailure}
    (answer : read reader size = (.failed failure, next)) :
    schedule size reader = [.failed failure] := by
  rw [schedule]
  split <;> cases answer.symm.trans ‹_›
  rfl

theorem schedule_of_ended (answer : read reader size = (.delivered piece, next))
    (nothing : piece.isEmpty = true) : schedule size reader = [.delivered piece] := by
  rw [schedule]
  split <;> cases answer.symm.trans ‹_›
  exact if_pos nothing

theorem schedule_of_piece (answer : read reader size = (.delivered piece, next))
    (something : ¬ piece.isEmpty = true) :
    schedule size reader = .delivered piece :: schedule size next := by
  rw [schedule]
  split <;> cases answer.symm.trans ‹_›
  exact if_neg something

theorem exists_schedule_eq_cons {outcome : ReadOutcome}
    (answer : read reader size = (outcome, next)) :
    ∃ later, schedule size reader = outcome :: later := by
  cases outcome with
  | interrupted => exact ⟨_, schedule_of_interrupted answer⟩
  | failed failure => exact ⟨_, schedule_of_failed answer⟩
  | delivered piece =>
    by_cases nothing : piece.isEmpty = true
    · exact ⟨_, schedule_of_ended answer nothing⟩
    · exact ⟨_, schedule_of_piece answer nothing⟩

/-- Reading goes on until the stream ends or fails. -/
theorem exists_last_schedule (size : Nat) (reader : σ) :
    ∃ earlier last, schedule size reader = earlier ++ [last] ∧
      (∀ answer ∈ earlier, answer.goesOn = true) ∧
      (last = .delivered .empty ∨ ∃ failure, last = .failed failure) := by
  fun_induction schedule size reader with
  | case1 reader next answer ih =>
    obtain ⟨earlier, last, same, goesOn, ends⟩ := ih
    exact ⟨.interrupted :: earlier, last, congrArg (List.cons _) same,
      List.forall_mem_cons.2 ⟨rfl, goesOn⟩, ends⟩
  | case2 reader failure next answer => exact ⟨[], _, rfl, by simp, .inr ⟨failure, rfl⟩⟩
  | case3 reader piece next answer nothing =>
    have none : piece.size = 0 := by simpa [ByteArray.isEmpty] using nothing
    obtain rfl := ByteArray.size_eq_zero_iff.1 none
    exact ⟨[], _, rfl, by simp, .inl rfl⟩
  | case4 reader piece next answer something ih =>
    obtain ⟨earlier, last, same, goesOn, ends⟩ := ih
    refine ⟨.delivered piece :: earlier, last, congrArg (List.cons _) same,
      List.forall_mem_cons.2 ⟨?_, goesOn⟩, ends⟩
    rw [ReadOutcome.goesOn, Bool.eq_false_of_not_eq_true something, Bool.not_false]

/-- A record of the calls makes no difference to the answers. -/
theorem schedule_recorded (size : Nat) (reader : σ) (calls : List SourceCall) :
    schedule size (⟨reader, calls⟩ : Recorded σ) = schedule size reader := by
  fun_induction schedule size reader generalizing calls with
  | case1 reader next answer ih =>
    rw [schedule_of_interrupted (Recorded.read_eq answer calls), ih]
  | case2 reader failure next answer =>
    exact schedule_of_failed (Recorded.read_eq answer calls)
  | case3 reader piece next answer nothing =>
    exact schedule_of_ended (Recorded.read_eq answer calls) nothing
  | case4 reader piece next answer something ih =>
    rw [schedule_of_piece (Recorded.read_eq answer calls) something, ih]

end ByteReader

end DeltaSignature
