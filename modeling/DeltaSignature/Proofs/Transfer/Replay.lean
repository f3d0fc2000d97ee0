import DeltaSignature.Proofs.Transfer.Recorded

/-!
# Sources that answer alike

Whoever uses a source knows it by its answers only.  `Replays` says that a source gives the answers
of a record; a recorded source gives those of the source behind it, and keeps them.
-/

namespace DeltaSignature

/-- The source answers these calls as they were answered, and is then in the state `last`. -/
inductive ByteSource.Replays {σ : Type} [ByteSource σ] : σ → List SourceCall → σ → Prop where
  | nil {source : σ} : Replays source [] source
  | read {source next last : σ} {size : Nat} {outcome : ReadOutcome} {calls : List SourceCall}
      (answer : ByteReader.read source size = (outcome, next))
      (later : Replays next calls last) : Replays source (.read size outcome :: calls) last
  | seek {source next last : σ} {target : Nat} {outcome : Except IoFailure Unit}
      {calls : List SourceCall} (answer : ByteSource.seek source target = (outcome, next))
      (later : Replays next calls last) : Replays source (.seek target outcome :: calls) last

namespace ByteSource.Replays

variable {σ : Type} [ByteSource σ] {source middle last : σ} {earlier later calls : List SourceCall}

theorem trans (first : Replays source earlier middle) (second : Replays middle later last) :
    Replays source (earlier ++ later) last := by
  induction first with
  | nil => exact second
  | read answer _ ih => exact .read answer (ih second)
  | seek answer _ ih => exact .seek answer (ih second)

theorem exists_of_append (replays : Replays source (earlier ++ later) last) :
    ∃ middle, Replays source earlier middle ∧ Replays middle later last := by
  induction earlier generalizing source with
  | nil => exact ⟨source, .nil, replays⟩
  | cons call earlier ih =>
    cases replays with
    | read answer rest =>
      obtain ⟨middle, first, second⟩ := ih rest
      exact ⟨middle, .read answer first, second⟩
    | seek answer rest =>
      obtain ⟨middle, first, second⟩ := ih rest
      exact ⟨middle, .seek answer first, second⟩

/-- A recorded source answers like the source behind it and adds the calls to its record. -/
theorem recorded (replays : Replays source calls last) (before : List SourceCall) :
    Replays (⟨source, before⟩ : Recorded σ) calls ⟨last, before ++ calls⟩ := by
  induction replays generalizing before with
  | nil =>
    rw [List.append_nil]
    exact .nil
  | @read source next last size outcome calls answer later ih =>
    have behind := ih (before ++ [.read size outcome])
    rw [List.append_assoc] at behind
    exact .read (Recorded.read_eq answer before) behind
  | @seek source next last target outcome calls answer later ih =>
    have behind := ih (before ++ [.seek target outcome])
    rw [List.append_assoc] at behind
    exact .seek (Recorded.seek_eq answer before) behind

/-- What a recorded source is asked stands in its record. -/
theorem calls_eq {recorded final : Recorded σ} (replays : Replays recorded calls final) :
    final.calls = recorded.calls ++ calls := by
  induction replays with
  | nil => exact (List.append_nil _).symm
  | read answer later ih =>
    rw [ih, Recorded.calls_of_read answer, List.append_assoc]
    rfl
  | seek answer later ih =>
    rw [ih, Recorded.calls_of_seek answer, List.append_assoc]
    rfl

end ByteSource.Replays

end DeltaSignature
