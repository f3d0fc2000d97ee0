import DeltaSignature.FileSystem.Open
import DeltaSignature.Proofs.Transfer.Delivery

/-!
# What is read from files and from standard input

A file hands out its bytes in order, and so does standard input through the buffer in front of it.
Where reading breaks off nobody can tell how much is left: until then, the reader behaves like one
over the same bytes with any others behind them.
-/

namespace DeltaSignature

open ByteReader (Delivers NeverFails)

/-- The reader answers every call with the next bytes, and with none only at the end. -/
def ByteReader.Yields {σ : Type} [ByteReader σ] (content : ByteArray) (stands : σ → Nat → Prop) :
    Prop :=
  ∀ ⦃reader : σ⦄ ⦃place size : Nat⦄, stands reader place → 0 < size →
    ∃ piece, (ByteReader.read reader size).1 = .delivered piece ∧ PartAt content place piece ∧
      stands (ByteReader.read reader size).2 (place + piece.size) ∧
      (piece.isEmpty = true → content.size ≤ place)

open ByteReader (Yields)

theorem Cursor.yields (content : ByteArray) : Yields content (Cursor.StandsIn content) := by
  intro cursor place size standing positive
  have law := Cursor.delivers content
  have answer :
      ByteReader.read cursor size = (.delivered (cursor.next size), (cursor.read size).2) := rfl
  obtain ⟨part, after⟩ := law.part_of_delivered standing positive answer
  exact ⟨_, rfl, part, after, law.size_le_of_empty standing positive answer⟩

namespace StandardInput

/-- All of `content` before `place` was handed out, and the bytes from there on wait or are still to
be taken into the buffer. -/
structure StandsIn (content : ByteArray) (input : StandardInput) (place : Nat) : Prop where
  inner : Cursor.StandsIn content input.inner (place + input.waiting.size)
  waiting : PartAt content place input.waiting

variable {content : ByteArray} {input next : StandardInput} {place size : Nat}

/-- The bytes that are taken into an empty buffer are the next ones. -/
theorem StandsIn.fill (standing : StandsIn content input place) :
    StandsIn content input.fill place := by
  unfold StandardInput.fill
  split
  next empty =>
    obtain ⟨⟨sameBytes, position⟩, -⟩ := standing
    have nothing : input.waiting.size = 0 := by simpa [ByteArray.isEmpty] using empty
    rw [nothing, Nat.add_zero] at position
    refine ⟨⟨sameBytes, ?_⟩, ?_⟩
    · simp only [Cursor.read, position]
    · have part := input.inner.part_next capacity
      rwa [sameBytes, position] at part
  next => exact standing

/-- The buffer stays empty only if nothing is left. -/
theorem StandsIn.size_le_of_fill (standing : StandsIn content input place)
    (empty : input.fill.waiting.size = 0) : content.size ≤ place := by
  unfold StandardInput.fill at empty
  split at empty
  next blank =>
    obtain ⟨⟨sameBytes, position⟩, -⟩ := standing
    have nothing : input.waiting.size = 0 := by simpa [ByteArray.isEmpty] using blank
    simp only [Cursor.next, ByteArray.size_extract, sameBytes, position, nothing, capacity] at empty
    omega
  next something => exact absurd (by simpa [ByteArray.isEmpty] using empty) something

theorem yields (content : ByteArray) : Yields content (StandsIn content) := by
  intro input place size standing positive
  change ∃ piece, (input.read size).1 = _ ∧ _ ∧ StandsIn _ (input.read size).2 _ ∧ _
  unfold StandardInput.read
  split
  next direct =>
    have nothing : input.waiting.size = 0 := by simpa [ByteArray.isEmpty] using direct.1
    have inner := standing.inner
    rw [nothing, Nat.add_zero] at inner
    obtain ⟨piece, delivered, part, after, ends⟩ := Cursor.yields content inner positive
    refine ⟨piece, delivered, part, ⟨?_, ?_⟩, ends⟩
    · rw [nothing, Nat.add_zero]
      exact after
    · rw [ByteArray.size_eq_zero_iff.1 nothing]
      exact .empty ..
  next =>
    have filled := standing.fill
    obtain ⟨front, rest⟩ := filled.waiting.halves size
    refine ⟨_, rfl, front, ⟨?_, rest⟩, fun empty => standing.size_le_of_fill ?_⟩
    · have whole : (input.fill.waiting.extract 0 size).size +
          (input.fill.waiting.extract size input.fill.waiting.size).size =
          input.fill.waiting.size := by
        simp only [ByteArray.size_extract]
        omega
      rw [Nat.add_assoc, whole]
      exact filled.inner
    · have none : (input.fill.waiting.extract 0 size).size = 0 := by
        simpa [ByteArray.isEmpty] using empty
      rw [ByteArray.size_extract] at none
      omega

end StandardInput

namespace Input

def StandsIn (content : ByteArray) : Input → Nat → Prop
  | file cursor, place => Cursor.StandsIn content cursor place
  | standard input, place => StandardInput.StandsIn content input place

theorem yields (content : ByteArray) : Yields content (StandsIn content) := by
  intro input place size standing positive
  cases input with
  | file cursor => exact Cursor.yields content standing positive
  | standard input => exact StandardInput.yields content standing positive

end Input

namespace Breaking

variable {σ : Type} [ByteReader σ] {content : ByteArray} {stands : σ → Nat → Prop}

/-- The reader behind stands there, and reading fails in this way where that one ends. -/
def StandsIn (stands : σ → Nat → Prop) (failure : Option IoFailure) (source : Breaking σ)
    (place : Nat) : Prop :=
  stands source.reader place ∧ source.failure = failure

/-- Either the next bytes come, or there are none and the failure comes in their place. -/
theorem answer_cases (yields : Yields content stands) {failure : Option IoFailure}
    {source next : Breaking σ} {place size : Nat} {outcome : ReadOutcome}
    (standing : StandsIn stands failure source place) (positive : 0 < size)
    (answer : ByteReader.read source size = (outcome, next)) :
    (∃ piece, outcome = .delivered piece ∧ PartAt content place piece ∧
        StandsIn stands failure next (place + piece.size) ∧
        (piece.isEmpty = true → failure = none ∧ content.size ≤ place)) ∨
      ∃ cause, outcome = .failed cause ∧ failure = some cause ∧
        StandsIn stands failure next place := by
  obtain ⟨standing, rfl⟩ := standing
  obtain ⟨piece, delivered, part, after, ends⟩ := yields standing positive
  obtain ⟨answered, rfl⟩ := Prod.mk.inj answer
  rw [← answered, Breaking.outcome, delivered]
  cases source.failure with
  | none => exact .inl ⟨piece, rfl, part, ⟨after, rfl⟩, fun empty => ⟨rfl, ends empty⟩⟩
  | some failure =>
    by_cases empty : piece.isEmpty = true
    · have nothing : piece.size = 0 := by simpa [ByteArray.isEmpty] using empty
      rw [nothing, Nat.add_zero] at after
      exact .inr ⟨failure, if_pos empty, rfl, after, rfl⟩
    · exact .inl ⟨piece, if_neg empty, part, ⟨after, rfl⟩, fun nothing => absurd nothing empty⟩

/-- Who reads until the failure cannot tell whether there was more. -/
theorem delivers (yields : Yields content stands) (failure : Option IoFailure) (more : ByteArray)
    (whole : failure = none → more = .empty) :
    Delivers (content ++ more) (StandsIn stands failure) where
  stands_of_interrupted := by
    intro source next place size standing positive answer
    obtain ⟨piece, delivered, -⟩ | ⟨cause, failed, -⟩ :=
      answer_cases yields standing positive answer
    · cases delivered
    · cases failed
  stands_of_failed := by
    intro source next place size cause standing positive answer
    obtain ⟨piece, delivered, -⟩ | ⟨cause, -, -, after⟩ :=
      answer_cases yields standing positive answer
    · cases delivered
    · exact after
  part_of_delivered := by
    intro source next place size piece standing positive answer
    obtain ⟨piece, delivered, part, after, -⟩ | ⟨cause, failed, -⟩ :=
      answer_cases yields standing positive answer
    · cases delivered
      exact ⟨part.longer more, after⟩
    · cases failed
  size_le_of_empty := by
    intro source next place size piece standing positive answer empty
    obtain ⟨piece, delivered, -, -, ends⟩ | ⟨cause, failed, -⟩ :=
      answer_cases yields standing positive answer
    · cases delivered
      obtain ⟨none, reached⟩ := ends empty
      rwa [whole none, ByteArray.append_empty]
    · cases failed

theorem neverFails (yields : Yields content stands) :
    NeverFails (StandsIn stands none) := by
  intro source next place size failure standing positive answer
  obtain ⟨piece, delivered, -⟩ | ⟨cause, -, none, -⟩ := answer_cases yields standing positive answer
  · cases delivered
  · cases none

/-- The reader hands out `content` from the start, unless it fails in this way; then there may be
more in `content` than it hands out before. -/
def Reads (content : ByteArray) (failure : Option IoFailure) (source : Breaking Input) : Prop :=
  ∃ shown more, content = shown ++ more ∧ (failure = none → more = .empty) ∧
    StandsIn (Input.StandsIn shown) failure source 0

theorem reads_ofStandard (content : ByteArray) (failure : Option IoFailure) :
    Reads content failure ⟨.ofStandard content, failure⟩ :=
  ⟨content, .empty, ByteArray.append_empty.symm, fun _ => rfl, ⟨⟨rfl, rfl⟩, .empty ..⟩, rfl⟩

end Breaking

/-- Whether or not reading a file fails, what is read before is the beginning of its content. -/
theorem FileSystem.reads_openAt (files : FileSystem) (location : Location) :
    (files.openAt location).Reads (files.bytesAt location)
      ((files.faultAt location).map Prod.snd) := by
  unfold openAt
  cases files.faultAt location with
  | none => exact ⟨_, .empty, ByteArray.append_empty.symm, fun _ => rfl, ⟨rfl, rfl⟩, rfl⟩
  | some fault =>
    obtain ⟨place, failure⟩ := fault
    obtain ⟨rest, whole⟩ :=
      (PartAt.extract_content (files.bytesAt location) 0 place).exists_rest
    exact ⟨_, rest, whole, nofun, ⟨rfl, rfl⟩, rfl⟩

end DeltaSignature
