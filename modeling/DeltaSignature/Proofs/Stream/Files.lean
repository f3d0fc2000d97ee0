import DeltaSignature.Proofs.FileSystem.Paths
import DeltaSignature.Proofs.Stream.Loading
import DeltaSignature.SignatureFile

/-!
# Loading a signature file

A file hands out its bytes in large pieces until nothing is left or reading fails.  So what loading
it comes to is a matter of these bytes and of that failure alone, and so is the number of reads.
-/

namespace DeltaSignature

open ByteReader (schedule)
open Load (pieceLength)

section Reading

variable {bytes : ByteArray} {position : Nat}

/-- The last answer of a reader that fails in this way, if it does. -/
def ReadOutcome.ending : Option IoFailure → ReadOutcome
  | none => .delivered .empty
  | some failure => .failed failure

/-- A file that is open at a position, and on which reading fails behind these bytes, if it does. -/
def Breaking.ofFile (bytes : ByteArray) (failure : Option IoFailure) (position : Nat) :
    Breaking Input :=
  ⟨.file ⟨bytes, position⟩, failure⟩

theorem read_ofFile_of_lt (failure : Option IoFailure) (inside : position < bytes.size) :
    let piece := bytes.extract position (position + min pieceLength bytes.size)
    ByteReader.read (Breaking.ofFile bytes failure position) pieceLength =
        (.delivered piece, .ofFile bytes failure (position + piece.size)) ∧
      piece.size = min pieceLength (bytes.size - position) := by
  intro piece
  have extent : piece.size = min pieceLength (bytes.size - position) := by
    simp only [piece, ByteArray.size_extract]
    omega
  refine ⟨Prod.ext ?_ rfl, extent⟩
  have something : ¬ piece.isEmpty = true := by
    simp only [ByteArray.isEmpty, extent, pieceLength, beq_iff_eq]
    omega
  cases failure with
  | none => rfl
  | some failure => exact if_neg something

theorem read_ofFile_of_le (failure : Option IoFailure) (past : bytes.size ≤ position) :
    ByteReader.read (Breaking.ofFile bytes failure position) pieceLength =
      (.ending failure, .ofFile bytes failure position) := by
  have nothing : bytes.extract position (position + min pieceLength bytes.size) = .empty := by
    rw [ByteArray.extract_eq_empty_iff]
    omega
  have answer : ByteReader.read (Breaking.ofFile bytes failure position) pieceLength =
      (Breaking.outcome (.ofFile bytes failure position) pieceLength,
        .ofFile bytes failure (position +
          (bytes.extract position (position + min pieceLength bytes.size)).size)) := rfl
  have delivered : (ByteReader.read (Breaking.ofFile bytes failure position).reader
      pieceLength).1 =
        .delivered (bytes.extract position (position + min pieceLength bytes.size)) := rfl
  rw [answer, Breaking.outcome, delivered, nothing]
  cases failure <;> rfl

/-- A file hands out what is left of it in full pieces and a last one. -/
theorem exists_schedule_ofFile (bytes : ByteArray) (failure : Option IoFailure) (position : Nat) :
    ∃ earlier,
      schedule pieceLength (Breaking.ofFile bytes failure position) =
        earlier ++ [.ending failure] ∧
      (∀ answer ∈ earlier, answer.goesOn = true) ∧
      joined earlier = bytes.extract position bytes.size ∧
      earlier.countP ReadOutcome.isPiece =
        (bytes.size - position + (pieceLength - 1)) / pieceLength := by
  -- By induction on what is left: every piece but the last one is full.
  induction left : bytes.size - position using Nat.strong_induction_on generalizing position with
  | _ left ih =>
    subst left
    by_cases inside : position < bytes.size
    case pos =>
      obtain ⟨answer, extent⟩ := read_ofFile_of_lt failure inside
      generalize whole : bytes.extract position (position + min pieceLength bytes.size) = piece
        at answer extent
      have full : piece.size = min 65536 (bytes.size - position) := extent
      have something : ¬ piece.isEmpty = true := by
        simp only [ByteArray.isEmpty, beq_iff_eq]
        omega
      obtain ⟨later, shape, goesOn, rest, count⟩ := ih _ (by omega) (position + piece.size) rfl
      have counts : ReadOutcome.isPiece (.delivered piece) = true := by
        rw [ReadOutcome.isPiece, Bool.eq_false_of_not_eq_true something, Bool.not_false]
      refine ⟨.delivered piece :: later, ?_, List.forall_mem_cons.2 ⟨counts, goesOn⟩, ?_, ?_⟩
      · rw [ByteReader.schedule_of_piece answer something, shape, List.cons_append]
      · have front : bytes.extract position (position + piece.size) = piece := by
          rw [← whole]
          exact extract_eq_of_min_eq (by rw [whole, extent, pieceLength]; omega)
        have halves : bytes.extract position bytes.size =
            bytes.extract position (position + piece.size) ++
              bytes.extract (position + piece.size) bytes.size :=
          ByteArray.extract_eq_extract_append_extract _ (by omega) (by omega)
        rw [joined, rest, ReadOutcome.bytes, halves, front]
      · rw [List.countP_cons_of_pos counts, count, pieceLength]
        omega
    case neg =>
      have answer := read_ofFile_of_le failure (Nat.le_of_not_lt inside)
      refine ⟨[], ?_, List.forall_mem_nil _, ?_, ?_⟩
      · cases failure with
        | none => exact ByteReader.schedule_of_ended answer rfl
        | some cause => exact ByteReader.schedule_of_failed answer
      · rw [joined, eq_comm, ByteArray.extract_eq_empty_iff]
        omega
      · rw [Nat.sub_eq_zero_of_le (Nat.le_of_not_lt inside)]
        rfl

end Reading

namespace Load

/-- The number of reads in which a file of this size is loaded. -/
def readsOf (size : Nat) : Nat :=
  (size + (pieceLength - 1)) / pieceLength + 1

/-- What loading comes to if the reader hands out these bytes and then fails, if it does.  Before it
fails, nothing but the header can have been found to be at fault. -/
def ofBytes (bytes : ByteArray) : Option IoFailure → Except LoadError Index
  | none => Index.decode? bytes
  | some failure =>
    match Index.decode? bytes with
    | .ok _ => .error (.io failure)
    | .error cause => .error (if cause.isHeaderError then cause else .io failure)

theorem exists_ofBytes_eq_error (bytes : ByteArray) (failure : IoFailure) :
    ∃ cause, ofBytes bytes (some failure) = .error cause := by
  unfold ofBytes
  cases Index.decode? bytes with
  | ok index => exact ⟨_, rfl⟩
  | error cause => exact ⟨_, rfl⟩

theorem outcome_load_ofFile (bytes : ByteArray) (failure : Option IoFailure)
    (sizeHint : Option Nat) :
    (load (Breaking.ofFile bytes failure 0) sizeHint).outcome =
      (ofBytes bytes failure).map fun index =>
        (index, .ofIndex bytes (readsOf bytes.size) index) := by
  obtain ⟨earlier, shape, goesOn, all, count⟩ := exists_schedule_ofFile bytes failure 0
  rw [ByteArray.extract_zero_size] at all
  have loaded : (load (Breaking.ofFile bytes failure 0) sizeHint).outcome =
      expected .empty 0 (schedule pieceLength (Breaking.ofFile bytes failure 0)) :=
    outcome_loop (Decoder.suspended_new sizeHint) 0 _
  rw [shape, expected_append goesOn, ByteArray.empty_append, Nat.zero_add, all, count] at loaded
  rw [loaded]
  cases failure with
  | none => exact expected_ended _ bytes rfl
  | some cause =>
    rw [ReadOutcome.ending, expected_failed, ofBytes]
    cases Index.decode? bytes <;> rfl

end Load

namespace FileSystem

variable {files : FileSystem} {location : Location} {path : String} {stream : ByteArray}
  {index : Index}

/-- The bytes that are handed out of the entry at a location before its end or a failure. -/
def shownAt (files : FileSystem) (location : Location) : ByteArray :=
  match files.faultAt location with
  | none => files.bytesAt location
  | some (place, _) => (files.bytesAt location).extract 0 place

theorem openAt_eq_ofFile (files : FileSystem) (location : Location) :
    files.openAt location =
      .ofFile (files.shownAt location) ((files.faultAt location).map Prod.snd) 0 := by
  unfold openAt shownAt
  cases files.faultAt location <;> rfl

/-- All bytes of the file that a path names, if it can be opened and read to its end. -/
def readAll (files : FileSystem) (path : String) : Except IoFailure ByteArray :=
  match files.open? path with
  | .error failure => .error failure
  | .ok location =>
    match files.faultAt location with
    | none => .ok (files.bytesAt location)
    | some (_, failure) => .error failure

/-- The signature in the file that a path names, with the bytes of the file. -/
def signatureAt (files : FileSystem) (path : String) : Except FileError (ByteArray × Index) :=
  match files.open? path with
  | .error failure => .error (.io failure)
  | .ok location =>
    let shown := files.shownAt location
    match Load.ofBytes shown ((files.faultAt location).map Prod.snd) with
    | .ok index => .ok (shown, index)
    | .error cause => .error (.load cause)

/-- A signature is found just where the whole file can be read and decoded. -/
theorem signatureAt_eq_ok_iff :
    files.signatureAt path = .ok (stream, index) ↔
      files.readAll path = .ok stream ∧ Index.decode? stream = .ok index := by
  unfold signatureAt readAll
  cases files.open? path with
  | error failure => simp
  | ok location =>
    cases broken : files.faultAt location with
    | none =>
      simp only [shownAt, broken, Option.map_none, Load.ofBytes, Except.ok.injEq]
      cases decoded : Index.decode? (files.bytesAt location) with
      | ok found =>
        simp only [Except.ok.injEq, Prod.mk.injEq]
        exact and_congr_right fun same => by rw [← same, decoded, Except.ok.injEq]
      | error cause =>
        simp only [reduceCtorEq, false_iff, not_and]
        rintro rfl
        rw [decoded]
        exact nofun
    | some fault =>
      obtain ⟨cause, failed⟩ :=
        Load.exists_ofBytes_eq_error ((files.bytesAt location).extract 0 fault.1) fault.2
      simp only [shownAt, broken, Option.map_some, failed, reduceCtorEq, false_and]

/-- None is found if the file cannot be read or is not accepted. -/
theorem signatureAt_eq_error_iff :
    (∃ cause, files.signatureAt path = .error cause) ↔
      (∃ failure, files.readAll path = .error failure) ∨
        ∃ stream cause, files.readAll path = .ok stream ∧ Index.decode? stream = .error cause := by
  constructor
  · rintro ⟨cause, unfound⟩
    cases read : files.readAll path with
    | error failure => exact .inl ⟨failure, rfl⟩
    | ok stream =>
      cases decoded : Index.decode? stream with
      | error cause => exact .inr ⟨stream, cause, rfl, decoded⟩
      | ok index => cases unfound.symm.trans (signatureAt_eq_ok_iff.2 ⟨read, decoded⟩)
  · intro failing
    cases found : files.signatureAt path with
    | error cause => exact ⟨cause, rfl⟩
    | ok pair =>
      obtain ⟨read, decoded⟩ := signatureAt_eq_ok_iff.1 found
      obtain ⟨failure, unread⟩ | ⟨stream, cause, sameRead, refused⟩ := failing
      · cases read.symm.trans unread
      · obtain rfl := Except.ok.inj (read.symm.trans sameRead)
        cases decoded.symm.trans refused

theorem outcome_loadSignature (files : FileSystem) (path : String) :
    (files.loadSignature path).outcome = (files.signatureAt path).map fun found =>
      (found.2, .ofIndex found.1 (Load.readsOf found.1.size) found.2) := by
  unfold loadSignature signatureAt
  cases files.open? path with
  | error failure => rfl
  | ok location =>
    simp only [openAt_eq_ofFile, Load.outcome_load_ofFile]
    cases Load.ofBytes (files.shownAt location) ((files.faultAt location).map Prod.snd) <;> rfl

end FileSystem

end DeltaSignature
