import DeltaSignature.FileSystem.Basic
import DeltaSignature.Transfer.Reader
import DeltaSignature.Transfer.Sink

/-!
# Reading and writing files

An entry that was opened hands out its bytes, unless reading fails before their end; a directory can
be opened but not read.  Standard input is read through a small buffer.  What is written to a file
or to standard output is gathered before it is passed on.
-/

namespace DeltaSignature

/-- Standard input: a buffer in front of the bytes that were not yet taken into it. -/
structure StandardInput where
  inner : Cursor
  waiting : ByteArray := .empty

namespace StandardInput

def capacity : Nat :=
  8 * 1024

/-- The buffer, filled if it was empty. -/
def fill (input : StandardInput) : StandardInput :=
  if input.waiting.isEmpty then
    { inner := (input.inner.read capacity).2, waiting := input.inner.next capacity }
  else input

/-- Hands out waiting bytes.  Without any, a large request bypasses the buffer and a small one
fills it first. -/
def read (input : StandardInput) (size : Nat) : ReadOutcome × StandardInput :=
  if input.waiting.isEmpty ∧ capacity ≤ size then
    let answer := input.inner.read size
    (answer.1, { input with inner := answer.2 })
  else
    let filled := input.fill
    (.delivered (filled.waiting.extract 0 size),
      { filled with waiting := filled.waiting.extract size filled.waiting.size })

def left (input : StandardInput) : Nat :=
  ByteReader.left input.inner + input.waiting.size

theorem left_fill (input : StandardInput) : input.fill.left = input.left := by
  simp only [fill]
  split
  next empty =>
    have none : input.waiting.size = 0 := by simpa [ByteArray.isEmpty] using empty
    have available := input.inner.size_next_le_left capacity
    simp only [left, none, Cursor.read, ByteReader.left]
    omega
  next => rfl

theorem left_read_lt (input : StandardInput) (size : Nat)
    (goesOn : (input.read size).1.goesOn = true) : (input.read size).2.left < input.left := by
  simp only [read] at goesOn ⊢
  split at goesOn
  next large =>
    have := Cursor.left_read_lt input.inner size goesOn
    rw [if_pos large]
    simpa only [left, ByteReader.left, Nat.add_lt_add_iff_right] using this
  next small =>
    rw [if_neg small]
    have same := input.left_fill
    have nonempty : (input.fill.waiting.extract 0 size).size ≠ 0 := by
      simpa [ReadOutcome.goesOn, ByteArray.isEmpty] using goesOn
    simp only [left, ByteArray.size_extract] at nonempty same ⊢
    omega

theorem size_le_of_delivered (input : StandardInput) (size : Nat) (piece : ByteArray)
    (delivered : (input.read size).1 = .delivered piece) : piece.size ≤ size := by
  simp only [read] at delivered
  split at delivered
  next => exact ByteReader.size_le_of_delivered input.inner size piece delivered
  next =>
    obtain rfl := by simpa using delivered
    simp only [ByteArray.size_extract]
    omega

instance : ByteReader StandardInput :=
  ⟨read, left, left_read_lt, size_le_of_delivered⟩

end StandardInput

/-- A file or standard input. -/
inductive Input where
  | file (cursor : Cursor)
  | standard (input : StandardInput)

namespace Input

def ofStandard (bytes : ByteArray) : Input :=
  standard { inner := { bytes } }

def read : Input → Nat → ReadOutcome × Input
  | file cursor, size =>
    let answer := ByteReader.read cursor size
    (answer.1, file answer.2)
  | standard input, size =>
    let answer := ByteReader.read input size
    (answer.1, standard answer.2)

def left : Input → Nat
  | file cursor => ByteReader.left cursor
  | standard input => ByteReader.left input

theorem left_read_lt (input : Input) (size : Nat) (goesOn : (input.read size).1.goesOn = true) :
    (input.read size).2.left < input.left := by
  cases input with
  | file cursor => exact ByteReader.left_read_lt cursor size goesOn
  | standard input => exact ByteReader.left_read_lt input size goesOn

theorem size_le_of_delivered (input : Input) (size : Nat) (piece : ByteArray)
    (delivered : (input.read size).1 = .delivered piece) : piece.size ≤ size := by
  cases input with
  | file cursor => exact ByteReader.size_le_of_delivered cursor size piece delivered
  | standard input => exact ByteReader.size_le_of_delivered input size piece delivered

instance : ByteReader Input :=
  ⟨read, left, left_read_lt, size_le_of_delivered⟩

end Input

namespace FileSystem

/-- The content of the file at a location; anything else has none. -/
def bytesAt (files : FileSystem) (location : Location) : ByteArray :=
  match files.get? location with
  | some (.file bytes) => bytes
  | _ => .empty

/-- Where and how reading the entry at a location fails, if it does before the end. -/
def faultAt (files : FileSystem) (location : Location) : Option (Nat × IoFailure) :=
  match files.get? location with
  | some (.file bytes) => (files.obstacle location).reading.filter (·.1 ≤ bytes.size)
  | some .directory => some (0, isADirectory)
  | none => none

/-- The entry at a location, opened for reading from its start. -/
def openAt (files : FileSystem) (location : Location) : Breaking Input :=
  match files.faultAt location with
  | none => ⟨.file { bytes := files.bytesAt location }, none⟩
  | some (place, failure) =>
    ⟨.file { bytes := (files.bytesAt location).extract 0 place }, some failure⟩

/-- The size that is declared for the entry at a location; that of a directory means nothing. -/
def sizeAt (files : FileSystem) (location : Location) : Nat :=
  (files.bytesAt location).size

def sink (files : FileSystem) : BufferedSink :=
  { inner := { limit := files.room, full := noSpaceLeft } }

/-- The file system after a sink for the file at a location was closed. -/
def close (files : FileSystem) (location : Location) (sink : BufferedSink) : FileSystem :=
  files.put location (.file sink.close)

end FileSystem

end DeltaSignature
