import DeltaSignature.Proofs.Transfer.Delivery

/-!
# Sources of zeros

A source of any number of zero bytes, of which only the number is kept.  It takes no room, so that
places at the far end of the 64-bit range can be read.
-/

namespace DeltaSignature

/-- A source of zero bytes that can be moved anywhere. -/
structure Zeros where
  size : Nat
  position : Nat := 0
deriving DecidableEq, Repr

namespace Zeros

def bytes (count : Nat) : ByteArray :=
  ⟨Array.replicate count 0⟩

@[simp]
theorem size_bytes (count : Nat) : (bytes count).size = count :=
  Array.size_replicate

def read (zeros : Zeros) (size : Nat) : ReadOutcome × Zeros :=
  let count := min size (zeros.size - zeros.position)
  (.delivered (bytes count), { zeros with position := zeros.position + count })

theorem left_read_lt (zeros : Zeros) (size : Nat)
    (goesOn : (zeros.read size).1.goesOn = true) :
    (zeros.read size).2.size - (zeros.read size).2.position < zeros.size - zeros.position := by
  have nonempty : (bytes (min size (zeros.size - zeros.position))).isEmpty = false := by
    simpa only [read, ReadOutcome.goesOn, Bool.not_eq_true'] using goesOn
  have some : min size (zeros.size - zeros.position) ≠ 0 := by
    simpa [ByteArray.isEmpty] using nonempty
  simp only [read]
  omega

theorem size_le_of_delivered (zeros : Zeros) (size : Nat) (piece : ByteArray)
    (delivered : (zeros.read size).1 = .delivered piece) : piece.size ≤ size := by
  obtain rfl := ReadOutcome.delivered.inj delivered
  rw [size_bytes]
  exact Nat.min_le_left ..

instance : ByteReader Zeros where
  read := read
  left zeros := zeros.size - zeros.position
  left_read_lt := left_read_lt
  size_le_of_delivered := size_le_of_delivered

instance : ByteSource Zeros where
  seek zeros target := (.ok (), { zeros with position := target })

def StandsIn (size : Nat) (zeros : Zeros) (place : Nat) : Prop :=
  zeros.size = size ∧ zeros.position = place

theorem part_bytes {size place count : Nat} (inside : count ≤ size - place) :
    PartAt (bytes size) place (bytes count) := by
  apply ByteArray.ext
  rw [size_bytes, ByteArray.data_extract]
  simp only [bytes, Array.extract_replicate]
  congr 1
  omega

theorem serves (size : Nat) : ByteSource.Serves (bytes size) (StandsIn size) where
  stands_of_interrupted := by
    intro zeros after place count standing nonzero answer
    cases congrArg Prod.fst answer
  stands_of_failed := by
    intro zeros after place count failure standing nonzero answer
    cases congrArg Prod.fst answer
  part_of_delivered := by
    rintro zeros after place count piece ⟨rfl, rfl⟩ nonzero answer
    obtain ⟨delivered, rfl⟩ := Prod.mk.inj answer
    obtain rfl := ReadOutcome.delivered.inj delivered
    exact ⟨part_bytes (Nat.min_le_right ..), rfl, by rw [size_bytes]⟩
  size_le_of_empty := by
    rintro zeros after place count piece ⟨rfl, rfl⟩ nonzero answer nothing
    obtain ⟨delivered, -⟩ := Prod.mk.inj answer
    obtain rfl := ReadOutcome.delivered.inj delivered
    have extent : min count (zeros.size - zeros.position) = 0 := by
      simpa [ByteArray.isEmpty] using nothing
    rw [size_bytes]
    omega
  stands_of_moved := by
    rintro zeros after place target ⟨rfl, -⟩ answer
    obtain ⟨-, rfl⟩ := Prod.mk.inj answer
    exact ⟨rfl, rfl⟩
  stands_of_refused := by
    intro zeros after place target failure standing answer
    cases congrArg Prod.fst answer

end Zeros

end DeltaSignature
