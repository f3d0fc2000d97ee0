import DeltaSignature.Proofs.Bytes
import DeltaSignature.Transfer.Reader

/-!
# Readers over known content

A well-behaved reader hands out the bytes of some content in order and each byte once.  How many
bytes it hands out at a time, how often it is interrupted and whether a read fails are its own
business; so is, for a source, whether it can be moved.  The laws are stated over a relation
between the states of a reader and the places at which it may stand, so that they say nothing
about states that a well-behaved reader never takes.
-/

namespace DeltaSignature

/-- The reader hands out the bytes of `content` in order, from the place at which it stands, and
nothing only when nothing is left.  An interrupted or failed read consumes nothing. -/
structure ByteReader.Delivers {σ : Type} [ByteReader σ] (content : ByteArray)
    (stands : σ → Nat → Prop) : Prop where
  stands_of_interrupted : ∀ {reader next : σ} {place size : Nat}, stands reader place → 0 < size →
    ByteReader.read reader size = (.interrupted, next) → stands next place
  stands_of_failed : ∀ {reader next : σ} {place size : Nat} {failure : IoFailure},
    stands reader place → 0 < size →
    ByteReader.read reader size = (.failed failure, next) → stands next place
  part_of_delivered : ∀ {reader next : σ} {place size : Nat} {piece : ByteArray},
    stands reader place → 0 < size → ByteReader.read reader size = (.delivered piece, next) →
    PartAt content place piece ∧ stands next (place + piece.size)
  size_le_of_empty : ∀ {reader next : σ} {place size : Nat} {piece : ByteArray},
    stands reader place → 0 < size → ByteReader.read reader size = (.delivered piece, next) →
    piece.isEmpty = true → content.size ≤ place

/-- The source hands out the bytes of `content` in order, and a seek either moves it to the place
asked for or leaves it where it was. -/
structure ByteSource.Serves {σ : Type} [ByteSource σ] (content : ByteArray)
    (stands : σ → Nat → Prop) : Prop extends ByteReader.Delivers content stands where
  stands_of_moved : ∀ {source next : σ} {place target : Nat}, stands source place →
    ByteSource.seek source target = (.ok (), next) → stands next target
  stands_of_refused : ∀ {source next : σ} {place target : Nat} {failure : IoFailure},
    stands source place → ByteSource.seek source target = (.error failure, next) →
    stands next place

/-- No read of the reader fails, wherever it stands. -/
def ByteReader.NeverFails {σ : Type} [ByteReader σ] (stands : σ → Nat → Prop) : Prop :=
  ∀ ⦃reader next : σ⦄ ⦃place size : Nat⦄ ⦃failure : IoFailure⦄, stands reader place → 0 < size →
    ByteReader.read reader size ≠ (.failed failure, next)

/-- A reader that answers like another one behind it delivers what that one delivers. -/
theorem ByteReader.Delivers.comap {σ τ : Type} [ByteReader σ] [ByteReader τ] {content : ByteArray}
    {stands : σ → Nat → Prop} (delivers : ByteReader.Delivers content stands) (behind : τ → σ)
    (same : ∀ reader size, ByteReader.read (behind reader) size =
      ((ByteReader.read reader size).1, behind (ByteReader.read reader size).2)) :
    ByteReader.Delivers content fun reader place => stands (behind reader) place where
  stands_of_interrupted := by
    intro reader next place size standing nonzero answer
    have answered := same reader size
    rw [answer] at answered
    exact delivers.stands_of_interrupted standing nonzero answered
  stands_of_failed := by
    intro reader next place size failure standing nonzero answer
    have answered := same reader size
    rw [answer] at answered
    exact delivers.stands_of_failed standing nonzero answered
  part_of_delivered := by
    intro reader next place size piece standing nonzero answer
    have answered := same reader size
    rw [answer] at answered
    exact delivers.part_of_delivered standing nonzero answered
  size_le_of_empty := by
    intro reader next place size piece standing nonzero answer nothing
    have answered := same reader size
    rw [answer] at answered
    exact delivers.size_le_of_empty standing nonzero answered nothing

/-- A forward-only reader serves what the reader behind it delivers. -/
theorem Forward.serves {σ : Type} [ByteReader σ] {content : ByteArray} {stands : σ → Nat → Prop}
    (delivers : ByteReader.Delivers content stands) :
    ByteSource.Serves content fun (source : Forward σ) place => stands source.reader place where
  toDelivers := delivers.comap Forward.reader fun _ _ => rfl
  stands_of_moved := by
    intro source next place target standing answer
    cases congrArg Prod.fst answer
  stands_of_refused := by
    intro source next place target failure standing answer
    obtain ⟨-, rfl⟩ := Prod.mk.inj answer
    exact standing

theorem Forward.neverFails {σ : Type} [ByteReader σ] {stands : σ → Nat → Prop}
    (steady : ByteReader.NeverFails stands) :
    ByteReader.NeverFails fun (source : Forward σ) place => stands source.reader place := by
  intro source next place size failure standing nonzero answer
  obtain ⟨failed, rfl⟩ := Prod.mk.inj answer
  exact steady standing nonzero (Prod.ext failed rfl)

namespace Cursor

/-- The cursor reads `content` and has read as many bytes of it as `place` says. -/
def StandsIn (content : ByteArray) (cursor : Cursor) (place : Nat) : Prop :=
  cursor.bytes = content ∧ cursor.position = place

theorem part_next (cursor : Cursor) (size : Nat) :
    PartAt cursor.bytes cursor.position (cursor.next size) :=
  PartAt.extract_content ..

theorem delivers (content : ByteArray) : ByteReader.Delivers content (StandsIn content) where
  stands_of_interrupted := by
    intro cursor after place size standing nonzero answer
    cases congrArg Prod.fst answer
  stands_of_failed := by
    intro cursor after place size failure standing nonzero answer
    cases congrArg Prod.fst answer
  part_of_delivered := by
    rintro cursor after place size piece ⟨rfl, rfl⟩ nonzero answer
    obtain ⟨delivered, rfl⟩ := Prod.mk.inj answer
    obtain rfl := ReadOutcome.delivered.inj delivered
    exact ⟨cursor.part_next size, rfl, rfl⟩
  size_le_of_empty := by
    rintro cursor after place size piece ⟨rfl, rfl⟩ nonzero answer nothing
    obtain ⟨delivered, -⟩ := Prod.mk.inj answer
    obtain rfl := ReadOutcome.delivered.inj delivered
    have extent : (cursor.next size).size = 0 := by simpa [ByteArray.isEmpty] using nothing
    simp only [next, ByteArray.size_extract] at extent
    omega

theorem neverFails (content : ByteArray) : ByteReader.NeverFails (StandsIn content) := by
  intro cursor after place size failure standing nonzero answer
  cases congrArg Prod.fst answer

end Cursor

end DeltaSignature
