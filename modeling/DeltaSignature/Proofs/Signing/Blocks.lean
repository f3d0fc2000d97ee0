import DeltaSignature.Generator
import DeltaSignature.Proofs.Stream.Encoding

/-!
# The blocks of a basis and their records

A basis is cut into blocks of one length, the last of which may be short.  The signature of the
first blocks is a header with one record per block; it is a stream in its own right, and the
signature of more blocks goes on where it ends.
-/

namespace DeltaSignature

namespace Generator

/-- The bytes of the basis that a block covers. -/
def basisBlock (basis : ByteArray) (blockLength number : Nat) : ByteArray :=
  basis.extract (number * blockLength) (min ((number + 1) * blockLength) basis.size)

/-- The number of blocks that cover a basis. -/
def blockCount (size blockLength : Nat) : Nat :=
  (size + blockLength - 1) / blockLength

theorem blockCount_eq {size blockLength number : Nat} (after : size ≤ number * blockLength)
    (before : number * blockLength < size + blockLength) :
    blockCount size blockLength = number := by
  apply Nat.div_eq_of_lt_le
  · omega
  · rw [Nat.succ_mul]
    omega

theorem offset_lt_of_lt_blockCount {size blockLength number : Nat} (positive : 0 < blockLength)
    (inside : number < blockCount size blockLength) : number * blockLength < size := by
  have whole := Nat.div_mul_le_self (size + blockLength - 1) blockLength
  have reaches := Nat.mul_le_mul_right blockLength inside
  rw [Nat.succ_mul] at reaches
  rw [blockCount] at reaches
  omega

theorem le_blockCount {size blockLength number : Nat} (positive : 0 < blockLength)
    (inside : number * blockLength ≤ size) : number ≤ blockCount size blockLength := by
  apply (Nat.le_div_iff_mul_le positive).2
  omega

theorem lt_blockCount {size blockLength number : Nat} (positive : 0 < blockLength)
    (inside : number * blockLength < size) : number < blockCount size blockLength := by
  apply (Nat.le_div_iff_mul_le positive).2
  rw [Nat.succ_mul]
  omega

theorem size_basisBlock {basis : ByteArray} {blockLength number : Nat} :
    (basisBlock basis blockLength number).size =
      min ((number + 1) * blockLength) basis.size - number * blockLength := by
  simp only [basisBlock, ByteArray.size_extract]
  omega

theorem basisBlock_eq (basis : ByteArray) (blockLength number : Nat) :
    basisBlock basis blockLength number =
      basis.extract (number * blockLength) (number * blockLength + blockLength) := by
  rw [basisBlock, Nat.succ_mul]
  exact extract_eq_of_min_eq (by omega)

variable {generator : Generator} {basis : ByteArray}

/-- The sums that a generator computes of the first blocks of a basis. -/
def sums (generator : Generator) (basis : ByteArray) (count : Nat) : List (UInt32 × ByteArray) :=
  (List.range count).map fun number =>
    (generator.weak (basisBlock basis generator.params.blockLength number),
      generator.strong.sum generator.params.strongLength
        (basisBlock basis generator.params.blockLength number))

theorem length_sums (count : Nat) : (generator.sums basis count).length = count := by
  rw [sums, List.length_map, List.length_range]

theorem sums_succ (number : Nat) :
    generator.sums basis (number + 1) = generator.sums basis number ++
      [(generator.weak (basisBlock basis generator.params.blockLength number),
        generator.strong.sum generator.params.strongLength
          (basisBlock basis generator.params.blockLength number))] := by
  simp only [sums, List.range_succ, List.map_append, List.map_singleton]

theorem sums_fit (generator : Generator) (basis : ByteArray) (count : Nat) :
    ∀ record ∈ generator.sums basis count, record.2.size = generator.params.strongLength := by
  intro record member
  obtain ⟨number, -, rfl⟩ := List.mem_map.1 member
  exact generator.strong.size_sum _ generator.strongLength_le

/-- The record of a block. -/
def record (generator : Generator) (basis : ByteArray) (number : Nat) : ByteArray :=
  recordBytes (generator.weak (basisBlock basis generator.params.blockLength number))
    (generator.strong.sum generator.params.strongLength
      (basisBlock basis generator.params.blockLength number))

/-- The signature of the first blocks of a basis. -/
def signature (generator : Generator) (basis : ByteArray) (count : Nat) : ByteArray :=
  generator.params.header ++ body (generator.sums basis count)

/-- The signature of the whole basis. -/
def fullSignature (generator : Generator) (basis : ByteArray) : ByteArray :=
  generator.signature basis (blockCount basis.size generator.params.blockLength)

theorem size_signature (count : Nat) :
    (generator.params.header ++ body (generator.sums basis count)).size =
      12 + count * (4 + generator.params.strongLength) := by
  rw [ByteArray.size_append, Params.size_header, Params.headerLength,
    size_body (sums_fit generator basis count), length_sums]

theorem le_size_signature (generator : Generator) (basis : ByteArray) (count : Nat) :
    12 ≤ (generator.signature basis count).size := by
  rw [signature, size_signature]
  exact Nat.le_add_right ..

theorem signature_zero : generator.signature basis 0 = generator.params.header :=
  ByteArray.append_empty

theorem signature_succ (number : Nat) :
    generator.signature basis (number + 1) =
      generator.signature basis number ++ generator.record basis number := by
  rw [signature, sums_succ, body_append, body_singleton, ← ByteArray.append_assoc]
  rfl

theorem exists_signature_append (generator : Generator) (basis : ByteArray) {number count : Nat}
    (le : number ≤ count) :
    ∃ rest, generator.signature basis count = generator.signature basis number ++ rest := by
  induction le with
  | refl => exact ⟨.empty, ByteArray.append_empty.symm⟩
  | @step count le ih =>
    obtain ⟨rest, longer⟩ := ih
    refine ⟨rest ++ generator.record basis count, ?_⟩
    rw [signature_succ, longer, ByteArray.append_assoc]

theorem decode?_signature_eq (generator : Generator) (basis : ByteArray) (count : Nat) :
    Index.decode? (generator.signature basis count) =
      .ok ((Index.empty generator.params).addAll (generator.sums basis count)) :=
  decode?_header_body (sums_fit generator basis count)

/-- The blocks that stand in the signature of the first blocks. -/
theorem blocks_sums (generator : Generator) (basis : ByteArray) (count : Nat) :
    ((Index.empty generator.params).addAll (generator.sums basis count)).blocks =
      (List.range count).map fun number =>
        ⟨number, generator.weak (basisBlock basis generator.params.blockLength number),
          generator.strong.sum generator.params.strongLength
            (basisBlock basis generator.params.blockLength number)⟩ :=
  Index.blocks_addAll_range (sums_fit generator basis count)

theorem ofLayout?_eq_ok {layout : Layout} {weak : ByteArray → UInt32} {strong : StrongSum}
    (accepted : ofLayout? layout weak strong = .ok generator) :
    layout = ⟨generator.params.tag, generator.params.blockLength, generator.params.strongLength⟩ ∧
      weak = generator.weak ∧ strong = generator.strong := by
  obtain ⟨tag, blockLength, strongLength⟩ := layout
  simp only [ofLayout?] at accepted
  split at accepted
  next => contradiction
  next params header =>
    obtain ⟨rfl, rfl, rfl⟩ := Params.ofHeader?_eq_ok_iff.1 header
    split at accepted
    next =>
      obtain rfl := Except.ok.inj accepted
      exact ⟨rfl, rfl, rfl⟩
    next => contradiction

theorem exists_ofLayout?_sha256 (weak : ByteArray → UInt32) {blockLength strongLength : Nat}
    (positive : 0 < blockLength) (small : blockLength < 0x8000_0000)
    (short : strongLength ≤ maxStrongLength) :
    ∃ generator, ofLayout? ⟨Format.adler32Sha256.tag, blockLength, strongLength⟩ weak .sha256 =
      .ok generator := by
  obtain ⟨params, accepted⟩ : ∃ params,
      Params.ofHeader? Format.adler32Sha256.tag blockLength strongLength = .ok params :=
    Params.ofHeader?_accepts_iff.2 ⟨⟨positive, small⟩, short⟩
  have fits : params.strongLength ≤ min StrongSum.sha256.maxLength maxStrongLength :=
    params.strongLength_le_max
  refine ⟨⟨params, weak, .sha256, fits⟩, ?_⟩
  unfold ofLayout?
  simp only [accepted, dif_pos fits]

end Generator

end DeltaSignature
