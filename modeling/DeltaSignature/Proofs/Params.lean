import DeltaSignature.Params

/-!
# The header fields that are accepted

The block length must be a positive signed word, and the strong sum no longer than the format
allows.  Only the two MD4 tags narrow the second bound.
-/

namespace DeltaSignature

theorem Format.strongLimit_eq (tag : UInt32) :
    strongLimit tag = if tag = md4.tag ∨ tag = rabinKarpMd4.tag then 16 else 32 := by
  by_cases plain : tag = md4.tag
  · subst plain
    rfl
  by_cases rabinKarp : tag = rabinKarpMd4.tag
  · subst rabinKarp
    rfl
  have other {format : Format} (different : tag ≠ format.tag) : (format.tag == tag) = false :=
    beq_false_of_ne different.symm
  rw [if_neg (not_or.2 ⟨plain, rabinKarp⟩), strongLimit, ofTag?]
  simp only [List.find?_cons, List.find?_nil, other plain, other rabinKarp]
  cases blake2.tag == tag <;> cases rabinKarpBlake2.tag == tag <;>
    cases adler32Sha256.tag == tag <;> rfl

namespace Params

variable {tag : UInt32} {blockLength strongLength : Nat}

theorem ofHeader?_eq_ok_iff {params : Params} :
    ofHeader? tag blockLength strongLength = .ok params ↔
      params.tag = tag ∧ params.blockLength = blockLength ∧
        params.strongLength = strongLength := by
  constructor
  · intro accepted
    rw [ofHeader?] at accepted
    split at accepted
    next =>
      split at accepted
      next =>
        obtain rfl := Except.ok.inj accepted
        exact ⟨rfl, rfl, rfl⟩
      next => contradiction
    next => contradiction
  · rintro ⟨rfl, rfl, rfl⟩
    rw [ofHeader?, dif_pos ⟨params.blockLength_pos, params.blockLength_lt⟩,
      dif_pos params.strongLength_le]

theorem ofHeader?_accepts_iff :
    (∃ params, ofHeader? tag blockLength strongLength = .ok params) ↔
      (0 < blockLength ∧ blockLength < 0x8000_0000) ∧
        strongLength ≤ Format.strongLimit tag := by
  constructor
  · rintro ⟨params, accepted⟩
    obtain ⟨rfl, rfl, rfl⟩ := ofHeader?_eq_ok_iff.1 accepted
    exact ⟨⟨params.blockLength_pos, params.blockLength_lt⟩, params.strongLength_le⟩
  · rintro ⟨⟨positive, word⟩, short⟩
    exact ⟨⟨tag, blockLength, strongLength, positive, word, short⟩,
      ofHeader?_eq_ok_iff.2 ⟨rfl, rfl, rfl⟩⟩

theorem ofHeader?_of_long (blockFits : 0 < blockLength ∧ blockLength < 0x8000_0000)
    (long : Format.strongLimit tag < strongLength) :
    ofHeader? tag blockLength strongLength =
      .error (.strongLength strongLength (Format.strongLimit tag)) := by
  rw [ofHeader?, dif_pos blockFits, dif_neg (Nat.not_le.2 long)]

/-- Only a block length that no signature has is reported as one. -/
theorem ofHeader?_ne_blockLength_iff :
    ofHeader? tag blockLength strongLength ≠ .error .blockLength ↔
      0 < blockLength ∧ blockLength < 0x8000_0000 := by
  rw [ofHeader?]
  split
  next fits =>
    simp only [fits, and_self, iff_true]
    split <;> simp
  next outside => simp only [outside, ne_eq, not_true_eq_false]

end Params

end DeltaSignature
