import DeltaSignature.Proofs.Index.Lookup
import DeltaSignature.Proofs.Signing

/-!
# A signature finds every block again

Whoever looks a piece up in the signature of a basis finds the first block with the same weak sum
and the same leading part of the digest, and finds none only if there is no such block.  So a piece
that is a block of the basis is never missed, whichever way the signature was written.
-/

namespace DeltaSignature

namespace Generator

variable {generator : Generator} {basis piece : ByteArray} {number : Nat}

/-- The block cannot be told from the piece by the sums that a signature keeps. -/
structure Resembles (generator : Generator) (basis piece : ByteArray) (number : Nat) : Prop where
  lt_blockCount : number < blockCount basis.size generator.params.blockLength
  weak_eq : generator.weak (basisBlock basis generator.params.blockLength number) =
    generator.weak piece
  digest_eq :
    (generator.strong.digest (basisBlock basis generator.params.blockLength number)).extract 0
        generator.params.strongLength =
      (generator.strong.digest piece).extract 0 generator.params.strongLength

/-- What looking pieces up in an index comes to, if the digests asked for are long enough.  A block
of the basis is found, or one before it that it cannot be told from. -/
structure Finds (generator : Generator) (basis : ByteArray) (index : Index) : Prop where
  eq_some_iff : ∀ piece length found, generator.params.strongLength ≤ length →
    (index.findMatch? (generator.weak piece) ((generator.strong.digest piece).extract 0 length) =
        some found ↔
      ∃ number, generator.Resembles basis piece number ∧
        (∀ earlier < number, ¬ generator.Resembles basis piece earlier) ∧
        found = ⟨number, generator.weak (basisBlock basis generator.params.blockLength number),
          generator.strong.sum generator.params.strongLength
            (basisBlock basis generator.params.blockLength number)⟩)
  eq_none_iff : ∀ piece length, generator.params.strongLength ≤ length →
    (index.findMatch? (generator.weak piece) ((generator.strong.digest piece).extract 0 length) =
        none ↔
      ∀ number, ¬ generator.Resembles basis piece number)
  exists_of_block : ∀ number < blockCount basis.size generator.params.blockLength, ∀ length,
    generator.params.strongLength ≤ length →
    let block := basisBlock basis generator.params.blockLength number
    ∃ earlier ≤ number,
      index.findMatch? (generator.weak block) ((generator.strong.digest block).extract 0 length) =
        some ⟨earlier, generator.weak block,
          generator.strong.sum generator.params.strongLength block⟩

section Looking

/-- Whether the sums of a block are those asked for, as a look-up sees it. -/
def resembles (generator : Generator) (basis piece : ByteArray) (number : Nat) : Bool :=
  generator.weak (basisBlock basis generator.params.blockLength number) == generator.weak piece &&
    generator.strong.sum generator.params.strongLength
      (basisBlock basis generator.params.blockLength number) ==
        generator.strong.sum generator.params.strongLength piece

theorem resembles_eq_true_iff :
    number < blockCount basis.size generator.params.blockLength ∧
      generator.resembles basis piece number = true ↔ generator.Resembles basis piece number := by
  unfold resembles
  rw [Bool.and_eq_true, beq_iff_eq, beq_iff_eq]
  constructor
  · rintro ⟨inside, sameWeak, sameStrong⟩
    exact ⟨inside, sameWeak, sameStrong⟩
  · rintro ⟨inside, sameWeak, sameStrong⟩
    exact ⟨inside, sameWeak, sameStrong⟩

theorem find?_resembles_eq_some_iff :
    (List.range (blockCount basis.size generator.params.blockLength)).find?
        (generator.resembles basis piece) = some number ↔
      generator.Resembles basis piece number ∧
        ∀ earlier < number, ¬ generator.Resembles basis piece earlier := by
  rw [List.find?_range_eq_some, List.mem_range]
  constructor
  · rintro ⟨same, inside, before⟩
    refine ⟨resembles_eq_true_iff.1 ⟨inside, same⟩, fun earlier less resembles => ?_⟩
    have differs := before earlier less
    rw [(resembles_eq_true_iff.2 resembles).2] at differs
    cases differs
  · rintro ⟨resembles, before⟩
    obtain ⟨inside, same⟩ := resembles_eq_true_iff.2 resembles
    refine ⟨same, inside, fun earlier less => ?_⟩
    rw [Bool.not_eq_true', Bool.eq_false_iff]
    intro sameEarlier
    exact before earlier less (resembles_eq_true_iff.1 ⟨Nat.lt_trans less inside, sameEarlier⟩)

/-- Only the leading part of a digest that the signature keeps matters. -/
theorem findMatch?_sums (generator : Generator) (basis piece : ByteArray) {length : Nat}
    (long : generator.params.strongLength ≤ length) (count : Nat) :
    ((Index.empty generator.params).addAll (generator.sums basis count)).findMatch?
        (generator.weak piece) ((generator.strong.digest piece).extract 0 length) =
      ((List.range count).find? (generator.resembles basis piece)).map fun number =>
        ⟨number, generator.weak (basisBlock basis generator.params.blockLength number),
          generator.strong.sum generator.params.strongLength
            (basisBlock basis generator.params.blockLength number)⟩ := by
  have covered := generator.strong.le_size_digest piece
  have fits := generator.strongLength_le
  have enough : ¬ ((generator.strong.digest piece).extract 0 length).size <
      generator.params.strongLength := by
    rw [ByteArray.size_extract]
    omega
  have asked : ((generator.strong.digest piece).extract 0 length).extract 0
      generator.params.strongLength =
        generator.strong.sum generator.params.strongLength piece := by
    unfold StrongSum.sum
    rw [ByteArray.extract_extract]
    exact extract_eq_of_min_eq (by omega)
  rw [(Index.lists_addAll generator.params (sums_fit generator basis count)).findMatch?_eq,
    if_neg enough, asked, blocks_sums, List.find?_map]
  rfl

theorem finds_sums (generator : Generator) (basis : ByteArray) :
    generator.Finds basis ((Index.empty generator.params).addAll
      (generator.sums basis (blockCount basis.size generator.params.blockLength))) := by
  constructor
  case eq_some_iff =>
    intro piece length found long
    rw [findMatch?_sums generator basis piece long, Option.map_eq_some_iff]
    apply exists_congr
    intro number
    rw [find?_resembles_eq_some_iff, and_assoc]
    exact and_congr_right fun _ => and_congr_right fun _ => eq_comm
  case eq_none_iff =>
    intro piece length long
    rw [findMatch?_sums generator basis piece long, Option.map_eq_none_iff, List.find?_eq_none]
    apply forall_congr'
    intro number
    rw [List.mem_range, ← resembles_eq_true_iff, not_and]
  case exists_of_block =>
    intro number inside length long block
    have itself : generator.Resembles basis block number := ⟨inside, rfl, rfl⟩
    rw [findMatch?_sums generator basis block long]
    cases found : (List.range (blockCount basis.size generator.params.blockLength)).find?
      (generator.resembles basis block) with
    | none =>
      have missed := List.find?_eq_none.1 found number (List.mem_range.2 inside)
      exact absurd (resembles_eq_true_iff.2 itself).2 missed
    | some earlier =>
      obtain ⟨resembles, before⟩ := find?_resembles_eq_some_iff.1 found
      refine ⟨earlier, Nat.le_of_not_lt fun less => before number less itself, ?_⟩
      rw [Option.map_some, resembles.weak_eq]
      exact congrArg (fun digest => some (Block.mk earlier (generator.weak block) digest))
        resembles.digest_eq

end Looking

section Signing

variable {σ τ : Type} [ByteSource σ] [ByteSink τ] {stands : σ → Nat → Prop}
  {holds stuck : τ → ByteArray → Prop}

/-- Whenever the signature of a basis was written, from a window that had read nothing before and
into whatever sink, what the sink holds decodes to an index in which every block of the basis is
found again. -/
theorem generate_finds (generator : Generator) (serves : ByteSource.Serves basis stands)
    {source : σ} (atStart : stands source 0) (limits : SlidingWindow.Limits) (memory : Memory)
    (appends : ByteSink.Appends holds stuck) {sink : τ} (blank : holds sink .empty) {stats : Stats}
    (succeeded : (generator.generate (SlidingWindow.fresh source limits memory) sink).outcome =
      .ok stats) :
    ∃ stream index,
      holds (generator.generate (SlidingWindow.fresh source limits memory) sink).sink stream ∧
      Index.decode? stream = .ok index ∧ index.params = generator.params ∧
      generator.Finds basis index := by
  have faithful : SlidingWindow.Faithful basis stands (SlidingWindow.fresh source limits memory) :=
    SlidingWindow.faithful_fresh atStart limits memory
  have ended := generate_ended generator serves appends faithful rfl blank
  generalize generator.generate (SlidingWindow.fresh source limits memory) sink = result at *
  cases ended with
  | headless | unviewed | unwritten | unflushed => cases succeeded
  | complete held =>
    rw [ByteArray.empty_append] at held
    exact ⟨_, _, held, decode?_signature_eq .., Index.params_addAll .., finds_sums ..⟩

/-- Seven bytes in blocks of two, of which the first and the third are the same. -/
theorem generate_finds_seven :
    let generator : Generator :=
      ⟨⟨Format.adler32Sha256.tag, 2, 1, by decide, by decide, by decide⟩, Adler.sum, .sha256,
        by decide⟩
    let basis : ByteArray := ⟨#[1, 2, 3, 4, 1, 2, 5]⟩
    let window := SlidingWindow.fresh (⟨⟨basis, 0⟩⟩ : Forward Cursor)
      ⟨2, 3, by decide, by decide, by decide, by decide⟩ .ordinary
    ∃ index, Index.decode? (generator.generate window ByteArray.empty).sink = .ok index ∧
      generator.Finds basis index := by
  intro generator basis window
  have atStart : Cursor.StandsIn basis ⟨basis, 0⟩ 0 := ⟨rfl, rfl⟩
  have serves := Forward.serves (Cursor.delivers basis)
  have faithful : SlidingWindow.Faithful basis
      (fun (source : Forward Cursor) place => source.reader.StandsIn basis place) window :=
    SlidingWindow.faithful_fresh ⟨rfl, rfl⟩ _ _
  obtain ⟨stats, succeeded, -⟩ :
      ∃ stats, (generator.generate window ByteArray.empty).outcome = .ok stats ∧ _ :=
    generate_wrote serves (Forward.neverFails (Cursor.neverFails basis))
      ByteSink.collects_byteArray rfl faithful rfl (by decide) (by decide)
  obtain ⟨stream, index, rfl, decoded, -, finds⟩ := generate_finds generator serves atStart _ _
    ByteSink.collects_byteArray.appends rfl succeeded
  exact ⟨index, decoded, finds⟩

end Signing

end Generator

end DeltaSignature
