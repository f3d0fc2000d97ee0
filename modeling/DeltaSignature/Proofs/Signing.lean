import DeltaSignature.Proofs.Signing.Course

/-!
# A signature covers its basis

Over a basis that can be read without failure, and into a sink that takes everything, signing is
complete: every other way to end is ruled out, and the records written are those of all the blocks
of the basis.
-/

namespace DeltaSignature

namespace Memory

/-- A host that grants every size that a block of memory can have. -/
def GrantsAll (memory : Memory) : Prop :=
  ∀ bytes < 0x8000_0000_0000_0000, memory.reserve bytes = .ok ()

theorem GrantsAll.le_largest {memory : Memory} (grants : memory.GrantsAll) {bytes : Nat}
    (small : bytes < 0x8000_0000_0000_0000) : bytes ≤ memory.largest := by
  by_contra refused
  have granted := grants bytes small
  rw [reserve, if_neg (Nat.not_le.2 small), if_pos (Nat.not_le.1 refused)] at granted
  cases granted

/-- Such a host grants the widest window that it takes to sign a basis. -/
theorem GrantsAll.window_le {memory : Memory} (grants : memory.GrantsAll) {basis : ByteArray}
    {blockLength : Nat} {limits : SlidingWindow.Limits}
    (fits : basis.size + blockLength + limits.span < 0x8000_0000_0000_0000) :
    max (min basis.size (3 * limits.chunk) + blockLength) limits.span ≤ memory.largest :=
  grants.le_largest (by omega)

end Memory

namespace Generator

variable {σ τ : Type} {generator : Generator} {basis before : ByteArray}
  {stands : σ → Nat → Prop} {holds : τ → ByteArray → Prop}
  {first window : SlidingWindow σ} {number : Nat}

/-- A host that grants the widest window needed grants the window for every block. -/
theorem Ready.within (ready : Ready basis stands generator.params.blockLength number window)
    (fits : basis.size + generator.params.blockLength + window.limits.span <
      0x1_0000_0000_0000_0000)
    (sized : max (min basis.size (3 * window.limits.chunk) + generator.params.blockLength)
      window.limits.span < 0x8000_0000_0000_0000)
    (granted : max (min basis.size (3 * window.limits.chunk) + generator.params.blockLength)
      window.limits.span ≤ window.memory.largest) :
    window.Within (number * generator.params.blockLength) generator.params.blockLength where
  length_pos := generator.params.blockLength_pos
  start_le := ready.start_le
  le_stop := ready.le_stop
  fits := by
    have := ready.inside
    omega
  sized := by
    have := ready.inside
    omega
  granted := by
    have := ready.inside
    omega

/-- No block is refused if the basis can be read and the host grants the window. -/
theorem Walked.answered [ByteSource σ]
    (walked : Walked first generator.params.blockLength number window)
    (serves : ByteSource.Serves basis stands) (steady : ByteReader.NeverFails stands)
    (faithful : SlidingWindow.Faithful basis stands first) (unmoved : first.start = 0)
    (fits : basis.size + generator.params.blockLength + first.limits.span <
      0x1_0000_0000_0000_0000)
    (sized : max (min basis.size (3 * first.limits.chunk) + generator.params.blockLength)
      first.limits.span < 0x8000_0000_0000_0000)
    (granted : max (min basis.size (3 * first.limits.chunk) + generator.params.blockLength)
      first.limits.span ≤ first.memory.largest) {cause : WindowError} {next : SlidingWindow σ} :
    window.request (number * generator.params.blockLength) generator.params.blockLength ≠
      (.error cause, next) := by
  intro refused
  obtain ⟨sameLimits, sameMemory⟩ := walked.setting_eq
  have ready := walked.ready serves faithful unmoved
  rw [← sameLimits] at fits sized granted
  rw [← sameMemory] at granted
  obtain ⟨view, answered⟩ := ready.faithful.answered serves steady
    (ready.within fits sized granted) (SlidingWindow.requested_of_answer refused)
  cases answered

theorem generate_wrote [ByteSource σ] [ByteSink τ] (serves : ByteSource.Serves basis stands)
    (steady : ByteReader.NeverFails stands) (collects : ByteSink.Collects holds) {sink : τ}
    (held : holds sink before) (faithful : SlidingWindow.Faithful basis stands window)
    (unmoved : window.start = 0)
    (fits : basis.size + generator.params.blockLength + window.limits.span < 0x8000_0000_0000_0000)
    (granted : max (min basis.size (3 * window.limits.chunk) + generator.params.blockLength)
      window.limits.span ≤ window.memory.largest) :
    let count := blockCount basis.size generator.params.blockLength
    ∃ stats, (generator.generate window sink).outcome = .ok stats ∧
      holds (generator.generate window sink).sink
        (before ++ (generator.params.header ++ body (generator.sums basis count))) ∧
      stats.blocks = count ∧ stats.basisBytes = basis.size ∧
      stats.streamBytes = 12 + count * (4 + generator.params.strongLength) := by
  intro count
  have ended := generate_ended generator serves collects.appends faithful unmoved held
  generalize generator.generate window sink = result at ended
  cases ended with
  | headless cut stopped | unwritten inside cut stopped => exact stopped.elim
  | unviewed holdsSink walked refused =>
    have wide : basis.size + generator.params.blockLength + window.limits.span <
        0x1_0000_0000_0000_0000 := by omega
    exact absurd refused (walked.answered serves steady faithful unmoved wide (by omega) granted)
  | unflushed holdsLast refused =>
    obtain ⟨next, flushed, -⟩ := collects.flush_ok holdsLast
    cases refused.symm.trans flushed
  | complete holdsSink blocks basisBytes streamBytes =>
    exact ⟨_, rfl, holdsSink, blocks, basisBytes,
      streamBytes.trans (congrArg (12 + · * _) blocks)⟩

/-- The signature that a generator writes has the blocks of the basis, each at its place. -/
theorem decode?_signature (generator : Generator) (basis : ByteArray) :
    let count := blockCount basis.size generator.params.blockLength
    let block := basisBlock basis generator.params.blockLength
    ∃ index, Index.decode? (generator.params.header ++ body (generator.sums basis count)) =
        .ok index ∧
      index.blocks = ((List.range count).map fun number =>
        ⟨number, generator.weak (block number),
          generator.strong.sum generator.params.strongLength (block number)⟩) ∧
      ∀ entry ∈ index.blocks,
        let start := entry.offset generator.params.blockLength
        let covered := basis.extract start (min (start + generator.params.blockLength) basis.size)
        start < basis.size ∧ entry.weak = generator.weak covered ∧
          entry.strong = generator.strong.sum generator.params.strongLength covered := by
  intro count block
  have blocks := Index.blocks_addAll_range (sums_fit generator basis count)
  refine ⟨_, decode?_header_body (sums_fit generator basis count), blocks, ?_⟩
  intro entry member
  rw [sums, blocks] at member
  obtain ⟨number, inside, rfl⟩ := List.mem_map.1 member
  have place : (number + 1) * generator.params.blockLength =
      number * generator.params.blockLength + generator.params.blockLength := Nat.succ_mul ..
  refine ⟨?_, ?_, ?_⟩
  · exact offset_lt_of_lt_blockCount generator.params.blockLength_pos (List.mem_range.1 inside)
  · simp only [basisBlock, place, Block.offset]
  · simp only [basisBlock, place, Block.offset]

/-- Over a basis that can be read without failure, from a window that has not left the start and on
a host that grants the widest window needed, signing succeeds: the sink gets the header and the sums
of all blocks in order, and decoding that gives the blocks back at their places.  A host that grants
every size that a block of memory can have grants this window (`Memory.GrantsAll.window_le`). -/
theorem generate_covers_basis [ByteSource σ] [ByteSink τ] {layout : Layout}
    {weak : ByteArray → UInt32} {strong : StrongSum}
    (accepted : ofLayout? layout weak strong = .ok generator)
    (serves : ByteSource.Serves basis stands) (steady : ByteReader.NeverFails stands)
    {source : σ} (atStart : stands source 0) (limits : SlidingWindow.Limits) (memory : Memory)
    (fits : basis.size + layout.blockLength + limits.span < 0x8000_0000_0000_0000)
    (granted : max (min basis.size (3 * limits.chunk) + layout.blockLength) limits.span ≤
      memory.largest)
    (requests : List SlidingWindow.Request)
    (unmoved : ((SlidingWindow.fresh source limits memory).serve requests).2.start = 0)
    (collects : ByteSink.Collects holds) {sink : τ} (blank : holds sink .empty) :
    let window := ((SlidingWindow.fresh source limits memory).serve requests).2
    let result := generator.generate window sink
    let count := blockCount basis.size layout.blockLength
    let block := basisBlock basis layout.blockLength
    let stream := BigEndian.encode layout.tag
      ++ BigEndian.encode (UInt32.ofNat layout.blockLength)
      ++ BigEndian.encode (UInt32.ofNat layout.strongLength)
      ++ body ((List.range count).map fun number =>
        (weak (block number), strong.sum layout.strongLength (block number)))
    (∃ stats, result.outcome = .ok stats ∧ stats.blocks = count ∧
      stats.basisBytes = basis.size ∧ stats.streamBytes = stream.size) ∧
    holds result.sink stream ∧
    stream.size = 12 + count * (4 + layout.strongLength) ∧
    ∃ index, Index.decode? stream = .ok index ∧
      index.blocks = ((List.range count).map fun number =>
        ⟨number, weak (block number), strong.sum layout.strongLength (block number)⟩) ∧
      ∀ entry ∈ index.blocks,
        let start := entry.offset layout.blockLength
        let covered := basis.extract start (min (start + layout.blockLength) basis.size)
        start < basis.size ∧ entry.weak = weak covered ∧
          entry.strong = strong.sum layout.strongLength covered := by
  obtain ⟨rfl, rfl, rfl⟩ := ofLayout?_eq_ok accepted
  intro window result count block stream
  obtain ⟨sameLimits, sameMemory⟩ :=
    SlidingWindow.serve_setting_eq (SlidingWindow.fresh source limits memory) requests
  have faithful : SlidingWindow.Faithful basis stands window :=
    (SlidingWindow.faithful_fresh atStart limits memory).serve serves requests
  have fitsWindow :
      basis.size + generator.params.blockLength + window.limits.span < 0x8000_0000_0000_0000 := by
    rw [sameLimits]
    exact fits
  have grantedWindow : max (min basis.size (3 * window.limits.chunk) +
      generator.params.blockLength) window.limits.span ≤ window.memory.largest := by
    rw [sameLimits, sameMemory]
    exact granted
  obtain ⟨stats, succeeded, held, blocks, basisBytes, streamBytes⟩ :=
    generate_wrote serves steady collects blank faithful unmoved fitsWindow grantedWindow
  have extent : stream.size = 12 + count * (4 + generator.params.strongLength) :=
    size_signature count
  rw [ByteArray.empty_append] at held
  exact ⟨⟨stats, succeeded, blocks, basisBytes, streamBytes.trans extent.symm⟩, held, extent,
    decode?_signature generator basis⟩

/-- Five bytes in blocks of two, with one byte of a digest each, from a window that has shown the
first byte before. -/
theorem generate_covers_basis_five :
    ∃ stats,
      (generate
        ⟨⟨Format.adler32Sha256.tag, 2, 1, by decide, by decide, by decide⟩, Adler.sum, .sha256,
          by decide⟩
        ((SlidingWindow.fresh (⟨⟨⟨#[1, 2, 3, 4, 5]⟩, 0⟩⟩ : Forward Cursor)
          ⟨2, 3, by decide, by decide, by decide, by decide⟩ .ordinary).serve [⟨0, 1⟩]).2
        ByteArray.empty).outcome = .ok stats ∧
      stats.blocks = 3 ∧ stats.basisBytes = 5 ∧ stats.streamBytes = 12 + 3 * (4 + 1) := by
  have accepted : ofLayout? ⟨Format.adler32Sha256.tag, 2, 1⟩ Adler.sum .sha256 =
      .ok ⟨⟨Format.adler32Sha256.tag, 2, 1, by decide, by decide, by decide⟩, Adler.sum, .sha256,
        by decide⟩ := rfl
  have unmoved : ((SlidingWindow.fresh (⟨⟨⟨#[1, 2, 3, 4, 5]⟩, 0⟩⟩ : Forward Cursor)
      ⟨2, 3, by decide, by decide, by decide, by decide⟩ .ordinary).serve [⟨0, 1⟩]).2.start =
        0 := by
    decide +kernel
  have covers := generate_covers_basis accepted
    (Forward.serves (Cursor.delivers ⟨#[1, 2, 3, 4, 5]⟩))
    (Forward.neverFails (Cursor.neverFails ⟨#[1, 2, 3, 4, 5]⟩)) ⟨rfl, rfl⟩ _ _ (by decide)
    (by decide) _ unmoved ByteSink.collects_byteArray rfl
  obtain ⟨⟨stats, succeeded, blocks, basisBytes, streamBytes⟩, -, extent, -⟩ := covers
  exact ⟨stats, succeeded, blocks, basisBytes, streamBytes.trans extent⟩

end Generator

end DeltaSignature
