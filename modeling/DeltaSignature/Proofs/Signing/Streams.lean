import DeltaSignature.Proofs.Signing
import DeltaSignature.Proofs.Transfer.Buffered
import DeltaSignature.Proofs.Transfer.Opened

/-!
# Signing into a file or to standard output

A basis that is read from a file or from standard input is signed into a buffered sink.  What
reaches the sink behind is a leading part of the signature of the basis.  On a host that grants the
windows, signing succeeds just if reading comes to the end, there is room for all of the signature
and the flush is not refused.
-/

namespace DeltaSignature

open Generator (basisBlock blockCount ofLayout? Ended)
open BufferedSink (Within Full)

/-- The signature of a basis: the header, and then the sums of its blocks. -/
def Layout.signature (layout : Layout) (basis : ByteArray) : ByteArray :=
  let block := basisBlock basis layout.blockLength
  BigEndian.encode layout.tag
    ++ BigEndian.encode (UInt32.ofNat layout.blockLength)
    ++ BigEndian.encode (UInt32.ofNat layout.strongLength)
    ++ body ((List.range (blockCount basis.size layout.blockLength)).map fun number =>
      (Adler.sum (block number), StrongSum.sha256.sum layout.strongLength (block number)))

/-- The figures that are reported of a signature are those of this basis. -/
structure Generator.Stats.Describe (stats : Stats) (layout : Layout) (basis : ByteArray) :
    Prop where
  blocks_eq : stats.blocks = blockCount basis.size layout.blockLength
  basisBytes_eq : stats.basisBytes = basis.size
  streamBytes_eq : stats.streamBytes = (layout.signature basis).size

/-- An index of the sums of all blocks of a basis, each in its place, under the header of a
layout. -/
structure Index.Describes (index : Index) (layout : Layout) (basis : ByteArray) : Prop where
  tag_eq : index.params.tag = layout.tag
  blockLength_eq : index.params.blockLength = layout.blockLength
  strongLength_eq : index.params.strongLength = layout.strongLength
  blocks_eq : index.blocks =
    (List.range (blockCount basis.size layout.blockLength)).map fun number =>
      let block := basisBlock basis layout.blockLength number
      ⟨number, Adler.sum block, StrongSum.sha256.sum layout.strongLength block⟩

/-- The host grants the widest window that it takes to sign this basis. -/
def Memory.Suffices (memory : Memory) (layout : Layout) (basis : ByteArray) : Prop :=
  let limits := SlidingWindow.Limits.standard
  max (min basis.size (3 * limits.chunk) + layout.blockLength) limits.span ≤ memory.largest

theorem Memory.GrantsAll.suffices {memory : Memory} (grants : memory.GrantsAll) {layout : Layout}
    (small : layout.blockLength < 0x8000_0000) (basis : ByteArray) :
    memory.Suffices layout basis := by
  refine grants.le_largest ?_
  change max (min basis.size (3 * (32 * 1024)) + layout.blockLength) (256 * 1024) < _
  omega

theorem faithful_sign {σ : Type} {content : ByteArray} {stands : σ → Nat → Prop} {reader : σ}
    (atStart : stands reader 0) (memory : Memory) :
    SlidingWindow.Faithful content (fun (source : Forward σ) place => stands source.reader place)
      (SlidingWindow.fresh ⟨reader⟩ .standard memory) where
  stands_stop := atStart
  position_eq := rfl
  held_part := .empty ..
  size_le_stop := nofun

section Signing

variable {σ : Type} [ByteReader σ] {content : ByteArray} {stands : σ → Nat → Prop} {reader : σ}
  {layout : Layout} {memory : Memory} {generator : Generator} {sink : BufferedSink}
  {limit : Option Nat} {flushRefusal : Option IoFailure}

theorem signature_eq_of_ofLayout?
    (accepted : ofLayout? layout Adler.sum .sha256 = .ok generator) (basis : ByteArray) :
    layout.signature basis = generator.fullSignature basis := by
  obtain ⟨rfl, weak, strong⟩ := Generator.ofLayout?_eq_ok accepted
  rw [Layout.signature, weak, strong]
  rfl

theorem size_signature (accepted : ofLayout? layout Adler.sum .sha256 = .ok generator)
    (basis : ByteArray) : (layout.signature basis).size =
      12 + blockCount basis.size layout.blockLength * (4 + layout.strongLength) := by
  rw [signature_eq_of_ofLayout? accepted, (Generator.ofLayout?_eq_ok accepted).1]
  exact Generator.size_signature _

/-- The signature of a basis is read back as the sums of its blocks. -/
theorem exists_decode?_signature (accepted : ofLayout? layout Adler.sum .sha256 = .ok generator)
    (basis : ByteArray) :
    ∃ index, Index.decode? (layout.signature basis) = .ok index ∧ index.Describes layout basis := by
  have decoded := Generator.decode?_signature_eq generator basis
    (blockCount basis.size generator.params.blockLength)
  have blocks := Generator.blocks_sums generator basis
    (blockCount basis.size generator.params.blockLength)
  have params := Index.params_addAll (.empty generator.params)
    (generator.sums basis (blockCount basis.size generator.params.blockLength))
  have whole := signature_eq_of_ofLayout? accepted basis
  obtain ⟨rfl, weak, strong⟩ := Generator.ofLayout?_eq_ok accepted
  rw [← weak, ← strong] at blocks
  rw [whole]
  exact ⟨_, decoded, congrArg Params.tag params, congrArg Params.blockLength params,
    congrArg Params.strongLength params, blocks⟩

/-- Signing succeeds only for a layout that a signature may have. -/
theorem exists_ofLayout?_of_sign {stats : Generator.Stats}
    (succeeded : (sign layout memory reader sink).outcome = .ok stats) :
    ∃ generator, ofLayout? layout Adler.sum .sha256 = .ok generator := by
  cases accepted : ofLayout? layout Adler.sum .sha256 with
  | error cause =>
    rw [sign, accepted] at succeeded
    cases succeeded
  | ok generator => exact ⟨generator, rfl⟩

theorem sign_eq_generate (accepted : ofLayout? layout Adler.sum .sha256 = .ok generator)
    (reader : σ) (sink : BufferedSink) :
    sign layout memory reader sink =
      generator.generate (SlidingWindow.fresh ⟨reader⟩ .standard memory) sink := by
  rw [sign, accepted]
  rfl

theorem ended_sign (memory : Memory) (accepted : ofLayout? layout Adler.sum .sha256 = .ok generator)
    (delivers : ByteReader.Delivers content stands) (atStart : stands reader 0)
    (blank : Within limit flushRefusal sink .empty) :
    Ended generator content .empty (Within limit flushRefusal) (Full limit)
      (SlidingWindow.fresh (Forward.mk reader) .standard memory)
      (sign layout memory reader sink) := by
  rw [sign_eq_generate accepted]
  exact Generator.generate_ended generator (Forward.serves delivers)
    (BufferedSink.appends limit flushRefusal) (faithful_sign atStart memory) rfl blank

/-- A stream that is cut off in the middle of a piece. -/
theorem exists_rest_of_cut {stream front piece rest : ByteArray} {count : Nat}
    (whole : stream = front ++ piece ++ rest) (cut : count < piece.size) :
    (∃ more, stream = front ++ piece.extract 0 count ++ more) ∧
      (front ++ piece.extract 0 count).size < stream.size := by
  rw [whole]
  refine ⟨(PartAt.cut front rest (Nat.le_of_lt cut)).exists_rest, ?_⟩
  rw [ByteArray.size_append, ByteArray.size_append, ByteArray.size_append,
    size_take (Nat.le_of_lt cut)]
  omega

namespace Generator

/-- Why signing stops before it is done: a block was refused, or there is no room for all of the
signature, or the flush was refused. -/
inductive Hindered (generator : Generator) (content : ByteArray) (limit : Option Nat)
    (flushRefusal : Option IoFailure) (first : SlidingWindow (Forward σ)) : Prop where
  | refused {number : Nat} {window next : SlidingWindow (Forward σ)} {cause : WindowError}
      (walked : Walked first generator.params.blockLength number window)
      (refused : window.request (number * generator.params.blockLength)
        generator.params.blockLength = (.error cause, next))
  | full {most : Nat} (limited : limit = some most)
      (short : most < (generator.fullSignature content).size)
  | unflushed (refused : flushRefusal ≠ none)

/-- What a sink has taken when signing stops is the beginning of the signature, and signing does not
stop without a reason. -/
theorem Ended.exists_rest {first : SlidingWindow (Forward σ)}
    {result : Result (Forward σ) BufferedSink} (delivers : ByteReader.Delivers content stands)
    (faithful : SlidingWindow.Faithful content
      (fun (source : Forward σ) place => stands source.reader place) first)
    (unmoved : first.start = 0)
    (ended : Ended generator content .empty (Within limit flushRefusal) (Full limit) first result) :
    (∃ rest, generator.fullSignature content = result.sink.taken ++ rest) ∧
      (∀ cause, result.outcome = .error cause →
        Hindered generator content limit flushRefusal first) := by
  cases ended with
  | headless cut stopped =>
    obtain ⟨rest, whole⟩ := exists_signature_append generator content
      (Nat.zero_le (blockCount content.size generator.params.blockLength))
    rw [signature_zero, ← ByteArray.empty_append (b := generator.params.header)] at whole
    rw [← Params.headerLength, ← Params.size_header generator.params] at cut
    obtain ⟨front, short⟩ := exists_rest_of_cut whole cut
    obtain ⟨most, limited, less⟩ := stopped.lt_size short
    exact ⟨stopped.taken_eq ▸ front, fun _ _ => .full limited less⟩
  | unwritten inside cut stopped =>
    obtain ⟨rest, whole⟩ := exists_signature_append generator content (Nat.succ_le_of_lt inside)
    rw [signature_succ, ← ByteArray.empty_append (b := generator.signature content _)] at whole
    obtain ⟨front, short⟩ := exists_rest_of_cut whole cut
    obtain ⟨most, limited, less⟩ := stopped.lt_size short
    exact ⟨stopped.taken_eq ▸ front, fun _ _ => .full limited less⟩
  | unviewed held walked refused =>
    have inside := (walked.ready (Forward.serves delivers) faithful unmoved).inside
    refine ⟨?_, fun _ _ => .refused walked refused⟩
    rw [held.taken_eq, ByteArray.empty_append]
    exact exists_signature_append generator content
      (le_blockCount generator.params.blockLength_pos inside)
  | unflushed held refused =>
    obtain ⟨heldSink, ⟨succeeded, -⟩ | ⟨-, hindrance⟩⟩ := held.flush refused
    · cases succeeded
    · refine ⟨⟨.empty, ?_⟩, fun _ _ => ?_⟩
      · rw [heldSink.taken_eq, ByteArray.append_empty, ByteArray.empty_append]
        rfl
      · rw [ByteArray.empty_append] at hindrance
        rcases hindrance with ⟨most, limited, less⟩ | unwilling
        · exact .full limited less
        · exact .unflushed unwilling
  | complete held =>
    refine ⟨⟨.empty, ?_⟩, fun cause failed => ?_⟩
    · rw [held.taken_eq, ByteArray.append_empty, ByteArray.empty_append]
      rfl
    · cases failed

end Generator

/-- Whatever happens, a leading part of the signature reaches the sink behind. -/
theorem exists_rest_close_sign (delivers : ByteReader.Delivers content stands)
    (atStart : stands reader 0) (blank : Within limit flushRefusal sink .empty) :
    ∃ rest, layout.signature content = (sign layout memory reader sink).sink.close ++ rest := by
  cases accepted : ofLayout? layout Adler.sum .sha256 with
  | error cause =>
    rw [sign, accepted]
    exact BufferedSink.exists_rest_of_taken blank.taken_eq ⟨_, ByteArray.empty_append.symm⟩
  | ok generator =>
    have ended := ended_sign memory accepted delivers atStart blank
    rw [signature_eq_of_ofLayout? accepted]
    exact BufferedSink.exists_rest_of_taken rfl
      (ended.exists_rest delivers (faithful_sign atStart memory) rfl).1

/-- Signing that succeeds has read all of the basis and written all of the signature. -/
theorem of_sign_eq_ok (delivers : ByteReader.Delivers content stands) (atStart : stands reader 0)
    (blank : Within limit flushRefusal sink .empty) {stats : Generator.Stats}
    (succeeded : (sign layout memory reader sink).outcome = .ok stats) :
    Within limit flushRefusal (sign layout memory reader sink).sink (layout.signature content) ∧
      stats.Describe layout content := by
  obtain ⟨generator, accepted⟩ := exists_ofLayout?_of_sign succeeded
  have ended := ended_sign memory accepted delivers atStart blank
  generalize sign layout memory reader sink = result at ended succeeded
  have fields := (Generator.ofLayout?_eq_ok accepted).1
  cases ended with
  | headless | unviewed | unwritten | unflushed => cases succeeded
  | @complete last window figures held blocks basisBytes streamBytes =>
    cases succeeded
    rw [ByteArray.empty_append] at held
    have whole := signature_eq_of_ofLayout? accepted content
    refine ⟨whole ▸ held, ⟨?_, basisBytes, ?_⟩⟩
    · rw [blocks, fields]
    · rw [streamBytes, blocks, whole]
      exact (Generator.size_signature _).symm

/-- A basis that can be read is signed if the host grants the widest window needed and there is room
for its signature. -/
theorem exists_sign_eq_ok (accepted : ofLayout? layout Adler.sum .sha256 = .ok generator)
    (delivers : ByteReader.Delivers content stands) (steady : ByteReader.NeverFails stands)
    (atStart : stands reader 0) (blank : Within limit flushRefusal sink .empty)
    (fits : content.size < 0x8000_0000_0000_0000) (granted : memory.Suffices layout content)
    (room : ∀ most, limit = some most → (layout.signature content).size ≤ most)
    (willing : flushRefusal = none) :
    ∃ stats, (sign layout memory reader sink).outcome = .ok stats := by
  have ended := ended_sign memory accepted delivers atStart blank
  have hindered := (ended.exists_rest delivers (faithful_sign atStart memory) rfl).2
  rw [signature_eq_of_ofLayout? accepted] at room
  cases outcome : (sign layout memory reader sink).outcome with
  | ok stats => exact ⟨stats, rfl⟩
  | error cause =>
    have small := generator.params.blockLength_lt
    have wide : content.size + generator.params.blockLength + SlidingWindow.Limits.standard.span <
        0x1_0000_0000_0000_0000 := by
      change _ + _ + 256 * 1024 < _
      omega
    have sized : max (min content.size (3 * SlidingWindow.Limits.standard.chunk) +
        generator.params.blockLength) SlidingWindow.Limits.standard.span <
          0x8000_0000_0000_0000 := by
      change max (min content.size (3 * (32 * 1024)) + _) (256 * 1024) < _
      omega
    rw [Memory.Suffices, (Generator.ofLayout?_eq_ok accepted).1] at granted
    cases hindered cause outcome with
    | refused walked refused =>
      exact absurd refused (walked.answered (Forward.serves delivers) (Forward.neverFails steady)
        (faithful_sign atStart memory) rfl wide sized granted)
    | full limited short => exact absurd (room _ limited) (Nat.not_le.2 short)
    | unflushed unwilling => exact absurd willing unwilling

end Signing

theorem FileSystem.within_sink (files : FileSystem) : Within files.room none files.sink .empty :=
  BufferedSink.within_blank ..

section Opened

variable {content : ByteArray} {failure : Option IoFailure} {reader : Breaking Input}
  {layout : Layout} {memory : Memory} {sink : BufferedSink} {limit : Option Nat}
  {flushRefusal : Option IoFailure}

theorem Breaking.Reads.exists_rest_close (reads : reader.Reads content failure)
    (blank : Within limit flushRefusal sink .empty) :
    ∃ rest, layout.signature content = (sign layout memory reader sink).sink.close ++ rest := by
  obtain ⟨shown, more, rfl, whole, standing⟩ := reads
  exact exists_rest_close_sign (Breaking.delivers (Input.yields shown) failure more whole) standing
    blank

/-- If reading fails, signing fails as well: otherwise it would have read any number of bytes. -/
theorem Breaking.Reads.of_sign_eq_ok (reads : reader.Reads content failure)
    (blank : Within limit flushRefusal sink .empty) {stats : Generator.Stats}
    (succeeded : (sign layout memory reader sink).outcome = .ok stats) :
    failure = none ∧
      Within limit flushRefusal (sign layout memory reader sink).sink (layout.signature content) ∧
      stats.Describe layout content := by
  obtain ⟨shown, more, rfl, whole, standing⟩ := reads
  have signed := DeltaSignature.of_sign_eq_ok
    (Breaking.delivers (Input.yields shown) failure more whole) standing blank succeeded
  refine ⟨?_, signed⟩
  cases failure with
  | none => rfl
  | some cause =>
    -- The same run is one over a basis with another byte, and its figures fit both.
    have longer := (DeltaSignature.of_sign_eq_ok (Breaking.delivers (Input.yields shown)
      (some cause) (more ++ ⟨#[0]⟩) nofun) standing blank succeeded).2.basisBytes_eq
    have one : (⟨#[0]⟩ : ByteArray).size = 1 := rfl
    have same := signed.2.basisBytes_eq
    rw [ByteArray.size_append] at same
    rw [ByteArray.size_append, ByteArray.size_append, one] at longer
    omega

theorem Breaking.Reads.exists_sign_eq_ok (reads : reader.Reads content none)
    (blank : Within limit none sink .empty) {generator : Generator}
    (accepted : ofLayout? layout Adler.sum .sha256 = .ok generator)
    (fits : content.size < 0x8000_0000_0000_0000) (granted : memory.Suffices layout content)
    (room : ∀ most, limit = some most → (layout.signature content).size ≤ most) :
    ∃ stats, (sign layout memory reader sink).outcome = .ok stats := by
  obtain ⟨shown, more, rfl, whole, standing⟩ := reads
  exact DeltaSignature.exists_sign_eq_ok accepted
    (Breaking.delivers (Input.yields shown) none more whole)
    (Breaking.neverFails (Input.yields shown)) standing blank fits granted room rfl

/-- Once all was signed and flushed again, all of the signature has reached the sink behind. -/
theorem Breaking.Reads.flush (reads : reader.Reads content failure)
    (blank : Within limit flushRefusal sink .empty) {stats : Generator.Stats}
    (succeeded : (sign layout memory reader sink).outcome = .ok stats)
    {verdict : Except IoFailure Unit} {last : BufferedSink}
    (flushed : ByteSink.flush (sign layout memory reader sink).sink = (verdict, last)) :
    (∃ rest, layout.signature content = last.close ++ rest) ∧
      (verdict = .ok () → last.close = layout.signature content ∧
        (∀ most, limit = some most → (layout.signature content).size ≤ most) ∧
        flushRefusal = none) ∧
      ((∀ most, limit = some most → (layout.signature content).size ≤ most) →
        flushRefusal = none → verdict = .ok ()) := by
  obtain ⟨-, within, -⟩ := reads.of_sign_eq_ok blank succeeded
  obtain ⟨withinLast, cases⟩ := within.flush flushed
  refine ⟨BufferedSink.exists_rest_of_taken withinLast.taken_eq
    ⟨.empty, ByteArray.append_empty.symm⟩, ?_, ?_⟩
  · rintro rfl
    obtain ⟨-, willing, nothing⟩ | ⟨⟨cause, failed⟩, -⟩ := cases
    · exact ⟨withinLast.close_eq nothing, withinLast.size_le nothing, willing⟩
    · cases failed
  · intro room willing
    obtain ⟨succeeded, -⟩ | ⟨-, ⟨most, limited, short⟩ | unwilling⟩ := cases
    · exact succeeded
    · exact absurd (room most limited) (Nat.not_le.2 short)
    · exact absurd willing unwilling

end Opened

end DeltaSignature
