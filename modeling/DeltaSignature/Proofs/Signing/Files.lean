import DeltaSignature.Proofs.FileSystem.Paths
import DeltaSignature.Proofs.Signing.Streams
import DeltaSignature.SignatureFile

/-!
# Signing one file into another

The basis is opened, the file for the signature is made, and then the basis is read.  If both are
the same file, the basis is empty by then, and what is signed is not what was there before.
-/

namespace DeltaSignature

namespace FileSystem

variable {files created : FileSystem} {basis signature : String} {layout : Layout} {memory : Memory}
  {source destination : Location} {stats : Generator.Stats}

/-- What a signing that succeeds has done. -/
theorem signFile_eq_ok (opened : files.open? basis = .ok source)
    (succeeded : (files.signFile basis signature layout memory).outcome = .ok stats) :
    ∃ destination created, files.create signature = .ok (destination, created) ∧
      created.faultAt source = none ∧ stats.Describe layout (created.bytesAt source) ∧
      (∃ index, Index.decode? (layout.signature (created.bytesAt source)) = .ok index ∧
        index.Describes layout (created.bytesAt source)) ∧
      (files.signFile basis signature layout memory).files =
        created.put destination (.file (layout.signature (created.bytesAt source))) := by
  unfold signFile at succeeded ⊢
  simp only [opened] at succeeded ⊢
  cases made : files.create signature with
  | error failure =>
    simp only [made] at succeeded
    cases succeeded
  | ok pair =>
    obtain ⟨destination, created⟩ := pair
    simp only [made] at succeeded ⊢
    have reads := created.reads_openAt source
    have blank := within_sink created
    cases outcome : (sign layout memory (created.openAt source) created.sink).outcome with
    | error cause =>
      simp only [outcome] at succeeded
      cases succeeded
    | ok figures =>
      simp only [outcome] at succeeded ⊢
      obtain ⟨whole, -, describes⟩ := reads.of_sign_eq_ok blank outcome
      obtain ⟨generator, accepted⟩ := exists_ofLayout?_of_sign outcome
      split at succeeded
      next => cases succeeded
      next last flushed =>
        obtain rfl := Except.ok.inj succeeded
        have closed := ((reads.flush blank outcome flushed).2.1 rfl).1
        refine ⟨destination, created, rfl, Option.map_eq_none_iff.1 whole, describes,
          exists_decode?_signature accepted _, ?_⟩
        rw [← closed]
        rfl

/-- Signing succeeds if the files can be opened and made, the basis can be read by then, and there
is memory for the windows and room for the signature. -/
theorem exists_signFile_eq_ok {generator : Generator} (opened : files.open? basis = .ok source)
    (made : files.create signature = .ok (destination, created))
    (readable : created.faultAt source = none)
    (accepted : Generator.ofLayout? layout Adler.sum .sha256 = .ok generator)
    (fits : (created.bytesAt source).size < 0x8000_0000_0000_0000)
    (granted : memory.Suffices layout (created.bytesAt source))
    (room : ∀ most, created.room = some most →
      (layout.signature (created.bytesAt source)).size ≤ most) :
    ∃ stats, (files.signFile basis signature layout memory).outcome = .ok stats := by
  have reads := created.reads_openAt source
  rw [readable] at reads
  have blank := within_sink created
  obtain ⟨stats, signed⟩ := reads.exists_sign_eq_ok blank accepted fits granted room
  cases flushed : ByteSink.flush (sign layout memory (created.openAt source) created.sink).sink with
  | mk verdict last =>
    obtain rfl := (reads.flush blank signed flushed).2.2 room rfl
    refine ⟨stats, ?_⟩
    unfold signFile
    simp only [opened, made, signed, flushed]

theorem bytesAt_put_file (vacant : files.get? destination ≠ some .directory) (source : Location) :
    (files.put destination (.file .empty)).bytesAt source =
      if source = destination then .empty else files.bytesAt source := by
  by_cases same : source = destination
  · rw [if_pos same, same, bytesAt_of_get? (get?_put_file vacant _)]
  · rw [if_neg same, bytesAt_put_of_ne files _ same]

/-- A basis that could be read when the other file had been made was a file before. -/
theorem get?_of_readable (vacant : files.get? destination ≠ some .directory)
    (there : (files.get? source).isSome = true)
    (readable : (files.put destination (.file .empty)).faultAt source = none) :
    files.get? source = some (.file (files.bytesAt source)) := by
  refine get?_eq_file there ?_
  by_cases same : source = destination
  · rwa [same]
  · rw [← get?_put_of_ne files (.file .empty) same]
    exact ne_directory_of_readable readable

/-- If the basis cannot be opened, nothing changes.  If signing succeeds, the path of the signature
names a file with the signature of the basis, the figures are those of the basis, and no other file
has changed; but a basis that is signed into its own file has been emptied before it is read. -/
theorem signFile_signs (files : FileSystem) (basis signature : String) (layout : Layout)
    (memory : Memory) :
    let signing := files.signFile basis signature layout memory
    (∀ failure, files.open? basis = .error failure →
      signing.outcome = .error (.io failure) ∧ signing.files = files) ∧
    ∀ stats, signing.outcome = .ok stats →
      ∃ source destination content,
        files.locate basis = .ok source ∧ files.get? source = some (.file content) ∧
        signing.files.locate signature = .ok destination ∧
        let signed := if source = destination then .empty else content
        signing.files.get? destination = some (.file (layout.signature signed)) ∧
        stats.Describe layout signed ∧
        (∃ index, Index.decode? (layout.signature signed) = .ok index ∧
          index.Describes layout signed) ∧
        ∀ other, other ≠ destination → signing.files.get? other = files.get? other := by
  refine ⟨fun failure refused => ?_, fun stats succeeded => ?_⟩
  · unfold signFile
    simp only [refused, true_and]
  · cases opened : files.open? basis with
    | error failure =>
      unfold signFile at succeeded
      simp only [opened] at succeeded
      cases succeeded
    | ok source =>
      obtain ⟨destination, created, made, readable, describes, decodes, after⟩ :=
        signFile_eq_ok opened succeeded
      obtain ⟨leads, rfl⟩ := create_eq_ok made
      have located := locate_of_open? opened
      have there := (locate_eq_ok_iff.1 located).2.2.2
      have content := get?_of_readable leads.vacant there readable
      -- What is read is what is there once the other file has been made.
      have empties := bytesAt_put_file leads.vacant source
      rw [put_put] at after
      refine ⟨source, destination, files.bytesAt source, located, content, ?_, ?_, ?_, ?_, ?_⟩
      · rw [after]
        exact leads.locate_put _
      · rw [after, get?_put_file leads.vacant, empties]
      · rwa [empties] at describes
      · rwa [empties] at decodes
      · intro other elsewhere
        rw [after, get?_put_of_ne files _ elsewhere]

/-- A file with one byte is signed into itself, in blocks of one byte and without strong sums: there
is no block in the signature that is left. -/
theorem signFile_into_itself :
    let files : FileSystem := { working := [], entries := [(["in"], .file ⟨#[1]⟩)] }
    let layout : Layout := ⟨Format.adler32Sha256.tag, 1, 0⟩
    let signing := files.signFile "in" "in" layout .ordinary
    files.content? "in" = some ⟨#[1]⟩ ∧
      (∃ stats, signing.outcome = .ok stats ∧ ¬ stats.Describe layout ⟨#[1]⟩) ∧
      signing.files.content? "in" ≠ some (layout.signature ⟨#[1]⟩) := by
  intro files layout signing
  have opened : files.open? "in" = .ok ["in"] := by cbv
  have made : files.create "in" = .ok (["in"], files.put ["in"] (.file .empty)) := by cbv
  have leads := (create_eq_ok made).1
  have emptied : (files.put ["in"] (.file .empty)).bytesAt ["in"] = .empty :=
    bytesAt_of_get? (get?_put_file leads.vacant _)
  obtain ⟨generator, accepted⟩ :
      ∃ generator, Generator.ofLayout? layout Adler.sum .sha256 = .ok generator := ⟨_, rfl⟩
  have readable : (files.put ["in"] (.file .empty)).faultAt ["in"] = none := by cbv
  have fits : ((files.put ["in"] (.file .empty)).bytesAt ["in"]).size < 0x8000_0000_0000_0000 := by
    rw [emptied]
    decide
  have granted :
      Memory.ordinary.Suffices layout ((files.put ["in"] (.file .empty)).bytesAt ["in"]) := by
    rw [emptied]
    unfold Memory.Suffices
    decide
  obtain ⟨stats, succeeded⟩ := exists_signFile_eq_ok opened made readable accepted fits granted
    fun most limited => by cases limited
  obtain ⟨destination, created, madeSo, -, describes, -, after⟩ := signFile_eq_ok opened succeeded
  obtain ⟨rfl, rfl⟩ := Prod.mk.inj (Except.ok.inj (madeSo.symm.trans made))
  rw [emptied] at describes after
  rw [put_put] at after
  have left : signing.files.content? "in" = some (layout.signature .empty) := by
    refine content?_of_locate ?_ (after ▸ get?_put_file leads.vacant _)
    exact after ▸ leads.locate_put _
  refine ⟨by cbv, ⟨stats, succeeded, fun whole => ?_⟩, fun same => ?_⟩
  · cases describes.basisBytes_eq.symm.trans whole.basisBytes_eq
  · have sizes := congrArg ByteArray.size (Option.some.inj (left.symm.trans same))
    rw [size_signature accepted, size_signature accepted] at sizes
    exact absurd sizes (by cbv)

end FileSystem

end DeltaSignature
