import DeltaSignature.Command.Run
import DeltaSignature.Proofs.Command.Arguments
import DeltaSignature.Proofs.FileSystem.Paths
import DeltaSignature.Proofs.Params
import DeltaSignature.Proofs.Signing.Streams

/-!
# The signature command

Without force a signature is only written to standard output or to a file that was not there before.
Whatever fails on the way, what was there before stays as it was, and what is written is the
beginning of the signature of the basis.
-/

namespace DeltaSignature

namespace Command

open BufferedSink (Within)

variable {printers : Printers} {options : Options} {world : World} {basis signature : Option String}
  {toStandardOutput : Bool} {blockLength strongLength : Nat} {source : Basis}
  {destination : Destination} {files : FileSystem} {location : Location} {path line : String}

/-- What is to be read of a basis. -/
def Basis.content (world : World) : Basis → ByteArray
  | file location => world.files.bytesAt location
  | input => world.input

/-- How reading a basis fails, if it does. -/
def Basis.failure? (world : World) : Basis → Option IoFailure
  | file location => (world.files.faultAt location).map Prod.snd
  | input => world.inputFailure

/-- What there is to read of a basis that can be opened, and how reading it fails, if it does. -/
inductive Supplies (world : World) : Option String → ByteArray → Option IoFailure → Prop
  | file {path : String} {location : Location} (opened : world.files.open? path = .ok location) :
      Supplies world (some path) (world.files.bytesAt location)
        ((world.files.faultAt location).map Prod.snd)
  | input : Supplies world none world.input world.inputFailure

/-- Neither reading fails, nor writing so many bytes, nor the flush behind them. -/
def Unhindered (bytes : ByteArray) (failure : Option IoFailure) (room : Option Nat)
    (refusal : Option IoFailure) : Prop :=
  failure = none ∧ (∀ most, room = some most → bytes.size ≤ most) ∧ refusal = none

/-- The signature of `content` was to be written where there is so much room and where a flush is
answered so: this was written and this exit code given.  The signature is the stream that decodes to
the sums of all blocks.  If the host grants the windows, only input and output decide the exit
code. -/
structure Wrote (layout : Layout) (memory : Memory) (content : ByteArray)
    (failure : Option IoFailure) (room : Option Nat) (refusal : Option IoFailure) (exitCode : Nat)
    (written : ByteArray) : Prop where
  exists_index : ∃ index, Index.decode? (layout.signature content) = .ok index ∧
    index.Describes layout content
  exists_rest : ∃ rest, layout.signature content = written ++ rest
  exitCode_le : exitCode ≤ 1
  of_zero : exitCode = 0 → written = layout.signature content ∧
    Unhindered (layout.signature content) failure room refusal
  zero_iff : content.size < 0x8000_0000_0000_0000 → memory.Suffices layout content →
    (exitCode = 0 ↔ Unhindered (layout.signature content) failure room refusal)

section Writing

variable {layout : Layout} {memory : Memory} {content : ByteArray} {failure : Option IoFailure}
  {reader : Breaking Input} {sink : BufferedSink} {room : Option Nat} {refusal : Option IoFailure}
  {generator : Generator}

theorem wrote_signInto (printers : Printers) (options : Options) (memory : Memory)
    (reads : reader.Reads content failure) (blank : Within room refusal sink .empty)
    (accepted : Generator.ofLayout? layout Adler.sum .sha256 = .ok generator) :
    Wrote layout memory content failure room refusal
      (signInto printers options layout memory reader sink).exitCode
      (signInto printers options layout memory reader sink).sink.close := by
  have decodes := exists_decode?_signature accepted content
  unfold signInto
  simp only
  split
  next cause failed =>
    refine ⟨decodes, reads.exists_rest_close blank, Nat.le_refl _, nofun, fun fits granted => ?_⟩
    refine ⟨nofun, fun ⟨readable, enough, willing⟩ => ?_⟩
    subst readable willing
    obtain ⟨stats, succeeded⟩ := reads.exists_sign_eq_ok blank accepted fits granted enough
    cases failed.symm.trans succeeded
  next stats succeeded =>
    obtain ⟨readable, -, -⟩ := reads.of_sign_eq_ok blank succeeded
    split
    next cause last flushed =>
      obtain ⟨rest, -, succeeds⟩ := reads.flush blank succeeded flushed
      exact ⟨decodes, rest, Nat.le_refl _, nofun, fun _ _ =>
        ⟨nofun, fun ⟨_, enough, willing⟩ => nomatch succeeds enough willing⟩⟩
    next last flushed =>
      obtain ⟨rest, whole, -⟩ := reads.flush blank succeeded flushed
      obtain ⟨closed, enough, willing⟩ := whole rfl
      have unhindered : Unhindered (layout.signature content) failure room refusal :=
        ⟨readable, enough, willing⟩
      exact ⟨decodes, rest, Nat.zero_le _, fun _ => ⟨closed, unhindered⟩,
        fun _ _ => ⟨fun _ => unhindered, fun _ => rfl⟩⟩

end Writing

section Opening

theorem find?_of_unopened {failure : IoFailure}
    (unopened : world.files.open? path = .error failure) :
    Basis.find? world (some path) =
      .error (complaint s!"basis file: {path}: {failure.text}") := by
  unfold Basis.find?
  simp only [unopened]

theorem Supplies.exists_find? {content : ByteArray} {failure : Option IoFailure}
    (supplies : Supplies world basis content failure) :
    ∃ source, Basis.find? world basis = .ok source ∧ source.content world = content ∧
      source.failure? world = failure := by
  cases supplies with
  | input => exact ⟨.input, rfl, rfl, rfl⟩
  | @file path location opened =>
    refine ⟨.file location, ?_, rfl, rfl⟩
    unfold Basis.find?
    simp only [opened]

/-- A file that can be opened is not the one that is made for its signature. -/
theorem isSome_of_find? (found : Basis.find? world basis = .ok (.file location)) :
    (world.files.get? location).isSome = true := by
  unfold Basis.find? at found
  split at found
  next => cases found
  next path =>
    split at found
    next opened =>
      obtain rfl := Basis.file.inj (Except.ok.inj found)
      exact (FileSystem.locate_eq_ok_iff.1 (FileSystem.locate_of_open? opened)).2.2.2
    next => cases found

theorem reads_reader (source : Basis) (world : World) :
    (source.reader world world.files).Reads (source.content world) (source.failure? world) := by
  cases source with
  | input => exact Breaking.reads_ofStandard ..
  | file place => exact world.files.reads_openAt place

/-- What is read of a basis is what was there before a file was made. -/
theorem reads_reader_put (found : Basis.find? world basis = .ok source)
    (absent : world.files.get? location = none) (bytes : ByteArray) :
    (source.reader world (world.files.put location (.file bytes))).Reads (source.content world)
      (source.failure? world) := by
  cases source with
  | input => exact Breaking.reads_ofStandard ..
  | file place =>
    have elsewhere : place ≠ location := by
      rintro rfl
      have there := isSome_of_find? found
      rw [absent] at there
      cases there
    have reads := (world.files.put location (.file bytes)).reads_openAt place
    rwa [FileSystem.bytesAt_put_of_ne _ _ elsewhere, FileSystem.faultAt_put_of_ne _ _ elsewhere]
      at reads

end Opening

section Running

theorem wanted_of_output (nowhere : signature = none ∨ toStandardOutput = true) :
    wanted signature toStandardOutput = none := by
  obtain rfl | rfl := nowhere
  · exact ite_self none
  · rfl

theorem wanted_of_file (somewhere : signature = some path) (unprinted : toStandardOutput = false) :
    wanted signature toStandardOutput = some path := by
  rw [somewhere, unprinted]
  rfl

/-- A command that has left everything as it was, and says so. -/
structure Refused (world : World) (transcript : Transcript) : Prop where
  exitCode_eq : transcript.exitCode = 1
  output_eq : transcript.output = .empty
  files_eq : transcript.files = world.files

theorem runSign_of_unopened (unopened : Basis.find? world basis = .error line) :
    Refused world (runSign printers options world basis signature toStandardOutput blockLength
      strongLength) := by
  unfold runSign
  simp only [unopened]
  exact ⟨rfl, rfl, rfl⟩

theorem runSign_of_refused (found : Basis.find? world basis = .ok source)
    (refused : Destination.create? world options.force (wanted signature toStandardOutput) =
      .error line) :
    Refused world (runSign printers options world basis signature toStandardOutput blockLength
      strongLength) := by
  unfold runSign
  simp only [found, refused]
  exact ⟨rfl, rfl, rfl⟩

theorem runSign_of_created (printers : Printers) (blockLength strongLength : Nat)
    (found : Basis.find? world basis = .ok source)
    (created : Destination.create? world options.force (wanted signature toStandardOutput) =
      .ok (destination, files)) :
    ∃ errors,
      runSign printers options world basis signature toStandardOutput blockLength strongLength =
        destination.leave files
          (signInto printers options ⟨Format.adler32Sha256.tag, blockLength, strongLength⟩
            world.memory (source.reader world files) (destination.sink world files)) errors := by
  unfold runSign
  simp only [found, created]
  exact ⟨_, rfl⟩

theorem create?_of_exists (force : options.force = false)
    (there : world.files.pathExists path = true) :
    ∃ line, Destination.create? world options.force (some path) = .error line := by
  rw [force]
  refine ⟨_, if_pos ⟨there, ?_⟩⟩
  exact Bool.false_ne_true

theorem create?_of_absent (absent : world.files.pathExists path = false) :
    (∃ failure line, world.files.create path = .error failure ∧
        Destination.create? world options.force (some path) = .error line) ∨
      ∃ place, world.files.get? place = none ∧ world.files.Leads path place ∧
        Destination.create? world options.force (some path) =
          .ok (.file place, world.files.put place (.file .empty)) := by
  unfold Destination.create?
  simp only [absent]
  cases made : world.files.create path with
  | error failure => exact .inl ⟨failure, _, rfl, rfl⟩
  | ok pair =>
    obtain ⟨place, created⟩ := pair
    obtain ⟨leads, rfl⟩ := FileSystem.create_eq_ok made
    exact .inr ⟨place, leads.get?_eq_none absent, leads, rfl⟩

variable {generator : Generator}

theorem runSign_to_output (found : Basis.find? world basis = .ok source)
    (nowhere : wanted signature toStandardOutput = none)
    (acceptable : Generator.ofLayout? ⟨Format.adler32Sha256.tag, blockLength, strongLength⟩
      Adler.sum .sha256 = .ok generator) :
    let transcript :=
      runSign printers options world basis signature toStandardOutput blockLength strongLength
    transcript.files = world.files ∧
      Wrote ⟨Format.adler32Sha256.tag, blockLength, strongLength⟩ world.memory
        (source.content world) (source.failure? world) world.outputRoom world.outputRefusal
        transcript.exitCode transcript.output := by
  have created : Destination.create? world options.force (wanted signature toStandardOutput) =
      .ok (.output, world.files) := by
    rw [nowhere]
    rfl
  obtain ⟨errors, left⟩ := runSign_of_created printers blockLength strongLength found created
  rw [left]
  exact ⟨rfl, wrote_signInto printers options _ (reads_reader source world)
    (BufferedSink.within_blank ..) acceptable⟩

theorem within_sink_file (world : World) (files : FileSystem) (location : Location) :
    Within files.room none ((Destination.file location).sink world files) .empty :=
  files.within_sink

theorem runSign_to_file (found : Basis.find? world basis = .ok source)
    (somewhere : wanted signature toStandardOutput = some path)
    (absent : world.files.pathExists path = false)
    (acceptable : Generator.ofLayout? ⟨Format.adler32Sha256.tag, blockLength, strongLength⟩
      Adler.sum .sha256 = .ok generator) :
    let transcript :=
      runSign printers options world basis signature toStandardOutput blockLength strongLength
    (∃ failure, world.files.create path = .error failure) ∧ Refused world transcript ∨
      ∃ place written, world.files.get? place = none ∧
        transcript.files = world.files.put place (.file written) ∧
        transcript.files.locate path = .ok place ∧ transcript.output = .empty ∧
        Wrote ⟨Format.adler32Sha256.tag, blockLength, strongLength⟩ world.memory
          (source.content world) (source.failure? world) world.files.room none transcript.exitCode
          written := by
  obtain ⟨failure, line, unmade, refused⟩ | ⟨place, vacant, leads, created⟩ :=
    create?_of_absent absent
  · rw [← somewhere] at refused
    exact .inl ⟨⟨failure, unmade⟩, runSign_of_refused found refused⟩
  · rw [← somewhere] at created
    obtain ⟨errors, left⟩ := runSign_of_created printers blockLength strongLength found created
    have wrote := wrote_signInto printers options world.memory
      (reads_reader_put found vacant .empty)
      (within_sink_file world (world.files.put place (.file .empty)) place) acceptable
    generalize signInto printers options _ _ _ _ = signed at left wrote
    rw [left]
    simp only [Destination.leave, FileSystem.close, FileSystem.put_put, true_and]
    exact .inr ⟨place, signed.sink.close, vacant, rfl, leads.locate_put _, wrote⟩

theorem refused_of_exists (unforced : options.force = false)
    (somewhere : wanted signature toStandardOutput = some path)
    (there : world.files.pathExists path = true) :
    Refused world (runSign printers options world basis signature toStandardOutput blockLength
      strongLength) := by
  cases found : Basis.find? world basis with
  | error line => exact runSign_of_unopened found
  | ok source =>
    obtain ⟨line, refused⟩ := create?_of_exists unforced there
    rw [← somewhere] at refused
    exact runSign_of_refused found refused

end Running

/-- A command line for a signature, without force, that is accepted by a parser which keeps to the
lengths its options can have.  Nothing that was there is changed.  If the basis cannot be opened, or
a file is to be made where something is, the command fails and leaves everything as it was.
Otherwise the beginning of the signature of the basis is written to standard output, or to a new
file if that can be made, and the command succeeds if and only if nothing failed; then that is the
whole signature. -/
theorem execute_signs {ε : Type} {parser : Parser ε} (honours : Honours parser.parse)
    (printers : Printers) {arguments : List String}
    (accepted : parser.parse arguments = .ok options)
    (task : options.task = .sign basis signature toStandardOutput blockLength strongLength)
    (unforced : options.force = false) (world : World) :
    let transcript := execute parser printers arguments world
    let layout : Layout := ⟨Format.adler32Sha256.tag, blockLength, strongLength⟩
    (∀ place entry, world.files.get? place = some entry →
      transcript.files.get? place = some entry) ∧
    ((∃ path failure, basis = some path ∧ world.files.open? path = .error failure) ∨
        (∃ path, signature = some path ∧ toStandardOutput = false ∧
          world.files.pathExists path = true) →
      Refused world transcript) ∧
    ∀ content failure, Supplies world basis content failure →
      (signature = none ∨ toStandardOutput = true → transcript.files = world.files ∧
        Wrote layout world.memory content failure world.outputRoom world.outputRefusal
          transcript.exitCode transcript.output) ∧
      ∀ path, signature = some path → toStandardOutput = false →
        world.files.pathExists path = false →
        ((∃ cause, world.files.create path = .error cause) ∧ Refused world transcript) ∨
        ∃ place written, world.files.get? place = none ∧
          transcript.files = world.files.put place (.file written) ∧
          transcript.files.locate path = .ok place ∧ transcript.output = .empty ∧
          Wrote layout world.memory content failure world.files.room none transcript.exitCode
            written := by
  intro transcript layout
  have ran : transcript = runSign printers options.resolve world basis signature toStandardOutput
      blockLength strongLength := by
    simp only [transcript, execute, accepted, run, Options.resolve, task]
  have unforcedSo : options.resolve.force = false := unforced
  obtain ⟨positive, small, short⟩ := honours.lengths accepted task
  obtain ⟨generator, acceptable⟩ := Generator.exists_ofLayout?_sha256 Adler.sum positive small short
  rw [ran]
  refine ⟨?_, ?_, ?_⟩
  · intro place entry there
    cases found : Basis.find? world basis with
    | error line => rwa [(runSign_of_unopened found).files_eq]
    | ok source =>
      cases goal : wanted signature toStandardOutput with
      | none => rwa [(runSign_to_output found goal acceptable).1]
      | some path =>
        cases absent : world.files.pathExists path with
        | true => rwa [(refused_of_exists unforcedSo goal absent).files_eq]
        | false =>
          obtain ⟨-, refused⟩ | ⟨made, written, vacant, files, -⟩ :=
            runSign_to_file found goal absent acceptable
          · rwa [refused.files_eq]
          · have elsewhere : place ≠ made := by
              rintro rfl
              cases there.symm.trans vacant
            rwa [files, FileSystem.get?_put_of_ne _ _ elsewhere]
  · rintro (⟨path, failure, rfl, unopened⟩ | ⟨path, somewhere, unprinted, there⟩)
    · exact runSign_of_unopened (find?_of_unopened unopened)
    · exact refused_of_exists unforcedSo (wanted_of_file somewhere unprinted) there
  · rintro content failure supplies
    obtain ⟨source, found, rfl, rfl⟩ := supplies.exists_find?
    exact ⟨fun nowhere => runSign_to_output found (wanted_of_output nowhere) acceptable,
      fun path somewhere unprinted absent =>
        runSign_to_file found (wanted_of_file somewhere unprinted) absent acceptable⟩

/-- A file with one byte is signed in blocks of one byte, without strong sums. -/
theorem execute_signs_byte :
    let world : World := { files := { working := [], entries := [(["in"], .file ⟨#[1]⟩)] } }
    let transcript :=
      execute .standard .standard ["signature", "-b", "1", "-S", "0", "in", "out"] world
    transcript.exitCode = 0 ∧ transcript.files.get? ["in"] = some (.file ⟨#[1]⟩) ∧
      transcript.files.content? "out" =
        some (Layout.signature ⟨Format.adler32Sha256.tag, 1, 0⟩ ⟨#[1]⟩) := by
  intro world transcript
  have accepted : Parser.standard.parse ["signature", "-b", "1", "-S", "0", "in", "out"] =
      .ok ⟨.sign (some "in") (some "out") false 1 0, false, false, 0, false⟩ := by cbv
  have opened : world.files.open? "in" = .ok ["in"] := by cbv
  have absent : world.files.pathExists "out" = false := by cbv
  have made : world.files.create "out" = .ok (["out"], world.files.put ["out"] (.file .empty)) := by
    cbv
  obtain ⟨kept, -, signs⟩ := execute_signs honours_ofArguments? .standard accepted rfl rfl world
  obtain ⟨⟨failure, unmade⟩, -⟩ | ⟨place, written, vacant, files, located, -, wrote⟩ :=
    (signs _ _ (.file opened)).2 "out" rfl rfl absent
  · cases made.symm.trans unmade
  · have granted : world.memory.Suffices ⟨Format.adler32Sha256.tag, 1, 0⟩ ⟨#[1]⟩ := by
      unfold Memory.Suffices
      decide
    have succeeded : transcript.exitCode = 0 :=
      (wrote.zero_iff (by decide) granted).2 ⟨rfl, fun _ limited => (by cases limited), rfl⟩
    obtain ⟨whole, -⟩ := wrote.of_zero succeeded
    refine ⟨succeeded, kept _ _ rfl, FileSystem.content?_of_locate located ?_⟩
    rw [files, whole]
    exact FileSystem.get?_put_file (fun directory => by cases vacant.symm.trans directory) _

end Command

end DeltaSignature
