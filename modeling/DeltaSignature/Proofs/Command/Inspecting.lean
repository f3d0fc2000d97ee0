import DeltaSignature.Proofs.Command.Printing
import DeltaSignature.Proofs.Index.Lookup
import DeltaSignature.Proofs.Index.Offers
import DeltaSignature.Proofs.Stream.Files
import DeltaSignature.Proofs.Stream.Noting
import DeltaSignature.Proofs.Stream.RoundTrip

/-!
# The inspect command

Every file is reported on by itself: what is printed about it is a matter of its path and its bytes
(`Summary.ofStream`), and a file that cannot be read or holds no signature costs one line and the
exit code.  A defect in a field is logged as well, before the first of these lines.
-/

namespace DeltaSignature

open BigEndian (wordAt)

/-- The number that the four bytes at a place write, the first of them counting most. -/
def numberAt (stream : ByteArray) (place : Nat) : Nat :=
  Nat.ofDigits 256 ((stream.extract place (place + 4)).data.toList.reverse.map UInt8.toNat)

/-- What a signature stream tells, read off its bytes: its header, and the weak and strong sums of
the records behind it. -/
structure Summary where
  tag : Nat
  blockLength : Nat
  strongLength : Nat
  records : List (Nat × ByteArray)

namespace Summary

def ofStream (stream : ByteArray) : Summary :=
  let strongLength := numberAt stream 8
  { tag := numberAt stream 0
    blockLength := numberAt stream 4
    strongLength
    records := (List.range ((stream.size - 12) / (4 + strongLength))).map fun number =>
      let place := 12 + number * (4 + strongLength)
      (numberAt stream place, stream.extract (place + 4) (place + 4 + strongLength)) }

/-- The number of bytes of the header and the records. -/
def size (summary : Summary) : Nat :=
  12 + summary.records.length * (4 + summary.strongLength)

/-- The number of different weak sums. -/
def distinctWeak (summary : Summary) : Nat :=
  (summary.records.map Prod.fst).toFinset.card

/-- The names of the formats that have one. -/
def formatNames : List (Nat × String) :=
  [(0x72730136, "md4"), (0x72730137, "blake2"), (0x72730146, "rabinkarp-md4"),
    (0x72730147, "rabinkarp-blake2"), (0x6f787301, "adler32-sha256")]

def formatName (summary : Summary) : String :=
  (formatNames.lookup summary.tag).getD "unknown"

/-- The report on a file with this content as JSON, with or without a list of the records. -/
def json (summary : Summary) (path : String) (listBlocks : Bool) : JsonValue :=
  let listing := summary.records.mapIdx fun number (weak, strong) => JsonValue.object
    [("index", .number number), ("strong", .string (hexOf strong)), ("weak", .number weak)]
  let figures : List (String × JsonValue) :=
    [ ("blocks", .number summary.records.length),
      ("distinct_weak", .number summary.distinctWeak),
      ("file", .string path),
      ("format", .string summary.formatName),
      ("magic", .number summary.tag),
      ("signature_size", .number summary.size),
      ("strong_len", .number summary.strongLength) ]
  .object <| ("block_len", .number summary.blockLength) ::
    if listBlocks then ("block_list", .array listing) :: figures else figures

/-- The report on a file with this content as text. -/
def lines (summary : Summary) (path : String) (listBlocks : Bool) : List String :=
  let listing := summary.records.mapIdx fun number (weak, strong) =>
    "  " ++ inColumn 8 number ++ "  " ++ inColumn 14 (number * summary.blockLength) ++ "  " ++
      hexOfWord weak ++ "  " ++ hexOf strong
  [ "file:                " ++ path,
    "format:              0x" ++ hexOfWord summary.tag ++ " (" ++ summary.formatName ++ ")",
    "block length:        " ++ toString summary.blockLength,
    "strong sum length:   " ++ toString summary.strongLength,
    "blocks:              " ++ toString summary.records.length,
    "distinct weak sums:  " ++ toString summary.distinctWeak,
    "signature size:      " ++ toString summary.size ] ++
  if listBlocks then listing else []

end Summary

section Summing

variable {stream : ByteArray} {index : Index}

theorem toNat_wordAt {place : Nat} (inside : place + 4 ≤ stream.size) :
    (wordAt stream place).toNat = numberAt stream place := by
  have four : (stream.extract place (place + 4)).size = 4 := by
    rw [ByteArray.size_extract]
    omega
  rw [wordAt, numberAt]
  generalize stream.extract place (place + 4) = bytes at four
  rw [BigEndian.eq_of_size_four four, BigEndian.toNat_decode]
  simp only [List.reverse_cons, List.reverse_nil, List.nil_append, List.cons_append, List.map_cons,
    List.map_nil, Nat.ofDigits_cons, Nat.ofDigits_nil]
  omega

theorem size_of_decode? (decoded : Index.decode? stream = .ok index) :
    stream.size = 12 + index.size * (4 + index.params.strongLength) := by
  obtain ⟨params, records, fit, rfl, rfl⟩ := decode?_eq_ok_iff.1 decoded
  have none : (Index.empty params).size = 0 := rfl
  rw [ByteArray.size_append, Params.size_header, size_body fit, Index.size_addAll,
    Index.params_addAll, none, Nat.zero_add]
  rfl

/-- What an index holds, with the figures that are reported of it. -/
def Index.summary (index : Index) : Summary where
  tag := index.params.tag.toNat
  blockLength := index.params.blockLength
  strongLength := index.params.strongLength
  records := index.blocks.map fun block => (block.weak.toNat, block.strong)

theorem length_records_summary (index : Index) : index.summary.records.length = index.size :=
  (List.length_map _).trans index.length_blocks

/-- The blocks of an index are its records, numbered from zero on. -/
theorem map_blocks {α : Type} {ofBlock : Block → α} {ofRecord : Nat → Nat × ByteArray → α}
    (index : Index)
    (same : ∀ block, ofBlock block = ofRecord block.number (block.weak.toNat, block.strong)) :
    index.blocks.map ofBlock = index.summary.records.mapIdx ofRecord := by
  refine List.ext_getElem (by simp [Index.summary]) fun number _ _ => ?_
  simp [Index.summary, Index.blocks, same, Index.blockAt]

theorem distinctWeak_of_decode? (decoded : Index.decode? stream = .ok index) :
    index.distinctWeak = index.summary.distinctWeak := by
  obtain ⟨params, records, fit, -, rfl⟩ := decode?_eq_ok_iff.1 decoded
  rw [(Index.lists_addAll params fit).distinctWeak_eq]
  generalize (Index.empty params).addAll records = index
  have numbers : index.summary.records.map Prod.fst =
      (index.blocks.map Block.weak).map UInt32.toNat := by
    rw [Index.summary, List.map_map, List.map_map]
    rfl
  rw [Summary.distinctWeak, numbers, List.card_toFinset, List.card_toFinset,
    List.dedup_map_of_injective fun _ _ => UInt32.toNat_inj.1, List.length_map]

/-- The records that are read behind a header lie within the stream. -/
theorem map_records (stream : ByteArray) (strongLength : Nat) :
    ((List.range ((stream.size - 12) / (4 + strongLength))).map fun number =>
      let place := 12 + number * (4 + strongLength)
      ((wordAt stream place).toNat, stream.extract (place + 4) (place + 4 + strongLength))) =
      (List.range ((stream.size - 12) / (4 + strongLength))).map fun number =>
        let place := 12 + number * (4 + strongLength)
        (numberAt stream place, stream.extract (place + 4) (place + 4 + strongLength)) := by
  refine List.map_congr_left fun number member => ?_
  have whole := Nat.mul_le_of_le_div _ _ _ (Nat.succ_le_of_lt (List.mem_range.1 member))
  rw [Nat.succ_mul] at whole
  simp only [toNat_wordAt (show 12 + number * (4 + strongLength) + 4 ≤ stream.size by omega)]

/-- An index holds what the bytes tell that it was decoded from. -/
theorem summary_of_decode? (decoded : Index.decode? stream = .ok index) :
    index.summary = .ofStream stream := by
  have size := size_of_decode? decoded
  rcases decode?_cases stream with ⟨defect, -, refused⟩ | ⟨params, -, accepted, found⟩
  · cases decoded.symm.trans refused
  · obtain ⟨tag, blockLength, strongLength⟩ := Params.ofHeader?_eq_ok_iff.1 accepted
    have same := Index.params_addAll (.empty params)
      (records params.strongLength (stream.extract 12 stream.size))
    have blocks := blocks_of_records params stream
    rw [← Except.ok.inj (decoded.symm.trans found)] at same blocks
    have fields : index.params = params := same
    rw [toNat_wordAt (by omega)] at blockLength strongLength
    have first : (wordAt stream 0).toNat = numberAt stream 0 := toNat_wordAt (by omega)
    rw [Index.summary, fields, blocks, List.map_map, Summary.ofStream, ← strongLength,
      ← blockLength, ← first, ← tag]
    exact congrArg (Summary.mk _ _ _) (map_records stream params.strongLength)

theorem size_summary (decoded : Index.decode? stream = .ok index) :
    (Summary.ofStream stream).size = stream.size := by
  rw [← summary_of_decode? decoded, size_of_decode? decoded, Summary.size, length_records_summary]
  rfl

theorem lookup_formats (formats : List Format) (tag : UInt32) :
    (formats.map fun format => (format.tag.toNat, format.name)).lookup tag.toNat =
      (formats.find? (·.tag == tag)).map Format.name := by
  induction formats with
  | nil => rfl
  | cons format formats ih =>
    by_cases named : format.tag = tag
    · simp [named]
    · have other : (tag.toNat == format.tag.toNat) = false :=
        beq_false_of_ne fun same => named (UInt32.toNat_inj.1 same).symm
      simp [List.lookup_cons, other, named, ih]

theorem formatName_summary (index : Index) :
    index.summary.formatName = Format.nameOfTag index.params.tag :=
  congrArg (·.getD "unknown") (lookup_formats
    [.md4, .blake2, .rabinKarpMd4, .rabinKarpBlake2, .adler32Sha256] index.params.tag)

end Summing

/-- What is logged about a stream that is at fault in one of its fields. -/
def LoadError.fault? : LoadError → Option Log.Line
  | malformed (.params _) => none
  | malformed (.truncated field held needed) =>
    some ⟨.error, "signature " ++ (Malformed.truncated field held needed).message⟩
  | malformed defect => some ⟨.error, defect.message⟩
  | _ => none

namespace Command

section Reports

variable {stream : ByteArray} {index : Index} (path : String) (listBlocks : Bool)

theorem signatureJson_of_decode? (reads : Nat) (decoded : Index.decode? stream = .ok index) :
    signatureJson path index (.ofIndex stream reads index) listBlocks =
      (Summary.ofStream stream).json path listBlocks := by
  have size := size_summary decoded
  have listing : index.blocks.map blockJson =
      index.summary.records.mapIdx fun number (weak, strong) => JsonValue.object
        [("index", .number number), ("strong", .string (hexOf strong)), ("weak", .number weak)] :=
    map_blocks index fun block => by rw [blockJson, Hex.ofBytes_eq]
  rw [← summary_of_decode? decoded] at size ⊢
  unfold signatureJson Summary.json Load.Stats.ofIndex
  rw [size, distinctWeak_of_decode? decoded, length_records_summary, formatName_summary, listing]
  cases listBlocks <;> rfl

theorem signatureLines_of_decode? (reads : Nat) (decoded : Index.decode? stream = .ok index) :
    signatureLines path index (.ofIndex stream reads index) listBlocks =
      (Summary.ofStream stream).lines path listBlocks := by
  have size := size_summary decoded
  rw [← summary_of_decode? decoded] at size ⊢
  have listing : index.blocks.map (blockLine index.params.blockLength) =
      index.summary.records.mapIdx fun number (weak, strong) =>
        "  " ++ inColumn 8 number ++ "  " ++ inColumn 14 (number * index.params.blockLength) ++
          "  " ++ hexOfWord weak ++ "  " ++ hexOf strong :=
    map_blocks index fun block => by
      rw [blockLine, Hex.ofBytes_eq, Hex.ofWord_eq]
      rfl
  unfold signatureLines Summary.lines Load.Stats.ofIndex
  rw [size, distinctWeak_of_decode? decoded, length_records_summary, formatName_summary, listing,
    Hex.ofWord_eq]
  rfl

end Reports

section Inspections

variable (files : FileSystem) (options : Options) (listBlocks : Bool) (path : String) (place : Nat)

/-- The lines of the report on a file, if there is a signature in it.  An empty line comes first,
except for the first path. -/
def textReport : Except FileError (ByteArray × Index) → List String
  | .ok (stream, _) =>
    (if 0 < place then [""] else []) ++ (Summary.ofStream stream).lines path listBlocks
  | .error _ => []

/-- What is said about a file besides the report: why there is none, or, if that is asked for, with
how many reads it was loaded. -/
def remark? : Except FileError (ByteArray × Index) → Option String
  | .ok (stream, _) =>
    if 1 < options.verbosity ∧ options.quiet = false then
      some ("oxisync: " ++ path ++ ": " ++ toString ((stream.size + 65535) / 65536 + 1) ++ " reads")
    else none
  | .error cause => some ("oxisync: " ++ path ++ ": " ++ cause.message)

/-- What is logged about a file that is at fault in one of its fields. -/
def faultLine? {α : Type} : Except FileError α → Option Log.Line
  | .error (.load cause) => cause.fault?
  | _ => none

/-- The file at a path, inspected in its place. -/
def inspectionOf : Inspection :=
  { path, place, loading := files.loadSignature path }

theorem outcome_inspectionOf :
    (inspectionOf files path place).loading.outcome =
      (files.signatureAt path).map fun found =>
        (found.2, .ofIndex found.1 (Load.readsOf found.1.size) found.2) :=
  files.outcome_loadSignature path

theorem json?_inspectionOf :
    (inspectionOf files path place).json? listBlocks =
      (files.signatureAt path).toOption.map fun found =>
        (Summary.ofStream found.1).json path listBlocks := by
  rw [Inspection.json?, outcome_inspectionOf]
  cases found : files.signatureAt path with
  | error cause => rfl
  | ok pair =>
    have decoded := (FileSystem.signatureAt_eq_ok_iff.1 found).2
    exact congrArg some (signatureJson_of_decode? path listBlocks _ decoded)

theorem outputLines_inspectionOf :
    (inspectionOf files path place).outputLines listBlocks =
      textReport listBlocks path place (files.signatureAt path) := by
  rw [Inspection.outputLines, outcome_inspectionOf]
  cases found : files.signatureAt path with
  | error cause => rfl
  | ok pair =>
    have decoded := (FileSystem.signatureAt_eq_ok_iff.1 found).2
    have same := signatureLines_of_decode? path listBlocks (Load.readsOf pair.1.size) decoded
    exact congrArg ((if 0 < place then [""] else []) ++ ·) same

theorem errorLines_inspectionOf :
    (inspectionOf files path place).errorLines options =
      (remark? options path (files.signatureAt path)).toList := by
  rw [Inspection.errorLines, outcome_inspectionOf]
  cases files.signatureAt path with
  | ok pair =>
    simp only [Except.map, remark?, Bool.not_eq_true]
    split <;> rfl
  | error cause => rfl

theorem succeeded_inspectionOf :
    (inspectionOf files path place).succeeded = (files.signatureAt path).isOk := by
  rw [Inspection.succeeded, outcome_inspectionOf]
  cases files.signatureAt path <;> rfl

theorem faultLine?_map {α β : Type} (ofFound : α → β) (found : Except FileError α) :
    faultLine? (found.map ofFound) = faultLine? found := by
  cases found with
  | ok => rfl
  | error cause => cases cause <;> rfl

theorem faultLine?_mapError {α : Type} (outcome : Except LoadError α) :
    (faultLine? (outcome.mapError FileError.load)).toList =
      (noted outcome).map fun defect => (Decoder.Note.defect defect).line := by
  cases outcome with
  | ok => rfl
  | error cause =>
    cases cause with
    | malformed defect => cases defect <;> rfl
    | _ => rfl

/-- Loading a file logs nothing that matters but the defect that it ends with, if it does. -/
theorem urgent_log_loadSignature :
    Log.urgent (files.loadSignature path).log = (faultLine? (files.signatureAt path)).toList := by
  have same : faultLine? (files.signatureAt path) =
      faultLine? (files.loadSignature path).outcome := by
    rw [files.outcome_loadSignature, faultLine?_map]
  rw [same]
  unfold FileSystem.loadSignature
  split
  next => rfl
  next => rw [urgent_log_load, faultLine?_mapError]

end Inspections

section Runs

variable (printers : Printers) (world : World) (options : Options) (files : FileSystem)
  (paths : List String) (listBlocks : Bool)

/-- All the files, each inspected in its place. -/
def inspections : List Inspection :=
  paths.zipIdx.map fun (path, place) => inspectionOf files path place

variable {files} in
/-- What does not depend on the place of a file is a matter of its path only. -/
theorem map_inspections {α : Type} {ofInspection : Inspection → α} {ofPath : String → α}
    (same : ∀ path place, ofInspection (inspectionOf files path place) = ofPath path) :
    (inspections files paths).map ofInspection = paths.map ofPath := by
  conv_rhs => rw [← List.zipIdx_map_fst 0 paths, List.map_map]
  rw [inspections, List.map_map]
  exact List.map_congr_left fun item _ => same item.1 item.2

theorem filterMap_json?_inspections :
    (inspections files paths).filterMap (·.json? listBlocks) =
      paths.filterMap fun path => (files.signatureAt path).toOption.map fun found =>
        (Summary.ofStream found.1).json path listBlocks := by
  have same : (inspections files paths).map (·.json? listBlocks) = paths.map _ :=
    map_inspections paths (json?_inspectionOf files listBlocks)
  have read := congrArg (List.filterMap id) same
  rwa [List.filterMap_map, List.filterMap_map] at read

theorem flatMap_outputLines_inspections :
    (inspections files paths).flatMap (·.outputLines listBlocks) =
      paths.zipIdx.flatMap fun (path, place) =>
        textReport listBlocks path place (files.signatureAt path) := by
  rw [inspections, List.flatMap_map]
  simp only [outputLines_inspectionOf]

theorem flatMap_errorLines_inspections :
    (inspections files paths).flatMap (·.errorLines options) =
      paths.filterMap fun path => remark? options path (files.signatureAt path) := by
  have same : (inspections files paths).map (·.errorLines options) = paths.map _ :=
    map_inspections paths (errorLines_inspectionOf files options)
  rw [List.flatMap_def, same, ← List.flatMap_def, List.filterMap_eq_flatMap_toList]

theorem flatMap_log_inspections :
    (inspections files paths).flatMap (·.loading.log) =
      paths.flatMap fun path => (files.loadSignature path).log := by
  have same : (inspections files paths).map (·.loading.log) =
      paths.map fun path => (files.loadSignature path).log := map_inspections paths fun _ _ => rfl
  rw [List.flatMap_def, same, List.flatMap_def]

theorem all_succeeded_inspections :
    (inspections files paths).all Inspection.succeeded =
      paths.all fun path => (files.signatureAt path).isOk := by
  have same := map_inspections paths (succeeded_inspectionOf files)
  have read := congrArg (List.all · id) same
  rwa [List.all_map, List.all_map] at read

/-- The exit code tells whether some path has no signature. -/
theorem exitCode_eq_one_iff :
    (if paths.all fun path => (files.signatureAt path).isOk then 0 else 1) = 1 ↔
      ∃ path ∈ paths, ∃ cause, files.signatureAt path = .error cause := by
  have failing (path : String) : ¬ (files.signatureAt path).isOk = true ↔
      ∃ cause, files.signatureAt path = .error cause := by
    cases files.signatureAt path with
    | ok found => exact ⟨fun failed => absurd rfl failed, nofun⟩
    | error cause => exact ⟨fun _ => ⟨cause, rfl⟩, fun _ => Bool.false_ne_true⟩
  simp only [← failing]
  cases all : paths.all fun path => (files.signatureAt path).isOk with
  | true =>
    have none := List.all_eq_true.1 all
    exact ⟨nofun, fun ⟨path, member, failed⟩ => absurd (none path member) failed⟩
  | false =>
    have some := List.all_eq_false.1 all
    exact ⟨fun _ => some, fun _ => rfl⟩

/-- What the command leaves, put together from what there is to be said about each path. -/
theorem runInspect_eq :
    let found := world.files.signatureAt
    runInspect printers options world paths listBlocks =
      { exitCode := if paths.all fun path => (found path).isOk then 0 else 1
        output := (inLines (if options.json then
            [printers.json (.array (paths.filterMap fun path => (found path).toOption.map
              fun found => (Summary.ofStream found.1).json path listBlocks))]
          else paths.zipIdx.flatMap fun (path, place) =>
            textReport listBlocks path place (found path))).toUTF8
        errors := printers.printLog options
            (paths.flatMap fun path => (world.files.loadSignature path).log) ++
          inLines (paths.filterMap fun path => remark? options path (found path))
        files := world.files } := by
  intro found
  have whole : (paths.zipIdx.map fun (path, place) =>
      ({ path, place, loading := world.files.loadSignature path } : Inspection)) =
        inspections world.files paths := rfl
  unfold runInspect
  rw [whole]
  simp only [filterMap_json?_inspections, flatMap_outputLines_inspections,
    flatMap_errorLines_inspections, flatMap_log_inspections, all_succeeded_inspections,
    unlines_eq, found]

end Runs

section Logging

variable {printers : Printers} {options : Options}

/-- A printer of log lines leaves out those that matter less than what is wanted. -/
def Printers.Filters (printers : Printers) : Prop :=
  ∀ wanted (line : Log.Line), wanted.rank < line.level.rank → printers.log wanted line = ""

theorem filters_standard : Printers.standard.Filters :=
  fun _ _ less => if_neg (Nat.not_le.2 less)

/-- If no details are wanted, only what is urgent is printed of a log. -/
theorem printLog_eq_urgent (filters : printers.Filters)
    (brief : options.quiet = true ∨ options.verbosity = 0) (log : List Log.Line) :
    printers.printLog options log = printers.printLog options (Log.urgent log) := by
  have wanted : options.logLevel.rank ≤ Log.Level.warn.rank := by
    unfold Options.logLevel
    split
    next => decide
    next loud =>
      obtain quiet | plain := brief
      · exact absurd quiet loud
      · rw [plain]
        exact Nat.le_refl _
  rw [Printers.printLog, Printers.printLog, Log.urgent]
  induction log with
  | nil => rfl
  | cons line log ih =>
    rw [List.map_cons, String.join_cons, ih]
    by_cases urgent : line.level.rank ≤ Log.Level.warn.rank
    · rw [List.filter_cons_of_pos (by simpa using urgent), List.map_cons, String.join_cons]
    · rw [List.filter_cons_of_neg (by simpa using urgent), filters _ _ (by omega),
        String.empty_append]

theorem urgent_flatMap_log (files : FileSystem) (paths : List String) :
    Log.urgent (paths.flatMap fun path => (files.loadSignature path).log) =
      paths.filterMap fun path => faultLine? (files.signatureAt path) := by
  rw [Log.urgent, List.filter_flatMap, List.filterMap_eq_flatMap_toList]
  exact List.flatMap_congr fun path _ => urgent_log_loadSignature files path

/-- If no details are wanted, each file at fault in a field is logged about once, and then there are
the remarks. -/
theorem errors_runInspect (filters : printers.Filters)
    (brief : options.quiet = true ∨ options.verbosity = 0) (world : World) (paths : List String)
    (listBlocks : Bool) :
    (runInspect printers options world paths listBlocks).errors =
      String.join ((paths.filterMap fun path =>
        faultLine? (world.files.signatureAt path)).map (printers.log options.logLevel)) ++
        inLines (paths.filterMap fun path =>
          remark? options path (world.files.signatureAt path)) := by
  have printed := printLog_eq_urgent filters brief
    (paths.flatMap fun path => (world.files.loadSignature path).log)
  rw [urgent_flatMap_log] at printed
  rw [runInspect_eq]
  exact congrArg (· ++ _) printed

end Logging

/-- The inspect command changes no file, and says of every file what it would say of that file
alone: on standard error why it could not be loaded, or else a report on standard output with the
figures of its bytes.  It fails if a file cannot be read or its bytes are not a signature.  What is
logged while the files are loaded comes before all that is said on standard error; if no details are
wanted, that is one line for each file at fault in a field. -/
theorem run_inspects (printers : Printers) (options : Options) (world : World)
    (paths : List String) (listBlocks : Bool) :
    let transcript := run printers { options with task := .inspect paths listBlocks } world
    let found := world.files.signatureAt
    let remarks := inLines (paths.filterMap fun path => remark? options path (found path))
    transcript.files = world.files ∧ transcript.exitCode ≤ 1 ∧
    (transcript.exitCode = 1 ↔ ∃ path ∈ paths,
      (∃ failure, world.files.readAll path = .error failure) ∨
        ∃ stream cause, world.files.readAll path = .ok stream ∧
          Index.decode? stream = .error cause) ∧
    transcript.errors = String.join ((paths.flatMap fun path =>
      (world.files.loadSignature path).log).map (printers.log options.logLevel)) ++ remarks ∧
    (printers.Filters → options.quiet = true ∨ options.verbosity = 0 →
      transcript.errors = String.join ((paths.filterMap fun path =>
        faultLine? (found path)).map (printers.log options.logLevel)) ++ remarks) ∧
    (options.json = true → transcript.output = (printers.json
      (.array (paths.filterMap fun path => (found path).toOption.map fun found =>
        (Summary.ofStream found.1).json path listBlocks)) ++ "\n").toUTF8) ∧
    (options.json = false → transcript.output = (inLines
      (paths.zipIdx.flatMap fun (path, place) =>
        textReport listBlocks path place (found path))).toUTF8) ∧
    (∀ path stream index, found path = .ok (stream, index) ↔
      world.files.readAll path = .ok stream ∧ Index.decode? stream = .ok index) ∧
    ∀ stream index, Index.decode? stream = .ok index →
      stream.size = (Summary.ofStream stream).size := by
  intro transcript found remarks
  have ran : transcript = _ :=
    runInspect_eq printers world { options with task := .inspect paths listBlocks } paths listBlocks
  rw [ran]
  refine ⟨rfl, ?_, ?_, rfl, fun filters brief => ?_, fun json => ?_, fun text => ?_,
    fun path stream index => FileSystem.signatureAt_eq_ok_iff,
    fun stream index decoded => (size_summary decoded).symm⟩
  · split
    next => exact Nat.zero_le 1
    next => exact Nat.le_refl 1
  · simp only [← FileSystem.signatureAt_eq_error_iff]
    exact exitCode_eq_one_iff world.files paths
  · rw [← ran]
    exact errors_runInspect filters brief world paths listBlocks
  · simp only [json, if_true, inLines_singleton]
    rfl
  · simp only [text]
    rfl

/-- A file that ends within its first record costs two lines on standard error, one of them in the
log. -/
theorem inspect_truncated_errors :
    let stream : ByteArray := ⟨#[0x72, 0x73, 1, 0x37, 0, 0, 8, 0, 0, 0, 0, 0, 1, 2]⟩
    let world : World := { files := { working := [], entries := [(["sig"], .file stream)] } }
    let transcript := run .standard ⟨.inspect ["sig"] false, false, false, 0, false⟩ world
    world.files.readAll "sig" = .ok stream ∧
      (∃ cause, Index.decode? stream = .error cause) ∧
      transcript.errors =
        "[ERROR] signature input ended inside weak sum: have 2 of 4 bytes\n" ++
          "oxisync: sig: load error: malformed signature: " ++
          "input ended inside weak sum: have 2 of 4 bytes\n" ∧
      transcript.errors.toList.count '\n' ≠ ["sig"].length := by
  intro stream world transcript
  have opened : world.files.open? "sig" = .ok ["sig"] := by cbv
  have readable : world.files.faultAt ["sig"] = none := by cbv
  have read : world.files.readAll "sig" = .ok stream := by
    unfold FileSystem.readAll
    simp only [opened, readable]
    rfl
  have found : firstDefect? stream = some (.truncated .weakSum 2 4) := by decide +kernel
  have refused : Index.decode? stream = .error (.malformed (.truncated .weakSum 2 4)) := by
    rcases decode?_cases stream with ⟨defect, same, refused⟩ | ⟨params, clean, -⟩
    · obtain rfl := Option.some.inj (found.symm.trans same)
      exact refused
    · cases clean.symm.trans found
  have shown : world.files.shownAt ["sig"] = stream := by
    rw [FileSystem.shownAt, readable]
    rfl
  have unfound : world.files.signatureAt "sig" =
      .error (.load (.malformed (.truncated .weakSum 2 4))) := by
    unfold FileSystem.signatureAt
    simp only [opened, shown, readable, Option.map_none, Load.ofBytes, refused]
  have errors : transcript.errors =
      "[ERROR] signature input ended inside weak sum: have 2 of 4 bytes\n" ++
        "oxisync: sig: load error: malformed signature: " ++
        "input ended inside weak sum: have 2 of 4 bytes\n" := by
    have same : transcript.errors = _ :=
      errors_runInspect filters_standard (.inr rfl) world ["sig"] false
    rw [same]
    simp only [List.filterMap_cons, List.filterMap_nil, unfound]
    decide +kernel
  refine ⟨read, ⟨_, refused⟩, errors, ?_⟩
  rw [errors]
  decide +kernel

end Command

end DeltaSignature
