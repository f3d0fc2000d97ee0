import DeltaSignature.Command.Arguments
import DeltaSignature.Command.Report
import DeltaSignature.SignatureFile

/-!
# Running a command

A command is a function of its options and of a world: files, standard input, the room behind
standard output, and the memory of the host.  Its outcome is an exit code, what was printed, and the
files afterwards.  The parser of command lines and the printers are parameters.
-/

namespace DeltaSignature

namespace Command

/-- What a command finds.  Reading standard input may fail behind the bytes that it holds, and
standard output may take only so many bytes of a signature or refuse to be flushed. -/
structure World where
  files : FileSystem
  input : ByteArray := .empty
  inputFailure : Option IoFailure := none
  outputRoom : Option Nat := none
  outputRefusal : Option IoFailure := none
  memory : Memory := .ordinary

/-- What a command leaves. -/
structure Transcript where
  exitCode : Nat
  output : ByteArray
  errors : String
  files : FileSystem

def unlines (lines : List String) : String :=
  String.join (lines.map (· ++ "\n"))

/-- What is printed of log lines. -/
def Printers.printLog (printers : Printers) (options : Options) (log : List Log.Line) : String :=
  String.join (log.map (printers.log options.logLevel))

def complaint (text : String) : String :=
  s!"{program}: {text}"

/-- The outcome of a command that ends before it has printed anything but these lines. -/
def refuse (world : World) (lines : List String) : Transcript :=
  { exitCode := 1, output := .empty, errors := unlines lines, files := world.files }

/-- The basis: a file, or standard input. -/
inductive Basis where
  | file (location : Location)
  | input

def Basis.find? (world : World) : Option String → Except String Basis
  | none => .ok .input
  | some path =>
    match world.files.open? path with
    | .ok location => .ok (.file location)
    | .error failure => .error (complaint s!"basis file: {path}: {failure.text}")

/-- The basis, opened for reading from its start. -/
def Basis.reader (world : World) (files : FileSystem) : Basis → Breaking Input
  | file location => files.openAt location
  | input => ⟨.ofStandard world.input, world.inputFailure⟩

/-- The path of the file that a signature goes to, if it does not go to standard output. -/
def wanted (signature : Option String) (toStandardOutput : Bool) : Option String :=
  if toStandardOutput then none else signature

/-- Where a signature goes: a new file, or standard output. -/
inductive Destination where
  | file (location : Location)
  | output

def Destination.create? (world : World) (force : Bool) :
    Option String → Except String (Destination × FileSystem)
  | none => .ok (.output, world.files)
  | some path =>
    if world.files.pathExists path ∧ ¬force then
      .error (complaint s!"output file exists, use -f to overwrite: {path}")
    else
      match world.files.create path with
      | .ok (location, files) => .ok (.file location, files)
      | .error failure => .error (complaint s!"output file: {path}: {failure.text}")

def Destination.sink (world : World) (files : FileSystem) : Destination → BufferedSink
  | file _ => files.sink
  | output =>
    { inner := {
        limit := world.outputRoom
        full := FileSystem.noSpaceLeft
        flushRefusal := world.outputRefusal } }

/-- What is printed after a basis was signed. -/
def signingReport (printers : Printers) (options : Options) (layout : Layout)
    (stats : Generator.Stats) : List String :=
  (if 0 < options.verbosity ∧ ¬options.quiet then [signingLine stats] else []) ++
  (if options.json then [printers.json (signingJson layout stats)] else [])

/-- What comes of signing a basis into a sink. -/
structure Signed where
  exitCode : Nat
  errors : String
  sink : BufferedSink

/-- Signs a basis into a sink, which is flushed once more in the end. -/
def signInto (printers : Printers) (options : Options) (layout : Layout) (memory : Memory)
    (reader : Breaking Input) (sink : BufferedSink) : Signed :=
  let result := sign layout memory reader sink
  let log := printers.printLog options result.log
  match result.outcome with
  | .error cause =>
    ⟨1, log ++ unlines [complaint s!"signature error: {cause.message}"], result.sink⟩
  | .ok stats =>
    match ByteSink.flush result.sink with
    | (.error failure, sink) =>
      ⟨1, log ++ unlines [complaint s!"write flush error: {failure.text}"], sink⟩
    | (.ok (), sink) => ⟨0, log ++ unlines (signingReport printers options layout stats), sink⟩

/-- What is left when the sink was closed. -/
def Destination.leave (files : FileSystem) (signed : Signed) (errors : String) :
    Destination → Transcript
  | output => { exitCode := signed.exitCode, output := signed.sink.close, errors, files }
  | file location =>
    { exitCode := signed.exitCode, output := .empty, errors,
      files := files.close location signed.sink }

def runSign (printers : Printers) (options : Options) (world : World)
    (basis signature : Option String) (toStandardOutput : Bool) (blockLength strongLength : Nat) :
    Transcript :=
  let warning :=
    match signature with
    | some path =>
      if toStandardOutput ∧ ¬options.quiet then
        [complaint s!"warning: -c option overrides output filename: {path}"]
      else []
    | none => []
  match Basis.find? world basis with
  | .error line => refuse world (warning ++ [line])
  | .ok basis =>
    match Destination.create? world options.force (wanted signature toStandardOutput) with
    | .error line => refuse world (warning ++ [line])
    | .ok (destination, files) =>
      let layout : Layout := { Layout.standard with blockLength, strongLength }
      let signed :=
        signInto printers options layout world.memory (basis.reader world files)
          (destination.sink world files)
      destination.leave files signed (unlines warning ++ signed.errors)

/-- A signature file with the outcome of loading it. -/
structure Inspection where
  path : String
  place : Nat
  loading : FileSystem.Loading

namespace Inspection

def outputLines (inspection : Inspection) (listBlocks : Bool) : List String :=
  match inspection.loading.outcome with
  | .ok (index, stats) =>
    (if 0 < inspection.place then [""] else []) ++
      signatureLines inspection.path index stats listBlocks
  | .error _ => []

def json? (inspection : Inspection) (listBlocks : Bool) : Option JsonValue :=
  match inspection.loading.outcome with
  | .ok (index, stats) => some (signatureJson inspection.path index stats listBlocks)
  | .error _ => none

def errorLines (inspection : Inspection) (options : Options) : List String :=
  match inspection.loading.outcome with
  | .ok (_, stats) =>
    if 1 < options.verbosity ∧ ¬options.quiet then
      [complaint s!"{inspection.path}: {stats.reads} reads"]
    else []
  | .error cause => [complaint s!"{inspection.path}: {cause.message}"]

def succeeded (inspection : Inspection) : Bool :=
  inspection.loading.outcome.toOption.isSome

end Inspection

/-- Reports on signature files.  All files are loaded before the first report. -/
def runInspect (printers : Printers) (options : Options) (world : World) (paths : List String)
    (listBlocks : Bool) : Transcript :=
  let inspections := paths.zipIdx.map fun (path, place) =>
    ({ path, place, loading := world.files.loadSignature path } : Inspection)
  let log := inspections.flatMap (·.loading.log)
  let output :=
    if options.json then
      [printers.json (.array (inspections.filterMap (·.json? listBlocks)))]
    else inspections.flatMap (·.outputLines listBlocks)
  let errors := inspections.flatMap (·.errorLines options)
  { exitCode := if inspections.all Inspection.succeeded then 0 else 1
    output := (unlines output).toUTF8
    errors := printers.printLog options log ++ unlines errors
    files := world.files }

def runConfig (world : World) : Transcript :=
  { exitCode := 0, output := .empty, errors := unlines configLines, files := world.files }

def run (printers : Printers) (options : Options) (world : World) : Transcript :=
  match options.task with
  | .sign basis signature toStandardOutput blockLength strongLength =>
    runSign printers options world basis signature toStandardOutput blockLength strongLength
  | .inspect paths listBlocks => runInspect printers options world paths listBlocks
  | .config => runConfig world

/-- The outcome of a command line that runs no command.  Help and the version are printed when they
were asked for, and everything else is an error. -/
def reject (world : World) (error : UsageError) : Transcript :=
  match error with
  | .helpAsked | .versionAsked =>
    { exitCode := 0, output := error.printed.toUTF8, errors := "", files := world.files }
  | _ => { exitCode := 2, output := .empty, errors := error.printed, files := world.files }

/-- Reads command lines, and tells what becomes of one that is not accepted. -/
structure Parser (ε : Type) where
  parse : List String → Except ε Options
  reject : World → ε → Transcript

def Parser.standard : Parser UsageError where
  parse := Options.ofArguments?
  reject := Command.reject

/-- Reads a command line and runs it. -/
def execute {ε : Type} (parser : Parser ε) (printers : Printers) (arguments : List String)
    (world : World) : Transcript :=
  match parser.parse arguments with
  | .ok options => run printers options.resolve world
  | .error error => parser.reject world error

end Command

end DeltaSignature
