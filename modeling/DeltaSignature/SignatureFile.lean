import DeltaSignature.FileSystem.Open
import DeltaSignature.Generator
import DeltaSignature.Stream.Load

/-!
# Signature files

Loading a signature from a file, and signing one file into another.
-/

namespace DeltaSignature

/-- Files could not be opened; or they were opened, but no signature was loaded or generated. -/
inductive FileError where
  | io (failure : IoFailure)
  | load (cause : LoadError)
  | generate (cause : GenerateError)
deriving DecidableEq, Repr

namespace FileError

/-- The text of what lies behind the error. -/
def cause : FileError → String
  | io failure => failure.text
  | load cause => cause.message
  | generate cause => cause.message

def message (error : FileError) : String :=
  match error with
  | io _ => s!"I/O error: {error.cause}"
  | load _ => s!"load error: {error.cause}"
  | generate _ => s!"generate error: {error.cause}"

end FileError

namespace FileSystem

structure Loading where
  outcome : Except FileError (Index × Load.Stats)
  log : List Log.Line

def loadSignature (files : FileSystem) (path : String) : Loading :=
  match files.open? path with
  | .error failure => ⟨.error (.io failure), []⟩
  | .ok location =>
    let result := load (files.openAt location) (some (files.sizeAt location))
    ⟨result.outcome.mapError .load, result.decoder.log⟩

structure Signing where
  outcome : Except FileError Generator.Stats
  log : List Log.Line
  files : FileSystem

/-- Writes the signature of one file into another.  The basis is opened before the other file is
created, and read afterwards; whatever part of the signature was written stays. -/
def signFile (files : FileSystem) (basis signature : String) (layout : Layout)
    (memory : Memory) : Signing :=
  match files.open? basis with
  | .error failure => ⟨.error (.io failure), [], files⟩
  | .ok source =>
    match files.create signature with
    | .error failure => ⟨.error (.io failure), [], files⟩
    | .ok (destination, files) =>
      let result := sign layout memory (files.openAt source) files.sink
      match result.outcome with
      | .error cause => ⟨.error (.generate cause), result.log, files.close destination result.sink⟩
      | .ok stats =>
        match ByteSink.flush result.sink with
        | (.error failure, sink) => ⟨.error (.io failure), result.log, files.close destination sink⟩
        | (.ok (), sink) => ⟨.ok stats, result.log, files.close destination sink⟩

end FileSystem

end DeltaSignature
