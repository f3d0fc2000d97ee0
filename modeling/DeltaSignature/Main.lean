import DeltaSignature.Command.Run

/-!
# The program

Gathers the part of the world that a command line speaks of, runs the command on it, and puts its
outcome into effect.
-/

namespace DeltaSignature

namespace Program

def paths : Command.Task → List String
  | .sign basis signature _ _ _ => basis.toList ++ signature.toList
  | .inspect paths _ => paths
  | .config => []

/-- The locations that names lead through, from a location on. -/
def passed (location : Location) : List String → List Location
  | [] => []
  | name :: rest =>
    let next :=
      if name = "" ∨ name = "." then location
      else if name = ".." then location.dropLast
      else location ++ [name]
    next :: passed next rest

def absolute (location : Location) : String :=
  "/" ++ "/".intercalate location

def survey (location : Location) : IO (Option (Location × Entry)) := do
  let path := (← IO.currentDir) / absolute location
  if ← path.isDir then return some (location, .directory)
  else if ← path.pathExists then return some (location, .file (← IO.FS.readBinFile path))
  else return none

/-- Looks up everything that a task speaks of. -/
def gather (task : Command.Task) : IO Command.World := do
  let working := ((← IO.currentDir).components).filter (· ≠ "")
  let empty : FileSystem := { working, entries := [] }
  let locations := (paths task).flatMap fun path =>
    passed (empty.base path) (FileSystem.names path)
  let entries ← locations.eraseDups.filterMapM survey
  let input ←
    match task with
    | .sign none _ _ _ _ => (← IO.getStdin).readBinToEnd
    | _ => pure .empty
  return { files := { working, entries }, input }

/-- Writes the files that differ from what was found, and prints what is to be printed. -/
def effect (before : FileSystem) (transcript : Command.Transcript) : IO UInt32 := do
  for (location, entry) in transcript.files.entries do
    match entry with
    | .file bytes =>
      unless before.get? location = some entry do
        IO.FS.writeBinFile (absolute location) bytes
    | .directory => pure ()
  let output ← IO.getStdout
  output.write transcript.output
  output.flush
  IO.eprint transcript.errors
  return UInt32.ofNat transcript.exitCode

end Program

end DeltaSignature

open DeltaSignature in
def main (arguments : List String) : IO UInt32 := do
  match Command.Options.ofArguments? arguments with
  | .ok options =>
    let world ← Program.gather options.task
    Program.effect world.files (Command.run .standard options.resolve world)
  | .error error =>
    let nowhere : Command.World := { files := { working := [], entries := [] } }
    Program.effect nowhere.files (Command.reject nowhere error)
