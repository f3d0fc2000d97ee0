import DeltaSignature.Bytes
import DeltaSignature.Transfer.Failure

/-!
# Files and directories

A file system is a finite table from locations to files and directories, together with a working
directory from which relative paths start.  Locations are lists of names; paths are texts, which
are walked name by name.  At any location something may stand in the way of what is to be done
there.
-/

namespace DeltaSignature

/-- What stands at a location. -/
inductive Entry where
  | file (bytes : ByteArray)
  | directory
deriving DecidableEq

/-- The names that lead from the root to an entry. -/
abbrev Location :=
  List String

/-- What fails at a location, besides what its entry makes impossible: following a path through a
directory, opening an entry for reading, making a file or emptying the one that is there, and
reading a file beyond some place. -/
structure Obstacle where
  entering : Option IoFailure := none
  opening : Option IoFailure := none
  creating : Option IoFailure := none
  reading : Option (Nat × IoFailure) := none
deriving DecidableEq

/-- Files and directories.  The working directory, from which relative paths start, exists, and so
does all above it; the other entries are listed.  There may be limited room for a new file. -/
structure FileSystem where
  working : Location
  entries : List (Location × Entry)
  obstacle : Location → Obstacle := fun _ => {}
  room : Option Nat := none

namespace FileSystem

def noSuchFile : IoFailure :=
  ⟨.notFound, "No such file or directory (os error 2)"⟩

/-- The failure of a path that goes on behind a file. -/
def notADirectory : IoFailure :=
  ⟨.notADirectory, "Not a directory (os error 20)"⟩

def isADirectory : IoFailure :=
  ⟨.isADirectory, "Is a directory (os error 21)"⟩

def noSpaceLeft : IoFailure :=
  ⟨.storageFull, "No space left on device (os error 28)"⟩

/-- The failure of a path with a name or a length beyond the limits. -/
def nameTooLong : IoFailure :=
  ⟨.nameTooLong, "File name too long (os error 36)"⟩

/-- The failure of a path that no path can be. -/
def nulInName : IoFailure :=
  ⟨.invalidInput, "file name contained an unexpected NUL byte"⟩

def get? (files : FileSystem) (location : Location) : Option Entry :=
  if location.isPrefixOf files.working then some .directory
  else files.entries.lookup location

/-- The file system with another entry at a location. -/
def put (files : FileSystem) (location : Location) (entry : Entry) : FileSystem :=
  { files with entries := (location, entry) :: files.entries.filter (·.1 != location) }

/-- The names in the working directory, with what stands there. -/
def listing (files : FileSystem) : List (String × Entry) :=
  files.entries.filterMap fun (location, entry) =>
    match location.getLast? with
    | some name => if location.dropLast = files.working then some (name, entry) else none
    | none => none

theorem get?_put_self (files : FileSystem) {location : Location} (entry : Entry)
    (elsewhere : location.isPrefixOf files.working = false) :
    (files.put location entry).get? location = some entry := by
  simp [get?, put, elsewhere]

theorem lookup_filter_ne (entries : List (Location × Entry)) {location other : Location}
    (different : other ≠ location) :
    (entries.filter (·.1 != location)).lookup other = entries.lookup other := by
  induction entries with
  | nil => rfl
  | cons entry entries ih =>
    obtain ⟨place, value⟩ := entry
    by_cases dropped : place = location
    · have keyOther : (other == location) = false := by simpa using different
      simp [dropped, List.lookup_cons, ih, keyOther]
    · simp [dropped, List.lookup_cons, ih]

theorem get?_put_of_ne (files : FileSystem) {location other : Location} (entry : Entry)
    (different : other ≠ location) : (files.put location entry).get? other = files.get? other := by
  have keyOther : (other == location) = false := by simpa using different
  simp [get?, put, List.lookup_cons, keyOther, lookup_filter_ne files.entries different]

def maxNameLength : Nat :=
  255

def maxPathLength : Nat :=
  4095

/-- Refuses texts that are no paths at all. -/
def checkPath (path : String) : Except IoFailure Unit :=
  if path.contains '\x00' then .error nulInName
  else if maxPathLength < path.utf8ByteSize then .error nameTooLong
  else .ok ()

def base (files : FileSystem) (path : String) : Location :=
  if path.startsWith "/" then [] else files.working

/-- The names of a path.  Empty names stand where slashes follow each other. -/
def names (path : String) : List String :=
  path.splitOn "/"

def orFail : Option IoFailure → Except IoFailure Unit
  | none => .ok ()
  | some failure => .error failure

/-- Refuses what is no directory, and directories that may not be entered. -/
def enter (files : FileSystem) (location : Location) : Except IoFailure Unit :=
  match files.get? location with
  | some .directory => orFail (files.obstacle location).entering
  | some (.file _) => .error notADirectory
  | none => .error noSuchFile

/-- Follows one name from a location, which has to be a directory. -/
def step (files : FileSystem) (location : Location) (name : String) :
    Except IoFailure Location := do
  files.enter location
  if name = "" ∨ name = "." then return location
  else if name = ".." then return location.dropLast
  else if maxNameLength < name.utf8ByteSize then .error nameTooLong
  else return location ++ [name]

def walk (files : FileSystem) (location : Location) (names : List String) :
    Except IoFailure Location :=
  names.foldlM files.step location

/-- The location of an entry that exists; the empty path names none. -/
def locate (files : FileSystem) (path : String) : Except IoFailure Location := do
  checkPath path
  let location ← files.walk (files.base path) (names path)
  if path ≠ "" ∧ (files.get? location).isSome then return location else .error noSuchFile

/-- The location of an entry that may be opened for reading. -/
def open? (files : FileSystem) (path : String) : Except IoFailure Location := do
  let location ← files.locate path
  orFail (files.obstacle location).opening
  return location

def pathExists (files : FileSystem) (path : String) : Bool :=
  (files.locate path).toOption.isSome

/-- The location at which a path may name a file to be written. -/
def target (files : FileSystem) (path : String) : Except IoFailure Location := do
  checkPath path
  match (names path).filter (· ≠ "") |>.reverse with
  | [] => .error isADirectory
  | name :: above =>
    let parent ← files.walk (files.base path) above.reverse
    files.enter parent
    if name = "." ∨ name = ".." ∨ (names path).getLast? = some "" then .error isADirectory
    else
      let location ← files.step parent name
      if files.get? location = some .directory then .error isADirectory else return location

/-- Makes an empty file, in place of a file that may have been there. -/
def create (files : FileSystem) (path : String) : Except IoFailure (Location × FileSystem) := do
  let location ← files.target path
  orFail (files.obstacle location).creating
  return (location, files.put location (.file .empty))

end FileSystem

end DeltaSignature
