import DeltaSignature.Command.Usage

/-!
# Reading a command line

Words are read from left to right, first up to the command and then behind it.  A value that
stands in a word of its own, and a path, is only checked when the next option or path comes, or
the end; words that cannot be placed are reported at once.
-/

namespace DeltaSignature

namespace Command

/-- What was given but not yet checked: paths, or an option, with its value once that has come. -/
inductive Pending where
  | nothing
  | setting (setting : Setting) (value : Option String)
  | paths (paths : List String)
deriving DecidableEq, Repr

/-- What was given before the command, or behind it. -/
structure Given where
  flags : List Flag := []
  blockLength : Option Nat := none
  strongLength : Option Nat := none
  paths : List String := []
  pending : Pending := .nothing
  pathsOnly : Bool := false
deriving DecidableEq, Repr

namespace Given

def pathLabel (level : Option Verb) (place : Nat) : String :=
  match level, place with
  | some .inspect, _ => "<FILES>..."
  | _, 0 => "[BASIS]"
  | _, _ => "[SIG]"

/-- Gives an option its value, which is only read if the option was not given before. -/
def assign (given : Given) (setting : Setting) (text : String) : Except UsageError Given :=
  match setting with
  | .blockLength =>
    if given.blockLength.isSome then .error (.repeated setting.label)
    else
      match Size.parseBlockLength? text with
      | .ok length => .ok { given with blockLength := some length }
      | .error cause => .error (.blockLength text cause)
  | .strongLength =>
    if given.strongLength.isSome then .error (.repeated setting.label)
    else
      match parseStrongLength? text with
      | .ok length => .ok { given with strongLength := some length }
      | .error cause => .error (.strongLength text cause)

def settle (given : Given) (level : Option Verb) : Except UsageError Given :=
  let settled := { given with pending := .nothing }
  match given.pending with
  | .nothing => .ok settled
  | .setting setting none => .error (.missingValue setting.label)
  | .setting setting (some text) => settled.assign setting text
  | .paths paths =>
    if paths.contains "" then .error (.missingValue (pathLabel level given.paths.length))
    else .ok { settled with paths := given.paths ++ paths }

def addFlag (given : Given) (level : Option Verb) (flag : Flag) : Except UsageError Given := do
  let given ← given.settle level
  match flag with
  | .help => .error .helpAsked
  | .version => .error .versionAsked
  | _ =>
    if flag ≠ .verbose ∧ flag ∈ given.flags then .error (.repeated flag.label)
    else return { given with flags := given.flags ++ [flag] }

/-- Takes an option with its value, if that was attached. -/
def addSetting (given : Given) (level : Option Verb) (setting : Setting) (value : Option String) :
    Except UsageError Given := do
  let given ← given.settle level
  match value with
  | some text => given.assign setting text
  | none => return { given with pending := .setting setting none }

/-- Takes the letters of a word that starts with one dash. -/
def addLetters (given : Given) (level : Option Verb) : List Char → Except UsageError Given
  | [] => .ok given
  | letter :: rest =>
    match (Flag.allowed level).find? (·.short? == some letter) with
    | some flag => do
      let given ← given.addFlag level flag
      given.addLetters level rest
    | none =>
      match (Setting.allowed level).find? (·.short == letter) with
      | some setting =>
        let value :=
          match rest with
          | [] => none
          | '=' :: text => some (String.ofList text)
          | text => some (String.ofList text)
        given.addSetting level setting value
      | none => .error (.unknownArgument ("-" ++ letter.toString))

/-- Takes a word that starts with two dashes, without these. -/
def addLong (given : Given) (level : Option Verb) (word : List Char) : Except UsageError Given :=
  let name := String.ofList (word.takeWhile (· != '='))
  let value :=
    match word.dropWhile (· != '=') with
    | [] => none
    | _ :: text => some (String.ofList text)
  match (Flag.allowed level).find? (·.long == name) with
  | some flag =>
    match value with
    | none => given.addFlag level flag
    | some text => .error (.surplusValue text flag.label)
  | none =>
    match (Setting.allowed level).find? (·.long == name) with
    | some setting => given.addSetting level setting value
    | none => .error (.unknownArgument ("--" ++ name))

/-- The number of paths for which a command has places, if there is a limit. -/
def maxPaths : Option Verb → Option Nat
  | some .signature => some 2
  | some .inspect => none
  | _ => some 0

/-- The paths that were given but not yet checked. -/
def waiting (given : Given) : List String :=
  match given.pending with
  | .paths paths => paths
  | _ => []

/-- Takes a path, after what was given before was checked. -/
def takePath (given : Given) (level : Option Verb) (path : String) : Except UsageError Given := do
  let given ← given.settle level
  return { given with pending := .paths [path] }

/-- Takes a path.  Places for several paths take in a run of them before any is checked. -/
def addPath (given : Given) (level : Option Verb) (path : String) : Except UsageError Given :=
  match maxPaths level, given.pending with
  | none, .paths paths => .ok { given with pending := .paths (paths ++ [path]) }
  | none, _ => given.takePath level path
  | some limit, _ =>
    if limit ≤ given.paths.length + given.waiting.length then .error (.unknownArgument path)
    else given.takePath level path

def addWord (level : Option Verb) (given : Given) (word : String) : Except UsageError Given :=
  if given.pathsOnly then given.addPath level word
  else
    match word.toList with
    | ['-', '-'] => .ok { given with pathsOnly := true }
    | '-' :: '-' :: name => given.addLong level name
    | '-' :: letter :: letters => given.addLetters level (letter :: letters)
    | _ =>
      match given.pending with
      | .setting setting none => .ok { given with pending := .setting setting (some word) }
      | _ => given.addPath level word

/-- Refuses quiet and verbose together; the option whose last occurrence is earlier comes first. -/
def checkConflict (given : Given) : Except UsageError Unit :=
  if .quiet ∈ given.flags ∧ .verbose ∈ given.flags then
    match given.flags.reverse.find? (fun flag => flag = .quiet ∨ flag = .verbose) with
    | some .verbose => .error (.conflict Flag.quiet.label Flag.verbose.label)
    | _ => .error (.conflict Flag.verbose.label Flag.quiet.label)
  else .ok ()

def ofWords (verb : Verb) (words : List String) : Except UsageError Given := do
  let given ← words.foldlM (addWord (some verb)) {}
  let given ← given.settle (some verb)
  given.checkConflict
  if verb = .inspect ∧ given.paths = [] then .error .missingPaths else return given

def task (given : Given) : Verb → Task
  | .signature =>
    .sign given.paths[0]? given.paths[1]? (.stdout ∈ given.flags)
      (given.blockLength.getD Layout.standard.blockLength)
      (given.strongLength.getD Layout.standard.strongLength)
  | .inspect => .inspect given.paths (.blocks ∈ given.flags)
  | .config => .config

/-- The options that were given before a command and behind it.  What stands behind counts more. -/
def options (before behind : Given) (verb : Verb) : Options :=
  let either (flag : Flag) : Bool := flag ∈ behind.flags ∨ flag ∈ before.flags
  let verbosity :=
    if .verbose ∈ behind.flags then behind.flags.count .verbose
    else before.flags.count .verbose
  { task := behind.task verb
    force := either .force
    quiet := either .quiet
    verbosity
    json := either .json }

end Given

/-- Whether a word can stand where a command should: the commands, and the request for help. -/
def isCommandWord (word : String) : Bool :=
  (Verb.ofName? word).isSome || word == "help"

/-- The outcome of a request for help on further words. -/
def helpOn : List String → UsageError
  | [] => .helpAsked
  | word :: rest =>
    if isCommandWord word then
      match rest with
      | [] => .helpAsked
      | further :: _ => .unknownCommand further
    else .unknownCommand word

/-- Reads the words up to the command, and then those behind it. -/
def readWords (given : Given) : List String → Except UsageError Options
  | [] => .error (if given.flags = [] then .nothingGiven else .missingCommand)
  | word :: rest =>
    if given.pathsOnly then
      .error (if isCommandWord word then .unknownArgument word else .unknownCommand word)
    else
      match Verb.ofName? word with
      | some verb => do
        let behind ← Given.ofWords verb rest
        given.checkConflict
        return given.options behind verb
      | none =>
        if word = "help" then .error (helpOn rest)
        else if word.startsWith "-" ∧ word ≠ "-" then do
          let given ← given.addWord none word
          readWords given rest
        else .error (.unknownCommand word)

/-- Reads a command line, without the name of the program. -/
def Options.ofArguments? (words : List String) : Except UsageError Options :=
  readWords {} words

end Command

end DeltaSignature
