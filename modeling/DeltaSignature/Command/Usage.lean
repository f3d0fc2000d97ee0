import DeltaSignature.Command.Options
import DeltaSignature.Text.Line
import DeltaSignature.Text.Terminal

/-!
# Usage errors

What can be wrong with a command line, and the requests that end the program before a command runs.
-/

namespace DeltaSignature

namespace Command

/-- Why no command is run.  A word that is no option is unknown if there is no place for it; of two
options that exclude each other the one given first comes first. -/
inductive UsageError where
  | unknownArgument (shown : String)
  | unknownCommand (word : String)
  | blockLength (text : String) (cause : BlockLengthError)
  | strongLength (text : String) (cause : StrongLengthError)
  | missingValue (label : String)
  | surplusValue (value label : String)
  | repeated (label : String)
  | conflict (first second : String)
  | missingPaths
  | missingCommand
  | nothingGiven
  | helpAsked
  | versionAsked
deriving DecidableEq, Repr

namespace UsageError

def about : String :=
  "rsync-style signature generator and inspector"

/-- A text between quotes, as a terminal shows it. -/
def quoted (text : String) : String :=
  s!"'{Text.emphasized text}'"

/-- The text behind the word that marks errors. -/
def describe : UsageError → String
  | unknownArgument shown => s!"unexpected argument {quoted shown} found"
  | unknownCommand word => s!"unrecognized subcommand {quoted word}"
  | blockLength text cause =>
    s!"invalid value {quoted text} for {quoted Setting.blockLength.label}: {cause.message}"
  | strongLength text cause =>
    s!"invalid value {quoted text} for {quoted Setting.strongLength.label}: {cause.message}"
  | missingValue label => s!"a value is required for {quoted label} but none was supplied"
  | surplusValue value label =>
    s!"unexpected value {quoted value} for {quoted label} found; no more were expected"
  | repeated label => s!"the argument {quoted label} cannot be used multiple times"
  | conflict first second => s!"the argument {quoted first} cannot be used with {quoted second}"
  | missingPaths => "the following required arguments were not provided:"
  | missingCommand => s!"{quoted program} requires a subcommand but one was not provided"
  | nothingGiven | helpAsked => about
  | versionAsked => s!"{program} {version}"

/-- Whether the text is information that was asked for, or is shown unasked, and no error. -/
def isInformation : UsageError → Bool
  | nothingGiven | helpAsked | versionAsked => true
  | _ => false

/-- The text for a terminal. -/
def text (error : UsageError) : String :=
  if error.isInformation then error.describe ++ "\n"
  else
    Text.emphasized "error:" ++ " " ++ error.describe ++
      "\n\nFor more information, try " ++ quoted "--help" ++ ".\n"

/-- The first line of the text, for a reader that is no terminal. -/
def message (error : UsageError) : String :=
  Text.firstLine (Text.plain .ends error.text)

/-- The text as it is printed where there is no terminal. -/
def printed (error : UsageError) : String :=
  Text.plain .pauses error.text

end UsageError

end Command

end DeltaSignature
