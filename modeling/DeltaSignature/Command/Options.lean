import DeltaSignature.Generator
import DeltaSignature.Command.Size

/-!
# Options

What a command line asks for, the words and letters with which it can be asked, and what can be
wrong with it.
-/

namespace DeltaSignature

namespace Command

def program : String :=
  "oxisync"

def version : String :=
  "0.1.0"

inductive Verb where
  | signature
  | inspect
  | config
deriving DecidableEq, Repr

def Verb.name : Verb → String
  | signature => "signature"
  | inspect => "inspect"
  | config => "config"

def Verb.ofName? (word : String) : Option Verb :=
  [signature, inspect, config].find? (·.name == word)

/-- The options without a value. -/
inductive Flag where
  | force
  | quiet
  | verbose
  | json
  | stdout
  | blocks
  | help
  | version
deriving DecidableEq, Repr

namespace Flag

def long : Flag → String
  | force => "force"
  | quiet => "quiet"
  | verbose => "verbose"
  | json => "json"
  | stdout => "stdout"
  | blocks => "blocks"
  | help => "help"
  | version => "version"

def short? : Flag → Option Char
  | force => some 'f'
  | quiet => some 'q'
  | verbose => some 'v'
  | json => none
  | stdout => some 'c'
  | blocks => none
  | help => some 'h'
  | version => some 'V'

def label : Flag → String
  | verbose => "--verbose..."
  | flag => "--" ++ flag.long

/-- The options that may stand before the command, or after the given one. -/
def allowed : Option Verb → List Flag
  | none => [force, quiet, verbose, json, help, version]
  | some .signature => [stdout, force, quiet, verbose, json, help]
  | some .inspect => [blocks, force, quiet, verbose, json, help]
  | some .config => [force, quiet, verbose, json, help]

end Flag

/-- The options with a value. -/
inductive Setting where
  | blockLength
  | strongLength
deriving DecidableEq, Repr

namespace Setting

def long : Setting → String
  | blockLength => "block-len"
  | strongLength => "strong-len"

def short : Setting → Char
  | blockLength => 'b'
  | strongLength => 'S'

def label : Setting → String
  | blockLength => "--block-len <BLOCK_LEN>"
  | strongLength => "--strong-len <STRONG_LEN>"

/-- The options that may stand after a command. -/
def allowed : Option Verb → List Setting
  | some .signature => [blockLength, strongLength]
  | _ => []

end Setting

inductive StrongLengthError where
  | integer (cause : Text.IntegerError)
  | range (value : Int)
deriving DecidableEq, Repr

def StrongLengthError.message : StrongLengthError → String
  | integer cause => cause.message
  | range value => s!"{value} is not in 0..={maxStrongLength}"

def parseStrongLength? (text : String) : Except StrongLengthError Nat :=
  match Text.readSigned text.toList with
  | .error cause => .error (.integer cause)
  | .ok value =>
    if value < 0 ∨ maxStrongLength < value then .error (.range value) else .ok value.toNat

/-- What a command line asks for besides options that all commands share. -/
inductive Task where
  | sign (basis signature : Option String) (toStandardOutput : Bool)
      (blockLength strongLength : Nat)
  | inspect (paths : List String) (listBlocks : Bool)
  | config
deriving DecidableEq, Repr

/-- What a command line asks for. -/
structure Options where
  task : Task
  force : Bool
  quiet : Bool
  verbosity : Nat
  json : Bool
deriving DecidableEq, Repr

/-- The options as commands take them: asking for more than two degrees of detail gives no more. -/
def Options.resolve (options : Options) : Options :=
  { options with verbosity := min options.verbosity 2 }

/-- The least important log lines that are shown. -/
def Options.logLevel (options : Options) : Log.Level :=
  if options.quiet then .error
  else
    match options.verbosity with
    | 0 => .warn
    | 1 => .info
    | _ => .debug

end Command

end DeltaSignature
