import DeltaSignature.Text.Line

/-!
# Log lines

What a decoder or a mapper does is kept as notes; a log line is the readable form of a note.
-/

namespace DeltaSignature

namespace Log

/-- How much a line matters, most important first. -/
inductive Level where
  | error
  | warn
  | info
  | debug
  | trace
deriving DecidableEq, Repr

namespace Level

/-- The place in the order of importance, starting at zero. -/
def rank : Level → Nat
  | error => 0
  | warn => 1
  | info => 2
  | debug => 3
  | trace => 4

def name : Level → String
  | error => "ERROR"
  | warn => "WARN"
  | info => "INFO"
  | debug => "DEBUG"
  | trace => "TRACE"

end Level

structure Line where
  level : Level
  text : String
deriving DecidableEq, Repr

/-- The line as printed: the level in brackets, padded to the longest name, and the text. -/
def Line.render (line : Line) : String :=
  s!"[{Text.padRight 5 line.level.name}] {line.text}"

end Log

end DeltaSignature
