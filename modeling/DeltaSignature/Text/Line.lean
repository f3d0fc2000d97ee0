/-!
# Lines of text

The first line of a text, and columns of a fixed width.
-/

namespace DeltaSignature

namespace Text

/-- A text up to the first line break. -/
def firstLine (text : String) : String :=
  let line := text.toList.takeWhile (· != '\n')
  let broken := line.length < text.length
  String.ofList (if broken ∧ line.getLast? = some '\r' then line.dropLast else line)

/-- A text with spaces in front, so that it has at least the given length. -/
def padLeft (width : Nat) (text : String) : String :=
  String.ofList (text.toList.leftpad width ' ')

/-- A text with spaces behind it, so that it has at least the given length. -/
def padRight (width : Nat) (text : String) : String :=
  String.ofList (text.toList.rightpad width ' ')

end Text

end DeltaSignature
