/-!
# Text for a terminal

A terminal prints some characters and takes others for control sequences, which begin with an
escape.  Where there is no terminal, a text is printed without its control sequences.  Texts that
quote what a user typed may hold any of them, also ones that never end.
-/

namespace DeltaSignature

namespace Text

/-- What a terminal is in the middle of: plain text, a control sequence of which only the escape
character has come, or a later part of one.  A message to a device has parameters, marks and a body,
which is not printed. -/
inductive TerminalMode where
  | text
  | escape
  | short
  | parameters
  | device
  | deviceParameters
  | deviceMarks
  | body
  | title
deriving DecidableEq, Repr

/-- Whether a control character divides words or lines. -/
def isBreak (char : Char) : Bool :=
  char == '\t' || char == '\n' || char == '\x0c' || char == '\r'

/-- Whether the byte that ends the body of a message is among the bytes of a character. -/
def endsBody (char : Char) : Bool :=
  (String.utf8EncodeChar char).contains 0x9c

namespace TerminalMode

/-- What a terminal does on a control character: where it is then, and whether it prints.  Inside a
message nothing is printed, and a bell ends a title. -/
def control (mode : TerminalMode) (char : Char) : TerminalMode × Bool :=
  match mode with
  | text | escape | short | parameters => (mode, isBreak char)
  | device | deviceParameters | deviceMarks | body => (mode, false)
  | title => (if char = '\x07' then text else title, false)

/-- What a terminal does on a visible character or a space. -/
def visible (mode : TerminalMode) (char : Char) : TerminalMode × Bool :=
  let code := char.toNat
  match mode with
  | text => (text, true)
  | escape =>
    match char with
    | '[' => (parameters, false)
    | ']' => (title, false)
    | 'P' => (device, false)
    | 'X' | '^' | '_' => (body, false)
    | _ => (if code < 0x30 then short else text, false)
  | short => (if code < 0x30 then short else text, false)
  | parameters => (if code < 0x40 then parameters else text, false)
  | device =>
    (if code < 0x30 then deviceMarks else if code < 0x40 then deviceParameters else body, false)
  | deviceParameters =>
    (if code < 0x30 then deviceMarks else if code < 0x3c then deviceParameters else body, false)
  | deviceMarks => (if code < 0x30 then deviceMarks else body, false)
  | body => (body, false)
  | title => (title, false)

/-- What a terminal does on a character beyond ASCII, which belongs to no control sequence. -/
def foreign (mode : TerminalMode) (char : Char) : TerminalMode × Bool :=
  match mode with
  | text => (text, true)
  | body => (if endsBody char then text else body, false)
  | _ => (mode, false)

/-- What a terminal does on a character.  An escape starts a control sequence wherever it stands,
and a cancel or a substitute ends one. -/
def next (mode : TerminalMode) (char : Char) : TerminalMode × Bool :=
  if char = '\x1b' then (escape, false)
  else if char = '\x18' ∨ char = '\x1a' then (text, false)
  else if char.toNat < 0x20 then mode.control char
  else if char.toNat < 0x7f then mode.visible char
  else if char.toNat = 0x7f then (mode, false)
  else mode.foreign char

end TerminalMode

/-- What becomes of a control sequence in which a break is printed.  One that pauses goes on with
the next thing that is not printed, and a character beyond ASCII ends it. -/
inductive Interruption where
  | ends
  | pauses
deriving DecidableEq, Repr

/-- A terminal in the middle of something that may have paused, so that plain text is printed. -/
structure Terminal where
  mode : TerminalMode := .text
  paused : Bool := false
deriving DecidableEq, Repr

namespace Terminal

/-- What becomes of a terminal that prints a character. -/
def afterPrinting (rule : Interruption) (terminal : Terminal) (char : Char) : Terminal :=
  match rule with
  | .ends => {}
  | .pauses => if char.toNat < 0x80 then { terminal with paused := true } else {}

/-- What a terminal does on a character: how it is left, and whether it prints. -/
def next (rule : Interruption) (terminal : Terminal) (char : Char) : Terminal × Bool :=
  let mode := if terminal.paused then .text else terminal.mode
  if (mode.next char).2 then (terminal.afterPrinting rule char, true)
  else ({ mode := (terminal.mode.next char).1 }, false)

/-- The characters of a text that a terminal prints. -/
def printed (rule : Interruption) (terminal : Terminal) : List Char → List Char
  | [] => []
  | char :: rest =>
    let (terminal, prints) := terminal.next rule char
    if prints then char :: printed rule terminal rest else printed rule terminal rest

end Terminal

/-- A text without control sequences, and without control characters that divide nothing. -/
def plain (rule : Interruption) (text : String) : String :=
  String.ofList (Terminal.printed rule {} text.toList)

/-- A text that a terminal prints in bold.  The sequences around it also end any control sequence
before it and inside it. -/
def emphasized (text : String) : String :=
  "\x1b[1m" ++ text ++ "\x1b[0m"

end Text

end DeltaSignature
