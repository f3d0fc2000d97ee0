import DeltaSignature.Params
import DeltaSignature.Text.Blank
import DeltaSignature.Text.Integer

/-!
# Sizes on the command line

A size is a decimal number of bytes, or of binary thousands, millions or thousand millions of them
when one of the letters K, M and G follows.  A block length is a size within the limits of a
signature.
-/

namespace DeltaSignature

/-- Why a text is no size.  It is invalid if what stands before the letter is no number. -/
inductive SizeError where
  | empty
  | invalid (text : String) (cause : Text.IntegerError)
  | overflow (text : String)
deriving DecidableEq, Repr

def SizeError.message : SizeError → String
  | empty => "empty size string"
  | invalid text cause => s!"invalid size '{text}': {cause.message}"
  | overflow text => s!"size overflow: '{text}'"

inductive BlockLengthError where
  | size (cause : SizeError)
  | zero
  | tooLarge (text : String)
deriving DecidableEq, Repr

def BlockLengthError.message : BlockLengthError → String
  | size cause => cause.message
  | zero => "block length must be at least 1"
  | tooLarge text => s!"block length too large: '{text}'"

namespace Size

/-- The number of bytes that a letter stands for. -/
def unit? : Char → Option Nat
  | 'k' | 'K' => some 0x400
  | 'm' | 'M' => some 0x10_0000
  | 'g' | 'G' => some 0x4000_0000
  | _ => none

/-- A text without blanks at its ends, split into a number and the unit it is counted in. -/
def split (text : List Char) : List Char × Nat :=
  match text.getLast?.bind unit? with
  | some unit => (text.dropLast, unit)
  | none => (text, 1)

def parse? (text : String) : Except SizeError Nat :=
  let trimmed := Text.trim text.toList
  if trimmed = [] then .error .empty
  else
    let (digits, unit) := split trimmed
    match Text.readUnsigned 0xffff_ffff_ffff_ffff (Text.trim digits) with
    | .error cause => .error (.invalid (String.ofList trimmed) cause)
    | .ok count =>
      if count * unit < 0x1_0000_0000_0000_0000 then .ok (count * unit)
      else .error (.overflow (String.ofList trimmed))

def parseBlockLength? (text : String) : Except BlockLengthError Nat :=
  match parse? text with
  | .error cause => .error (.size cause)
  | .ok length =>
    if length = 0 then .error .zero
    else if length < 0x8000_0000 then .ok length
    else .error (.tooLarge text)

end Size

end DeltaSignature
