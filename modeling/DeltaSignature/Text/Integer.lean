/-!
# Reading integers

Decimal integers with an optional sign are read from left to right, so the first thing that is
wrong with a text decides the error.
-/

namespace DeltaSignature

namespace Text

/-- Why a text is no integer.  A sign alone counts as an invalid digit. -/
inductive IntegerError where
  | empty
  | invalidDigit
  | tooLarge
  | tooSmall
deriving DecidableEq, Repr

def IntegerError.message : IntegerError → String
  | empty => "cannot parse integer from empty string"
  | invalidDigit => "invalid digit found in string"
  | tooLarge => "number too large to fit in target type"
  | tooSmall => "number too small to fit in target type"

def digit? (char : Char) : Option Nat :=
  if '0' ≤ char ∧ char ≤ '9' then some (char.toNat - '0'.toNat) else none

/-- Reads digits after a number, which stays at or below a bound. -/
def readDigits (bound : Nat) (beyond : IntegerError) (value : Nat) :
    List Char → Except IntegerError Nat
  | [] => .ok value
  | char :: text =>
    match digit? char with
    | none => .error .invalidDigit
    | some digit =>
      let value := 10 * value + digit
      if bound < value then .error beyond else readDigits bound beyond value text

/-- Reads at least one digit. -/
def readMagnitude (bound : Nat) (beyond : IntegerError) : List Char → Except IntegerError Nat
  | [] => .error .invalidDigit
  | text => readDigits bound beyond 0 text

/-- Reads a number up to a bound.  A plus sign may stand in front. -/
def readUnsigned (bound : Nat) : List Char → Except IntegerError Nat
  | [] => .error .empty
  | '+' :: text => readMagnitude bound .tooLarge text
  | text => readMagnitude bound .tooLarge text

/-- Reads an integer of 64 bits with a sign. -/
def readSigned : List Char → Except IntegerError Int
  | [] => .error .empty
  | '+' :: text => (readMagnitude 0x7fff_ffff_ffff_ffff .tooLarge text).map Int.ofNat
  | '-' :: text =>
    (readMagnitude 0x8000_0000_0000_0000 .tooSmall text).map fun magnitude => -(magnitude : Int)
  | text => (readMagnitude 0x7fff_ffff_ffff_ffff .tooLarge text).map Int.ofNat

end Text

end DeltaSignature
