/-!
# Blank characters

The characters with the Unicode property White_Space, and the removal of such characters from the
two ends of a text.
-/

namespace DeltaSignature

namespace Text

/-- The blank characters, as ranges of code points. -/
def blankRanges : List (Nat × Nat) :=
  [(0x09, 0x0d), (0x20, 0x20), (0x85, 0x85), (0xa0, 0xa0), (0x1680, 0x1680), (0x2000, 0x200a),
    (0x2028, 0x2029), (0x202f, 0x202f), (0x205f, 0x205f), (0x3000, 0x3000)]

def isBlank (char : Char) : Bool :=
  blankRanges.any fun (first, last) => first ≤ char.toNat && char.toNat ≤ last

/-- A text without blank characters at its start. -/
def trimLeft (text : List Char) : List Char :=
  text.dropWhile isBlank

/-- A text without blank characters at its two ends. -/
def trim (text : List Char) : List Char :=
  (trimLeft (trimLeft text).reverse).reverse

end Text

end DeltaSignature
