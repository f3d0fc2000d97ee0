import DeltaSignature.Command.Run
import DeltaSignature.Proofs.Bytes

/-!
# Lines, digits and columns

What the small printers put together for reports, in terms of the characters that come out.
-/

namespace DeltaSignature

/-- Texts, each on a line of its own. -/
def inLines (texts : List String) : String :=
  String.ofList (texts.flatMap fun text => text.toList ++ ['\n'])

/-- The hexadecimal digits of bytes, two for each. -/
def hexOf (bytes : ByteArray) : String :=
  String.ofList (bytes.data.toList.flatMap fun byte =>
    [Nat.digitChar (byte.toNat / 16), Nat.digitChar (byte.toNat % 16)])

/-- The eight hexadecimal digits of a number of four bytes. -/
def hexOfWord (number : Nat) : String :=
  String.ofList ((List.range 8).reverse.map fun place => Nat.digitChar (number / 16 ^ place % 16))

/-- A number at the right of a column. -/
def inColumn (width number : Nat) : String :=
  String.ofList ((toString number).toList.leftpad width ' ')

theorem inLines_singleton (text : String) : inLines [text] = text ++ "\n" := by
  apply String.toList_injective
  rw [inLines, List.flatMap_singleton, String.toList_ofList, String.toList_append]
  rfl

theorem Command.unlines_eq (lines : List String) : unlines lines = inLines lines := by
  apply String.toList_injective
  rw [unlines, inLines, String.toList_join, List.flatMap_map, String.toList_ofList]
  simp only [String.toList_append]
  rfl

namespace Hex

theorem digit_eq {value : Nat} (small : value < 16) : digit value = Nat.digitChar value := by
  have all : ∀ value < 16, digit value = Nat.digitChar value := by decide
  exact all value small

theorem ofBytes_eq (bytes : ByteArray) : ofBytes bytes = hexOf bytes := by
  -- The fold starts with the digits of the bytes before.
  have general (rest : List UInt8) (text : String) :
      (rest.foldl (fun text byte =>
        (text.push (digit (byte.toNat / 16))).push (digit (byte.toNat % 16))) text).toList =
        text.toList ++ rest.flatMap fun byte =>
          [Nat.digitChar (byte.toNat / 16), Nat.digitChar (byte.toNat % 16)] := by
    induction rest generalizing text with
    | nil => rw [List.foldl_nil, List.flatMap_nil, List.append_nil]
    | cons byte rest ih =>
      have bound := byte.toNat_lt
      rw [List.foldl_cons, ih, digit_eq (by omega), digit_eq (by omega)]
      simp only [String.toList_push, List.flatMap_cons, List.append_assoc, List.cons_append,
        List.nil_append]
  apply String.toList_injective
  rw [ofBytes, hexOf, ← Array.foldl_toList, general]
  simp only [String.toList_ofList, String.toList_empty, List.nil_append]

theorem ofWord_eq (word : UInt32) : ofWord word = hexOfWord word.toNat := by
  have shifted24 : (word >>> 24).toNat = word.toNat / 2 ^ 24 := Nat.shiftRight_eq_div_pow ..
  have shifted16 : (word >>> 16).toNat = word.toNat / 2 ^ 16 := Nat.shiftRight_eq_div_pow ..
  have shifted8 : (word >>> 8).toNat = word.toNat / 2 ^ 8 := Nat.shiftRight_eq_div_pow ..
  have high (value : Nat) : value % 256 / 16 = value / 16 % 16 := by omega
  have low (value : Nat) : value % 256 % 16 = value % 16 := by omega
  have places : (List.range 8).reverse = [7, 6, 5, 4, 3, 2, 1, 0] := rfl
  rw [ofWord, ofBytes_eq, hexOf, hexOfWord, BigEndian.encode, places]
  simp only [List.flatMap_cons, List.flatMap_nil, List.cons_append, List.nil_append, List.map_cons,
    List.map_nil, UInt32.toNat_toUInt8, shifted24, shifted16, shifted8, Nat.reducePow, high, low,
    Nat.div_div_eq_div_mul, Nat.reduceMul, Nat.div_one]

end Hex

end DeltaSignature
