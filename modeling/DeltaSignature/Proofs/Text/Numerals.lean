import DeltaSignature.Proofs.Text.Trimming
import DeltaSignature.Text.Integer
import Mathlib.Data.Nat.Digits.Defs

/-!
# Numbers as they are written

A number is written with at least one digit to the base ten, and a plus sign may stand in front.
Reading accepts just this, as long as the number does not exceed the bound: a number that has
exceeded it on the way does so in the end as well.
-/

namespace DeltaSignature

namespace Text

/-- The number that these digits make to the base ten. -/
def decimalValue (digits : List Char) : Nat :=
  Nat.ofDigits 10 (digits.map fun digit => digit.toNat - '0'.toNat).reverse

/-- The text writes this number, with or without a sign in front. -/
inductive Numeral : List Char → Nat → Prop where
  | bare {digits : List Char} (present : digits ≠ [])
      (decimal : ∀ digit ∈ digits, digit.isDigit = true) : Numeral digits (decimalValue digits)
  | signed {digits : List Char} (present : digits ≠ [])
      (decimal : ∀ digit ∈ digits, digit.isDigit = true) :
      Numeral ('+' :: digits) (decimalValue digits)

variable {bound value : Nat} {beyond : IntegerError} {digits text : List Char} {char : Char}

theorem isDigit_iff : char.isDigit = true ↔ '0' ≤ char ∧ char ≤ '9' := by
  simp [Char.isDigit, Char.le_def]

theorem toNat_of_isDigit (decimal : char.isDigit = true) :
    0x30 ≤ char.toNat ∧ char.toNat ≤ 0x39 := by
  obtain ⟨low, high⟩ := isDigit_iff.1 decimal
  exact ⟨UInt32.le_iff_toNat_le.1 low, UInt32.le_iff_toNat_le.1 high⟩

theorem digit?_of_isDigit (decimal : char.isDigit = true) :
    digit? char = some (char.toNat - '0'.toNat) :=
  if_pos (isDigit_iff.1 decimal)

theorem digit?_of_not_isDigit (other : ¬ char.isDigit = true) : digit? char = none :=
  if_neg fun inside => other (isDigit_iff.2 inside)

theorem decimalValue_cons (digit : Char) (digits : List Char) :
    decimalValue (digit :: digits) =
      10 ^ digits.length * (digit.toNat - '0'.toNat) + decimalValue digits := by
  rw [decimalValue, List.map_cons, Nat.ofDigits_reverse_cons, List.length_map, Nat.add_comm]
  rfl

theorem readDigits_eq (decimal : ∀ digit ∈ digits, digit.isDigit = true)
    (inside : value ≤ bound) :
    readDigits bound beyond value digits =
      if 10 ^ digits.length * value + decimalValue digits ≤ bound then
        .ok (10 ^ digits.length * value + decimalValue digits)
      else .error beyond := by
  induction digits generalizing value with
  | nil =>
    have same : 10 ^ ([] : List Char).length * value + decimalValue [] = value := by
      simp [decimalValue]
    rw [readDigits, same, if_pos inside]
  | cons digit digits ih =>
    obtain ⟨first, later⟩ := List.forall_mem_cons.1 decimal
    have grown : 10 ^ (digit :: digits).length * value + decimalValue (digit :: digits) =
        10 ^ digits.length * (10 * value + (digit.toNat - '0'.toNat)) + decimalValue digits := by
      rw [decimalValue_cons, List.length_cons]
      ring
    rw [readDigits, digit?_of_isDigit first, grown]
    simp only
    split
    next exceeds =>
      have atLeast := Nat.le_mul_of_pos_left (10 * value + (digit.toNat - '0'.toNat))
        (Nat.pow_pos (n := digits.length) (show 0 < 10 by decide))
      rw [if_neg (by omega)]
    next within => exact ih later (by omega)

theorem decimal_of_readDigits (read : ∃ number, readDigits bound beyond value text = .ok number) :
    ∀ char ∈ text, char.isDigit = true := by
  obtain ⟨number, read⟩ := read
  induction text generalizing value with
  | nil => simp
  | cons char text ih =>
    rw [readDigits] at read
    by_cases decimal : char.isDigit = true
    · rw [digit?_of_isDigit decimal] at read
      simp only at read
      split at read
      next => cases read
      next => exact List.forall_mem_cons.2 ⟨decimal, ih read⟩
    · rw [digit?_of_not_isDigit decimal] at read
      cases read

theorem readMagnitude_eq (present : digits ≠ [])
    (decimal : ∀ digit ∈ digits, digit.isDigit = true) :
    readMagnitude bound beyond digits =
      if decimalValue digits ≤ bound then .ok (decimalValue digits) else .error beyond := by
  have read : readDigits bound beyond 0 digits = _ := readDigits_eq decimal (Nat.zero_le bound)
  rw [Nat.mul_zero, Nat.zero_add] at read
  cases digits with
  | nil => exact absurd rfl present
  | cons digit digits => exact read

theorem numeral_of_readMagnitude (read : readMagnitude bound beyond text = .ok value) :
    text ≠ [] ∧ ∀ char ∈ text, char.isDigit = true := by
  cases text with
  | nil => cases read
  | cons char text => exact ⟨List.cons_ne_nil _ _, decimal_of_readDigits ⟨value, read⟩⟩

theorem Numeral.readUnsigned_eq (numeral : Numeral text value) :
    readUnsigned bound text = if value ≤ bound then .ok value else .error .tooLarge := by
  cases numeral with
  | bare present decimal =>
    unfold readUnsigned
    split
    next => exact absurd rfl present
    next =>
      have plus := decimal '+' List.mem_cons_self
      contradiction
    next => exact readMagnitude_eq present decimal
  | signed present decimal => exact readMagnitude_eq present decimal

theorem exists_numeral_of_readUnsigned (read : readUnsigned bound text = .ok value) :
    ∃ number, Numeral text number := by
  unfold readUnsigned at read
  split at read
  next => cases read
  next =>
    obtain ⟨present, decimal⟩ := numeral_of_readMagnitude read
    exact ⟨_, .signed present decimal⟩
  next =>
    obtain ⟨present, decimal⟩ := numeral_of_readMagnitude read
    exact ⟨_, .bare present decimal⟩

/-- Just the written numbers up to the bound are read, each as itself. -/
theorem readUnsigned_eq_ok_iff :
    readUnsigned bound text = .ok value ↔ Numeral text value ∧ value ≤ bound := by
  constructor
  · intro read
    obtain ⟨number, numeral⟩ := exists_numeral_of_readUnsigned read
    rw [numeral.readUnsigned_eq] at read
    split at read
    next within =>
      obtain rfl := Except.ok.inj read
      exact ⟨numeral, within⟩
    next => cases read
  · rintro ⟨numeral, within⟩
    rw [numeral.readUnsigned_eq, if_pos within]

theorem isBlank_of_isDigit (decimal : char.isDigit = true) : isBlank char = false := by
  obtain ⟨low, high⟩ := toNat_of_isDigit decimal
  exact isBlank_of_printable (by omega) (by omega)

theorem Numeral.trimmed (numeral : Numeral text value) : Trimmed text := by
  cases numeral with
  | bare present decimal =>
    constructor
    · exact fun char starts => isBlank_of_isDigit (decimal char (List.mem_of_mem_head? starts))
    · exact fun char ends => isBlank_of_isDigit (decimal char (List.mem_of_mem_getLast? ends))
  | signed present decimal =>
    constructor
    · rintro char ⟨⟩
      decide
    · intro char ends
      rw [List.getLast?_cons_of_ne_nil present] at ends
      exact isBlank_of_isDigit (decimal char (List.mem_of_mem_getLast? ends))

theorem Numeral.exists_last (numeral : Numeral text value) :
    ∃ last, text.getLast? = some last ∧ last.isDigit = true := by
  cases numeral with
  | bare present decimal =>
    exact ⟨_, List.getLast?_eq_some_getLast present, decimal _ (List.getLast_mem present)⟩
  | signed present decimal =>
    refine ⟨_, ?_, decimal _ (List.getLast_mem present)⟩
    rw [List.getLast?_cons_of_ne_nil present, List.getLast?_eq_some_getLast present]

theorem Numeral.ne_nil (numeral : Numeral text value) : text ≠ [] := by
  cases numeral with
  | bare present => exact present
  | signed => exact List.cons_ne_nil _ _

end Text

end DeltaSignature
