import DeltaSignature.Text.Blank
import Mathlib.Data.List.DropRight

/-!
# What is left when blanks are removed

A text is what is left of it with blanks around, and what is left neither starts nor ends with a
blank.  Conversely a text with such ends is what is left of it with any blanks around.
-/

namespace DeltaSignature

namespace Text

variable {text core front back : List Char} {char : Char}

def Blank (text : List Char) : Prop :=
  ∀ char ∈ text, isBlank char = true

/-- The text neither starts nor ends with a blank. -/
structure Trimmed (text : List Char) : Prop where
  head : ∀ char ∈ text.head?, isBlank char = false
  last : ∀ char ∈ text.getLast?, isBlank char = false

/-- The printable ASCII characters are not blank. -/
theorem isBlank_of_printable (low : 0x21 ≤ char.toNat) (high : char.toNat ≤ 0x7e) :
    isBlank char = false := by
  rw [isBlank, List.any_eq_false]
  intro range member
  have apart : range.2 < 0x21 ∨ 0x7e < range.1 := by
    revert range
    decide
  simp only [Bool.and_eq_true, decide_eq_true_eq]
  omega

theorem blank_nil : Blank [] := by
  simp [Blank]

theorem trim_eq_rdropWhile (text : List Char) :
    trim text = (text.dropWhile isBlank).rdropWhile isBlank :=
  rfl

theorem exists_eq_trim (text : List Char) :
    ∃ front back, Blank front ∧ Blank back ∧ text = front ++ trim text ++ back := by
  refine ⟨text.takeWhile isBlank, (text.dropWhile isBlank).rtakeWhile isBlank,
    fun _ member => List.mem_takeWhile_imp member,
    fun _ member => List.mem_rtakeWhile_imp member, ?_⟩
  rw [trim_eq_rdropWhile, List.append_assoc, List.rdropWhile_append_rtakeWhile,
    List.takeWhile_append_dropWhile]

theorem trimmed_trim (text : List Char) : Trimmed (trim text) := by
  rw [trim_eq_rdropWhile]
  constructor
  case head =>
    intro char starts
    obtain ⟨rest, shape⟩ := List.head?_eq_some_iff.1 starts
    have solid (present : text.dropWhile isBlank ≠ []) :
        isBlank ((text.dropWhile isBlank).head present) = false :=
      List.head_dropWhile_not isBlank present
    obtain ⟨back, whole⟩ := List.rdropWhile_prefix isBlank (text.dropWhile isBlank)
    rw [shape, List.cons_append] at whole
    generalize text.dropWhile isBlank = left at solid whole
    subst whole
    exact solid (List.cons_ne_nil _ _)
  case last =>
    intro char ends
    obtain ⟨present, rfl⟩ := List.mem_getLast?_eq_getLast ends
    exact Bool.eq_false_iff.2 (List.rdropWhile_last_not isBlank _ present)

theorem dropWhile_append_of_head (starts : ∀ char ∈ core.head?, isBlank char = false)
    (present : core ≠ []) (back : List Char) :
    (core ++ back).dropWhile isBlank = core ++ back := by
  cases core with
  | nil => exact absurd rfl present
  | cons char rest =>
    have solid : isBlank char = false := starts char rfl
    rw [List.cons_append, List.dropWhile_cons_of_neg (by simp [solid])]

theorem trim_append (trimmed : Trimmed core) (present : core ≠ []) (blankFront : Blank front)
    (blankBack : Blank back) : trim (front ++ core ++ back) = core := by
  have kept : core.rdropWhile isBlank = core := by
    rw [List.rdropWhile_eq_self_iff]
    intro present
    rw [trimmed.last _ (List.getLast?_eq_getLast_of_ne_nil present)]
    exact Bool.false_ne_true
  have blankReverse : ∀ char ∈ back.reverse, isBlank char = true :=
    fun char member => blankBack char (List.mem_reverse.1 member)
  rw [trim_eq_rdropWhile, List.append_assoc, List.dropWhile_append_of_pos blankFront,
    dropWhile_append_of_head trimmed.head present, List.rdropWhile, List.reverse_append,
    List.dropWhile_append_of_pos blankReverse, ← List.rdropWhile, kept]

theorem Trimmed.trim_eq (trimmed : Trimmed text) : trim text = text := by
  by_cases present : text = []
  · rw [present]
    rfl
  · simpa using trim_append trimmed present blank_nil blank_nil

end Text

end DeltaSignature
