import Mathlib.Data.List.Basic

/-!
# Steps that may fail

What is known of a chain of steps once it has come to its end without a failure.
-/

namespace DeltaSignature

variable {ε α β : Type}

theorem bind_eq_ok {first : Except ε α} {next : α → Except ε β} {result : β} :
    first >>= next = .ok result ↔ ∃ value, first = .ok value ∧ next value = .ok result := by
  cases first with
  | error cause => exact ⟨nofun, nofun⟩
  | ok value => exact ⟨fun same => ⟨value, rfl, same⟩, fun ⟨_, rfl, same⟩ => same⟩

/-- What every step preserves is preserved by any number of them. -/
theorem foldlM_preserves {step : β → α → Except ε β} {keeps : β → Prop}
    (preserves : ∀ {before after : β} {item : α}, step before item = .ok after →
      keeps before → keeps after)
    {items : List α} {first last : β} (folded : items.foldlM step first = .ok last)
    (kept : keeps first) : keeps last := by
  induction items generalizing first with
  | nil =>
    obtain rfl := Except.ok.inj folded
    exact kept
  | cons item items ih =>
    obtain ⟨next, stepped, folded⟩ := bind_eq_ok.1 folded
    exact ih folded (preserves stepped kept)

end DeltaSignature
