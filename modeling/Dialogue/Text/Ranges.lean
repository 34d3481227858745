import Dialogue.Text.Basic
set_option autoImplicit false

/-!
# Ranges of code points

A property of characters is kept as the ranges of code points that have it, ends included.

Normative source: the character data of Unicode 14.0.
-/

namespace Dialogue.Text

/-- Ranges of code points, first and last. -/
abbrev Ranges : Type := List (Nat × Nat)

/-- The code point lies in one of the ranges. -/
def Ranges.has (ranges : Ranges) (n : Nat) : Bool :=
  ranges.any fun (first, last) => first ≤ n && n ≤ last

theorem Ranges.has_iff {ranges : Ranges} {n : Nat} :
    ranges.has n = true ↔ ∃ r ∈ ranges, r.1 ≤ n ∧ n ≤ r.2 := by
  simp [Ranges.has]

end Dialogue.Text
