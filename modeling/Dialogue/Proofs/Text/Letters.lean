import Dialogue.Text.Blank
import Dialogue.Text.Identifier
import Dialogue.Text.Word
set_option autoImplicit false

/-!
# Letters are not blank

A character that can stand in a word or in an identifier is no blank.  Beyond ASCII both properties
are kept as ranges of code points, so it is enough that no two of the ranges overlap.
-/

namespace Dialogue.Text

/-- Ranges without a common code point. -/
def Ranges.apart (rs qs : Ranges) : Bool :=
  rs.all fun r => qs.all fun q => decide (r.2 < q.1) || decide (q.2 < r.1)

theorem Ranges.has_eq_false_of_apart {rs qs : Ranges} (h : apart rs qs = true) {n : Nat}
    (hn : rs.has n = true) : qs.has n = false := by
  obtain ⟨r, hr, hfirst, hlast⟩ := has_iff.1 hn
  refine Bool.eq_false_iff.2 fun hq => ?_
  obtain ⟨q, hmem, hqfirst, hqlast⟩ := has_iff.1 hq
  have hapart := List.all_eq_true.1 (List.all_eq_true.1 h r hr) q hmem
  simp only [Bool.or_eq_true, decide_eq_true_eq] at hapart
  omega

/-- Ranges that hold all blanks beyond ASCII, and no letters. -/
def blankRanges : Ranges :=
  [(0x85, 0x85), (0xA0, 0xA0), (0x1680, 0x1680), (0x2000, 0x202F), (0x205F, 0x205F),
    (0x3000, 0x3000)]

theorem has_blankRanges {c : Char} (hc : ¬c.toNat < 0x80) (h : isBlank c = true) :
    blankRanges.has c.toNat = true := by
  simp only [isBlank, hc, if_false, Bool.or_eq_true, Bool.and_eq_true, decide_eq_true_eq,
    beq_iff_eq] at h
  simp only [Ranges.has, blankRanges, List.any_cons, List.any_nil, Bool.or_eq_true,
    Bool.and_eq_true, decide_eq_true_eq, Bool.or_false]
  omega

theorem isBlank_of_isAlphanum {c : Char} (h : (c.isAlphanum || c == '_') = true) :
    isBlank c = false := by
  have hwithin {low high : Char} (hc : low.val ≤ c.val ∧ c.val ≤ high.val)
      (hlow : 48 ≤ low.toNat) (hhigh : high.toNat ≤ 122) : 48 ≤ c.toNat ∧ c.toNat ≤ 122 :=
    ⟨Nat.le_trans hlow (UInt32.le_iff_toNat_le.1 hc.1),
      Nat.le_trans (UInt32.le_iff_toNat_le.1 hc.2) hhigh⟩
  have hcode : 48 ≤ c.toNat ∧ c.toNat ≤ 122 := by
    rcases Bool.or_eq_true_iff.1 h with hletter | hunderscore
    · rcases Bool.or_eq_true_iff.1 hletter with halpha | hdigit
      · rcases Bool.or_eq_true_iff.1 halpha with hupper | hlower
        · exact hwithin (of_decide_eq_true hupper) (by decide) (by decide)
        · obtain ⟨hlow, hhigh⟩ := Bool.and_eq_true_iff.1 hlower
          exact hwithin ⟨of_decide_eq_true hlow, of_decide_eq_true hhigh⟩ (by decide) (by decide)
      · obtain ⟨hlow, hhigh⟩ := Bool.and_eq_true_iff.1 hdigit
        exact hwithin ⟨of_decide_eq_true hlow, of_decide_eq_true hhigh⟩ (by decide) (by decide)
    · rw [beq_iff_eq.1 hunderscore]
      decide
  have hascii : c.toNat < 0x80 := by omega
  simp only [isBlank, hascii, if_true, Bool.or_eq_false_iff, Bool.and_eq_false_iff,
    decide_eq_false_iff_not]
  omega

/-- No character of a word is a blank. -/
theorem isBlank_of_isWordChar {c : Char} (h : isWordChar c = true) : isBlank c = false := by
  unfold isWordChar at h
  split at h
  · exact isBlank_of_isAlphanum h
  · next hc =>
    refine Bool.eq_false_iff.2 fun hblank => ?_
    have hapart : Ranges.apart blankRanges lettersAndNumerals = true := by decide +kernel
    cases h.symm.trans (Ranges.has_eq_false_of_apart hapart (has_blankRanges hc hblank))

/-- No character of an identifier is a blank. -/
theorem isBlank_of_isIdentifierPart {c : Char} (h : isIdentifierPart c = true) :
    isBlank c = false := by
  unfold isIdentifierPart at h
  split at h
  · exact isBlank_of_isAlphanum h
  · next hc =>
    refine Bool.eq_false_iff.2 fun hblank => ?_
    have hapart : Ranges.apart blankRanges (identifierStarts ++ identifierFollowers) = true := by
      decide +kernel
    have hranges := Ranges.has_eq_false_of_apart hapart (has_blankRanges hc hblank)
    rw [Ranges.has, List.any_append] at hranges
    cases h.symm.trans hranges

end Dialogue.Text
