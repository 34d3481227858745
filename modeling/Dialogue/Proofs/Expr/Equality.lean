import Dialogue.Expr.Condition
import Dialogue.Proofs.Number.Numeral
set_option autoImplicit false

/-!
# Equality of texts

Two texts that denote numbers are equal if they are read as the same floating-point number, any
others if they are the same text.  Main statement: `Text.sameAs_iff_rounded`.
-/

namespace Dialogue

open Number (Extended Positional denotes? read?)

/-! ## The numbers that are compared -/

namespace Number

theorem exists_denotes {t : Text} {x : Float} (h : read? t = some x) :
    ∃ d, denotes? t = some d ∧ Extended.ofFloat x = d.rounded := by
  have hmap := map_ofFloat_read? t
  rw [h, Option.map_some] at hmap
  obtain ⟨d, hd, hrounded⟩ := Option.map_eq_some_iff.1 hmap.symm
  exact ⟨d, hd, hrounded.symm⟩

theorem denotes?_eq_none {t : Text} (h : read? t = none) : denotes? t = none := by
  have hmap := map_ofFloat_read? t
  rw [h, Option.map_none] at hmap
  exact Option.map_eq_none_iff.1 hmap.symm

namespace Extended

theorem roundPositive_ne_nan (q : ℚ) : roundPositive q ≠ nan := by
  unfold roundPositive
  split <;> exact fun h => by cases h

theorem rounded_eq_nan_iff {x : Extended} : x.rounded = nan ↔ x = nan := by
  constructor
  · intro h
    cases x with
    | nan => rfl
    | infinite negative => cases h
    | finite q =>
      rw [rounded] at h
      split at h
      · have hopposite := congrArg opposite h
        rw [opposite_opposite] at hopposite
        exact absurd hopposite (roundPositive_ne_nan _)
      · exact absurd h (roundPositive_ne_nan q)
  · rintro rfl
    rfl

/-- A natural number up to `2 ^ 53` is a floating-point number. -/
theorem rounded_natCast {n : ℕ} (h : n ≤ 2 ^ 53) : rounded (finite n) = finite n := by
  have hlt : (n : ℚ) < 2 ^ 1024 := by
    have hle : (n : ℚ) ≤ 2 ^ 53 := by exact_mod_cast h
    exact hle.trans_lt (pow_lt_pow_right₀ one_lt_two (by norm_num))
  rw [rounded_finite (Nat.cast_nonneg n), roundPositive, nearest_natCast h, if_neg hlt.not_ge]

end Extended
end Number

/-! ## Comparison -/

namespace Text

section sameAs

variable {s t : Text}

theorem sameAs_of_numbers {x y : Float} (hs : read? s = some x) (ht : read? t = some y) :
    sameAs s t = (x == y) := by
  rw [sameAs, hs, ht]

theorem sameAs_of_none (h : read? s = none ∨ read? t = none) : sameAs s t = (s == t) := by
  rw [sameAs]
  rcases h with hs | ht
  · rw [hs]
  · rw [ht]
    cases read? s <;> rfl

/-- The three ways to compare two texts for equality agree. -/
theorem compareBy_eq_sameAs (s t : Text) :
    Value.compareBy "==".toList (.text s) (.text t) = .ok (sameAs s t) ∧
      compareBy "==".toList s t = .ok (sameAs s t) := by
  have hsign : Comparison.ofSign? "==".toList = some .eq := rfl
  have hnumber (t : Text) : (Value.text t).number? = .ok (read? t) := rfl
  have hshown (t : Text) : (Value.text t).shown = .ok t := rfl
  simp only [Value.compareBy, compareBy, sameAs, hsign, hnumber, hshown]
  cases read? s <;> cases read? t <;> exact ⟨rfl, rfl⟩

/-- Two texts are equal if both denote numbers with the same nearest floating-point number, or if
they are the same and denote none. -/
theorem sameAs_iff (s t : Text) :
    sameAs s t = true ↔
      (∃ x y, denotes? s = some x ∧ denotes? t = some y ∧ x ≠ .nan ∧ x.rounded = y.rounded) ∨
        (denotes? s = none ∨ denotes? t = none) ∧ s = t := by
  by_cases hnone : read? s = none ∨ read? t = none
  · have hdenotes := hnone.imp Number.denotes?_eq_none Number.denotes?_eq_none
    rw [sameAs_of_none hnone, beq_iff_eq]
    constructor
    · exact fun heq => .inr ⟨hdenotes, heq⟩
    · rintro (⟨x, y, hx, hy, -, -⟩ | ⟨-, heq⟩)
      · rcases hdenotes with hs | ht
        · cases hs.symm.trans hx
        · cases ht.symm.trans hy
      · exact heq
  · rw [not_or] at hnone
    obtain ⟨x, hx⟩ := Option.ne_none_iff_exists'.1 hnone.1
    obtain ⟨y, hy⟩ := Option.ne_none_iff_exists'.1 hnone.2
    obtain ⟨dx, hdx, hroundx⟩ := Number.exists_denotes hx
    obtain ⟨dy, hdy, hroundy⟩ := Number.exists_denotes hy
    rw [sameAs_of_numbers hx hy, Extended.beq_iff, hroundx, hroundy, ne_eq,
      Extended.rounded_eq_nan_iff, hdx, hdy]
    constructor
    · rintro ⟨hnan, heq⟩
      exact .inl ⟨dx, dy, rfl, rfl, hnan, heq⟩
    · rintro (⟨x, y, hx, hy, hnan, heq⟩ | ⟨hnone, -⟩)
      · obtain rfl := Option.some.inj hx
        obtain rfl := Option.some.inj hy
        exact ⟨hnan, heq⟩
      · rcases hnone with h | h <;> cases h

/-- A text is equal to itself unless it denotes no number as NaN does. -/
theorem sameAs_self_iff (s : Text) : sameAs s s = true ↔ denotes? s ≠ some .nan := by
  rw [sameAs_iff]
  constructor
  · rintro (⟨x, y, hx, -, hnan, -⟩ | ⟨hnone, -⟩) hs
    · exact hnan (Option.some.inj (hx.symm.trans hs))
    · rw [or_self, hs] at hnone
      cases hnone
  · intro hnan
    cases hs : denotes? s with
    | none => exact .inr ⟨.inl rfl, rfl⟩
    | some x => exact .inl ⟨x, x, rfl, rfl, fun h => hnan (h ▸ hs), rfl⟩

theorem sameAs_finite_iff {p q : ℚ} (hs : denotes? s = some (.finite p))
    (ht : denotes? t = some (.finite q)) :
    sameAs s t = true ↔ (Extended.finite p).rounded = (Extended.finite q).rounded := by
  rw [sameAs_iff, hs, ht]
  constructor
  · rintro (⟨x, y, hx, hy, -, heq⟩ | ⟨hnone, -⟩)
    · rw [Option.some.inj hx, Option.some.inj hy]
      exact heq
    · rcases hnone with h | h <;> cases h
  · intro heq
    have hnan : Extended.finite p ≠ .nan := fun h => by cases h
    exact .inl ⟨_, _, rfl, rfl, hnan, heq⟩

/-- Numerals of natural numbers up to `2 ^ 53` are equal only if they are the same. -/
theorem sameAs_ofNat_iff {m n : ℕ} (hm : m ≤ 2 ^ 53) (hn : n ≤ 2 ^ 53) :
    sameAs (ofNat m) (ofNat n) = true ↔ ofNat m = ofNat n := by
  rw [sameAs_finite_iff (Number.denotes?_ofNat m) (Number.denotes?_ofNat n),
    Extended.rounded_natCast hm, Extended.rounded_natCast hn]
  constructor
  · intro heq
    have hcast : (m : ℚ) = n := Extended.finite.inj heq
    rw [Nat.cast_inj.1 hcast]
  · intro heq
    rw [← Number.decimalValue_ofNat m, heq, Number.decimalValue_ofNat]

end sameAs

/-- Equality of texts is equality of the nearest floating-point numbers where both texts denote a
number, and of the texts otherwise.  So a text is equal to itself unless it denotes NaN; numerals
are equal exactly if the numbers that they write have the same nearest floating-point number; and
different numerals without leading zeros are different up to `2 ^ 53`. -/
theorem sameAs_iff_rounded (s t : Text) :
    Value.compareBy "==".toList (.text s) (.text t) = .ok (sameAs s t) ∧
      compareBy "==".toList s t = .ok (sameAs s t) ∧
      (sameAs s t = true ↔
        (∃ x y, denotes? s = some x ∧ denotes? t = some y ∧ x ≠ .nan ∧ x.rounded = y.rounded) ∨
          (denotes? s = none ∨ denotes? t = none) ∧ s = t) ∧
      (s = t → (sameAs s t = true ↔ denotes? s ≠ some .nan)) ∧
      (∀ a b : Positional, a.Valid → b.Valid → s = a.text → t = b.text →
        (sameAs s t = true ↔
          (Extended.finite a.value).rounded = (Extended.finite b.value).rounded)) ∧
      ∀ m n, m ≤ 2 ^ 53 → n ≤ 2 ^ 53 → s = ofNat m → t = ofNat n →
        (sameAs s t = true ↔ s = t) := by
  obtain ⟨hvalues, htexts⟩ := compareBy_eq_sameAs s t
  refine ⟨hvalues, htexts, sameAs_iff s t, ?_, ?_, ?_⟩
  · rintro rfl
    exact sameAs_self_iff s
  · rintro a b ha hb rfl rfl
    exact sameAs_finite_iff ha.denotes?_text hb.denotes?_text
  · rintro m n hm hn rfl rfl
    exact sameAs_ofNat_iff hm hn

/-- The two largest neighbours among the natural numbers that are distinguished. -/
theorem sameAs_iff_rounded_neighbours :
    sameAs "9007199254740992".toList "9007199254740991".toList = false := by
  have hs : "9007199254740992".toList = ofNat 9007199254740992 := by decide +kernel
  have ht : "9007199254740991".toList = ofNat 9007199254740991 := by decide +kernel
  have hiff := (sameAs_iff_rounded _ _).2.2.2.2.2 _ _ (by norm_num) (by norm_num) hs ht
  rw [← Bool.not_eq_true, hiff]
  decide

/-- Equality is not exact: NaN is not equal to itself, and above `2 ^ 53` numerals of different
numbers can be equal. -/
theorem sameAs_inexact :
    (denotes? "nan".toList = some .nan ∧ sameAs "nan".toList "nan".toList = false) ∧
      denotes? "9007199254740993".toList = some (.finite (9007199254740993 : ℕ)) ∧
      denotes? "9007199254740992".toList = some (.finite (9007199254740992 : ℕ)) ∧
      sameAs "9007199254740993".toList "9007199254740992".toList = true := by
  have hs : "9007199254740993".toList = ofNat 9007199254740993 := by decide +kernel
  have ht : "9007199254740992".toList = ofNat 9007199254740992 := by decide +kernel
  refine ⟨⟨by decide +kernel, by decide +kernel⟩, ?_, ?_, by decide +kernel⟩
  · rw [hs]
    exact Number.denotes?_ofNat _
  · rw [ht]
    exact Number.denotes?_ofNat _

end Text
end Dialogue
