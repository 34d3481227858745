import Dialogue.Number.Decimal
import Dialogue.Proofs.Number.Extended
import Dialogue.Proofs.Number.Written
set_option autoImplicit false

/-!
# Decimals as nearest numbers

The arithmetic on floating-point numbers that reads a decimal, and that it gives the number nearest
to the decimal.  Main statements: `Decimal.ofFloat_toFloat` and `Decimal.abs_value_sub_le`.
-/

namespace Dialogue.Number

open Float.Model (Format UnpackedFloat totalExponent)
open Float.Model.UnpackedFloat

/-! ## Arithmetic -/

section arithmetic

variable {m m₁ m₂ : ℕ} {e : ℤ}

theorem le_targetExponent (h : 2 ^ 52 ≤ m) :
    e ≤ Format.binary64.targetExponent (totalExponent m e) := by
  have hlog : 52 ≤ m.log2 := (Nat.le_log2 (by omega)).2 h
  rw [targetExponent_binary64, totalExponent]
  omega

theorem rounds_mul (hm₁ : 0 < m₁) (hm₂ : 0 < m₂) (e₁ e₂ : ℤ) (hfull : 2 ^ 52 ≤ m₁) :
    Rounds .positive (m₁ * 2 ^ e₁ * (m₂ * 2 ^ e₂))
      (UnpackedFloat.mul .binary64 (.finite .positive m₁ e₁ hm₁)
        (.finite .positive m₂ e₂ hm₂)) := by
  have hle : 2 ^ 52 ≤ m₁ * m₂ := hfull.trans (Nat.le_mul_of_pos_right m₁ hm₂)
  have hpos : (0 : ℚ) < (m₁ * m₂ : ℕ) := by exact_mod_cast Nat.mul_pos hm₁ hm₂
  have hrounds := rounds_roundWithAccuracy (e := e₁ + e₂) .positive (represents_exact (m₁ * m₂))
    hpos (le_targetExponent hle)
  have hvalue : (m₁ : ℚ) * 2 ^ e₁ * (m₂ * 2 ^ e₂) = (m₁ * m₂ : ℕ) * 2 ^ (e₁ + e₂) := by
    rw [zpow_add₀ two_ne_zero]
    push_cast
    ring
  rw [hvalue]
  exact hrounds

theorem log2_shiftLeft (hm : 0 < m) (n : ℕ) : (m <<< n).log2 = m.log2 + n := by
  have hpow := Nat.two_pow_pos n
  rw [Nat.shiftLeft_eq, Nat.log2_eq_iff (Nat.mul_pos hm hpow).ne', pow_add, add_right_comm, pow_add]
  exact ⟨Nat.mul_le_mul_right _ (Nat.log2_self_le hm.ne'),
    Nat.mul_lt_mul_of_pos_right Nat.lt_log2_self hpow⟩

/-- The dividend is shifted so far that the quotient has enough bits. -/
theorem exists_divCore (hm₁ : 0 < m₁) (hm₂ : 0 < m₂) (e₁ e₂ : ℤ) :
    ∃ k : ℕ,
      divCore .binary64 m₁ e₁ m₂ e₂ =
        (m₁ <<< k / m₂, e₁ - e₂ - k, accuracyOfFraction (m₁ <<< k % m₂) m₂) ∧
      e₁ - e₂ - k ≤
        Format.binary64.targetExponent (totalExponent (m₁ <<< k / m₂) (e₁ - e₂ - k)) := by
  set t := min (e₁ - e₂)
    (Format.binary64.targetExponent (totalExponent m₁ e₁ - totalExponent m₂ e₂)) with ht
  have hle : t ≤ e₁ - e₂ := min_le_left _ _
  set k := (e₁ - e₂ - t).toNat with hk
  have hexponent : e₁ - e₂ - k = t := by omega
  refine ⟨k, by rw [divCore, hexponent], ?_⟩
  rw [hexponent, targetExponent_binary64, totalExponent]
  rw [targetExponent_binary64, totalExponent, totalExponent] at ht
  rcases le_or_gt t (-1074) with hsmall | hlarge
  · exact hsmall.trans (le_max_right _ _)
  · have hbits : 52 + (m₂.log2 + 1) ≤ m₁.log2 + k := by omega
    have hquotient : 2 ^ 52 ≤ m₁ <<< k / m₂ := by
      rw [Nat.le_div_iff_mul_le hm₂, Nat.shiftLeft_eq]
      calc 2 ^ 52 * m₂ ≤ 2 ^ 52 * 2 ^ (m₂.log2 + 1) := Nat.mul_le_mul_left _ Nat.lt_log2_self.le
        _ = 2 ^ (52 + (m₂.log2 + 1)) := (pow_add 2 52 _).symm
        _ ≤ 2 ^ (m₁.log2 + k) := Nat.pow_le_pow_right two_pos hbits
        _ = 2 ^ m₁.log2 * 2 ^ k := pow_add 2 _ _
        _ ≤ m₁ * 2 ^ k := Nat.mul_le_mul_right _ (Nat.log2_self_le hm₁.ne')
    have hlog : 52 ≤ (m₁ <<< k / m₂).log2 := (Nat.le_log2 (by omega)).2 hquotient
    omega

theorem rounds_div (hm₁ : 0 < m₁) (hm₂ : 0 < m₂) (e₁ e₂ : ℤ) :
    Rounds .positive (m₁ * 2 ^ e₁ / (m₂ * 2 ^ e₂))
      (UnpackedFloat.div .binary64 (.finite .positive m₁ e₁ hm₁)
        (.finite .positive m₂ e₂ hm₂)) := by
  obtain ⟨k, hcore, hle⟩ := exists_divCore hm₁ hm₂ e₁ e₂
  have hm₁' : (0 : ℚ) < m₁ := by exact_mod_cast hm₁
  have hm₂' : (0 : ℚ) < m₂ := by exact_mod_cast hm₂
  have hquotient : ((m₁ <<< k / m₂ : ℕ) : ℚ) + (m₁ <<< k % m₂ : ℕ) / m₂ = m₁ * 2 ^ k / m₂ := by
    have hdivmod : (m₂ * (m₁ <<< k / m₂ : ℕ) + (m₁ <<< k % m₂ : ℕ) : ℚ) = m₁ * 2 ^ k := by
      have hnat := Nat.div_add_mod (m₁ <<< k) m₂
      nth_rewrite 3 [Nat.shiftLeft_eq] at hnat
      exact_mod_cast hnat
    rw [← hdivmod]
    field_simp
  have hvalue : (m₁ : ℚ) * 2 ^ e₁ / (m₂ * 2 ^ e₂) = m₁ * 2 ^ k / m₂ * 2 ^ (e₁ - e₂ - k) := by
    rw [zpow_sub₀ two_ne_zero, zpow_sub₀ two_ne_zero, zpow_natCast]
    field_simp
  rw [UnpackedFloat.div, hcore, hvalue, ← hquotient]
  refine rounds_roundWithAccuracy _ (represents_fraction _ (Nat.mod_lt _ hm₂)) ?_ hle
  rw [hquotient]
  positivity

theorem rounds_round (hm : 0 < m) :
    Rounds .positive (m * 2 ^ e) (UnpackedFloat.round .binary64 .positive m e) := by
  rw [UnpackedFloat.round, decreaseExponent]
  dsimp only
  set n := (e - Format.binary64.targetExponent (totalExponent m e)).toNat with hn
  have htotal : totalExponent (m <<< n) (e - n) = totalExponent m e := by
    rw [totalExponent, totalExponent, log2_shiftLeft hm]
    push_cast
    ring
  have hpos : (0 : ℚ) < (m <<< n : ℕ) := by
    rw [Nat.shiftLeft_eq]
    exact_mod_cast Nat.mul_pos hm (Nat.two_pow_pos n)
  have hrounds := rounds_roundWithAccuracy (e := e - n) .positive (represents_exact (m <<< n)) hpos
    (by rw [htotal]; omega)
  have hvalue : (m : ℚ) * 2 ^ e = (m <<< n : ℕ) * 2 ^ (e - n) := by
    rw [Nat.shiftLeft_eq, zpow_sub₀ two_ne_zero, zpow_natCast]
    push_cast
    field_simp
  rw [hvalue]
  exact hrounds

end arithmetic

/-! ## Numbers that are their own nearest -/

section nearest

variable {v : ℚ}

theorem nearest_zero : nearest 0 = 0 := by
  have hzero : toEven 0 = 0 := by exact_mod_cast toEven_intCast 0
  rw [nearest, zero_div, hzero, Int.cast_zero, zero_mul]

/-- A whole number of steps is its own nearest number. -/
theorem nearest_of_whole {k : ℤ} (h : v = k * 2 ^ spacing v) : nearest v = v := by
  have hwhole : v / 2 ^ spacing v = k := by
    rw [div_eq_iff (zpow_pos two_pos _).ne']
    exact h
  rw [nearest, hwhole, toEven_intCast]
  exact h.symm

/-- A natural number up to `2 ^ 53` is its own nearest number. -/
theorem nearest_natCast {n : ℕ} (h : n ≤ 2 ^ 53) : nearest n = n := by
  rcases Nat.eq_zero_or_pos n with rfl | hpos
  · rw [Nat.cast_zero, nearest_zero]
  have hcast : (0 : ℚ) < n := by exact_mod_cast hpos
  rcases h.lt_or_eq with hlt | rfl
  · have hlog : Int.log 2 (n : ℚ) < 53 :=
      (Int.lt_zpow_iff_log_lt (by norm_num) hcast).1 (by exact_mod_cast hlt)
    have hspacing : spacing (n : ℚ) ≤ 0 := by
      rw [spacing]
      omega
    apply nearest_of_whole (k := n * 2 ^ (-spacing (n : ℚ)).toNat)
    push_cast
    rw [← zpow_natCast, Int.toNat_of_nonneg (by omega), mul_assoc, ← zpow_add₀ two_ne_zero,
      neg_add_cancel, zpow_zero, mul_one]
  · -- the first number with a step of two
    have hspacing : spacing ((2 ^ 53 : ℕ) : ℚ) = 1 := by
      rw [spacing, log_eq (k := 53) (by norm_num) (by norm_num)]
      norm_num
    apply nearest_of_whole (k := 2 ^ 52)
    rw [hspacing]
    norm_num

/-- A number that is too large has no nearest number that is not. -/
theorem le_nearest (h : 2 ^ 1024 ≤ v) : 2 ^ 1024 ≤ nearest v := by
  have hpos : 0 < v := (by positivity : (0 : ℚ) < 2 ^ 1024).trans_le h
  have hlog : 1024 ≤ Int.log 2 v :=
    (Int.zpow_le_iff_le_log (by norm_num) hpos).1 (by exact_mod_cast h)
  have hspacing : 972 ≤ spacing v := by
    rw [spacing]
    omega
  have hmantissa : (2 : ℚ) ^ 52 ≤ toEven (v / 2 ^ spacing v) := by
    exact_mod_cast le_toEven_spacing hpos (by omega)
  have hpow : (2 : ℚ) ^ 972 ≤ 2 ^ spacing v := by
    rw [← zpow_natCast]
    exact zpow_le_zpow_right₀ one_le_two hspacing
  calc (2 : ℚ) ^ 1024 = 2 ^ 52 * 2 ^ 972 := pow_add 2 52 972
    _ ≤ nearest v := mul_le_mul hmantissa hpow (by positivity) (by linarith)

/-- A number below half of the smallest step is rounded to zero. -/
theorem nearest_eq_zero (hpos : 0 < v) (h : v < 2 ^ (-1075 : ℤ)) : nearest v = 0 := by
  have hlog : Int.log 2 v < -1075 :=
    (Int.lt_zpow_iff_log_lt (by norm_num) hpos).1 (by exact_mod_cast h)
  have hspacing : spacing v = -1074 := by
    rw [spacing]
    omega
  have hhalf : v / 2 ^ (-1074 : ℤ) < 1 / 2 := by
    rw [div_lt_iff₀ (zpow_pos two_pos _)]
    have hpow : (2 : ℚ) ^ (-1075 : ℤ) = 1 / 2 * 2 ^ (-1074 : ℤ) := by
      rw [show (-1075 : ℤ) = -1 + -1074 by norm_num, zpow_add₀ two_ne_zero, zpow_neg_one, one_div]
    rwa [← hpow]
  rw [nearest, hspacing, toEven_of_lt_half (div_pos hpos (zpow_pos two_pos _)).le hhalf,
    Int.cast_zero, zero_mul]

end nearest

theorem Extended.roundPositive_zero : roundPositive 0 = finite 0 := by
  rw [roundPositive, nearest_zero, if_neg (not_le.2 (by positivity))]

/-! ## Exact numbers -/

/-- The floating-point number is the positive number itself. -/
def Exactly (x : Float) (n : ℕ) : Prop :=
  ∃ (m : ℕ) (e : ℤ) (hm : 0 < m), x.toModel.unpack = .finite .positive m e hm ∧ 2 ^ 52 ≤ m ∧
    (m : ℚ) * 2 ^ e = n

section exactly

variable {x y : Float} {a b n : ℕ}

theorem Exactly.ofFloat_mul (hx : Exactly x a) (hy : Exactly y b) :
    Extended.ofFloat (x * y) = Extended.roundPositive (a * b) := by
  obtain ⟨m₁, e₁, hm₁, hx, hfull, ha⟩ := hx
  obtain ⟨m₂, e₂, hm₂, hy, -, hb⟩ := hy
  have hrounds := Extended.ofUnpacked_pack (rounds_mul hm₁ hm₂ e₁ e₂ hfull)
  rw [← hx, ← hy, ha, hb] at hrounds
  exact hrounds

theorem Exactly.ofFloat_div (hx : Exactly x a) (hy : Exactly y b) :
    Extended.ofFloat (x / y) = Extended.roundPositive (a / b) := by
  obtain ⟨m₁, e₁, hm₁, hx, -, ha⟩ := hx
  obtain ⟨m₂, e₂, hm₂, hy, -, hb⟩ := hy
  have hrounds := Extended.ofUnpacked_pack (rounds_div hm₁ hm₂ e₁ e₂)
  rw [← hx, ← hy, ha, hb] at hrounds
  exact hrounds

/-- A natural number of at most 53 binary digits is converted exactly. -/
theorem exactly_toFloat (hpos : 0 < n) (h : n < 2 ^ 53) : Exactly n.toUInt64.toFloat n := by
  have hword : n.toUInt64.toNat = n := UInt64.toNat_ofNat_of_lt (h.trans (by norm_num))
  have hround : UnpackedFloat.ofUInt64 .binary64 n.toUInt64 =
      UnpackedFloat.round .binary64 .positive n 0 := by
    rw [UnpackedFloat.ofUInt64, UnpackedFloat.ofNat, UnpackedFloat.ofInt,
      UnpackedFloat.normalize, hword, compare_gt_iff_gt.2 (by exact_mod_cast hpos)]
    rfl
  have hcast : (1 : ℚ) ≤ n := by exact_mod_cast hpos
  have hrounds := rounds_round (e := 0) hpos
  rw [zpow_zero, mul_one] at hrounds
  generalize hf : UnpackedFloat.round .binary64 .positive n 0 = f at hrounds
  have hunpack : n.toUInt64.toFloat.toModel.unpack = (Float.Model.pack f).unpack := by
    rw [← hf, ← hround]
    rfl
  cases hrounds with
  | zero hzero =>
    rw [nearest_natCast h.le] at hzero
    linarith
  | @finite m e hm hcanonical hvalue =>
    rw [nearest_natCast h.le] at hvalue
    have hleast : -53 < e := by
      by_contra! hle
      have hm' : (m : ℚ) < 2 ^ (53 : ℤ) := by exact_mod_cast hcanonical.lt
      have hpow : (2 : ℚ) ^ e ≤ 2 ^ (-53 : ℤ) := zpow_le_zpow_right₀ one_le_two hle
      have hsmall : (m : ℚ) * 2 ^ e < 1 := by
        calc (m : ℚ) * 2 ^ e < 2 ^ (53 : ℤ) * 2 ^ e :=
              mul_lt_mul_of_pos_right hm' (zpow_pos two_pos e)
          _ ≤ 2 ^ (53 : ℤ) * 2 ^ (-53 : ℤ) := mul_le_mul_of_nonneg_left hpow (by norm_num)
          _ = 1 := by norm_num
      linarith
    have hmost : e < 53 := by
      by_contra! hge
      have hm' : (1 : ℚ) ≤ m := by exact_mod_cast hm
      have hn : (n : ℚ) < 2 ^ (53 : ℤ) := by exact_mod_cast h
      have hpow : (2 : ℚ) ^ (53 : ℤ) ≤ 2 ^ e := zpow_le_zpow_right₀ one_le_two hge
      nlinarith
    have hfits : Extended.Fits (.finite .positive m e hm) := ⟨hcanonical, by omega⟩
    refine ⟨m, e, hm, ?_, hcanonical.full (by omega), hvalue⟩
    rw [hunpack, Extended.unpack_pack hfits]

/-- The number is a natural number with the mantissa of a normal number: the test for constants. -/
def isExactly (x : Float) (n : ℕ) : Bool :=
  match x.toModel.unpack with
  | .finite .positive m e _ => 2 ^ 52 ≤ m && -52 ≤ e && m * 2 ^ (e + 52).toNat == n * 2 ^ 52
  | _ => false

theorem exactly_of_isExactly (h : isExactly x n = true) : Exactly x n := by
  unfold isExactly at h
  split at h
  · next m e hm hunpack =>
    simp only [Bool.and_eq_true, decide_eq_true_eq, beq_iff_eq] at h
    obtain ⟨⟨hfull, hleast⟩, hvalue⟩ := h
    refine ⟨m, e, hm, hunpack, hfull, ?_⟩
    have hcast : (m : ℚ) * 2 ^ (e + 52).toNat = n * 2 ^ 52 := by exact_mod_cast hvalue
    rw [← zpow_natCast, Int.toNat_of_nonneg (by omega), zpow_add₀ two_ne_zero, ← mul_assoc] at hcast
    exact mul_right_cancel₀ (by norm_num) hcast
  · cases h

/-- The powers of ten in the table are exact. -/
theorem exactly_power {k : ℕ} (hk : k < Float.exactlyRepresentablePowersOfTen.size) :
    Exactly Float.exactlyRepresentablePowersOfTen[k] (10 ^ k) := by
  have hall : ∀ i : Fin 23,
      (Float.exactlyRepresentablePowersOfTen[i.val]?).any (isExactly · (10 ^ i.val)) = true := by
    decide +kernel
  have hpower := hall ⟨k, hk⟩
  rw [Array.getElem?_eq_getElem hk] at hpower
  exact exactly_of_isExactly hpower

end exactly

/-! ## Decimals -/

/-- The digits of a decimal are scaled by a power of ten that is not out of bounds. -/
theorem rounds_ofScientific {m : ℕ} {k : ℤ} (hm : 0 < m) (hmost : k ≤ 2048)
    (hleast : -(2048 + (m.log2 : ℤ)) ≤ k) :
    Rounds .positive (m * 10 ^ k) (UnpackedFloat.ofScientific .binary64 m k) := by
  rw [UnpackedFloat.ofScientific, dif_neg hm.ne', if_neg (by norm_num; omega),
    if_neg (by norm_num; omega)]
  split
  · next hk =>
    have hfull : 2 ^ 52 ≤ m <<< 53 := by
      rw [Nat.shiftLeft_eq]
      omega
    have hpower : 0 < 10 ^ k.toNat := Nat.pow_pos (by decide)
    have hrounds := rounds_mul (by omega) hpower (-53) 0 hfull
    have hvalue : ((m <<< 53 : ℕ) : ℚ) * 2 ^ (-53 : ℤ) * ((10 ^ k.toNat : ℕ) * 2 ^ (0 : ℤ)) =
        m * 10 ^ k := by
      have hcancel : (m : ℚ) * 2 ^ 53 * 2 ^ (-53 : ℤ) = m := by
        rw [mul_assoc]
        norm_num
      rw [Nat.shiftLeft_eq, Nat.cast_mul, Nat.cast_pow, Nat.cast_pow, Nat.cast_ofNat,
        Nat.cast_ofNat, hcancel, ← zpow_natCast 10, Int.toNat_of_nonneg hk, zpow_zero, mul_one]
    rw [hvalue] at hrounds
    exact hrounds
  · next hk =>
    have hpower : 0 < 10 ^ (-k).toNat := Nat.pow_pos (by decide)
    have hrounds := rounds_div hm hpower 0 0
    have hvalue : (m : ℚ) * 2 ^ (0 : ℤ) / ((10 ^ (-k).toNat : ℕ) * 2 ^ (0 : ℤ)) = m * 10 ^ k := by
      rw [Nat.cast_pow, Nat.cast_ofNat, ← zpow_natCast 10, Int.toNat_of_nonneg (by omega), zpow_neg,
        zpow_zero, mul_one, mul_one, div_inv_eq_mul]
    rw [hvalue] at hrounds
    exact hrounds

/-- A decimal within bounds is read as the nearest number. -/
theorem ofFloat_ofScientific {m : ℕ} {k : ℤ} (hm : 0 < m) (hmost : k ≤ 2048)
    (hleast : -(2048 + (m.log2 : ℤ)) ≤ k) :
    Extended.ofFloat (Float.ofScientific m (k < 0) k.natAbs) =
      Extended.roundPositive (m * 10 ^ k) := by
  unfold Float.ofScientific
  split
  · next hsmall =>
    have hk : k.natAbs < Float.exactlyRepresentablePowersOfTen.size := by
      show k.natAbs < 23
      omega
    have hdigits := exactly_toFloat hm hsmall.1
    have hpower := exactly_power hk
    have habs : (((10 ^ k.natAbs : ℕ) : ℚ)) = 10 ^ |k| := by
      rw [← Int.natCast_natAbs, zpow_natCast]
      push_cast
      rfl
    dsimp only
    split
    · next hneg =>
      have hquotient := hdigits.ofFloat_div hpower
      rw [habs, abs_of_neg (of_decide_eq_true hneg), zpow_neg, div_inv_eq_mul] at hquotient
      exact hquotient
    · next hneg =>
      have hproduct := hdigits.ofFloat_mul hpower
      rw [habs, abs_of_nonneg (by simpa using hneg)] at hproduct
      exact hproduct
  · have hk :
        (if decide (k < 0) = true then Int.negOfNat k.natAbs else Int.ofNat k.natAbs) = k := by
      by_cases hneg : k < 0
      · rw [if_pos (decide_eq_true hneg), Int.negOfNat_eq]
        show -(k.natAbs : ℤ) = k
        omega
      · rw [if_neg (by simpa using hneg)]
        show (k.natAbs : ℤ) = k
        omega
    dsimp only
    rw [hk]
    exact Extended.ofUnpacked_pack (rounds_ofScientific hm hmost hleast)

namespace Decimal

/-- The number that a decimal writes. -/
def value (d : Decimal) : ℚ := d.digits * 10 ^ d.exponent

theorem value_nonneg (d : Decimal) : 0 ≤ d.value :=
  mul_nonneg (Nat.cast_nonneg _) (zpow_pos (by norm_num) _).le

theorem natCast_tenTo (n : ℕ) : (tenTo n : ℚ) = 10 ^ (n : ℤ) := by
  rw [zpow_natCast]
  exact Nat.cast_pow 10 n

/-- A number has no more decimal digits than binary ones. -/
theorem digitCount_le {n : ℕ} (h : 0 < n) : digitCount n ≤ n.log2 + 1 := by
  have hlt : 2 ^ (digitCount n - 1) < 2 ^ (n.log2 + 1) :=
    calc 2 ^ (digitCount n - 1) ≤ tenTo (digitCount n - 1) := Nat.pow_le_pow_left (by decide) _
      _ ≤ n := tenTo_le_of_pos h
      _ < 2 ^ (n.log2 + 1) := Nat.lt_log2_self
  have hexponents := (Nat.pow_lt_pow_iff_right (by decide)).1 hlt
  omega

variable {d : Decimal}

theorem le_value (h : 0 < d.digits) :
    10 ^ ((digitCount d.digits : ℤ) + d.exponent - 1) ≤ d.value := by
  have hcount : 1 ≤ digitCount d.digits := Nat.length_toDigits_pos
  have hdigits : (10 : ℚ) ^ ((digitCount d.digits : ℤ) - 1) ≤ d.digits := by
    rw [← Nat.cast_pred hcount, ← natCast_tenTo]
    exact_mod_cast tenTo_le_of_pos h
  rw [value, add_sub_right_comm, zpow_add₀ (by norm_num)]
  exact mul_le_mul_of_nonneg_right hdigits (zpow_pos (by norm_num) _).le

theorem value_lt (d : Decimal) : d.value < 10 ^ ((digitCount d.digits : ℤ) + d.exponent) := by
  have hdigits : (d.digits : ℚ) < 10 ^ (digitCount d.digits : ℤ) := by
    rw [← natCast_tenTo]
    exact_mod_cast lt_tenTo_digitCount d.digits
  rw [value, zpow_add₀ (by norm_num)]
  exact mul_lt_mul_of_pos_right hdigits (zpow_pos (by norm_num) _)

/-- A decimal with more than 310 places before the point is too large. -/
theorem roundPositive_of_large (hpos : 0 < d.digits)
    (h : 310 < (digitCount d.digits : ℤ) + d.exponent) :
    Extended.roundPositive d.value = .infinite false := by
  have hbound : (2 : ℚ) ^ 1024 ≤ 10 ^ (310 : ℤ) := by
    have hnat : 2 ^ 1024 ≤ 10 ^ 310 := by decide +kernel
    exact_mod_cast hnat
  have hlarge : (2 : ℚ) ^ 1024 ≤ d.value :=
    calc (2 : ℚ) ^ 1024 ≤ 10 ^ (310 : ℤ) := hbound
      _ ≤ 10 ^ ((digitCount d.digits : ℤ) + d.exponent - 1) :=
        zpow_le_zpow_right₀ (by norm_num) (by omega)
      _ ≤ d.value := le_value hpos
  rw [Extended.roundPositive, if_pos (le_nearest hlarge)]

/-- A decimal with more than 330 zeros after the point is too small. -/
theorem roundPositive_of_small (hpos : 0 < d.digits)
    (h : (digitCount d.digits : ℤ) + d.exponent < -330) :
    Extended.roundPositive d.value = .finite 0 := by
  have hvalue : 0 < d.value := mul_pos (by exact_mod_cast hpos) (zpow_pos (by norm_num) _)
  have hbound : (10 : ℚ) ^ (-331 : ℤ) < 2 ^ (-1075 : ℤ) := by
    have hnat : 2 ^ 1075 < 10 ^ 331 := by decide +kernel
    have hcast : (2 : ℚ) ^ (1075 : ℤ) < 10 ^ (331 : ℤ) := by exact_mod_cast hnat
    rw [zpow_neg, zpow_neg]
    exact inv_strictAnti₀ (zpow_pos two_pos _) hcast
  have hsmall : d.value < 2 ^ (-1075 : ℤ) :=
    calc d.value < 10 ^ ((digitCount d.digits : ℤ) + d.exponent) := value_lt d
      _ ≤ 10 ^ (-331 : ℤ) := zpow_le_zpow_right₀ (by norm_num) (by omega)
      _ < 2 ^ (-1075 : ℤ) := hbound
  rw [Extended.roundPositive, nearest_eq_zero hvalue hsmall, if_neg (not_le.2 (by positivity))]

/-- A decimal is read as the nearest floating-point number. -/
theorem ofFloat_toFloat (d : Decimal) :
    Extended.ofFloat d.toFloat = Extended.roundPositive d.value := by
  unfold toFloat
  split
  · next hzero =>
    rw [value, hzero, Nat.cast_zero, zero_mul, Extended.roundPositive_zero]
    rfl
  · next hne =>
    have hpos := Nat.pos_of_ne_zero hne
    dsimp only
    split
    · next hlarge => exact (roundPositive_of_large hpos hlarge).symm
    · split
      · next hsmall => exact (roundPositive_of_small hpos hsmall).symm
      · have hcount := digitCount_le hpos
        exact ofFloat_ofScientific hpos (by omega) (by omega)

/-- No other floating-point number is nearer to the decimal than the one that is read. -/
theorem abs_value_sub_le (d : Decimal) {p q : ℚ} {y : Float}
    (hread : Extended.ofFloat d.toFloat = .finite q) (hy : Extended.ofFloat y = .finite p) :
    |d.value - q| ≤ |d.value - p| := by
  have hq : nearest d.value = q := by
    rw [ofFloat_toFloat, Extended.roundPositive] at hread
    split at hread
    · cases hread
    · exact Extended.finite.inj hread
  rw [← hq]
  rcases d.value_nonneg.eq_or_lt with hzero | hpos
  · rw [← hzero, nearest_zero, sub_zero, abs_zero]
    exact abs_nonneg _
  have horigin : |d.value - nearest d.value| ≤ d.value := by
    have hwhole := abs_sub_nearest_le_whole d.value 0
    rwa [Int.cast_zero, zero_mul, sub_zero, abs_of_pos hpos] at hwhole
  have hfits : Extended.Fits y.toModel.unpack := Extended.fits_unpack _
  unfold Extended.ofFloat at hy
  generalize y.toModel.unpack = f at hfits hy
  cases f with
  | notANumber => cases hy
  | infinity sign => cases hy
  | zero sign =>
    obtain rfl := Extended.finite.inj hy
    rwa [sub_zero, abs_of_pos hpos]
  | finite sign m e hm =>
    obtain rfl := Extended.finite.inj hy
    cases sign with
    | positive => exact abs_sub_nearest_le hpos hfits.1
    | negative =>
      -- zero is nearer than any negative number
      have hvalue := Extended.value_pos hm e
      refine horigin.trans ((le_abs_self _).trans' ?_)
      show d.value ≤ d.value - -(m * 2 ^ e)
      linarith

end Decimal

end Dialogue.Number
