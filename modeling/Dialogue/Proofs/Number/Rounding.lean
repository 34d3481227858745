import Dialogue.Number.Binary
import Mathlib
set_option autoImplicit false

/-!
# Rounding

The floating-point number nearest to a rational number, as a rational number: a multiple of the step
between neighbouring numbers, of which the even one is taken where two are equally near.  The
arithmetic of floating-point numbers rounds in this way.
-/

namespace Dialogue.Number

open Float.Model (Format UnpackedFloat totalExponent)
open Float.Model.UnpackedFloat

/-! ## The nearest number -/

/-- The integer nearest to a number, and of two the even one. -/
def toEven (r : ℚ) : ℤ :=
  if Int.fract r < 1 / 2 then ⌊r⌋
  else if 1 / 2 < Int.fract r then ⌊r⌋ + 1
  else ⌊r⌋ + ⌊r⌋ % 2

/-- The exponent of the step between the floating-point numbers around a positive number. -/
def spacing (r : ℚ) : ℤ := max (Int.log 2 r - 52) (-1074)

/-- The floating-point number nearest to a positive number, without a bound on its size. -/
def nearest (r : ℚ) : ℚ := toEven (r / 2 ^ spacing r) * 2 ^ spacing r

section toEven

variable {r : ℚ} {k : ℤ}

theorem floor_le_toEven (r : ℚ) : ⌊r⌋ ≤ toEven r ∧ toEven r ≤ ⌊r⌋ + 1 := by
  unfold toEven
  split
  · omega
  · split <;> omega

theorem toEven_intCast (k : ℤ) : toEven k = k := by
  rw [toEven, Int.fract_intCast, if_pos (by norm_num), Int.floor_intCast]

theorem le_toEven (h : k ≤ r) : k ≤ toEven r :=
  (Int.le_floor.2 h).trans (floor_le_toEven r).1

theorem toEven_le (h : r ≤ k) : toEven r ≤ k := by
  rcases h.eq_or_lt with rfl | hlt
  · exact (toEven_intCast k).le
  · have hfloor := Int.floor_lt.2 hlt
    have hnext := (floor_le_toEven r).2
    omega

/-- What is less than a half is rounded to nothing. -/
theorem toEven_of_lt_half (hpos : 0 ≤ r) (h : r < 1 / 2) : toEven r = 0 := by
  have hfloor : ⌊r⌋ = 0 := Int.floor_eq_zero_iff.2 ⟨hpos, by linarith⟩
  have hfract : Int.fract r = r := by
    rw [Int.fract, hfloor, Int.cast_zero, sub_zero]
  rw [toEven, hfract, if_pos h, hfloor]

theorem abs_sub_toEven (r : ℚ) : |r - toEven r| = min (Int.fract r) (1 - Int.fract r) := by
  have hfract : r - ⌊r⌋ = Int.fract r := Int.self_sub_floor r
  have hpos := Int.fract_nonneg r
  have hlt := Int.fract_lt_one r
  unfold toEven
  split
  · rw [hfract, abs_of_nonneg hpos, min_eq_left (by linarith)]
  · split
    · push_cast
      rw [← sub_sub, hfract, abs_of_nonpos (by linarith), min_eq_right (by linarith), neg_sub]
    · have hhalf : Int.fract r = 1 / 2 := by linarith
      rw [hhalf] at hfract ⊢
      -- both neighbours are at the same distance
      rcases Int.emod_two_eq_zero_or_one ⌊r⌋ with hmod | hmod
      · rw [hmod, add_zero, hfract]
        norm_num
      · rw [hmod]
        push_cast
        rw [← sub_sub, hfract]
        norm_num

/-- No integer is nearer. -/
theorem abs_sub_toEven_le (r : ℚ) (k : ℤ) : |r - toEven r| ≤ |r - k| := by
  rw [abs_sub_toEven, ← abs_sub_round_eq_min]
  exact round_le r k

end toEven

section spacing

variable {r : ℚ}

theorem neg_le_spacing (r : ℚ) : -1074 ≤ spacing r := le_max_right _ _

theorem lt_zpow_spacing (r : ℚ) : r < 2 ^ (spacing r + 53) := by
  have hlog : r < (2 : ℕ) ^ (Int.log 2 r + 1) := Int.lt_zpow_succ_log_self (by norm_num) r
  refine hlog.trans_le ?_
  push_cast
  apply zpow_le_zpow_right₀ (by norm_num)
  have hle := le_max_left (Int.log 2 r - 52) (-1074)
  unfold spacing
  omega

/-- Above the smallest step, the number has 53 binary digits before its step. -/
theorem zpow_spacing_le (hpos : 0 < r) (h : spacing r ≠ -1074) : 2 ^ (spacing r + 52) ≤ r := by
  have hlog : ((2 : ℕ) : ℚ) ^ Int.log 2 r ≤ r := Int.zpow_log_le_self (by norm_num) hpos
  have hspacing : spacing r + 52 = Int.log 2 r := by
    unfold spacing at h ⊢
    omega
  rw [hspacing]
  exact_mod_cast hlog

/-- In its own steps a number has at most 53 binary digits. -/
theorem toEven_spacing_le (r : ℚ) : toEven (r / 2 ^ spacing r) ≤ 2 ^ 53 := by
  apply toEven_le
  have hlt := lt_zpow_spacing r
  rw [zpow_add₀ two_ne_zero] at hlt
  rw [div_le_iff₀ (zpow_pos two_pos _)]
  push_cast
  linarith

theorem le_toEven_spacing (hpos : 0 < r) (h : spacing r ≠ -1074) :
    2 ^ 52 ≤ toEven (r / 2 ^ spacing r) := by
  apply le_toEven
  have hge := zpow_spacing_le hpos h
  rw [zpow_add₀ two_ne_zero] at hge
  rw [le_div_iff₀ (zpow_pos two_pos _)]
  push_cast
  linarith

end spacing

/-! ## Mantissas with residual bits -/

/-- What two residual bits say about the part of a number that they stand for. -/
def Residue : (roundBit stickyBit : Bool) → ℚ → Prop
  | false, false, f => f = 0
  | false, true, f => 0 < f ∧ f < 1 / 2
  | true, false, f => f = 1 / 2
  | true, true, f => 1 / 2 < f ∧ f < 1

/-- The mantissa is the whole part of the number, and the bits encode the rest. -/
def Represents (em : ExtendedMantissa) (r : ℚ) : Prop :=
  Residue em.roundBit em.stickyBit (r - em.mantissa)

theorem Residue.bounds {roundBit stickyBit : Bool} {f : ℚ} (h : Residue roundBit stickyBit f) :
    0 ≤ f ∧ f < 1 := by
  cases roundBit <;> cases stickyBit <;> simp only [Residue] at h <;> constructor <;> linarith

/-- A bit before two residual bits becomes the round bit, and those are joined. -/
theorem Residue.half {roundBit stickyBit : Bool} {f : ℚ} (h : Residue roundBit stickyBit f)
    (bit : Bool) : Residue bit (roundBit || stickyBit) ((f + bit.toNat) / 2) := by
  cases bit <;> cases roundBit <;> cases stickyBit <;>
    simp only [Residue, Bool.or_false, Bool.or_true, Bool.toNat_false, Bool.toNat_true,
      Nat.cast_zero, Nat.cast_one] at h ⊢
  · linarith
  · constructor <;> linarith
  · constructor <;> linarith
  · constructor <;> linarith
  · linarith
  · constructor <;> linarith
  · constructor <;> linarith
  · constructor <;> linarith

section represents

variable {em : ExtendedMantissa} {r : ℚ}

theorem Represents.floor_eq (h : Represents em r) : ⌊r⌋ = em.mantissa := by
  have hbounds := Residue.bounds h
  rw [Int.floor_eq_iff]
  constructor
  · push_cast
    linarith
  · push_cast
    linarith

/-- A shift to the right halves the number. -/
theorem Represents.shiftRightOne (h : Represents em r) : Represents em.shiftRightOne (r / 2) := by
  have hbit : ((em.mantissa % 2 != 0).toNat : ℚ) = (em.mantissa % 2 : ℕ) := by
    rcases Nat.mod_two_eq_zero_or_one em.mantissa with hmod | hmod <;> simp [hmod]
  have hmantissa : (em.mantissa : ℚ) = 2 * (em.mantissa / 2 : ℕ) + (em.mantissa % 2 : ℕ) := by
    exact_mod_cast (Nat.div_add_mod em.mantissa 2).symm
  have hhalf := Residue.half h (em.mantissa % 2 != 0)
  have hrest : (r - em.mantissa + (em.mantissa % 2 != 0).toNat) / 2 =
      r / 2 - (em.mantissa / 2 : ℕ) := by
    rw [hbit, hmantissa]
    ring
  rw [hrest] at hhalf
  exact hhalf

theorem Represents.shiftRight (h : Represents em r) (n : Nat) :
    Represents (em >>> n) (r / 2 ^ n) := by
  induction n with
  | zero =>
    rw [pow_zero, div_one]
    exact h
  | succ n ih =>
    have hshift := ih.shiftRightOne
    rw [pow_succ, ← div_div]
    exact hshift

/-- The rounded mantissa is the nearest integer. -/
theorem Represents.roundedMantissa (h : Represents em r) : (em.roundedMantissa : ℤ) = toEven r := by
  have hfloor := h.floor_eq
  have hfract : Int.fract r = r - em.mantissa := by
    rw [Int.fract, hfloor]
    push_cast
    rfl
  obtain ⟨m, roundBit, stickyBit⟩ := em
  simp only [Represents] at h hfloor hfract
  rw [toEven, hfract, hfloor]
  cases roundBit <;> cases stickyBit <;> simp only [Residue] at h
  · rw [if_pos (by linarith)]
    rfl
  · rw [if_pos (by linarith)]
    rfl
  · rw [if_neg (by linarith), if_neg (by linarith)]
    rfl
  · rw [if_neg (by linarith), if_pos (by linarith)]
    rfl

end represents

/-- The bits of a number without a rest. -/
theorem represents_exact (m : Nat) :
    Represents (ExtendedMantissa.ofMantissaAndAccuracy m .exact) m := by
  simp [Represents, ExtendedMantissa.ofMantissaAndAccuracy, Residue]

/-- The bits of a quotient. -/
theorem represents_fraction (m : Nat) {num den : Nat} (h : num < den) :
    Represents (ExtendedMantissa.ofMantissaAndAccuracy m (accuracyOfFraction num den))
      (m + num / den) := by
  have hden : (0 : ℚ) < den := by exact_mod_cast Nat.zero_lt_of_lt h
  have hlt : (num : ℚ) / den < 1 := by
    rw [div_lt_one hden]
    exact_mod_cast h
  unfold accuracyOfFraction
  split
  · next hzero =>
    rw [hzero, Nat.cast_zero, zero_div, add_zero]
    exact represents_exact m
  · next hne =>
    have hpos : (0 : ℚ) < num / den := by
      have hnum : (0 : ℚ) < num := by exact_mod_cast Nat.pos_of_ne_zero hne
      positivity
    simp only [Represents]
    rcases lt_trichotomy (2 * num) den with hlow | hmid | hhigh
    · rw [compare_lt_iff_lt.2 hlow]
      have hcast : (2 : ℚ) * num < den := by exact_mod_cast hlow
      have hbelow : (num : ℚ) / den < 1 / 2 := by
        rw [div_lt_div_iff₀ hden two_pos]
        linarith
      simp only [ExtendedMantissa.ofMantissaAndAccuracy, Residue]
      constructor <;> linarith
    · rw [compare_eq_iff_eq.2 hmid]
      have hcast : (2 : ℚ) * num = den := by exact_mod_cast hmid
      have hequal : (num : ℚ) / den = 1 / 2 := by
        rw [div_eq_div_iff hden.ne' two_ne_zero]
        linarith
      simp only [ExtendedMantissa.ofMantissaAndAccuracy, Residue]
      linarith
    · rw [compare_gt_iff_gt.2 hhigh]
      have hcast : (den : ℚ) < 2 * num := by exact_mod_cast hhigh
      have habove : 1 / 2 < (num : ℚ) / den := by
        rw [div_lt_div_iff₀ two_pos hden]
        linarith
      simp only [ExtendedMantissa.ofMantissaAndAccuracy, Residue]
      constructor <;> linarith

/-! ## Rounding to the format -/

/-- The one form of a floating-point number: its mantissa has 53 binary digits, or fewer if the
exponent is the least one. -/
structure Canonical (m : ℕ) (e : ℤ) : Prop where
  lt : m < 2 ^ 53
  least : -1074 ≤ e
  full : e ≠ -1074 → 2 ^ 52 ≤ m

/-- No whole number of steps is nearer. -/
theorem abs_sub_nearest_le_whole (r : ℚ) (k : ℤ) : |r - nearest r| ≤ |r - k * 2 ^ spacing r| := by
  have hscale : (0 : ℚ) < 2 ^ spacing r := zpow_pos two_pos _
  have hdistance (n : ℤ) : |r - n * 2 ^ spacing r| = |r / 2 ^ spacing r - n| * 2 ^ spacing r := by
    rw [← abs_of_pos hscale, ← abs_mul, sub_mul, abs_of_pos hscale, div_mul_cancel₀ _ hscale.ne']
  rw [nearest, hdistance, hdistance]
  exact mul_le_mul_of_nonneg_right (abs_sub_toEven_le _ k) hscale.le

/-- No floating-point number is nearer. -/
theorem abs_sub_nearest_le {r : ℚ} (hpos : 0 < r) {m : ℕ} {e : ℤ} (h : Canonical m e) :
    |r - nearest r| ≤ |r - m * 2 ^ e| := by
  rcases le_or_gt (spacing r) e with hle | hlt
  · have hwhole : (m : ℚ) * 2 ^ e = (m * 2 ^ (e - spacing r).toNat : ℤ) * 2 ^ spacing r := by
      push_cast
      rw [mul_assoc, ← zpow_natCast, ← zpow_add₀ two_ne_zero, Int.toNat_of_nonneg (by omega),
        sub_add_cancel]
    rw [hwhole]
    exact abs_sub_nearest_le_whole r _
  · -- a number with a smaller step lies below the first one with the step of `r`
    have hleast := h.least
    have hfirst : 2 ^ 52 * 2 ^ spacing r ≤ r := by
      have hge := zpow_spacing_le hpos (by omega)
      rw [add_comm, zpow_add₀ two_ne_zero] at hge
      exact_mod_cast hge
    have hbelow : (m : ℚ) * 2 ^ e ≤ 2 ^ 52 * 2 ^ spacing r := by
      have hm : (m : ℚ) ≤ 2 ^ 53 := by exact_mod_cast h.lt.le
      have hpow : (2 : ℚ) ^ e ≤ 2 ^ (spacing r - 1) := zpow_le_zpow_right₀ one_le_two (by omega)
      calc (m : ℚ) * 2 ^ e ≤ 2 ^ 53 * 2 ^ (spacing r - 1) :=
            mul_le_mul hm hpow (zpow_pos two_pos e).le (by positivity)
        _ = 2 ^ 52 * 2 ^ spacing r := by
          rw [zpow_sub₀ two_ne_zero]
          ring
    have hwhole := abs_sub_nearest_le_whole r (2 ^ 52)
    push_cast at hwhole
    refine hwhole.trans ?_
    rw [abs_of_nonneg (by linarith), abs_of_nonneg (by linarith)]
    linarith

/-- The number is the one nearest to a positive number, with a sign. -/
inductive Rounds (sign : Sign) (v : ℚ) : UnpackedFloat → Prop where
  | zero (h : nearest v = 0) : Rounds sign v (.zero sign)
  | finite {m : ℕ} {e : ℤ} (hm : 0 < m) (hcanonical : Canonical m e) (h : m * 2 ^ e = nearest v) :
      Rounds sign v (.finite sign m e hm)

theorem targetExponent_binary64 (x : ℤ) :
    Format.binary64.targetExponent x = max (x - 53) (-1074) := rfl

theorem mantissa_ofMantissaAndAccuracy (m : ℕ) (accuracy : Accuracy) :
    (ExtendedMantissa.ofMantissaAndAccuracy m accuracy).mantissa = m := by
  unfold ExtendedMantissa.ofMantissaAndAccuracy
  split <;> rfl

theorem log_eq {v : ℚ} {k : ℤ} (hle : 2 ^ k ≤ v) (hlt : v < 2 ^ (k + 1)) : Int.log 2 v = k := by
  have hpos : 0 < v := (zpow_pos two_pos k).trans_le hle
  have hge : k ≤ Int.log 2 v :=
    (Int.zpow_le_iff_le_log (by norm_num) hpos).1 (by exact_mod_cast hle)
  have hle : Int.log 2 v < k + 1 :=
    (Int.lt_zpow_iff_log_lt (by norm_num) hpos).1 (by exact_mod_cast hlt)
  omega

section rounds

variable {m : ℕ} {e : ℤ} {accuracy : Accuracy} {r : ℚ}

/-- A number is shifted to its own step. -/
theorem targetExponent_eq_spacing
    (hr : Represents (ExtendedMantissa.ofMantissaAndAccuracy m accuracy) r) (hpos : 0 < r)
    (he : e ≤ Format.binary64.targetExponent (totalExponent m e)) :
    Format.binary64.targetExponent (totalExponent m e) = spacing (r * 2 ^ e) := by
  have hbounds := Residue.bounds hr
  rw [mantissa_ofMantissaAndAccuracy] at hbounds
  rw [targetExponent_binary64, totalExponent] at he ⊢
  have hscale : (0 : ℚ) < 2 ^ e := zpow_pos two_pos e
  rcases Nat.eq_zero_or_pos m with rfl | hm
  · -- a number below the smallest step
    have hleast : e ≤ -1074 := by
      rw [Nat.log2_zero] at he
      omega
    have hlt : r * 2 ^ e < 2 ^ (-1074 : ℤ) := by
      calc r * 2 ^ e < 1 * 2 ^ e := by
            apply mul_lt_mul_of_pos_right _ hscale
            simpa using hbounds.2
        _ = 2 ^ e := one_mul _
        _ ≤ 2 ^ (-1074 : ℤ) := zpow_le_zpow_right₀ (by norm_num) hleast
    have hlog : Int.log 2 (r * 2 ^ e) < -1074 :=
      (Int.lt_zpow_iff_log_lt (by norm_num) (mul_pos hpos hscale)).1 (by exact_mod_cast hlt)
    rw [spacing, Nat.log2_zero]
    omega
  · have hlow : (2 : ℚ) ^ m.log2 ≤ r := by
      have hle : (2 : ℚ) ^ m.log2 ≤ m := by exact_mod_cast Nat.log2_self_le hm.ne'
      linarith
    have hhigh : r < (2 : ℚ) ^ (m.log2 + 1) := by
      have hle : (m : ℚ) + 1 ≤ 2 ^ (m.log2 + 1) := by exact_mod_cast Nat.lt_log2_self
      linarith
    have hlog : Int.log 2 (r * 2 ^ e) = m.log2 + e := by
      apply log_eq
      · rw [zpow_add₀ two_ne_zero, zpow_natCast]
        exact mul_le_mul_of_nonneg_right hlow hscale.le
      · rw [show (m.log2 : ℤ) + e + 1 = (m.log2 + 1 : ℕ) + e by push_cast; ring,
          zpow_add₀ two_ne_zero, zpow_natCast]
        exact mul_lt_mul_of_pos_right hhigh hscale
    rw [spacing, hlog]
    congr 1
    ring

theorem shiftToTargetExponent_of_le
    (hr : Represents (ExtendedMantissa.ofMantissaAndAccuracy m accuracy) r) (hpos : 0 < r)
    (he : e ≤ Format.binary64.targetExponent (totalExponent m e)) :
    ∃ em, shiftToTargetExponent .binary64 m e accuracy = (em, spacing (r * 2 ^ e)) ∧
      Represents em (r * 2 ^ e / 2 ^ spacing (r * 2 ^ e)) := by
  have htarget := targetExponent_eq_spacing hr hpos he
  rw [htarget] at he
  rw [shiftToTargetExponent, htarget]
  set T := spacing (r * 2 ^ e)
  have hn : (((T - e).toNat : ℕ) : ℤ) = T - e := Int.toNat_of_nonneg (by omega)
  refine ⟨_, Prod.ext rfl ?_, ?_⟩
  · show e + ((T - e).toNat : ℤ) = T
    omega
  · have hshift := hr.shiftRight (T - e).toNat
    have hscaled : r * 2 ^ e / 2 ^ T = r / 2 ^ (T - e).toNat := by
      rw [← zpow_natCast (2 : ℚ) (T - e).toNat, hn, zpow_sub₀ two_ne_zero]
      field_simp
    rw [hscaled]
    exact hshift

/-- A canonical form is shifted no more. -/
theorem shiftToTargetExponent_canonical (h : Canonical m e) :
    shiftToTargetExponent .binary64 m e .exact = (⟨m, false, false⟩, e) := by
  have hlog : m.log2 < 53 := by
    rcases Nat.eq_zero_or_pos m with rfl | hm
    · decide
    · exact (Nat.log2_lt hm.ne').2 h.lt
  have hn : (max (((m.log2 : ℤ) + 1 + e) - 53) (-1074) - e).toNat = 0 := by
    have hleast := h.least
    omega
  rw [shiftToTargetExponent, shiftToExponent, targetExponent_binary64, totalExponent, hn]
  exact Prod.ext rfl (Int.add_zero e)

/-- A mantissa that has grown by rounding is shifted once more. -/
theorem shiftToTargetExponent_overflow (h : -1074 ≤ e) :
    shiftToTargetExponent .binary64 (2 ^ 53) e .exact = (⟨2 ^ 52, false, false⟩, e + 1) := by
  have hn : (max ((((2 ^ 53 : ℕ).log2 : ℤ) + 1 + e) - 53) (-1074) - e).toNat = 1 := by
    rw [Nat.log2_two_pow]
    omega
  rw [shiftToTargetExponent, shiftToExponent, targetExponent_binary64, totalExponent, hn]
  rfl

/-- Rounding gives the nearest number. -/
theorem rounds_roundWithAccuracy (sign : Sign)
    (hr : Represents (ExtendedMantissa.ofMantissaAndAccuracy m accuracy) r) (hpos : 0 < r)
    (he : e ≤ Format.binary64.targetExponent (totalExponent m e)) :
    Rounds sign (r * 2 ^ e) (roundWithAccuracy .binary64 sign m e accuracy) := by
  obtain ⟨em, hshift, hem⟩ := shiftToTargetExponent_of_le hr hpos he
  have hvpos : 0 < r * 2 ^ e := mul_pos hpos (zpow_pos two_pos e)
  set v := r * 2 ^ e
  have hmantissa := hem.roundedMantissa
  have hnearest : (em.roundedMantissa : ℚ) * 2 ^ spacing v = nearest v := by
    rw [nearest, ← hmantissa, Int.cast_natCast]
  have hle : em.roundedMantissa ≤ 2 ^ 53 := by
    have htop := toEven_spacing_le v
    omega
  have hfull : spacing v ≠ -1074 → 2 ^ 52 ≤ em.roundedMantissa := by
    intro hne
    have hbottom := le_toEven_spacing hvpos hne
    omega
  rw [roundWithAccuracy, hshift]
  dsimp only
  rcases hle.lt_or_eq with hlt | heq
  · have hcanonical : Canonical em.roundedMantissa (spacing v) := ⟨hlt, neg_le_spacing v, hfull⟩
    rw [shiftToTargetExponent_canonical hcanonical]
    dsimp only
    split
    · next hzero =>
      rw [hzero, Nat.cast_zero, zero_mul] at hnearest
      exact .zero hnearest.symm
    · exact .finite _ hcanonical hnearest
  · rw [heq, shiftToTargetExponent_overflow (neg_le_spacing v)]
    have hcanonical : Canonical (2 ^ 52) (spacing v + 1) := by
      refine ⟨by norm_num, ?_, fun _ => le_rfl⟩
      have hleast := neg_le_spacing v
      omega
    refine .finite _ hcanonical ?_
    rw [← hnearest, heq, zpow_add₀ two_ne_zero]
    push_cast
    ring

end rounds

end Dialogue.Number
