import Dialogue.Proofs.Number.Rounding
set_option autoImplicit false

/-!
# Denotation of floating-point numbers

A rational number, an infinity, or nothing.  The bits of a number and its canonical form determine
each other, so two numbers are equal exactly if they denote the same.  Main statements:
`Extended.beq_iff` and `Extended.ofUnpacked_pack`.
-/

namespace Dialogue.Number

open Float.Model (Format UnpackedFloat)
open Float.Model.UnpackedFloat

/-- A rational number, an infinity, or no number. -/
inductive Extended where
  | nan
  | infinite (negative : Bool)
  | finite (q : ℚ)
  deriving DecidableEq

namespace Extended

/-- The sign of an infinity. -/
def isMinus : Sign → Bool
  | .negative => true
  | .positive => false

/-- A rational number with a sign. -/
def signed : Sign → ℚ → ℚ
  | .negative, q => -q
  | .positive, q => q

/-- What a number in its unpacked form denotes. -/
def ofUnpacked : UnpackedFloat → Extended
  | .notANumber => nan
  | .infinity sign => infinite (isMinus sign)
  | .zero _ => finite 0
  | .finite sign m e _ => finite (signed sign (m * 2 ^ e))

/-- What a floating-point number denotes. -/
def ofFloat (x : Float) : Extended := ofUnpacked x.toModel.unpack

/-- The same with the other sign. -/
def opposite : Extended → Extended
  | nan => nan
  | infinite negative => infinite !negative
  | finite q => finite (-q)

/-- The floating-point number nearest to a number that is not negative; what is too large is
infinite. -/
def roundPositive (q : ℚ) : Extended :=
  if 2 ^ 1024 ≤ nearest q then infinite false else finite (nearest q)

/-- The nearest floating-point number. -/
def rounded : Extended → Extended
  | nan => nan
  | infinite negative => infinite negative
  | finite q => if q < 0 then (roundPositive (-q)).opposite else roundPositive q

/-! ## Packing -/

/-- The form has the mantissa and the exponent of a number that fits into the bits. -/
def Fits : UnpackedFloat → Prop
  | .finite _ m e _ => Canonical m e ∧ e ≤ 971
  | _ => True

section packing

variable {m : ℕ} {e : ℤ}

theorem toNat_one_append (v : BitVec 52) : (1#1 ++ v).toNat = 2 ^ 52 + v.toNat := by
  have hlt := v.isLt
  rw [BitVec.toNat_append, Nat.shiftLeft_eq, BitVec.toNat_ofNat]
  rw [show 1 % 2 ^ 1 * 2 ^ 52 = 2 ^ 52 * 1 by norm_num, ← Nat.two_pow_add_eq_or_of_lt hlt, mul_one]

theorem finite_congr {sign sign' : Sign} {m m' : ℕ} {e e' : ℤ} {hm : 0 < m} {hm' : 0 < m'}
    (hsign : sign = sign') (h : m = m') (he : e = e') :
    UnpackedFloat.finite sign m e hm = .finite sign' m' e' hm' := by
  subst hsign h he
  rfl

theorem exponentBias_binary64 : ((Format.binary64.exponentBias : ℕ) : ℤ) = 1023 := rfl

/-- Bits with an exponent make a number whose mantissa has all its digits. -/
theorem unpack_normal {b : BitVec Format.binary64.numBits} (hones : unpackExponent b ≠ -1#_)
    (hpos : unpackExponent b ≠ 0#_) :
    UnpackedFloat.unpack .binary64 b =
      .finite (Sign.ofBitVec (unpackSign b)) (2 ^ 52 + (unpackMantissa b).toNat)
        ((unpackExponent b).toNat - 1075) (Nat.add_pos_left (Nat.two_pow_pos 52) _) := by
  unfold UnpackedFloat.unpack
  dsimp only
  rw [if_neg hones, if_neg hpos]
  exact finite_congr rfl (toNat_one_append _) (by rw [exponentBias_binary64]; rfl)

/-- Bits without an exponent make a number with the least exponent. -/
theorem unpack_subnormal {b : BitVec Format.binary64.numBits} (hzero : unpackExponent b = 0#_)
    (hm : 0 < (unpackMantissa b).toNat) :
    UnpackedFloat.unpack .binary64 b =
      .finite (Sign.ofBitVec (unpackSign b)) (unpackMantissa b).toNat (-1074) hm := by
  have hne : unpackMantissa b ≠ 0#_ := by
    intro h
    rw [h] at hm
    exact absurd hm (by decide)
  unfold UnpackedFloat.unpack
  dsimp only
  rw [hzero, if_neg (by decide), if_pos rfl, dif_neg hne]
  exact finite_congr rfl rfl (by rw [exponentBias_binary64]; rfl)

/-- The bits of a finite number. -/
theorem pack_finite (sign : Sign) (hm : 0 < m) (hmost : e ≤ 971) :
    UnpackedFloat.pack .binary64 (.finite sign m e hm) =
      if m.log2 = 52 then
        packComponents .binary64 sign (BitVec.ofNat 11 (e + 1075).toNat) (BitVec.ofNat 52 m)
      else packComponents .binary64 sign 0#11 (BitVec.ofNat 52 m) := by
  have hbiased : e + (1023 : ℤ) + ((52 : ℕ) : ℤ) = e + 1075 := by omega
  rw [UnpackedFloat.pack]
  dsimp only
  rw [exponentBias_binary64, hbiased, if_neg (by norm_num; omega)]
  by_cases hlog : m.log2 = 52
  · rw [if_pos hlog, if_pos (by rw [hlog]; rfl)]
  · rw [if_neg hlog, if_neg]
    rw [show Format.binary64.mantissaBits = 53 from rfl]
    omega

/-- A number whose mantissa has all its digits is packed without loss. -/
theorem unpack_pack_normal (sign : Sign) (hm : 0 < m) (hfull : 2 ^ 52 ≤ m) (hlt : m < 2 ^ 53)
    (hleast : -1074 ≤ e) (hmost : e ≤ 971) :
    (Float.Model.pack (.finite sign m e hm)).unpack = .finite sign m e hm := by
  have hlog : m.log2 = 52 := (Nat.log2_eq_iff hm.ne').2 ⟨hfull, hlt⟩
  have hexponent : (BitVec.ofNat 11 (e + 1075).toNat).toNat = (e + 1075).toNat := by
    rw [BitVec.toNat_ofNat, Nat.mod_eq_of_lt]
    omega
  show UnpackedFloat.unpack .binary64 (UnpackedFloat.pack .binary64 _) = _
  rw [pack_finite sign hm hmost, if_pos hlog, unpack_normal]
  · apply finite_congr
    · rw [unpackSign_packComponents, Sign.ofBitVec_toBitVec]
    · rw [unpackMantissa_packComponents, BitVec.toNat_ofNat]
      show 2 ^ 52 + m % 2 ^ 52 = m
      omega
    · rw [unpackExponent_packComponents, hexponent]
      omega
  · rw [unpackExponent_packComponents, ne_eq, ← BitVec.toNat_inj, hexponent]
    show (e + 1075).toNat ≠ 2047
    omega
  · rw [unpackExponent_packComponents, ne_eq, ← BitVec.toNat_inj, hexponent]
    show (e + 1075).toNat ≠ 0
    omega

/-- So is a number with fewer digits and the least exponent. -/
theorem unpack_pack_subnormal (sign : Sign) (hm : 0 < m) (hlt : m < 2 ^ 52) :
    (Float.Model.pack (.finite sign m (-1074) hm)).unpack = .finite sign m (-1074) hm := by
  have hlog : m.log2 ≠ 52 := by
    have hsmall := (Nat.log2_lt hm.ne').2 hlt
    omega
  have hmantissa : (BitVec.ofNat 52 m).toNat = m := by
    rw [BitVec.toNat_ofNat, Nat.mod_eq_of_lt hlt]
  show UnpackedFloat.unpack .binary64 (UnpackedFloat.pack .binary64 _) = _
  rw [pack_finite sign hm (by norm_num), if_neg hlog,
    unpack_subnormal unpackExponent_packComponents]
  · apply finite_congr
    · rw [unpackSign_packComponents, Sign.ofBitVec_toBitVec]
    · rw [unpackMantissa_packComponents, hmantissa]
    · rfl
  · rw [unpackMantissa_packComponents, hmantissa]
    exact hm

/-- What is too large becomes infinite. -/
theorem unpack_pack_overflow (sign : Sign) (hm : 0 < m) (h : 971 < e) :
    (Float.Model.pack (.finite sign m e hm)).unpack = .infinity sign := by
  have hbiased : e + (1023 : ℤ) + ((52 : ℕ) : ℤ) = e + 1075 := by omega
  show UnpackedFloat.unpack .binary64 (UnpackedFloat.pack .binary64 _) = _
  rw [UnpackedFloat.pack]
  dsimp only
  rw [exponentBias_binary64, hbiased, if_pos (by norm_num; omega)]
  cases sign <;> rfl

/-- A number that fits is packed without loss. -/
theorem unpack_pack {f : UnpackedFloat} (h : Fits f) : (Float.Model.pack f).unpack = f := by
  cases f with
  | notANumber => rfl
  | infinity sign => cases sign <;> rfl
  | zero sign => cases sign <;> rfl
  | finite sign m e hm =>
    obtain ⟨hcanonical, hmost⟩ := h
    by_cases hfull : 2 ^ 52 ≤ m
    · exact unpack_pack_normal sign hm hfull hcanonical.lt hcanonical.least hmost
    · obtain rfl : e = -1074 := by
        by_contra hne
        exact hfull (hcanonical.full hne)
      exact unpack_pack_subnormal sign hm (by omega)

/-- Bits give a form that fits. -/
theorem fits_unpack (b : BitVec Format.binary64.numBits) :
    Fits (UnpackedFloat.unpack .binary64 b) := by
  have hmantissa : (unpackMantissa b).toNat < 2 ^ 52 := (unpackMantissa b).isLt
  have hexponent : (unpackExponent b).toNat < 2048 := (unpackExponent b).isLt
  by_cases hones : unpackExponent b = -1#_
  · unfold UnpackedFloat.unpack
    dsimp only
    rw [if_pos hones]
    split <;> trivial
  · by_cases hzero : unpackExponent b = 0#_
    · rcases Nat.eq_zero_or_pos (unpackMantissa b).toNat with hnone | hpos
      · have hnone : unpackMantissa b = 0#_ := BitVec.eq_of_toNat_eq hnone
        unfold UnpackedFloat.unpack
        dsimp only
        rw [if_neg hones, if_pos hzero, dif_pos hnone]
        trivial
      · rw [unpack_subnormal hzero hpos]
        exact ⟨⟨by omega, le_rfl, fun hne => absurd rfl hne⟩, by norm_num⟩
    · rw [unpack_normal hones hzero]
      rw [← BitVec.toNat_inj] at hones hzero
      have hmost : (unpackExponent b).toNat ≠ 2047 := hones
      have hleast : (unpackExponent b).toNat ≠ 0 := hzero
      exact ⟨⟨by omega, by omega, fun _ => by omega⟩, by omega⟩

end packing

/-! ## Equality -/

section equality

variable {f g : UnpackedFloat} {m m' : ℕ} {e e' : ℤ}

/-- Of two canonical forms of one number, neither has the smaller exponent. -/
theorem exponent_le_of_eq (h : Canonical m e) (h' : Canonical m' e')
    (heq : (m : ℚ) * 2 ^ e = m' * 2 ^ e') : e' ≤ e := by
  by_contra! hlt
  have hfull : 2 ^ 52 ≤ m' := h'.full (by have hleast := h.least; omega)
  have hscaled : m = m' * 2 ^ (e' - e).toNat := by
    have hpow : (2 : ℚ) ^ e' = 2 ^ (e' - e).toNat * 2 ^ e := by
      rw [← zpow_natCast, ← zpow_add₀ two_ne_zero]
      congr 1
      omega
    rw [hpow, ← mul_assoc] at heq
    exact_mod_cast mul_right_cancel₀ (zpow_pos two_pos e).ne' heq
  have hdouble : 2 ^ 1 ≤ 2 ^ (e' - e).toNat := Nat.pow_le_pow_right two_pos (by omega)
  have hlarge : 2 ^ 52 * 2 ^ 1 ≤ m := hscaled ▸ Nat.mul_le_mul hfull hdouble
  have hsmall := h.lt
  omega

/-- A number has one canonical form. -/
theorem canonical_unique (h : Canonical m e) (h' : Canonical m' e') :
    (m : ℚ) * 2 ^ e = m' * 2 ^ e' ↔ e = e' ∧ m = m' := by
  constructor
  · intro heq
    obtain rfl : e = e' :=
      le_antisymm (exponent_le_of_eq h' h heq.symm) (exponent_le_of_eq h h' heq)
    exact ⟨rfl, by exact_mod_cast mul_right_cancel₀ (zpow_pos two_pos e).ne' heq⟩
  · rintro ⟨rfl, rfl⟩
    rfl

theorem signed_inj {sign sign' : Sign} {p q : ℚ} (hp : 0 < p) (hq : 0 < q)
    (h : signed sign p = signed sign' q) : sign = sign' ∧ p = q := by
  cases sign <;> cases sign' <;> simp only [signed] at h
  · exact ⟨rfl, neg_inj.1 h⟩
  · linarith
  · linarith
  · exact ⟨rfl, h⟩

theorem signed_ne_zero (sign : Sign) {q : ℚ} (h : 0 < q) : signed sign q ≠ 0 := by
  cases sign
  · exact neg_ne_zero.2 h.ne'
  · exact h.ne'

theorem value_pos (hm : 0 < m) (e : ℤ) : (0 : ℚ) < m * 2 ^ e :=
  mul_pos (by exact_mod_cast hm) (zpow_pos two_pos e)

/-- Two forms that fit denote the same only if they are the same, up to the sign of a zero. -/
theorem eq_or_zero_of_ofUnpacked (hf : Fits f) (hg : Fits g) (h : ofUnpacked f = ofUnpacked g) :
    f = g ∨ ∃ sign sign', f = .zero sign ∧ g = .zero sign' := by
  cases f with
  | notANumber => cases g <;> simp_all [ofUnpacked]
  | infinity sign =>
    cases g with
    | infinity sign' => cases sign <;> cases sign' <;> simp_all [ofUnpacked, isMinus]
    | _ => cases h
  | zero sign =>
    cases g with
    | zero sign' => exact .inr ⟨sign, sign', rfl, rfl⟩
    | finite sign' m' e' hm' =>
      exact absurd (Extended.finite.inj h).symm (signed_ne_zero sign' (value_pos hm' e'))
    | _ => cases h
  | finite sign m e hm =>
    cases g with
    | zero sign' => exact absurd (Extended.finite.inj h) (signed_ne_zero sign (value_pos hm e))
    | finite sign' m' e' hm' =>
      obtain ⟨rfl, hvalue⟩ :=
        signed_inj (value_pos hm e) (value_pos hm' e') (Extended.finite.inj h)
      obtain ⟨rfl, rfl⟩ := (canonical_unique hf.1 hg.1).1 hvalue
      exact .inl rfl
    | _ => cases h

theorem ofUnpacked_eq_nan_iff : ofUnpacked f = nan ↔ f = .notANumber := by
  cases f <;> simp [ofUnpacked]

/-- Two forms that fit compare as equal exactly if they denote the same number. -/
theorem beq_unpacked_iff (hf : Fits f) (hg : Fits g) :
    f.beq g = true ↔ ofUnpacked f ≠ nan ∧ ofUnpacked f = ofUnpacked g := by
  rw [beq_iff_ne_notANumber_and_eq, ne_eq (ofUnpacked f), ofUnpacked_eq_nan_iff]
  constructor
  · rintro ⟨hnan, -, rfl | ⟨rfl, rfl⟩ | ⟨rfl, rfl⟩⟩
    · exact ⟨hnan, rfl⟩
    · exact ⟨hnan, rfl⟩
    · exact ⟨hnan, rfl⟩
  · rintro ⟨hnan, heq⟩
    have hnan' : g ≠ .notANumber := by
      rw [ne_eq, ← ofUnpacked_eq_nan_iff, ← heq, ofUnpacked_eq_nan_iff]
      exact hnan
    refine ⟨hnan, hnan', ?_⟩
    rcases eq_or_zero_of_ofUnpacked hf hg heq with rfl | ⟨sign, sign', rfl, rfl⟩
    · exact .inl rfl
    · cases sign <;> cases sign' <;> simp

/-- Two floating-point numbers are equal exactly if they denote the same number. -/
theorem beq_iff (x y : Float) : (x == y) = true ↔ ofFloat x ≠ nan ∧ ofFloat x = ofFloat y :=
  beq_unpacked_iff (fits_unpack _) (fits_unpack _)

/-- The other sign. -/
theorem ofFloat_neg (x : Float) : ofFloat (-x) = (ofFloat x).opposite := by
  show ofUnpacked (Float.Model.pack x.toModel.unpack.neg).unpack =
    (ofUnpacked x.toModel.unpack).opposite
  have hfits : Fits x.toModel.unpack := fits_unpack _
  generalize x.toModel.unpack = f at hfits
  cases f with
  | notANumber => rfl
  | infinity sign => cases sign <;> rfl
  | zero sign => cases sign <;> exact congrArg finite neg_zero.symm
  | finite sign m e hm =>
    have hneg : Fits (UnpackedFloat.neg (.finite sign m e hm)) := hfits
    rw [unpack_pack hneg]
    cases sign
    · exact congrArg finite (neg_neg _).symm
    · rfl

end equality

/-! ## Rounding -/

section rounding

variable {v : ℚ} {f : UnpackedFloat}

/-- A number that was rounded to the format denotes the nearest number. -/
theorem ofUnpacked_pack (h : Rounds .positive v f) :
    ofUnpacked (Float.Model.pack f).unpack = roundPositive v := by
  cases h with
  | zero h =>
    rw [roundPositive, h, if_neg (not_le.2 (by positivity))]
    rfl
  | @finite m e hm hcanonical h =>
    rw [roundPositive, ← h]
    by_cases hmost : e ≤ 971
    · have hfits : Fits (.finite .positive m e hm) := ⟨hcanonical, hmost⟩
      have hlt : (m : ℚ) * 2 ^ e < 2 ^ 1024 := by
        have hm : (m : ℚ) < 2 ^ 53 := by exact_mod_cast hcanonical.lt
        have hpow : (2 : ℚ) ^ e ≤ 2 ^ 971 := by
          rw [← zpow_natCast]
          exact zpow_le_zpow_right₀ one_le_two hmost
        calc (m : ℚ) * 2 ^ e < 2 ^ 53 * 2 ^ e := mul_lt_mul_of_pos_right hm (zpow_pos two_pos e)
          _ ≤ 2 ^ 53 * 2 ^ 971 := mul_le_mul_of_nonneg_left hpow (by positivity)
          _ = 2 ^ 1024 := (pow_add 2 53 971).symm
      rw [unpack_pack hfits, if_neg hlt.not_ge]
      rfl
    · have hle : (2 : ℚ) ^ 1024 ≤ m * 2 ^ e := by
        have hm : (2 : ℚ) ^ 52 ≤ m := by exact_mod_cast hcanonical.full (by omega)
        have hpow : (2 : ℚ) ^ 972 ≤ 2 ^ e := by
          rw [← zpow_natCast]
          exact zpow_le_zpow_right₀ one_le_two (by omega)
        calc (2 : ℚ) ^ 1024 = 2 ^ 52 * 2 ^ 972 := pow_add 2 52 972
          _ ≤ m * 2 ^ e := mul_le_mul hm hpow (by positivity) (by positivity)
      rw [unpack_pack_overflow _ hm (by omega), if_pos hle]
      rfl

end rounding

end Extended
end Dialogue.Number
