import Dialogue.Number.Decimal
import Mathlib.Data.List.DropRight
set_option autoImplicit false

/-!
# Shape of written numbers

A finite number is written as digits with an optional fraction and an optional exponent, and its
first digit is a zero only if it is the only one before the point.  Main statement:
`Number.exists_numeral_write`.
-/

namespace Dialogue

/-! ## Digits -/

namespace Text

theorem ne_of_isDigit {c d : Char} (hc : c.isDigit = true) (hd : d.isDigit = false) : c ≠ d := by
  rintro rfl
  rw [hd] at hc
  cases hc

theorem toNat_of_isDigit {c : Char} (h : c.isDigit = true) : 48 ≤ c.toNat ∧ c.toNat ≤ 57 := by
  simp only [Char.isDigit, Bool.and_eq_true, decide_eq_true_eq] at h
  exact h

section span

variable {ds more : Text}

/-- Digits before a text that begins with none are separated from it. -/
theorem takeWhile_isDigit_append (hds : ∀ c ∈ ds, c.isDigit = true)
    (hmore : ∀ c ∈ more.head?, c.isDigit = false) : (ds ++ more).takeWhile Char.isDigit = ds := by
  rw [List.takeWhile_append_of_pos hds]
  cases more with
  | nil => rw [List.takeWhile_nil, List.append_nil]
  | cons c more => rw [List.takeWhile_cons_of_neg (by simp [hmore c rfl]), List.append_nil]

theorem dropWhile_isDigit_append (hds : ∀ c ∈ ds, c.isDigit = true)
    (hmore : ∀ c ∈ more.head?, c.isDigit = false) : (ds ++ more).dropWhile Char.isDigit = more := by
  rw [List.dropWhile_append_of_pos hds]
  cases more with
  | nil => rfl
  | cons c more => rw [List.dropWhile_cons_of_neg (by simp [hmore c rfl])]

end span

theorem isDigit_of_mem_ofNat {n : Nat} {c : Char} (h : c ∈ ofNat n) : c.isDigit = true :=
  Nat.isDigit_of_mem_toDigits (by decide) (by decide) h

/-- A positive number does not begin with a zero. -/
theorem exists_ofNat_eq_cons {n : Nat} (h : 0 < n) : ∃ d ds, ofNat n = d :: ds ∧ d ≠ '0' := by
  have hdigit : ∀ k < 10, 0 < k → Nat.digitChar k ≠ '0' := by decide
  induction n using Nat.strongRecOn with
  | ind n ih =>
    rw [ofNat, Nat.toDigits_eq_if (by decide)]
    split
    · next hlt => exact ⟨_, [], rfl, hdigit n hlt h⟩
    · next hge =>
      obtain ⟨d, ds, heq, hd⟩ := ih (n / 10) (by omega) (by omega)
      rw [ofNat] at heq
      exact ⟨d, ds ++ [Nat.digitChar (n % 10)], by rw [heq]; rfl, hd⟩

end Text

namespace Number

theorem lt_tenTo_digitCount (n : Nat) : n < tenTo (digitCount n) :=
  (Nat.length_toDigits_le_iff (by decide) Nat.length_toDigits_pos).1 (Nat.le_refl _)

theorem length_ofNat_le {n k : Nat} (hk : 0 < k) (h : n < tenTo k) : (Text.ofNat n).length ≤ k :=
  (Nat.length_toDigits_le_iff (by decide) hk).2 h

theorem tenTo_le_of_pos {n : Nat} (h : 0 < n) : tenTo (digitCount n - 1) ≤ n := by
  rcases Nat.lt_or_ge 1 (digitCount n) with hmany | hone
  · -- fewer digits would be enough for a smaller number
    by_contra hlt
    have hle := (Nat.length_toDigits_le_iff (b := 10) (n := n) (k := digitCount n - 1) (by decide)
      (by omega)).2 (Nat.not_le.1 hlt)
    have heq : (Nat.toDigits 10 n).length = digitCount n := rfl
    omega
  · have hzero : digitCount n - 1 = 0 := by omega
    rw [hzero]
    exact h

theorem tenTo_pos (n : Nat) : 0 < tenTo n := Nat.pow_pos (by decide)

theorem tenTo_succ (n : Nat) : tenTo (n + 1) = tenTo n * 10 := rfl

theorem twoTo_pos (n : Nat) : 0 < twoTo n := Nat.pow_pos (by decide)

theorem tenTo_le_tenTo {m n : Nat} (h : m ≤ n) : tenTo m ≤ tenTo n :=
  Nat.pow_le_pow_right (by decide) h

/-! ## The shortest digits are not zero -/

namespace Interval

/-- The interval of a number that is not zero. -/
structure Positive (i : Interval) : Prop where
  low : 0 < i.low
  value : 0 < i.value
  unit : 0 < i.unit

theorem positive_ofBinary {m : Nat} (h : 0 < m) (q : Int) : (ofBinary m q).Positive := by
  have hscale : 0 < if 0 ≤ q then twoTo q.toNat else 1 := by
    split
    · exact twoTo_pos _
    · exact Nat.one_pos
  have hdown : 0 < 4 * m - if m = twoTo 52 ∧ -1074 < q then 1 else 2 := by
    split <;> omega
  refine ⟨Nat.mul_pos hdown hscale, Nat.mul_pos (by omega) hscale, ?_⟩
  show 0 < if 0 ≤ q then 4 else 4 * twoTo (-q).toNat
  have hpow := twoTo_pos (-q).toNat
  split <;> omega

theorem Positive.scale {i : Interval} (h : i.Positive) (k : Int) : (i.scale k).Positive := by
  unfold Interval.scale
  split
  · exact ⟨Nat.mul_pos h.low (tenTo_pos _), Nat.mul_pos h.value (tenTo_pos _), h.unit⟩
  · exact ⟨h.low, h.value, Nat.mul_pos h.unit (tenTo_pos _)⟩

/-- Zero lies outside of the interval. -/
theorem Positive.pos_of_nearest? {i : Interval} (h : i.Positive) {n : Nat}
    (hn : i.nearest? = some n) : 0 < n := by
  have hzero : i.has 0 = false := by
    have hlow := h.low
    unfold Interval.has
    split
    · simp
      omega
    · simp
  have hbelow : i.has (i.value / i.unit) = true → 0 < i.value / i.unit := by
    intro hhas
    refine Nat.pos_of_ne_zero fun heq => ?_
    rw [heq, hzero] at hhas
    cases hhas
  unfold nearest? at hn
  dsimp only at hn
  split at hn
  · next hhas _ =>
    split at hn
    · rw [← Option.some.inj hn]
      exact hbelow hhas
    · rw [← Option.some.inj hn]
      exact Nat.succ_pos _
  · next hhas _ =>
    rw [← Option.some.inj hn]
    exact hbelow hhas
  · rw [← Option.some.inj hn]
    exact Nat.succ_pos _
  · cases hn

/-- From the first of its digits on, the number is at least one. -/
theorem Positive.unit_le_value {i : Interval} (h : i.Positive) {n : Nat} (hn : 0 < n) :
    (i.scale (n - i.magnitude)).unit ≤ (i.scale (n - i.magnitude)).value := by
  unfold magnitude
  split
  · next hle =>
    generalize hk : digitCount (i.value / i.unit) = k
    have hquotient : 0 < i.value / i.unit := Nat.div_pos hle h.unit
    have hpow := tenTo_le_of_pos hquotient
    rw [hk] at hpow
    unfold Interval.scale
    split
    · exact Nat.le_trans hle (Nat.le_mul_of_pos_right _ (tenTo_pos _))
    · next hneg =>
      calc i.unit * tenTo (-((n : Int) - k)).toNat
          ≤ i.unit * tenTo (k - 1) := Nat.mul_le_mul_left _ (tenTo_le_tenTo (by omega))
        _ ≤ i.unit * (i.value / i.unit) := Nat.mul_le_mul_left _ hpow
        _ ≤ i.value := Nat.mul_div_le _ _
  · next hlt =>
    generalize hk : digitCount ((i.unit - 1) / i.value) = k
    have hpow := lt_tenTo_digitCount ((i.unit - 1) / i.value)
    rw [hk] at hpow
    have hunit : i.unit - 1 < i.value * tenTo k :=
      (Nat.div_lt_iff_lt_mul h.value).1 hpow |>.trans_eq
        (Nat.mul_comm _ _)
    unfold Interval.scale
    rw [if_pos (by omega)]
    calc i.unit ≤ i.value * tenTo k := by omega
      _ ≤ i.value * tenTo ((n : Int) - (1 - k)).toNat :=
        Nat.mul_le_mul_left _ (tenTo_le_tenTo (by omega))

theorem Positive.pos_shortestFrom {i : Interval} (h : i.Positive) (tries : Nat) {n : Nat}
    (hn : 0 < n) : 0 < (i.shortestFrom i.magnitude tries n).digits := by
  induction tries generalizing n with
  | zero => exact Nat.div_pos (h.unit_le_value hn) (h.scale _).unit
  | succ tries ih =>
    unfold shortestFrom
    split
    · next d hd => exact (h.scale _).pos_of_nearest? hd
    · exact ih (Nat.succ_pos n)

end Interval

theorem pos_digits_shortest {m : Nat} (h : 0 < m) (q : Int) : 0 < (shortest m q).digits :=
  (Interval.positive_ofBinary h q).pos_shortestFrom 17 Nat.one_pos

/-! ## Numerals -/

/-- The parts of a written number. -/
structure Numeral where
  negative : Bool
  whole : Text
  fraction : Text
  exponent : Text

namespace Numeral

/-- The number as it is written, without its sign. -/
def unsigned (n : Numeral) : Text := n.whole ++ (n.fraction ++ n.exponent)

/-- The number as it is written. -/
def text (n : Numeral) : Text := (if n.negative then ['-'] else []) ++ n.unsigned

/-- The whole part is a zero, or it does not begin with one; the fraction is a point with digits,
and the exponent a letter and a sign with digits, if they are not left out. -/
structure Valid (n : Numeral) : Prop where
  whole : n.whole = ['0'] ∨ ∃ d ds, n.whole = d :: ds ∧ d ≠ '0' ∧ ∀ c ∈ d :: ds, c.isDigit = true
  fraction : n.fraction = [] ∨
    ∃ d ds, n.fraction = '.' :: d :: ds ∧ ∀ c ∈ d :: ds, c.isDigit = true
  exponent : n.exponent = [] ∨
    ∃ sign d ds, n.exponent = 'e' :: sign :: d :: ds ∧ (sign = '-' ∨ sign = '+') ∧
      ∀ c ∈ d :: ds, c.isDigit = true

theorem Valid.exists_whole_eq_cons {n : Numeral} (h : n.Valid) :
    ∃ d ds, n.whole = d :: ds ∧ d.isDigit = true := by
  rcases h.whole with hzero | ⟨d, ds, heq, -, hds⟩
  · exact ⟨'0', [], hzero, by decide⟩
  · exact ⟨d, ds, heq, hds d List.mem_cons_self⟩

/-- A numeral holds digits, signs, a point and a letter, and nothing else. -/
theorem Valid.of_mem_text {n : Numeral} (h : n.Valid) {c : Char} (hc : c ∈ n.text) :
    c.isDigit = true ∨ c ∈ ['-', '.', 'e', '+'] := by
  rcases List.mem_append.1 hc with hsign | hunsigned
  · cases hnegative : n.negative <;> simp [hnegative] at hsign
    exact .inr (by simp [hsign])
  · rcases List.mem_append.1 hunsigned with hwhole | hmore
    · rcases h.whole with heq | ⟨d, ds, heq, -, hds⟩
      · rw [heq, List.mem_singleton] at hwhole
        exact .inl (by rw [hwhole]; decide)
      · exact .inl (hds c (heq ▸ hwhole))
    · rcases List.mem_append.1 hmore with hfraction | hexponent
      · rcases h.fraction with heq | ⟨d, ds, heq, hds⟩
        · simp [heq] at hfraction
        · rw [heq, List.mem_cons] at hfraction
          exact hfraction.elim (fun hpoint => .inr (by simp [hpoint])) fun hmem => .inl (hds c hmem)
      · rcases h.exponent with heq | ⟨sign, d, ds, heq, hsign, hds⟩
        · simp [heq] at hexponent
        · rw [heq, List.mem_cons, List.mem_cons] at hexponent
          rcases hexponent with hletter | rfl | hmem
          · exact .inr (by simp [hletter])
          · exact .inr (by rcases hsign with rfl | rfl <;> simp)
          · exact .inl (hds c hmem)

theorem Valid.text_ne_nil {n : Numeral} (h : n.Valid) : n.text ≠ [] := by
  obtain ⟨d, ds, heq, -⟩ := h.exists_whole_eq_cons
  simp [text, unsigned, heq]

end Numeral

/-- An integer is written without fraction and exponent. -/
theorem exists_numeral_ofInt (n : Int) :
    ∃ whole, (⟨decide (n < 0), whole, [], []⟩ : Numeral).Valid ∧
      Text.ofInt n = (⟨decide (n < 0), whole, [], []⟩ : Numeral).text ∧
      whole = Text.ofNat n.natAbs := by
  refine ⟨Text.ofNat n.natAbs, ⟨?_, .inl rfl, .inl rfl⟩, ?_, rfl⟩
  · rcases Nat.eq_zero_or_pos n.natAbs with hzero | hpos
    · left
      rw [hzero]
      rfl
    · right
      obtain ⟨d, ds, heq, hd⟩ := Text.exists_ofNat_eq_cons hpos
      refine ⟨d, ds, heq, hd, fun c hc => ?_⟩
      rw [← heq] at hc
      exact Text.isDigit_of_mem_ofNat hc
  · cases n with
    | ofNat n => simp [Text.ofInt, Numeral.text, Numeral.unsigned]
    | negSucc n => simp [Text.ofInt, Numeral.text, Numeral.unsigned, Int.negSucc_lt_zero]

/-! ## Finite numbers -/

section parts

open Float.Model.UnpackedFloat (unpackExponent)

theorem toNat_unpackExponent (b : BitVec Float.Model.Format.binary64.numBits) :
    (unpackExponent b).toNat = b.toNat / twoTo 52 % twoTo 11 := by
  simp [unpackExponent, twoTo, Nat.shiftRight_eq_div_pow]

/-- A number that is neither a NaN nor an infinity has parts. -/
theorem exists_parts? {x : Float} (hnan : x.isNaN = false) (hinf : x.isInf = false) :
    ∃ p, parts? x = some p := by
  refine Option.isSome_iff_exists.1 (Option.isSome_iff_ne_none.2 fun hnone => ?_)
  -- an exponent field of ones is left for a NaN and for an infinity
  have hfield : @unpackExponent .binary64 x.toBits.toBitVec = -1#_ := by
    rw [← BitVec.toNat_inj, toNat_unpackExponent]
    unfold parts? at hnone
    dsimp only at hnone
    split at hnone
    · assumption
    · split at hnone <;> cases hnone
  have hunpack : x.toModel.unpack.isNaN = false ∧ x.toModel.unpack.isInf = false := ⟨hnan, hinf⟩
  unfold Float.Model.unpack Float.Model.UnpackedFloat.unpack at hunpack
  rw [show x.toModel.toBits = x.toBits from rfl, hfield, if_pos rfl] at hunpack
  split at hunpack
  · cases hunpack.2
  · cases hunpack.1

end parts

theorem prefix_dropTrailingZeros (t : Text) : dropTrailingZeros t <+: t :=
  List.rdropWhile_prefix _ t

/-- Digits that do not begin with a zero keep their first digit. -/
theorem exists_dropTrailingZeros_eq_cons {d : Char} (hd : d ≠ '0') (ds : Text) :
    ∃ rest, dropTrailingZeros (d :: ds) = d :: rest := by
  have hne : dropTrailingZeros (d :: ds) ≠ [] := by
    intro hnil
    have hall := List.rdropWhile_eq_nil_iff.1 hnil d (by simp)
    exact hd (by simpa using hall)
  obtain ⟨c, rest, heq⟩ := List.exists_cons_of_ne_nil hne
  have hinit := prefix_dropTrailingZeros (d :: ds)
  rw [heq] at hinit
  obtain ⟨rfl, -⟩ := List.cons_prefix_cons.1 hinit
  exact ⟨rest, heq⟩

theorem exists_exponentText_eq (e : Int) :
    ∃ sign d ds, exponentText e = 'e' :: sign :: d :: ds ∧ (sign = '-' ∨ sign = '+') ∧
      ∀ c ∈ d :: ds, c.isDigit = true := by
  obtain ⟨d, ds, heq⟩ := List.exists_cons_of_ne_nil (Nat.toDigits_ne_nil (n := e.natAbs) (b := 10))
  have hdigits : Text.ofNat e.natAbs = d :: ds := heq
  have hall : ∀ c ∈ d :: ds, c.isDigit = true := fun c hc =>
    Text.isDigit_of_mem_ofNat (by rw [hdigits]; exact hc)
  have hsign : (if e < 0 then '-' else '+') = '-' ∨ (if e < 0 then '-' else '+') = '+' := by
    split <;> simp
  unfold exponentText
  generalize (if e < 0 then '-' else '+') = sign at hsign ⊢
  rw [hdigits]
  dsimp only
  split
  · exact ⟨sign, '0', d :: ds, rfl, hsign, List.forall_mem_cons.2 ⟨by decide, hall⟩⟩
  · exact ⟨sign, d, ds, rfl, hsign, hall⟩

section place

variable {d : Char} {ds : Text}

/-- Digits that do not begin with a zero are laid out as a numeral, wherever the point is. -/
theorem exists_numeral_place (hd : d ≠ '0') (hall : ∀ c ∈ d :: ds, c.isDigit = true)
    (negative : Bool) (p : Int) :
    ∃ n : Numeral, n.Valid ∧ n.fraction ++ n.exponent ≠ [] ∧ n.negative = negative ∧
      plainLayout.place (d :: ds) p = n.unsigned := by
  have hzeros : ∀ k, ∀ c ∈ List.replicate k '0', c.isDigit = true := by
    intro k c hc
    rw [List.eq_of_mem_replicate hc]
    decide
  unfold Layout.place
  split
  · split
    · -- all digits stand after the point
      refine ⟨⟨negative, ['0'], '.' :: (List.replicate (-p).toNat '0' ++ d :: ds), []⟩,
        ⟨.inl rfl, .inr ?_, .inl rfl⟩, by simp, rfl, by simp [Numeral.unsigned]⟩
      have hboth : ∀ c ∈ List.replicate (-p).toNat '0' ++ d :: ds, c.isDigit = true :=
        fun c hc => (List.mem_append.1 hc).elim (hzeros _ c) (hall c)
      obtain ⟨c, cs, heq⟩ := List.exists_cons_of_ne_nil
        (List.append_ne_nil_of_right_ne_nil (List.replicate (-p).toNat '0') (List.cons_ne_nil d ds))
      rw [heq] at hboth ⊢
      exact ⟨c, cs, rfl, hboth⟩
    · next hpos =>
      split
      · -- the digits are filled up with zeros to the point
        refine ⟨⟨negative, d :: ds ++ List.replicate (p.toNat - (d :: ds).length) '0',
            ['.', '0'], []⟩,
          ⟨.inr ⟨d, _, rfl, hd, ?_⟩, .inr ⟨'0', [], rfl, List.forall_mem_singleton.2 rfl⟩,
            .inl rfl⟩, by simp, rfl, rfl⟩
        exact fun c hc => (List.mem_append.1 hc).elim (hall c) (hzeros _ c)
      · next hlong =>
        -- the point stands between two digits
        obtain ⟨k, hk⟩ : ∃ k, p.toNat = k + 1 := ⟨p.toNat - 1, by omega⟩
        have hdrop : (d :: ds).drop p.toNat ≠ [] := by
          rw [Ne, List.drop_eq_nil_iff]
          exact hlong
        obtain ⟨c, cs, heq⟩ := List.exists_cons_of_ne_nil hdrop
        refine ⟨⟨negative, (d :: ds).take p.toNat, '.' :: (d :: ds).drop p.toNat, []⟩,
          ⟨.inr ⟨d, ds.take k, by rw [hk]; rfl, hd, ?_⟩, .inr ⟨c, cs, by rw [heq], ?_⟩, .inl rfl⟩,
          by simp, rfl, by simp [Numeral.unsigned]⟩
        · exact fun x hx => hall x (List.mem_of_mem_take (i := k + 1) hx)
        · intro x hx
          rw [← heq] at hx
          exact hall x (List.mem_of_mem_drop hx)
  · have hexponent := exists_exponentText_eq (p - 1)
    have hfirst : ∀ c ∈ [d], c.isDigit = true := by
      simpa using hall d (by simp)
    have hwritten : exponentText (p - 1) ≠ [] := by
      obtain ⟨sign, c, cs, heq, -⟩ := hexponent
      simp [heq]
    cases ds with
    | nil =>
      exact ⟨⟨negative, [d], [], exponentText (p - 1)⟩,
        ⟨.inr ⟨d, [], rfl, hd, hfirst⟩, .inl rfl, .inr hexponent⟩, hwritten, rfl, rfl⟩
    | cons c cs =>
      refine ⟨⟨negative, [d], '.' :: c :: cs, exponentText (p - 1)⟩,
        ⟨.inr ⟨d, [], rfl, hd, hfirst⟩, .inr ⟨c, cs, rfl, ?_⟩, .inr hexponent⟩, by simp, rfl, rfl⟩
      exact (List.forall_mem_cons.1 hall).2

end place

/-- Every finite number is written as a numeral with a fraction or an exponent. -/
theorem exists_numeral_write {x : Float} {p : Parts} (h : parts? x = some p) :
    ∃ n : Numeral, n.Valid ∧ n.fraction ++ n.exponent ≠ [] ∧ write x = n.text := by
  unfold write Layout.write
  rw [h]
  dsimp only
  split
  · refine ⟨⟨p.negative, ['0'], ['.', '0'], []⟩,
      ⟨.inl rfl, .inr ⟨'0', [], rfl, List.forall_mem_singleton.2 rfl⟩, .inl rfl⟩, by simp, ?_⟩
    cases p.negative <;> rfl
  · next hne =>
    have hdigits := pos_digits_shortest (Nat.pos_of_ne_zero hne) p.exponent
    obtain ⟨d, ds, heq, hd⟩ := Text.exists_ofNat_eq_cons hdigits
    obtain ⟨rest, hrest⟩ := exists_dropTrailingZeros_eq_cons hd ds
    have hall : ∀ c ∈ d :: rest, c.isDigit = true := by
      intro c hc
      rw [← hrest] at hc
      have hmem := (prefix_dropTrailingZeros (d :: ds)).subset hc
      rw [← heq] at hmem
      exact Text.isDigit_of_mem_ofNat hmem
    obtain ⟨n, hn, hparts, hnegative, hplace⟩ := exists_numeral_place hd hall p.negative
      (((d :: ds).length : Int) + (shortest p.significand p.exponent).exponent)
    exact ⟨n, hn, hparts, by rw [heq, hrest, hplace, Numeral.text, hnegative]⟩

/-- No number is written as the empty text. -/
theorem write_ne_nil (x : Float) : write x ≠ [] := by
  cases h : parts? x with
  | some p =>
    obtain ⟨n, hn, -, heq⟩ := exists_numeral_write h
    rw [heq]
    exact hn.text_ne_nil
  | none =>
    unfold write Layout.write
    rw [h]
    dsimp only
    split
    · decide
    · split <;> decide

end Number
end Dialogue
