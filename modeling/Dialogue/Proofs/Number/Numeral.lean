import Dialogue.Number.Numeral
import Dialogue.Proofs.Number.Nearest
set_option autoImplicit false

/-!
# Denotation of numerals

A numeral denotes a rational number, an infinity, or no number at all; what is read is the nearest
floating-point number.  Main statements: `map_ofFloat_read?` and `Positional.Valid.denotes?_text`.
-/

namespace Dialogue.Number

/-- What a numeral without sign denotes. -/
def denotesUnsigned? (t : Text) : Option Extended :=
  let low := t.map Char.toLower
  if low = "inf".toList ∨ low = "infinity".toList then some (.infinite false)
  else if low = "nan".toList then some .nan
  else (readDecimal? t).map fun d => .finite d.value

/-- What a numeral with an optional sign denotes. -/
def denotesSigned? : Text → Option Extended
  | '-' :: t => (denotesUnsigned? t).map Extended.opposite
  | '+' :: t => denotesUnsigned? t
  | t => denotesUnsigned? t

/-- What a text denotes; none if it is no numeral. -/
def denotes? (t : Text) : Option Extended :=
  (t.mapM numeralChar?).bind fun ascii =>
    (dropUnderscores? none ascii).bind fun plain => denotesSigned? (trimAscii plain)

/-! ## Reading -/

namespace Extended

theorem opposite_opposite (x : Extended) : x.opposite.opposite = x := by
  cases x with
  | nan => rfl
  | infinite negative => cases negative <;> rfl
  | finite q => exact congrArg finite (neg_neg q)

theorem rounded_finite {q : ℚ} (h : 0 ≤ q) : rounded (finite q) = roundPositive q :=
  if_neg (not_lt.2 h)

theorem rounded_opposite (x : Extended) : x.opposite.rounded = x.rounded.opposite := by
  cases x with
  | nan => rfl
  | infinite negative => rfl
  | finite q =>
    rcases lt_trichotomy q 0 with hneg | rfl | hpos
    · rw [opposite, rounded_finite (by linarith), rounded, if_pos hneg, opposite_opposite]
    · rw [opposite, neg_zero, rounded_finite le_rfl, roundPositive_zero, opposite, neg_zero]
    · rw [rounded_finite hpos.le, opposite, rounded, if_pos (by linarith), neg_neg]

end Extended

theorem map_ofFloat_readUnsigned? (t : Text) :
    (readUnsigned? t).map Extended.ofFloat = (denotesUnsigned? t).map Extended.rounded := by
  unfold readUnsigned? denotesUnsigned?
  dsimp only
  split
  · rfl
  · split
    · rfl
    · rw [Option.map_map, Option.map_map]
      congr 1
      funext d
      exact d.ofFloat_toFloat.trans (Extended.rounded_finite d.value_nonneg).symm

theorem denotesSigned?_of_ne {t : Text} (hminus : ∀ r, t ≠ '-' :: r) (hplus : ∀ r, t ≠ '+' :: r) :
    denotesSigned? t = denotesUnsigned? t := by
  unfold denotesSigned?
  split
  · next r => exact absurd rfl (hminus r)
  · next r => exact absurd rfl (hplus r)
  · rfl

theorem map_ofFloat_readSigned? (t : Text) :
    (readSigned? t).map Extended.ofFloat = (denotesSigned? t).map Extended.rounded := by
  unfold readSigned?
  split
  · next r =>
    have hneg : Extended.ofFloat ∘ (fun x => -x) = Extended.opposite ∘ Extended.ofFloat :=
      funext Extended.ofFloat_neg
    have hrounded : Extended.rounded ∘ Extended.opposite = Extended.opposite ∘ Extended.rounded :=
      funext Extended.rounded_opposite
    show _ = ((denotesUnsigned? r).map Extended.opposite).map Extended.rounded
    rw [Option.map_map, Option.map_map, hneg, hrounded, ← Option.map_map, ← Option.map_map,
      map_ofFloat_readUnsigned?]
  · exact map_ofFloat_readUnsigned? _
  · next hminus hplus =>
    rw [denotesSigned?_of_ne hminus hplus]
    exact map_ofFloat_readUnsigned? t

/-- What is read from a text is the floating-point number nearest to what the text denotes. -/
theorem map_ofFloat_read? (t : Text) :
    (read? t).map Extended.ofFloat = (denotes? t).map Extended.rounded := by
  unfold read? denotes? readAscii?
  cases t.mapM numeralChar? with
  | none => rfl
  | some ascii =>
    simp only [Option.bind_some]
    cases dropUnderscores? none ascii with
    | none => rfl
    | some plain => exact map_ofFloat_readSigned? _

/-! ## Positional numerals -/

/-- Digits before and after a point, with a sign and an exponent.  The point and the exponent may be
left out. -/
structure Positional where
  negative : Bool
  whole : Text
  places : Option Text
  exponent : Option Int

namespace Positional

/-- The point with the digits after it. -/
def placesText (n : Positional) : Text := n.places.elim [] ('.' :: ·)

/-- The exponent after its letter. -/
def exponentPart (n : Positional) : Text := n.exponent.elim [] fun e => 'e' :: Text.ofInt e

/-- The numeral without its sign. -/
def unsigned (n : Positional) : Text := n.whole ++ (n.placesText ++ n.exponentPart)

/-- The numeral. -/
def text (n : Positional) : Text := if n.negative then '-' :: n.unsigned else n.unsigned

/-- The number without its sign: every place counts a tenth of the one before it. -/
def magnitude (n : Positional) : ℚ :=
  (Text.decimalValue n.whole +
    Text.decimalValue (n.places.getD []) / 10 ^ (n.places.getD []).length) * 10 ^ n.exponent.getD 0

/-- The number. -/
def value (n : Positional) : ℚ := if n.negative then -n.magnitude else n.magnitude

/-- There are digits, and nothing but digits, before or after the point. -/
structure Valid (n : Positional) : Prop where
  digits : ∀ c ∈ n.whole ++ n.places.getD [], c.isDigit = true
  nonempty : n.whole ++ n.places.getD [] ≠ []

end Positional

section characters

variable {t : Text}

theorem mapM_numeralChar? (h : ∀ c ∈ t, c.toNat < 0x80) : t.mapM numeralChar? = some t := by
  induction t with
  | nil => rfl
  | cons c t ih =>
    simp only [List.forall_mem_cons] at h
    have hself : numeralChar? c = some c := if_pos h.1
    rw [List.mapM_cons, hself, ih h.2]
    rfl

theorem dropUnderscores?_of_notMem (h : '_' ∉ t) {last : Option Char} (hlast : last ≠ some '_') :
    dropUnderscores? last t = some t := by
  induction t generalizing last with
  | nil => rw [dropUnderscores?, if_neg hlast]
  | cons c t ih =>
    rw [List.mem_cons, not_or] at h
    have hnext : some c ≠ some '_' := fun heq => h.1 (Option.some.inj heq).symm
    rw [dropUnderscores?, if_neg (Ne.symm h.1), if_neg fun hafter => hlast hafter.1, ih h.2 hnext]
    rfl

theorem dropWhile_isAsciiBlank (h : ∀ c ∈ t, isAsciiBlank c = false) :
    t.dropWhile isAsciiBlank = t := by
  cases t with
  | nil => rfl
  | cons c t =>
    rw [List.dropWhile_cons_of_neg]
    rw [h c List.mem_cons_self]
    exact Bool.false_ne_true

theorem trimAscii_of_no_blank (h : ∀ c ∈ t, isAsciiBlank c = false) : trimAscii t = t := by
  have hreverse : ∀ c ∈ t.reverse, isAsciiBlank c = false := fun c hc => h c (List.mem_reverse.1 hc)
  rw [trimAscii, dropWhile_isAsciiBlank h, dropWhile_isAsciiBlank hreverse, List.reverse_reverse]

/-- The characters of a numeral in ASCII. -/
theorem range_of_numeral {c : Char} (h : c.isDigit = true ∨ c ∈ ['-', '.', 'e']) :
    c.toNat < 0x80 ∧ c ≠ '_' ∧ isAsciiBlank c = false := by
  rcases h with hdigit | hmem
  · have hrange := Text.toNat_of_isDigit hdigit
    have hspace : c ≠ ' ' := Text.ne_of_isDigit hdigit rfl
    have hcontrol : ¬c.toNat ≤ 13 := by omega
    exact ⟨by omega, Text.ne_of_isDigit hdigit rfl, by simp [isAsciiBlank, hspace, hcontrol]⟩
  · simp only [List.mem_cons, List.not_mem_nil, or_false] at hmem
    rcases hmem with rfl | rfl | rfl <;> exact ⟨by decide, by decide, rfl⟩

/-- A text of such characters is read as it stands. -/
theorem denotes?_of_numeral (h : ∀ c ∈ t, c.isDigit = true ∨ c ∈ ['-', '.', 'e']) :
    denotes? t = denotesSigned? t := by
  have hrange : ∀ c ∈ t, c.toNat < 0x80 ∧ c ≠ '_' ∧ isAsciiBlank c = false :=
    fun c hc => range_of_numeral (h c hc)
  rw [denotes?, mapM_numeralChar? fun c hc => (hrange c hc).1, Option.bind_some,
    dropUnderscores?_of_notMem (fun hmem => (hrange _ hmem).2.1 rfl) (Option.some_ne_none '_').symm,
    Option.bind_some, trimAscii_of_no_blank fun c hc => (hrange c hc).2.2]

end characters

section digits

theorem decimalValue_append (ds es : Text) :
    Text.decimalValue (ds ++ es) =
      Text.decimalValue ds * 10 ^ es.length + Text.decimalValue es := by
  induction es using List.reverseRecOn with
  | nil => simp [Text.decimalValue]
  | append_singleton es c ih =>
    have hstep (ds : Text) : Text.decimalValue (ds ++ [c]) =
        Text.decimalValue ds * 10 + (c.toNat - '0'.toNat) := by
      simp [Text.decimalValue]
    rw [← List.append_assoc, hstep, hstep, ih, List.length_append, List.length_singleton, pow_succ]
    ring

theorem decimalValue_ofNat (n : ℕ) : Text.decimalValue (Text.ofNat n) = n := by
  have hvalue : Text.decimalValue (Text.ofNat n) = Nat.ofDigitChars 10 (Nat.toDigits 10 n) 0 := by
    rw [Nat.ofDigitChars_eq_foldl, Text.decimalValue, Text.ofNat]
    congr 1
    funext k c
    rw [Nat.mul_comm]
  rw [hvalue, Nat.ofDigitChars_ten_toDigits]

theorem toLower_of_isDigit {c : Char} (h : c.isDigit = true) : c.toLower = c := by
  have hrange := Text.toNat_of_isDigit h
  refine dif_neg fun hupper => ?_
  have hletter : 65 ≤ c.toNat := hupper.1
  omega

end digits

namespace Positional

variable {n : Positional}

theorem isDigit_of_mem_ofInt {e : Int} {c : Char} (h : c ∈ Text.ofInt e) :
    c.isDigit = true ∨ c = '-' := by
  cases e with
  | ofNat k => exact .inl (Text.isDigit_of_mem_ofNat h)
  | negSucc k =>
    rcases List.mem_cons.1 h with rfl | hmem
    · exact .inr rfl
    · exact .inl (Text.isDigit_of_mem_ofNat hmem)

theorem Valid.of_mem_unsigned (h : n.Valid) {c : Char} (hc : c ∈ n.unsigned) :
    c.isDigit = true ∨ c ∈ ['-', '.', 'e'] := by
  rcases List.mem_append.1 hc with hwhole | hmore
  · exact .inl (h.digits c (List.mem_append_left _ hwhole))
  rcases List.mem_append.1 hmore with hplaces | hexponent
  · cases hp : n.places with
    | none => simp [placesText, hp] at hplaces
    | some p =>
      rw [placesText, hp, Option.elim_some, List.mem_cons] at hplaces
      rcases hplaces with rfl | hmem
      · exact .inr (by simp)
      · exact .inl (h.digits c (List.mem_append_right _ (by rwa [hp])))
  · cases he : n.exponent with
    | none => simp [exponentPart, he] at hexponent
    | some e =>
      rw [exponentPart, he, Option.elim_some, List.mem_cons] at hexponent
      rcases hexponent with rfl | hmem
      · exact .inr (by simp)
      · exact (isDigit_of_mem_ofInt hmem).imp_right fun heq => by simp [heq]

theorem Valid.of_mem_text (h : n.Valid) {c : Char} (hc : c ∈ n.text) :
    c.isDigit = true ∨ c ∈ ['-', '.', 'e'] := by
  rw [text] at hc
  split at hc
  · rcases List.mem_cons.1 hc with rfl | hmem
    · exact .inr (by simp)
    · exact h.of_mem_unsigned hmem
  · exact h.of_mem_unsigned hc

/-- What follows the digits before the point, and those after it, is no digit. -/
theorem isDigit_head?_exponentPart (n : Positional) :
    ∀ c ∈ n.exponentPart.head?, c.isDigit = false := by
  cases he : n.exponent with
  | none => simp [exponentPart, he]
  | some e => simp [exponentPart, he]

theorem isDigit_head?_placesText (n : Positional) :
    ∀ c ∈ (n.placesText ++ n.exponentPart).head?, c.isDigit = false := by
  cases hp : n.places with
  | none =>
    rw [placesText, hp]
    exact n.isDigit_head?_exponentPart
  | some p => simp [placesText, hp]

theorem readExponent?_exponentPart (n : Positional) :
    readExponent? n.exponentPart = some (n.exponent.getD 0) := by
  cases he : n.exponent with
  | none => simp [exponentPart, he, readExponent?]
  | some e =>
    have hall (k : ℕ) : (Text.ofNat k).all Char.isDigit = true :=
      List.all_eq_true.2 fun c => Text.isDigit_of_mem_ofNat
    have hne (k : ℕ) : (Text.ofNat k).isEmpty = false := by
      rw [List.isEmpty_eq_false_iff]
      exact Nat.toDigits_ne_nil
    have hsign (k : ℕ) (c : Char) (hc : c.isDigit = false) (r : Text) : Text.ofNat k ≠ c :: r := by
      intro heq
      have hdigit : c.isDigit = true := Text.isDigit_of_mem_ofNat (heq ▸ List.mem_cons_self)
      rw [hc] at hdigit
      cases hdigit
    rw [exponentPart, he, Option.elim_some, Option.getD_some]
    cases e with
    | ofNat k =>
      show readExponent? ('e' :: Text.ofNat k) = some (k : ℤ)
      rw [readExponent?]
      · simp [hne, hall, decimalValue_ofNat]
      · exact hsign k '-' rfl
      · exact hsign k '+' rfl
    | negSucc k =>
      show readExponent? ('e' :: '-' :: Text.ofNat (k + 1)) = some (Int.negSucc k)
      simp [readExponent?, hne, hall, decimalValue_ofNat, Int.negSucc_eq]

/-- The digits are read with the point moved behind the last of them. -/
theorem Valid.readDecimal?_unsigned (h : n.Valid) :
    readDecimal? n.unsigned =
      some ⟨Text.decimalValue (n.whole ++ n.places.getD []),
        n.exponent.getD 0 - (n.places.getD []).length⟩ := by
  have hwhole : ∀ c ∈ n.whole, c.isDigit = true :=
    fun c hc => h.digits c (List.mem_append_left _ hc)
  have hplaces : ∀ c ∈ n.places.getD [], c.isDigit = true :=
    fun c hc => h.digits c (List.mem_append_right _ hc)
  have hsome : (n.whole.isEmpty && (n.places.getD []).isEmpty) = false := by
    have hnonempty := h.nonempty
    rw [Bool.eq_false_iff, ne_eq, Bool.and_eq_true, List.isEmpty_iff, List.isEmpty_iff,
      ← List.append_eq_nil_iff]
    exact hnonempty
  have hnone (r : Text) : n.exponentPart ≠ '.' :: r := by
    cases he : n.exponent <;> simp [exponentPart, he]
  rw [readDecimal?, unsigned, Text.takeWhile_isDigit_append hwhole n.isDigit_head?_placesText,
    Text.dropWhile_isDigit_append hwhole n.isDigit_head?_placesText]
  have hexponent := n.readExponent?_exponentPart
  cases hp : n.places with
  | none =>
    simp only [hp, Option.getD_none] at hsome
    simp only [placesText, hp, Option.elim_none, List.nil_append, hsome, hexponent]
    rfl
  | some p =>
    simp only [hp, Option.getD_some] at hsome hplaces
    simp only [placesText, hp, Option.elim_some, List.cons_append,
      Text.takeWhile_isDigit_append hplaces n.isDigit_head?_exponentPart,
      Text.dropWhile_isDigit_append hplaces n.isDigit_head?_exponentPart, hsome, hexponent]
    rfl

theorem value_decimal (n : Positional) :
    Decimal.value ⟨Text.decimalValue (n.whole ++ n.places.getD []),
      n.exponent.getD 0 - (n.places.getD []).length⟩ = n.magnitude := by
  rw [Decimal.value, magnitude, decimalValue_append, zpow_sub₀ (by norm_num), zpow_natCast]
  push_cast
  field_simp

/-- The first character is a digit or a point. -/
theorem Valid.exists_unsigned_eq_cons (h : n.Valid) :
    ∃ c r, n.unsigned = c :: r ∧ (c.isDigit = true ∨ c = '.') := by
  cases hw : n.whole with
  | cons c r =>
    refine ⟨c, _, by rw [unsigned, hw, List.cons_append], .inl (h.digits c ?_)⟩
    rw [hw]
    exact List.mem_cons_self
  | nil =>
    cases hp : n.places with
    | none => exact absurd (by rw [hw, hp]; rfl) h.nonempty
    | some p => exact ⟨'.', _, by rw [unsigned, placesText, hw, hp]; rfl, .inr rfl⟩

/-- No name of a number begins with a digit or a point. -/
theorem Valid.denotesUnsigned?_unsigned (h : n.Valid) :
    denotesUnsigned? n.unsigned = some (.finite n.magnitude) := by
  obtain ⟨c, r, heq, hc⟩ := h.exists_unsigned_eq_cons
  have hlower : c.toLower = c ∧ c ≠ 'i' ∧ c ≠ 'n' := by
    rcases hc with hdigit | rfl
    · refine ⟨toLower_of_isDigit hdigit, ?_, ?_⟩
      · exact Text.ne_of_isDigit hdigit rfl
      · exact Text.ne_of_isDigit hdigit rfl
    · exact ⟨rfl, by decide, by decide⟩
  have hname (name : Text) (hhead : name.head? = some 'i' ∨ name.head? = some 'n') :
      n.unsigned.map Char.toLower ≠ name := by
    rintro rfl
    rw [heq, List.map_cons, hlower.1, List.head?_cons] at hhead
    rcases hhead with h | h
    · exact hlower.2.1 (Option.some.inj h)
    · exact hlower.2.2 (Option.some.inj h)
  rw [denotesUnsigned?, if_neg (not_or.2 ⟨hname _ (.inl rfl), hname _ (.inl rfl)⟩),
    if_neg (hname _ (.inr rfl)), h.readDecimal?_unsigned, Option.map_some, value_decimal]

/-- A positional numeral denotes the number that it writes. -/
theorem Valid.denotes?_text (h : n.Valid) : denotes? n.text = some (.finite n.value) := by
  rw [denotes?_of_numeral fun c => h.of_mem_text, text, value]
  cases n.negative with
  | true =>
    show (denotesUnsigned? n.unsigned).map Extended.opposite = _
    rw [h.denotesUnsigned?_unsigned]
    rfl
  | false =>
    obtain ⟨c, r, heq, hc⟩ := h.exists_unsigned_eq_cons
    have hsign (d : Char) (hd : d.isDigit = false) (hpoint : d ≠ '.') (r : Text) :
        n.unsigned ≠ d :: r := by
      rw [heq]
      rintro hcons
      obtain rfl := (List.cons.inj hcons).1
      rcases hc with hdigit | rfl
      · exact Text.ne_of_isDigit hdigit hd rfl
      · exact hpoint rfl
    rw [if_neg Bool.false_ne_true, if_neg Bool.false_ne_true,
      denotesSigned?_of_ne (hsign '-' rfl (by decide)) (hsign '+' rfl (by decide)),
      h.denotesUnsigned?_unsigned]

end Positional

/-- The numeral of a natural number denotes it. -/
theorem denotes?_ofNat (n : ℕ) : denotes? (Text.ofNat n) = some (.finite n) := by
  have hvalid : (⟨false, Text.ofNat n, none, none⟩ : Positional).Valid := by
    refine ⟨fun c hc => ?_, ?_⟩
    · rw [Option.getD_none, List.append_nil] at hc
      exact Text.isDigit_of_mem_ofNat hc
    · rw [Option.getD_none, List.append_nil]
      exact Nat.toDigits_ne_nil
  have hnil : Text.decimalValue [] = 0 := rfl
  have hdenotes := hvalid.denotes?_text
  simpa [Positional.text, Positional.unsigned, Positional.placesText, Positional.exponentPart,
    Positional.value, Positional.magnitude, decimalValue_ofNat, hnil] using hdenotes

end Dialogue.Number
