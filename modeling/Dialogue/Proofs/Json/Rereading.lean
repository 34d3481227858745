import Dialogue.Proofs.Except
import Dialogue.Proofs.Json.RoundTrip
import Dialogue.Proofs.Number.Written
set_option autoImplicit false

/-!
# Stability of parsed values under writing and reading

Every value that a text writes and that can be encoded has a written form of its own that is read
without a fault.  A number may be read as a neighbour of the one that was written, so the value may
be another one; texts and names stay.  Main statement: `Json.rereadable_of_read`.
-/

namespace Dialogue

/-! ## Digits -/

namespace Text

/-- The text begins with one of the characters. -/
def BeginsIn (cs : List Char) (t : Text) : Prop := ∃ c r, t = c :: r ∧ c ∈ cs

theorem decimalValue_lt {ds : Text} (h : ∀ c ∈ ds, c.isDigit = true) :
    decimalValue ds < Number.tenTo ds.length := by
  induction ds using List.reverseRecOn with
  | nil => decide
  | append_singleton ds c ih =>
    simp only [List.forall_mem_append, List.forall_mem_singleton] at h
    have hdigit : c.toNat - '0'.toNat ≤ 9 := by
      have hrange := toNat_of_isDigit h.2
      have hzero : '0'.toNat = 48 := rfl
      omega
    have hlt := ih h.1
    rw [decimalValue] at hlt
    rw [decimalValue, List.foldl_append, List.length_append, List.length_singleton,
      Number.tenTo_succ]
    simp only [List.foldl_cons, List.foldl_nil]
    omega

theorem BeginsIn.isDigit_head? {cs : List Char} {t : Text} (h : BeginsIn cs t)
    (hcs : cs.any Char.isDigit = false) : ∀ c ∈ t.head?, c.isDigit = false := by
  obtain ⟨c, r, rfl, hc⟩ := h
  intro d hd
  obtain rfl := Option.some.inj hd
  simpa using List.any_eq_false.1 hcs c hc

end Text

namespace Json

open Number (Numeral)
open Text (BeginsIn)

theorem Ends.beginsIn {rest : Text} (h : Ends rest) : BeginsIn [',', '\n'] rest := by
  obtain ⟨c, t, rfl, hc⟩ := h
  exact ⟨c, t, rfl, by simpa using hc⟩

/-! ## Numerals -/

section numeral

variable {n : Numeral} {rest : Text}

theorem beginsIn_exponent (hn : n.Valid) (hrest : Ends rest) :
    BeginsIn ['e', ',', '\n'] (n.exponent ++ rest) := by
  rcases hn.exponent with hnone | ⟨sign, d, ds, heq, -⟩
  · obtain ⟨c, t, rfl, hc⟩ := hrest.beginsIn
    rw [hnone]
    exact ⟨c, t, rfl, List.mem_cons_of_mem _ hc⟩
  · rw [heq]
    exact ⟨'e', _, rfl, List.mem_cons_self⟩

theorem beginsIn_fraction (hn : n.Valid) (hrest : Ends rest) :
    BeginsIn ['.', 'e', ',', '\n'] (n.fraction ++ (n.exponent ++ rest)) := by
  rcases hn.fraction with hnone | ⟨d, ds, heq, -⟩
  · obtain ⟨c, t, heq, hc⟩ := beginsIn_exponent hn hrest
    rw [hnone, List.nil_append, heq]
    exact ⟨c, t, rfl, List.mem_cons_of_mem _ hc⟩
  · rw [heq]
    exact ⟨'.', _, rfl, List.mem_cons_self⟩

theorem wholeDigits_numeral (hn : n.Valid) (hrest : Ends rest) :
    wholeDigits (n.whole ++ (n.fraction ++ (n.exponent ++ rest))) =
      (n.whole, n.fraction ++ (n.exponent ++ rest)) := by
  rcases hn.whole with hzero | ⟨d, ds, heq, hd, hds⟩
  · rw [hzero]
    rfl
  · have hmore := beginsIn_fraction hn hrest
    rw [heq, List.cons_append, wholeDigits, ← List.cons_append,
      Text.takeWhile_isDigit_append hds (hmore.isDigit_head? rfl),
      Text.dropWhile_isDigit_append hds (hmore.isDigit_head? rfl)]
    intro r hr
    exact hd (List.cons.inj hr).1

theorem fractionDigits_numeral (hn : n.Valid) (hrest : Ends rest) :
    fractionDigits (n.fraction ++ (n.exponent ++ rest)) =
      (n.fraction.drop 1, n.exponent ++ rest) := by
  have hmore := beginsIn_exponent hn hrest
  rcases hn.fraction with hnone | ⟨d, ds, heq, hds⟩
  · obtain ⟨c, t, heq, hc⟩ := hmore
    rw [hnone, List.nil_append, heq, fractionDigits]
    · rfl
    · intro r hr
      rw [(List.cons.inj hr).1] at hc
      exact absurd hc (by decide)
  · rw [heq, List.cons_append, fractionDigits,
      Text.takeWhile_isDigit_append hds (hmore.isDigit_head? rfl),
      Text.dropWhile_isDigit_append hds (hmore.isDigit_head? rfl)]
    rfl

/-- The exponent of a numeral does not depend on what follows. -/
theorem exists_exponentPart_numeral (hn : n.Valid) :
    ∃ e : Option Int, (e = none → n.exponent = []) ∧
      ∀ rest, Ends rest → exponentPart (n.exponent ++ rest) = (e, rest) := by
  rcases hn.exponent with hnone | ⟨sign, d, ds, heq, hsign, hds⟩
  · refine ⟨none, fun _ => hnone, ?_⟩
    rintro rest ⟨c, t, rfl, hc⟩
    have hletter : ¬(c = 'e' ∨ c = 'E') := by
      rcases hc with rfl | rfl <;> decide
    rw [hnone, List.nil_append, exponentPart, if_neg hletter]
  · refine ⟨some (if sign = '-' then -(Text.decimalValue (d :: ds) : Int)
      else Text.decimalValue (d :: ds)), by simp, ?_⟩
    intro rest hrest
    have hmore := hrest.beginsIn
    have hsigned : (sign :: d :: ds ++ rest).head? = some '-' ∨
        (sign :: d :: ds ++ rest).head? = some '+' := by
      rcases hsign with rfl | rfl
      · exact .inl rfl
      · exact .inr rfl
    rw [heq, List.cons_append, exponentPart, if_pos (.inl rfl)]
    dsimp only
    rw [if_pos hsigned]
    simp only [List.cons_append, List.drop_succ_cons, List.drop_zero]
    rw [← List.cons_append, Text.takeWhile_isDigit_append hds (hmore.isDigit_head? rfl),
      Text.dropWhile_isDigit_append hds (hmore.isDigit_head? rfl), if_neg (by simp)]
    simp

/-- A numeral is read through its last digit, whatever follows; an integer must not be too long. -/
theorem exists_readNumber_numeral (hn : n.Valid)
    (hlength : n.fraction ++ n.exponent = [] → n.whole.length ≤ Value.digitLimit) :
    ∃ w, ∀ rest, Ends rest → readNumber (n.text ++ rest) = .ok (w, rest) := by
  obtain ⟨e, hnone, hexponent⟩ := exists_exponentPart_numeral hn
  obtain ⟨d, ds, hwhole, hd⟩ := hn.exists_whole_eq_cons
  have hsign : ∀ rest, ((n.text ++ rest).head? = some '-') = (n.negative = true) ∧
      (if n.negative = true then (n.text ++ rest).drop 1 else n.text ++ rest) =
        n.whole ++ (n.fraction ++ (n.exponent ++ rest)) := by
    intro rest
    have hminus : d ≠ '-' := by
      rintro rfl
      cases hd
    cases hnegative : n.negative with
    | true => simp [Numeral.text, Numeral.unsigned, hnegative]
    | false => simp [Numeral.text, Numeral.unsigned, hnegative, hwhole, hminus]
  have hlong : (n.fraction.drop 1).isEmpty && e.isNone →
      ¬Value.digitLimit < n.whole.length := by
    intro hinteger
    simp only [Bool.and_eq_true, List.isEmpty_iff, Option.isNone_iff_eq_none] at hinteger
    have hfraction : n.fraction = [] := by
      rcases hn.fraction with heq | ⟨c, cs, heq, -⟩
      · exact heq
      · rw [heq] at hinteger
        cases hinteger.1
    rw [hfraction, hnone hinteger.2] at hlength
    exact Nat.not_lt.2 (hlength rfl)
  simp only [readNumber, hsign]
  refine ⟨if (n.fraction.drop 1).isEmpty && e.isNone then
      .int (if n.negative then -(Text.decimalValue n.whole : Int) else Text.decimalValue n.whole)
    else
      .float (if n.negative then
          -(Number.Decimal.mk (Text.decimalValue (n.whole ++ n.fraction.drop 1))
            (e.getD 0 - (n.fraction.drop 1).length)).toFloat
        else (Number.Decimal.mk (Text.decimalValue (n.whole ++ n.fraction.drop 1))
          (e.getD 0 - (n.fraction.drop 1).length)).toFloat), ?_⟩
  intro rest hrest
  simp only [wholeDigits_numeral hn hrest, fractionDigits_numeral hn hrest, hexponent rest hrest]
  rw [if_neg (by simp [hwhole])]
  split
  · next hinteger => rw [if_neg (hlong hinteger)]
  · rfl

end numeral

/-! ## Values that are no containers -/

section plain

variable {c : Char} {r : Text}

theorem readValue_of_head (hquote : c ≠ '"') (hbracket : c ≠ '[') (hbrace : c ≠ '\x7b') (n : Nat) :
    readValue (n + 1) (c :: r) = (word? (c :: r)).elim (readNumber (c :: r)) .ok := by
  rw [readValue, if_neg hbrace]
  · cases word? (c :: r) <;> rfl
  · exact hquote
  · exact hbracket

/-- A value that is written on one line. -/
theorem rereads_of_line {v w : Json} (hv : ∀ level, v.indentedAt level = c :: r)
    (hsolid : (c == ' ' || c == '\t' || c == '\n' || c == '\r') = false) (hplain : '\r' ∉ c :: r)
    (hread : ∀ n rest, Ends rest → readValue (n + 1) (c :: r ++ rest) = .ok (w, rest)) :
    Rereads v w where
  solid level rest := by
    rw [hv, List.cons_append, skipBlanks, List.dropWhile_cons_of_neg (by simp [hsolid])]
  read level n rest hrest hn := by
    obtain ⟨m, rfl⟩ : ∃ m, n = m + 1 := ⟨n - 1, by omega⟩
    rw [hv]
    exact hread m rest hrest
  plain level := by
    rw [hv]
    exact hplain

end plain

theorem rereads_null : Rereads null null :=
  rereads_of_line (c := 'n') (r := "ull".toList) (fun _ => rfl) rfl (by decide) fun _ _ _ => rfl

theorem rereads_bool (b : Bool) : Rereads (bool b) (bool b) := by
  cases b with
  | true =>
    exact rereads_of_line (c := 't') (r := "rue".toList) (fun _ => rfl) rfl (by decide)
      fun _ _ _ => rfl
  | false =>
    exact rereads_of_line (c := 'f') (r := "alse".toList) (fun _ => rfl) rfl (by decide)
      fun _ _ _ => rfl

/-- No word begins with a digit, and none with a digit after a minus. -/
theorem word?_of_isDigit {d : Char} (hd : d.isDigit = true) (r : Text) :
    word? (d :: r) = none ∧ word? ('-' :: d :: r) = none := by
  have hne : ∀ c, c.isDigit = false → c ≠ d := fun c hc => Ne.symm (Text.ne_of_isDigit hd hc)
  have hfirst : 'n' ≠ d ∧ 't' ≠ d ∧ 'f' ≠ d ∧ 'N' ≠ d ∧ 'I' ≠ d ∧ '-' ≠ d :=
    ⟨hne _ rfl, hne _ rfl, hne _ rfl, hne _ rfl, hne _ rfl, hne _ rfl⟩
  constructor <;> simp [word?, words, Text.after?, hfirst]

/-- A value that is written as a numeral. -/
theorem exists_rereads_numeral {v : Json} {n : Numeral} (hn : n.Valid)
    (hv : ∀ level, v.indentedAt level = n.text)
    (hlength : n.fraction ++ n.exponent = [] → n.whole.length ≤ Value.digitLimit) :
    ∃ w, Rereads v w := by
  obtain ⟨w, hread⟩ := exists_readNumber_numeral hn hlength
  obtain ⟨d, ds, hwhole, hd⟩ := hn.exists_whole_eq_cons
  have hplain : '\r' ∉ n.text := fun hmem => absurd (hn.of_mem_text hmem) (by decide)
  refine ⟨w, ?_⟩
  cases hnegative : n.negative with
  | true =>
    have htext : n.text = '-' :: d :: (ds ++ (n.fraction ++ n.exponent)) := by
      simp [Numeral.text, Numeral.unsigned, hnegative, hwhole]
    rw [htext] at hplain hread
    refine rereads_of_line (fun level => (hv level).trans htext) rfl hplain ?_
    intro m rest hrest
    have hword := (word?_of_isDigit hd (ds ++ (n.fraction ++ n.exponent) ++ rest)).2
    rw [List.cons_append, readValue_of_head (by decide) (by decide) (by decide), List.cons_append,
      hword]
    exact hread rest hrest
  | false =>
    have htext : n.text = d :: (ds ++ (n.fraction ++ n.exponent)) := by
      simp [Numeral.text, Numeral.unsigned, hnegative, hwhole]
    rw [htext] at hplain hread
    have hne : ∀ c, c.isDigit = false → d ≠ c := fun c => Text.ne_of_isDigit hd
    refine rereads_of_line (fun level => (hv level).trans htext) ?_ hplain ?_
    · simp [hne]
    · intro m rest hrest
      have hword := (word?_of_isDigit hd (ds ++ (n.fraction ++ n.exponent) ++ rest)).1
      rw [List.cons_append, readValue_of_head (hne _ rfl) (hne _ rfl) (hne _ rfl), hword]
      exact hread rest hrest

theorem exists_rereads_int {n : Int} (h : n.natAbs < Number.tenTo Value.digitLimit) :
    ∃ w, Rereads (int n) w := by
  obtain ⟨whole, hvalid, htext, hwhole⟩ := Number.exists_numeral_ofInt n
  refine exists_rereads_numeral hvalid (fun level => htext) ?_
  intro _
  rw [show whole = Text.ofNat n.natAbs from hwhole]
  exact Number.length_ofNat_le (by decide) h

theorem exists_rereads_float (x : Float) : ∃ w, Rereads (float x) w := by
  by_cases hnan : x.isNaN
  · refine ⟨_, rereads_of_line (c := 'N') (r := "aN".toList) (fun level => ?_) rfl (by decide)
      fun _ _ _ => rfl⟩
    rw [indentedAt, floatText, if_pos hnan]
    rfl
  by_cases hinf : x.isInf
  · by_cases hneg : x < 0.0
    · refine ⟨_, rereads_of_line (c := '-') (r := "Infinity".toList) (fun level => ?_) rfl
        (by decide) fun _ _ _ => rfl⟩
      rw [indentedAt, floatText, if_neg hnan, if_pos hinf, if_pos hneg]
      rfl
    · refine ⟨_, rereads_of_line (c := 'I') (r := "nfinity".toList) (fun level => ?_) rfl
        (by decide) fun _ _ _ => rfl⟩
      rw [indentedAt, floatText, if_neg hnan, if_pos hinf, if_neg hneg]
      rfl
  · obtain ⟨p, hp⟩ := Number.exists_parts? (Bool.eq_false_iff.2 hnan) (Bool.eq_false_iff.2 hinf)
    obtain ⟨n, hn, hparts, hwrite⟩ := Number.exists_numeral_write hp
    refine exists_rereads_numeral hn (fun level => ?_) fun hnil => absurd hnil hparts
    rw [indentedAt, floatText, if_neg hnan, if_neg hinf, hwrite]

/-! ## Arrays -/

/-- Items as they are written, one a line. -/
def itemRows (level : Nat) (items : List Json) : Text :=
  Text.joinWith (',' :: newline level) (itemsAt level items)

theorem itemRows_singleton (level : Nat) (v : Json) : itemRows level [v] = v.indentedAt level := by
  simp [itemRows, itemsAt, Text.joinWith]

theorem itemRows_cons (level : Nat) (v next : Json) (more : List Json) :
    itemRows level (v :: next :: more) =
      v.indentedAt level ++ ',' :: (newline level ++ itemRows level (next :: more)) := by
  simp [itemRows, itemsAt, Text.joinWith]

theorem itemsAt_eq_map (level : Nat) (items : List Json) :
    itemsAt level items = items.map (indentedAt level) := by
  induction items with
  | nil => rfl
  | cons v vs ih => rw [itemsAt, ih, List.map_cons]

theorem indentedAt_array (level : Nat) {items : List Json} (hne : items ≠ []) :
    (array items).indentedAt level =
      '[' :: (newline (level + 1) ++ (itemRows (level + 1) items ++ (newline level ++ [']']))) := by
  cases items with
  | nil => exact absurd rfl hne
  | cons v vs => simp [indentedAt, itemRows]

/-- What follows an item: the end of the array, or another item. -/
def afterItem (n : Nat) (read : Json × Text) : Except Fault (List Json × Text) :=
  match skipBlanks read.2 with
  | ']' :: rest => .ok ([read.1], rest)
  | ',' :: rest => (readItems n (skipBlanks rest)).map fun more => (read.1 :: more.1, more.2)
  | rest => .error ⟨.commaExpected, rest⟩

theorem readItems_succ (n : Nat) (t : Text) :
    readItems (n + 1) t = readValue n t >>= afterItem n := by
  rw [readItems]
  rfl

theorem notMem_itemRows (level : Nat) {items : List Json}
    (hall : ∀ v ∈ items, ∀ level, '\r' ∉ v.indentedAt level) : '\r' ∉ itemRows level items := by
  rw [itemRows, itemsAt_eq_map]
  refine Text.notMem_joinWith ?_ ?_
  · simp only [List.mem_cons, not_or]
    exact ⟨by decide, notMem_newline level⟩
  · intro t ht
    obtain ⟨v, hv, rfl⟩ := List.mem_map.1 ht
    exact hall v hv level

section items

variable {g : Json → Json} {items : List Json} (hne : items ≠ [])
  (hall : ∀ v ∈ items, Rereads v (g v))
include hne hall

/-- The rows begin with an item that is read. -/
theorem exists_itemRows_append (level last : Nat) (t : Text) :
    ∃ v rest, Rereads v (g v) ∧ Ends rest ∧
      itemRows level items ++ (newline last ++ t) = v.indentedAt level ++ rest := by
  cases items with
  | nil => exact absurd rfl hne
  | cons v vs =>
    have hv := (List.forall_mem_cons.1 hall).1
    cases vs with
    | nil =>
      rw [itemRows_singleton]
      exact ⟨v, _, hv, ends_newline last t, rfl⟩
    | cons next more =>
      rw [itemRows_cons, List.append_assoc]
      exact ⟨v, _, hv, ends_comma _, rfl⟩

theorem skipBlanks_itemRows (level last : Nat) (t : Text) :
    skipBlanks (itemRows level items ++ (newline last ++ t)) =
      itemRows level items ++ (newline last ++ t) := by
  obtain ⟨v, rest, hv, -, heq⟩ := exists_itemRows_append hne hall level last t
  rw [heq]
  exact hv.solid level rest

/-- No value begins with a closing bracket. -/
theorem itemRows_append_ne (level last : Nat) (t r : Text) :
    itemRows level items ++ (newline last ++ t) ≠ ']' :: r := by
  intro hbracket
  obtain ⟨v, rest, hv, hrest, heq⟩ := exists_itemRows_append hne hall level last t
  have hread := hv.read level _ rest hrest (Nat.lt_succ_self _)
  rw [← heq, hbracket] at hread
  cases hread

/-- The items of an array are read through its closing bracket, one after another. -/
theorem readItems_itemRows {level last n : Nat} (hn : (itemRows level items).length + 1 < n)
    (rest : Text) :
    readItems n (itemRows level items ++ (newline last ++ ']' :: rest)) =
      .ok (items.map g, rest) := by
  induction items generalizing n with
  | nil => exact absurd rfl hne
  | cons v vs ih =>
    obtain ⟨hv, hvs⟩ := List.forall_mem_cons.1 hall
    obtain ⟨m, rfl⟩ : ∃ m, n = m + 1 := ⟨n - 1, by omega⟩
    cases vs with
    | nil =>
      rw [itemRows_singleton] at hn ⊢
      have hm : (v.indentedAt level).length < m := by omega
      rw [readItems_succ, hv.read level m _ (ends_newline last _) hm]
      show afterItem m (g v, newline last ++ ']' :: rest) = _
      rw [afterItem, skipBlanks_newline]
      rfl
    | cons next more =>
      rw [itemRows_cons] at hn ⊢
      simp only [List.length_append, List.length_cons] at hn
      have hnext :
          readItems m (itemRows level (next :: more) ++ (newline last ++ ']' :: rest)) = _ :=
        ih (List.cons_ne_nil _ _) hvs (by omega)
      have hm : (v.indentedAt level).length < m := by omega
      rw [List.append_assoc, List.cons_append, List.append_assoc, readItems_succ,
        hv.read level m _ (ends_comma _) hm]
      show (readItems m (skipBlanks (newline level ++ _))).map _ = _
      rw [skipBlanks_newline, skipBlanks_itemRows (List.cons_ne_nil _ _) hvs, hnext]
      rfl

end items

/-- An array is read with the values that its items are read as. -/
theorem rereads_array {g : Json → Json} {items : List Json} (hall : ∀ v ∈ items, Rereads v (g v)) :
    Rereads (array items) (array (items.map g)) := by
  by_cases hne : items = []
  · subst hne
    exact rereads_of_line (c := '[') (r := [']']) (fun _ => rfl) rfl (by decide) fun _ _ _ => rfl
  refine ⟨fun level rest => ?_, fun level n rest hrest hn => ?_, fun level => ?_⟩
  · rw [indentedAt_array level hne]
    rfl
  · obtain ⟨m, rfl⟩ : ∃ m, n = m + 1 := ⟨n - 1, by omega⟩
    rw [indentedAt_array level hne] at hn ⊢
    simp only [List.length_cons, List.length_append, List.length_nil] at hn
    have hshape :
        newline (level + 1) ++ (itemRows (level + 1) items ++ (newline level ++ [']'])) ++ rest =
        newline (level + 1) ++ (itemRows (level + 1) items ++ (newline level ++ ']' :: rest)) := by
      simp
    have hskip := skipBlanks_itemRows hne hall (level + 1) level (']' :: rest)
    have hfirst := itemRows_append_ne hne hall (level + 1) level (']' :: rest)
    rw [List.cons_append, hshape, readValue]
    rw [skipBlanks_newline, hskip]
    split
    · next rest' heq => exact absurd heq (hfirst rest')
    · rw [readItems_itemRows hne hall (by omega) rest]
      rfl
  · rw [indentedAt_array level hne]
    simp only [List.mem_cons, List.mem_append, not_or]
    exact ⟨by decide, notMem_newline _, notMem_itemRows _ fun v hv => (hall v hv).plain,
      notMem_newline _, by decide⟩

/-! ## Objects -/

/-- An object is read with the values that its members are read as. -/
theorem rereads_object {g : Json → Json} {members : List (Text × Json)}
    (hall : ∀ member ∈ members, Rereads member.2 (g member.2)) :
    Rereads (object members) (object (Assoc.putAll (mapMembers g members) [])) := by
  by_cases hne : members = []
  · subst hne
    exact rereads_of_line (c := '\x7b') (r := ['\x7d']) (fun _ => rfl) rfl (by decide)
      fun _ _ _ => rfl
  refine ⟨fun level rest => ?_, fun level n rest _ hn => ?_, fun level => ?_⟩
  · rw [indentedAt_object level hne]
    rfl
  · obtain ⟨m, rfl⟩ : ∃ m, n = m + 1 := ⟨n - 1, by omega⟩
    refine readValue_object hne hall level ?_ rest
    rw [indentedAt_object level hne] at hn
    simp only [List.length_cons, List.length_append] at hn
    omega
  · exact notMem_object level fun member hmember => (hall member hmember).plain

/-! ## Everything that is read -/

/-- The value as which the written form of a value is read where another one follows. -/
def reread (v : Json) : Json :=
  match readValue (v.indented.length + 1) (v.indented ++ [',']) with
  | .ok read => read.1
  | .error _ => v

/-- The written form of the value is read without a fault. -/
def Rereadable (v : Json) : Prop := Rereads v (reread v)

theorem Rereads.reread_eq {v w : Json} (h : Rereads v w) : reread v = w := by
  have hread := h.read 0 (v.indented.length + 1) [','] (ends_comma []) (Nat.lt_succ_self _)
  rw [← indented] at hread
  rw [reread, hread]

theorem Rereads.rereadable {v w : Json} (h : Rereads v w) : Rereadable v := by
  rw [Rereadable, h.reread_eq]
  exact h

theorem reread_text (t : Text) : reread (text t) = text t := (restores_text t).rereads.reread_eq

theorem isDigit_of_mem_wholeDigits {t : Text} {c : Char} (hc : c ∈ (wholeDigits t).1) :
    c.isDigit = true := by
  unfold wholeDigits at hc
  split at hc
  · rw [List.mem_singleton.1 hc]
    decide
  · exact List.mem_takeWhile_imp hc

/-- An integer that is read is not too long to be written. -/
theorem readNumber_cases {t rest : Text} {v : Json} (h : readNumber t = .ok (v, rest)) :
    (∃ n : Int, v = int n ∧ n.natAbs < Number.tenTo Value.digitLimit) ∨ ∃ x, v = float x := by
  unfold readNumber at h
  dsimp only at h
  generalize (if t.head? = some '-' then t.drop 1 else t) = digits at h
  split at h
  · cases h
  split at h
  · split at h
    · cases h
    · next hlong =>
      obtain ⟨rfl, -⟩ := Prod.mk.inj (Except.ok.inj h)
      have hlt : Text.decimalValue (wholeDigits digits).1 < Number.tenTo Value.digitLimit :=
        calc Text.decimalValue (wholeDigits digits).1
            < Number.tenTo (wholeDigits digits).1.length :=
              Text.decimalValue_lt fun _ => isDigit_of_mem_wholeDigits
          _ ≤ Number.tenTo Value.digitLimit := Number.tenTo_le_tenTo (Nat.not_lt.1 hlong)
      exact .inl ⟨_, rfl, by split <;> simpa using hlt⟩
  · obtain ⟨rfl, -⟩ := Prod.mk.inj (Except.ok.inj h)
    exact .inr ⟨_, rfl⟩

theorem word?_cases {t rest : Text} {v : Json} (h : word? t = some (v, rest)) :
    v = null ∨ (∃ b, v = bool b) ∨ ∃ x, v = float x := by
  obtain ⟨⟨w, v'⟩, hmem, hfound⟩ := List.exists_of_findSome?_eq_some h
  obtain ⟨r, -, heq⟩ := Option.map_eq_some_iff.1 hfound
  obtain ⟨rfl, -⟩ := Prod.mk.inj heq
  simp only [words, List.mem_cons, Prod.mk.injEq, List.not_mem_nil, or_false] at hmem
  rcases hmem with ⟨-, rfl⟩ | ⟨-, rfl⟩ | ⟨-, rfl⟩ | ⟨-, rfl⟩ | ⟨-, rfl⟩ | ⟨-, rfl⟩
  · exact .inl rfl
  · exact .inr (.inl ⟨true, rfl⟩)
  · exact .inr (.inl ⟨false, rfl⟩)
  · exact .inr (.inr ⟨_, rfl⟩)
  · exact .inr (.inr ⟨_, rfl⟩)
  · exact .inr (.inr ⟨_, rfl⟩)

/-- The value is no container: a word, a number or a text, whose code points are those of characters
or not. -/
inductive Single : Json → Prop where
  | null : Single null
  | bool (b : Bool) : Single (bool b)
  | int (n : Int) (h : n.natAbs < Number.tenTo Value.digitLimit) : Single (int n)
  | float (x : Float) : Single (float x)
  | text (t : Text) : Single (text t)
  | unpaired (codes : List Nat) (h : CodePoints.text? codes = none) : Single (unpaired codes)

theorem single_ofCodes (codes : List Nat) : Single (ofCodes codes) := by
  unfold ofCodes
  split
  · exact .text _
  · next h => exact .unpaired codes h

theorem Single.rereadable {v : Json} (h : Single v) (hv : v.isEncodable = true) :
    Rereadable v := by
  cases h with
  | null => exact rereads_null.rereadable
  | bool b => exact (rereads_bool b).rereadable
  | int n h =>
    obtain ⟨w, hw⟩ := exists_rereads_int h
    exact hw.rereadable
  | float x =>
    obtain ⟨w, hw⟩ := exists_rereads_float x
    exact hw.rereadable
  | text t => exact (restores_text t).rereads.rereadable
  | unpaired codes h =>
    rw [isEncodable, h] at hv
    cases hv

/-- What a value that is read can be. -/
theorem readValue_cases {n : Nat} {t rest : Text} {v : Json}
    (h : readValue (n + 1) t = .ok (v, rest)) :
    Single v ∨
      (∃ items, v = array items ∧ (items = [] ∨ ∃ r, readItems n r = .ok (items, rest))) ∨
      ∃ members, v = ofMembers members ∧
        (members = [] ∨ ∃ r, readMembers n [] r = .ok (members, rest)) := by
  unfold readValue at h
  split at h
  · cases h
  · next r =>
    obtain ⟨⟨codes, r'⟩, -, hread⟩ := bind_eq_ok_iff.1 h
    cases hread
    exact .inl (single_ofCodes codes)
  · next r =>
    split at h
    · cases h
      exact .inr (.inl ⟨[], rfl, .inl rfl⟩)
    · obtain ⟨⟨items, r'⟩, hitems, hread⟩ := bind_eq_ok_iff.1 h
      cases hread
      exact .inr (.inl ⟨items, rfl, .inr ⟨_, hitems⟩⟩)
  · next c r _ _ =>
    split at h
    · split at h
      · cases h
        exact .inr (.inr ⟨[], rfl, .inl rfl⟩)
      · obtain ⟨⟨members, r'⟩, hmembers, hread⟩ := bind_eq_ok_iff.1 h
        cases hread
        exact .inr (.inr ⟨members, rfl, .inr ⟨_, hmembers⟩⟩)
    · left
      split at h
      · next found hfound =>
        cases h
        rcases word?_cases hfound with rfl | ⟨b, rfl⟩ | ⟨x, rfl⟩
        · exact .null
        · exact .bool b
        · exact .float x
      · rcases readNumber_cases h with ⟨m, rfl, hm⟩ | ⟨x, rfl⟩
        · exact .int m hm
        · exact .float x

theorem readItems_cases {n : Nat} {t rest : Text} {vs : List Json}
    (h : readItems (n + 1) t = .ok (vs, rest)) :
    ∃ v r, readValue n t = .ok (v, r) ∧
      (vs = [v] ∨ ∃ more r', readItems n r' = .ok (more, rest) ∧ vs = v :: more) := by
  rw [readItems] at h
  obtain ⟨⟨v, r⟩, hv, hafter⟩ := bind_eq_ok_iff.1 h
  dsimp only at hafter
  refine ⟨v, r, hv, ?_⟩
  split at hafter
  · cases hafter
    exact .inl rfl
  · obtain ⟨⟨more, r'⟩, hmore, hread⟩ := bind_eq_ok_iff.1 hafter
    cases hread
    exact .inr ⟨more, _, hmore, rfl⟩
  · cases hafter

theorem readMembers_cases {n : Nat} {members read : Assoc Json (List Nat)} {t rest : Text}
    (h : readMembers (n + 1) members t = .ok (read, rest)) :
    ∃ name v r r', readValue n r = .ok (v, r') ∧
      (read = Assoc.put name v members ∨
        ∃ more, readMembers n (Assoc.put name v members) more = .ok (read, rest)) := by
  unfold readMembers at h
  split at h
  · obtain ⟨⟨name, r⟩, -, hafter⟩ := bind_eq_ok_iff.1 h
    dsimp only at hafter
    split at hafter
    · obtain ⟨⟨v, r'⟩, hv, hnext⟩ := bind_eq_ok_iff.1 hafter
      dsimp only at hnext
      refine ⟨name, v, _, r', hv, ?_⟩
      split at hnext
      · cases hnext
        exact .inl rfl
      · exact .inr ⟨_, hnext⟩
      · cases hnext
    · cases hafter
  · cases h

/-- What holds of single values, and of containers if it holds of all that they hold. -/
structure Closed (P : Json → Prop) : Prop where
  single : ∀ v, Single v → P v
  array : ∀ items, (∀ v ∈ items, P v) → P (array items)
  object : ∀ members : List (Text × Json), (∀ member ∈ members, P member.2) → P (object members)
  unpairedObject : ∀ members : List (List Nat × Json), named? members = none →
    (∀ member ∈ members, P member.2) → P (unpairedObject members)

theorem Closed.ofMembers {P : Json → Prop} (hP : Closed P) {members : Assoc Json (List Nat)}
    (h : ∀ member ∈ members, P member.2) : P (ofMembers members) := by
  unfold Json.ofMembers
  cases hnamed : named? members with
  | none => exact hP.unpairedObject members hnamed h
  | some named =>
    refine hP.object named fun member hmember => ?_
    rw [named?_eq_some_iff.1 hnamed] at h
    exact h _ (List.mem_map_of_mem hmember)

/-- It holds of all values that the readers return with a bound on the nesting. -/
structure ReadsAll (P : Json → Prop) (n : Nat) : Prop where
  value : ∀ t v rest, readValue n t = .ok (v, rest) → P v
  items : ∀ t vs rest, readItems n t = .ok (vs, rest) → ∀ v ∈ vs, P v
  members : ∀ members t read rest, (∀ member ∈ members, P member.2) →
    readMembers n members t = .ok (read, rest) → ∀ member ∈ read, P member.2

theorem ReadsAll.succ {P : Json → Prop} (hP : Closed P) {n : Nat} (h : ReadsAll P n) :
    ReadsAll P (n + 1) where
  value t v rest hread := by
    rcases readValue_cases hread with hsingle | ⟨items, rfl, hitems⟩ | ⟨members, rfl, hmembers⟩
    · exact hP.single v hsingle
    · apply hP.array
      rcases hitems with rfl | ⟨r, hr⟩
      · exact List.forall_mem_nil _
      · exact h.items r items rest hr
    · apply hP.ofMembers
      rcases hmembers with rfl | ⟨r, hr⟩
      · exact List.forall_mem_nil _
      · exact h.members [] r members rest (List.forall_mem_nil _) hr
  items t vs rest hread := by
    obtain ⟨v, r, hv, hvs⟩ := readItems_cases hread
    have hfirst := h.value t v r hv
    rcases hvs with rfl | ⟨more, r', hmore, rfl⟩
    · exact List.forall_mem_singleton.2 hfirst
    · exact List.forall_mem_cons.2 ⟨hfirst, h.items r' more rest hmore⟩
  members members t read rest hall hread := by
    obtain ⟨name, v, r, r', hv, hmore⟩ := readMembers_cases hread
    have hput : ∀ member ∈ Assoc.put name v members, P member.2 :=
      Assoc.forall_mem_put hall (h.value r v r' hv)
    rcases hmore with rfl | ⟨more, hmore⟩
    · exact hput
    · exact h.members _ more read rest hput hmore

theorem Closed.readsAll {P : Json → Prop} (hP : Closed P) (n : Nat) : ReadsAll P n := by
  induction n with
  | zero =>
    refine ⟨fun t v rest h => ?_, fun t vs rest h => ?_, fun members t read rest _ h => ?_⟩
    · rw [readValue] at h
      cases h
    · rw [readItems] at h
      cases h
    · rw [readMembers] at h
      cases h
  | succ n ih => exact ih.succ hP

theorem nodup_keys_of_readMembers {n : Nat} {members read : Assoc Json (List Nat)} {t rest : Text}
    (hnames : (Assoc.keys members).Nodup) (h : readMembers n members t = .ok (read, rest)) :
    (Assoc.keys read).Nodup := by
  induction n generalizing members t with
  | zero =>
    rw [readMembers] at h
    cases h
  | succ n ih =>
    obtain ⟨name, v, r, r', -, hmore⟩ := readMembers_cases h
    have hput := Assoc.nodup_keys_put hnames name v
    rcases hmore with rfl | ⟨more, hmore⟩
    · exact hput
    · exact ih hput hmore

/-- What a reader of values returns is the value of a text. -/
theorem exists_of_read {t : Text} {v : Json} (h : read t = .ok v) :
    ∃ n r rest, readValue (n + 1) r = .ok (v, rest) := by
  unfold read at h
  split at h
  · cases h
  · obtain ⟨⟨v', rest⟩, hv, hend⟩ := bind_eq_ok_iff.1 h
    dsimp only at hend
    split at hend
    · cases hend
      exact ⟨_, _, rest, hv⟩
    · cases hend

/-- The members of an object that is read. -/
theorem exists_members_of_read {t : Text} {v : Json} {members : Assoc Json} (h : read t = .ok v)
    (hobject : v.members? = some members) :
    ∃ read, v = ofMembers read ∧ (Assoc.keys read).Nodup ∧
      ∀ {P : Json → Prop}, Closed P → ∀ member ∈ read, P member.2 := by
  obtain ⟨n, r, rest, hv⟩ := exists_of_read h
  rcases readValue_cases hv with hsingle | ⟨items, rfl, -⟩ | ⟨read, rfl, hread⟩
  · cases hsingle <;> cases hobject
  · cases hobject
  · refine ⟨read, rfl, ?_⟩
    rcases hread with rfl | ⟨r', hr⟩
    · exact ⟨List.nodup_nil, fun _ => List.forall_mem_nil _⟩
    · have hnames : (Assoc.keys ([] : Assoc Json (List Nat))).Nodup := List.nodup_nil
      exact ⟨nodup_keys_of_readMembers hnames hr, fun hP =>
        (hP.readsAll n).members [] r' read rest (List.forall_mem_nil _) hr⟩

theorem Closed.of_members? {P : Json → Prop} (hP : Closed P) {t : Text} {v : Json}
    {members : Assoc Json} (h : read t = .ok v) (hobject : v.members? = some members) :
    ∀ member ∈ members, P member.2 := by
  obtain ⟨read, rfl, -, hall⟩ := exists_members_of_read h hobject
  unfold Json.ofMembers at hobject
  cases hnamed : named? read with
  | none =>
    rw [hnamed] at hobject
    obtain rfl := Option.some.inj hobject
    exact List.forall_mem_map.2 fun member hmember => hall hP member hmember
  | some named =>
    rw [hnamed] at hobject
    obtain rfl := Option.some.inj hobject
    obtain rfl := named?_eq_some_iff.1 hnamed
    exact fun member hmember => hall hP _ (List.mem_map_of_mem hmember)

/-! ## Objects that are read -/

theorem named?_of_read {t : Text} {members : List (List Nat × Json)}
    (h : read t = .ok (unpairedObject members)) : named? members = none := by
  obtain ⟨read, heq, -⟩ := exists_members_of_read h rfl
  unfold ofMembers at heq
  split at heq
  · cases heq
  · next hnone =>
    cases heq
    exact hnone

/-- In an object with half of a surrogate pair in a name, this name cannot be encoded. -/
theorem exists_of_named? {members : Assoc Json (List Nat)} (h : named? members = none) :
    ∃ member ∈ members, CodePoints.text? member.1 = none := by
  induction members with
  | nil => cases h
  | cons member rest ih =>
    obtain ⟨codes, v⟩ := member
    cases hcodes : CodePoints.text? codes with
    | none => exact ⟨_, List.mem_cons_self, hcodes⟩
    | some name =>
      have hrest : named? rest = none := by
        cases hnamed : named? rest with
        | none => rfl
        | some named =>
          rw [named?, hcodes, hnamed] at h
          cases h
      obtain ⟨member, hmember, hnone⟩ := ih hrest
      exact ⟨member, List.mem_cons_of_mem _ hmember, hnone⟩

theorem closed_rereadable : Closed fun v => v.isEncodable = true → Rereadable v where
  single _ h := h.rereadable
  array _ h hv := (rereads_array fun v hmem => h v hmem (isEncodable_array.1 hv v hmem)).rereadable
  object _ h hv :=
    (rereads_object fun m hmem => h m hmem (isEncodable_object.1 hv m hmem)).rereadable
  unpairedObject members hnone _ hv := by
    obtain ⟨member, hmember, hname⟩ := exists_of_named? hnone
    have hsome := (isEncodable_unpairedObject.1 hv member hmember).1
    rw [hname] at hsome
    cases hsome

/-- The members of an object that is read have different names and can be read again, if they can be
encoded. -/
theorem rereadable_of_read {t : Text} {members : List (Text × Json)}
    (h : read t = .ok (object members)) :
    (Assoc.keys members).Nodup ∧
      ∀ member ∈ members, member.2.isEncodable = true → Rereadable member.2 := by
  obtain ⟨read, heq, hnames, hall⟩ := exists_members_of_read h rfl
  unfold ofMembers at heq
  split at heq
  · next named hnamed =>
    obtain rfl := Json.object.inj heq
    obtain rfl := named?_eq_some_iff.1 hnamed
    refine ⟨?_, fun member hmember => hall closed_rereadable _ (List.mem_map_of_mem hmember)⟩
    have hcoded : ((Assoc.keys members).map CodePoints.ofText).Nodup := by
      rw [Assoc.keys, coded, List.map_map] at hnames
      rw [Assoc.keys, List.map_map]
      exact hnames
    exact List.Pairwise.of_map CodePoints.ofText
      (fun _ _ hne heq => hne (congrArg CodePoints.ofText heq)) hcoded
  · cases heq

end Json
end Dialogue
