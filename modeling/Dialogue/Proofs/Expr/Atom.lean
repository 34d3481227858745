import Dialogue.Expr.Condition
import Dialogue.Proofs.Json.RoundTrip
import Mathlib.Data.List.TakeWhile
set_option autoImplicit false

/-!
# Names and quoted texts as expressions

A text that is one token is parsed as the atom of that token.  Two kinds of texts are: a name, which
is the variable of that name, and a text between quotes, which is its own value.
-/

namespace Dialogue

/-! ## Texts of one token -/

namespace Lexer

/-- The characters that begin no token: blanks, line ends, comments and continued lines. -/
def separators : Text := [' ', '\t', '\x0c', '\n', '#', '\\']

section operand

variable {c : Char} {t : Text}

theorem indentation?_of_notMem (h : c ∉ separators) :
    indentation? 0 0 (c :: t) = some (0, c :: t) := by
  simp only [separators, List.mem_cons, List.not_mem_nil, or_false, not_or] at h
  obtain ⟨hspace, htab, hfeed, -, -, hslash⟩ := h
  rw [indentation?]
  · rfl
  all_goals simp_all

theorem tokens?_fresh (h : c ∉ separators) (steps : Nat) :
    tokens? (steps + 1) [] true (c :: t) = tokens? steps [] false (c :: t) := by
  simp only [tokens?, indentation?_of_notMem h, Option.bind_eq_bind, Option.bind_some]
  simp only [separators, List.mem_cons, List.not_mem_nil, or_false, not_or] at h
  split
  · simp_all
  · simp_all
  · rfl

theorem tokens?_operand (h : c ∉ separators) {token : Token} {rest : Text}
    (hop : operand? (c :: t) = some (some (token, rest))) (steps : Nat) :
    tokens? (steps + 1) [] false (c :: t) =
      (tokens? steps [] false rest).map fun more => token :: more := by
  simp only [separators, List.mem_cons, List.not_mem_nil, or_false, not_or] at h
  obtain ⟨hspace, htab, hfeed, hnewline, hmark, hslash⟩ := h
  rw [tokens?]
  · simp only [hspace, htab, hfeed, or_false, if_false, hop, Option.bind_eq_bind, Option.bind_some]
    cases tokens? steps [] false rest <;> rfl
  all_goals simp_all

end operand

/-- A text that is one operand is one token. -/
theorem lex?_of_operand? {c : Char} {t : Text} {token : Token} (hc : c ∉ separators)
    (hnull : '\x00' ∉ c :: t) (hreturn : '\r' ∉ c :: t)
    (hop : operand? (c :: t) = some (some (token, []))) : lex? (c :: t) = some [token] := by
  rw [lex?, if_neg (by simpa using hnull), Text.unifyNewlines_eq_self hreturn]
  show tokens? (2 * t.length + 3 + 1) [] true (c :: t) = some [token]
  rw [tokens?_fresh hc, tokens?_operand hc hop]
  rfl

end Lexer

/-! ## Names -/

namespace Text

/-- The text names a variable in every expression: an identifier of ASCII characters that is neither
a keyword nor, in any case, a constant of the language. -/
structure NamesVariable (v : Text) : Prop where
  ascii : ∀ c ∈ v, c.toNat < 0x80
  identifier : isIdentifier v = true
  notKeyword : Token.keyword? v = none
  notConstant : lower v ≠ "true".toList ∧ lower v ≠ "false".toList ∧ lower v ≠ "null".toList

theorem compatible_eq_self {t : Text} (h : ∀ c ∈ t, c.toNat < 0x80) : compatible t = t := by
  rw [compatible, if_pos (by simpa using h)]

theorem isIdentifierPart_of_isIdentifierStart {c : Char} (h : isIdentifierStart c = true) :
    isIdentifierPart c = true := by
  unfold isIdentifierStart at h
  unfold isIdentifierPart
  split at h
  · next hc =>
    rw [if_pos hc]
    simp only [Bool.or_eq_true, beq_iff_eq] at h ⊢
    exact h.imp (fun halpha => by simp [Char.isAlphanum, halpha]) id
  · next hc => rw [if_neg hc, h]; rfl

theorem isIdentifierPart_of_isIdentifier {v : Text} (h : isIdentifier v = true) :
    ∀ c ∈ v, isIdentifierPart c = true := by
  cases v with
  | nil => exact List.forall_mem_nil _
  | cons c r =>
    simp only [isIdentifier, Bool.and_eq_true, List.all_eq_true] at h
    exact List.forall_mem_cons.2 ⟨isIdentifierPart_of_isIdentifierStart h.1, h.2⟩

/-- A character that no identifier holds. -/
theorem notMem_of_isIdentifier {v : Text} (h : isIdentifier v = true) {c : Char}
    (hc : isIdentifierPart c = false) : c ∉ v := by
  intro hmem
  rw [isIdentifierPart_of_isIdentifier h c hmem] at hc
  cases hc

end Text

namespace Literal

theorem isWordPart_of_isIdentifierPart {c : Char} (h : Text.isIdentifierPart c = true) :
    isWordPart c = true := by
  unfold Text.isIdentifierPart at h
  unfold isWordPart
  split at h
  · rw [h]
    rfl
  · next hc =>
    have hbeyond : 0x80 ≤ c.toNat := by omega
    simp [hbeyond]

theorem isWordStart_of_isIdentifierStart {c : Char} (h : Text.isIdentifierStart c = true) :
    isWordStart c = true := by
  unfold Text.isIdentifierStart at h
  unfold isWordStart
  split at h
  · rw [h]
    rfl
  · next hc =>
    have hbeyond : 0x80 ≤ c.toNat := by omega
    simp [hbeyond]

end Literal

namespace Lexer

/-- A word ends before this text, and what follows it is no quotation. -/
def endsWord (rest : Text) : Bool :=
  rest.head?.all fun c => !Literal.isWordPart c && c != '"' && c != '\x27'

theorem endsWord_spec {rest : Text} (h : endsWord rest = true) :
    rest.takeWhile Literal.isWordPart = [] ∧ rest.dropWhile Literal.isWordPart = rest ∧
      (decide (rest.head? = some '"') || decide (rest.head? = some '\x27')) = false := by
  cases rest with
  | nil => exact ⟨rfl, rfl, rfl⟩
  | cons c r =>
    simp only [endsWord, List.head?_cons, Option.all_some, Bool.and_eq_true, Bool.not_eq_true',
      bne_iff_ne] at h
    obtain ⟨⟨hpart, hdouble⟩, hsingle⟩ := h
    simp [hpart, hdouble, hsingle]

theorem notMem_separators {c : Char} (h : Text.isIdentifierPart c = true) :
    c ∉ separators := by
  simp only [separators, List.mem_cons, List.not_mem_nil, or_false]
  rintro (rfl | rfl | rfl | rfl | rfl | rfl) <;> exact absurd h (by decide)

end Lexer

namespace Text.NamesVariable

variable {v : Text}

theorem word?_append (h : NamesVariable v) {rest : Text} (hrest : Lexer.endsWord rest = true) :
    Lexer.word? (v ++ rest) = some (.name v, rest) := by
  have hall : ∀ c ∈ v, Literal.isWordPart c = true := fun c hc =>
    Literal.isWordPart_of_isIdentifierPart (isIdentifierPart_of_isIdentifier h.identifier c hc)
  obtain ⟨hnone, hsame, hquotes⟩ := Lexer.endsWord_spec hrest
  have htake : (v ++ rest).takeWhile Literal.isWordPart = v := by
    rw [List.takeWhile_append_of_pos hall, hnone, List.append_nil]
  have hdrop : (v ++ rest).dropWhile Literal.isWordPart = rest := by
    rw [List.dropWhile_append_of_pos hall, hsame]
  have htoken : Lexer.wordToken? v = some (.name v) := by
    rw [Lexer.wordToken?, h.notKeyword]
    show (if isIdentifier v then some (Token.name (compatible v)) else none) = _
    rw [if_pos h.identifier, compatible_eq_self h.ascii]
  simp only [Lexer.word?, htake, hdrop, hquotes, Bool.false_eq_true, if_false, htoken,
    Option.map_some]

theorem operand?_append (h : NamesVariable v) {rest : Text} (hrest : Lexer.endsWord rest = true) :
    Lexer.operand? (v ++ rest) = some (some (.name v, rest)) := by
  have hword := h.word?_append hrest
  have hid := h.identifier
  cases v with
  | nil => cases hid
  | cons c r =>
    obtain ⟨hstart, -⟩ := Bool.and_eq_true_iff.1 hid
    rw [List.cons_append] at hword ⊢
    rw [Lexer.operand?, if_pos (Literal.isWordStart_of_isIdentifierStart hstart), hword]

/-- The name begins with a character that separates nothing. -/
theorem exists_eq_cons (h : NamesVariable v) : ∃ c r, v = c :: r ∧ c ∉ Lexer.separators := by
  have hid := h.identifier
  cases v with
  | nil => cases hid
  | cons c r =>
    obtain ⟨hstart, -⟩ := Bool.and_eq_true_iff.1 hid
    exact ⟨c, r, rfl, Lexer.notMem_separators (isIdentifierPart_of_isIdentifierStart hstart)⟩

theorem lex? (h : NamesVariable v) : Lexer.lex? v = some [.name v] := by
  have hoperand : Lexer.operand? (v ++ []) = some (some (.name v, [])) := h.operand?_append rfl
  have hnull := notMem_of_isIdentifier h.identifier (c := '\x00') (by decide)
  have hreturn := notMem_of_isIdentifier h.identifier (c := '\r') (by decide)
  obtain ⟨c, r, rfl, hc⟩ := h.exists_eq_cons
  rw [List.append_nil] at hoperand
  exact Lexer.lex?_of_operand? hc hnull hreturn hoperand

/-- The variable is the whole expression. -/
theorem parse? (h : NamesVariable v) : Parser.parse? v = some (.name v .load) := by
  rw [Parser.parse?, h.lex?]
  rfl

theorem eval_name (h : NamesVariable v) (ctx : Context) :
    Expr.eval ctx (.name v .load) = .ok ((Assoc.get? v ctx).getD (.text [])) := by
  obtain ⟨htrue, hfalse, hnull⟩ := h.notConstant
  show Except.ok (Expr.nameValue ctx v) = _
  rw [Expr.nameValue, if_neg htrue, if_neg hfalse, if_neg hnull]

/-- The value of the expression is that of the variable. -/
theorem evalText (h : NamesVariable v) (ctx : Context) :
    Expr.evalText ctx v = .ok ((Assoc.get? v ctx).getD (.text [])) := by
  rw [Expr.evalText, h.parse?]
  exact h.eval_name ctx

/-- The variable as a condition holds if its value counts as true. -/
theorem holdsText (h : NamesVariable v) (ctx : Context) :
    Expr.holdsText ctx v = .ok ((Assoc.get? v ctx).getD (.text [])).truth := by
  rw [Expr.holdsText, h.parse?]
  show (Expr.eval ctx (.name v .load) >>= fun x => pure x.truth) = _
  rw [h.eval_name]
  rfl

end Text.NamesVariable

/-! ## Quoted texts -/

namespace Literal

theorem body?_of_notMem {t : Text} (hquote : '"' ∉ t) (hslash : '\\' ∉ t) (hnewline : '\n' ∉ t)
    (rest : Text) : body? '"' (t ++ '"' :: rest) = some (t, rest) := by
  induction t with
  | nil => rfl
  | cons c t ih =>
    simp only [List.mem_cons, not_or] at hquote hslash hnewline
    rw [List.cons_append, body?, if_neg (Ne.symm hquote.1), if_neg (Ne.symm hnewline.1),
      ih hquote.2 hslash.2 hnewline.2]
    · rfl
    · exact fun h _ => hslash.1 h.symm
    · exact fun _ _ h _ => hslash.1 h.symm

theorem decodeText?_of_notMem {t : Text} (hslash : '\\' ∉ t) : decodeText? 0 t = some t := by
  induction t with
  | nil => rfl
  | cons c t ih =>
    simp only [List.mem_cons, not_or] at hslash
    rw [decodeText?, ih hslash.2]
    · rfl
    · exact fun h _ => hslash.1 h.symm
    · exact fun _ _ h _ => hslash.1 h.symm

theorem quotation?_of_notMem {t : Text} (hquote : '"' ∉ t) (hslash : '\\' ∉ t)
    (hnewline : '\n' ∉ t) :
    quotation? ⟨false, false, false, false⟩ ('"' :: (t ++ ['"'])) =
      some (.quotation (.text t) false, []) := by
  have hshort : Text.after? ['"', '"'] (t ++ ['"']) = none := by
    cases t with
    | nil => rfl
    | cons c t =>
      simp only [List.mem_cons, not_or] at hquote
      rw [List.cons_append, Text.after?, if_neg hquote.1]
  have hcontent : content? ⟨false, false, false, false⟩ t = some (.text t) := by
    show (decodeText? 0 t).map Quotation.text = _
    rw [decodeText?_of_notMem hslash]
    rfl
  rw [quotation?, hshort]
  simp only [body?_of_notMem hquote hslash hnewline, Option.bind_eq_bind, Option.bind_some,
    hcontent]
  rfl

end Literal

/-- A text without quotes, backslashes and line ends is the value of itself between quotes. -/
theorem Expr.evalText_quoted {t : Text} (hquote : '"' ∉ t) (hslash : '\\' ∉ t) (hnewline : '\n' ∉ t)
    (hreturn : '\r' ∉ t) (hnull : '\x00' ∉ t) (ctx : Context) :
    evalText ctx ('"' :: (t ++ ['"'])) = .ok (.text t) := by
  have hlex : Lexer.lex? ('"' :: (t ++ ['"'])) = some [.quotation (.text t) false] := by
    refine Lexer.lex?_of_operand? (by decide) ?_ ?_ ?_
    · simpa using hnull
    · simpa using hreturn
    · show some (Literal.quotation? ⟨false, false, false, false⟩ ('"' :: (t ++ ['"']))) = _
      rw [Literal.quotation?_of_notMem hquote hslash hnewline]
  have hparse : Parser.parse? ('"' :: (t ++ ['"'])) = some (.constant (.text (t ++ [])) false) := by
    rw [Parser.parse?, hlex]
    rfl
  rw [evalText, hparse, List.append_nil]
  rfl

end Dialogue
