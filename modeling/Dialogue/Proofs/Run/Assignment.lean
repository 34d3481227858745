import Dialogue.Proofs.Except
import Dialogue.Proofs.Expr.Atom
import Dialogue.Proofs.Number.Written
import Dialogue.Proofs.Script.RoundTrip
import Dialogue.Run.Action
set_option autoImplicit false

/-!
# Assignment of values

A line `set v = e` is read as a plain text if `e` begins and ends with a quote, and as an expression
otherwise; `Assignment.value_set_line_iff` says when both readings keep the value of `e`.  What is
kept is the text of the value; `Assignment.holds_stored_iff` says when it counts as true exactly if
the value does.
-/

namespace Dialogue

/-! ## The value and the truth of an expression -/

/-- A null character makes an expression malformed. -/
theorem Expr.notMem_of_evalText {ctx : Context} {e : Text} {x : Value}
    (h : evalText ctx e = .ok x) : '\x00' ∉ e := by
  intro hnull
  have hlex : Lexer.lex? e = none := by
    rw [Lexer.lex?, if_pos (by simpa using hnull)]
  rw [evalText, Parser.parse?, hlex] at h
  cases h

/-- An expression with a value holds if the value counts as true. -/
theorem Expr.holds_of_eval {ctx : Context} {e : Expr} {x : Value} (h : eval ctx e = .ok x) :
    holds ctx e = .ok x.truth := by
  have hplain : (eval ctx e >>= fun v => pure v.truth) = Except.ok x.truth := by
    rw [h]
    rfl
  cases e with
  | constant v unicode => exact hplain
  | name id context => exact hplain
  | binary left op right => exact hplain
  | call func args keywords => exact hplain
  | unary op operand =>
    cases op with
    | not => cases h
    | plus => exact hplain
    | minus => exact hplain
    | invert => cases h
  | _ => cases h

theorem Expr.holdsText_of_evalText {ctx : Context} {e : Text} {x : Value}
    (h : evalText ctx e = .ok x) : holdsText ctx e = .ok x.truth := by
  cases hparse : Parser.parse? e with
  | none =>
    rw [evalText, hparse] at h
    cases h
  | some tree =>
    rw [evalText, hparse] at h
    rw [holdsText, hparse]
    exact holds_of_eval h

/-- Only nothing and the empty text are kept as the empty text. -/
theorem Scene.kept_eq_nil_iff {x : Value} {t : Text} (h : kept x = .ok t) :
    t = [] ↔ x = .none ∨ x = .text [] := by
  cases x with
  | none => simp [← Except.ok.inj h]
  | text u =>
    have hsame : u = t := Except.ok.inj h
    simp [hsame]
  | bool b =>
    cases b <;> simp [← Except.ok.inj h]
  | int n =>
    have hne : Text.ofInt n ≠ [] := by
      obtain ⟨whole, hvalid, htext, -⟩ := Number.exists_numeral_ofInt n
      rw [htext]
      exact hvalid.text_ne_nil
    have hsame : Text.ofInt n = t := by
      cases hint : Value.intText? n with
      | none =>
        simp only [kept, Value.shown, Value.text?, hint] at h
        cases h
      | some u =>
        simp only [kept, Value.shown, Value.text?, hint] at h
        obtain rfl := Except.ok.inj h
        unfold Value.intText? at hint
        split at hint
        · exact Option.some.inj hint
        · cases hint
    simp [← hsame, hne]
  | float y =>
    have hne := Number.write_ne_nil y
    simp [← Except.ok.inj h, hne]
  | bytes bs => simp [← Except.ok.inj h, Text.quotedBytes]
  | imaginary y => simp [← Except.ok.inj h]
  | ellipsis => simp [← Except.ok.inj h]

namespace Assignment

/-! ## Lines -/

/-- The line that assigns to `v` the value of `e`. -/
def line (v e : Text) : Text := "set ".toList ++ v ++ " = ".toList ++ e

/-- The lines before the statements of a state. -/
def heading : Text := "flow main\nstate start\n".toList

/-- A script whose only statement is the line. -/
def scriptText (v e : Text) : Text := heading ++ (line v e ++ ['\n'])

/-- The script with one action. -/
def scriptOf (a : Action) : Script := ⟨[⟨"main".toList, [⟨"start".toList, [a]⟩]⟩]⟩

/-- The action that the line is read as. -/
def action (v e : Text) : Action :=
  if Statement.isQuoted e then .set v (Statement.unquote e) else .setExpr v e

theorem print_scriptOf (a : Action) :
    (scriptOf a).print .separate =
      heading ++ (a.lines .separate).flatMap fun line => line ++ ['\n'] := by
  have hhead : heading =
      ("flow ".toList ++ "main".toList ++ ['\n']) ++
        ("state ".toList ++ "start".toList ++ ['\n']) := by
    decide
  rw [hhead, List.append_assoc]
  simp only [scriptOf, Script.print, Script.lines, Flow.lines, State.lines, Action.linesOfAll,
    List.flatMap_cons, List.flatMap_nil, List.append_nil]

/-- A script with one line is read as the script with the action of the line. -/
theorem parse_scriptOf {a : Action} {statement : Text} (h : a.wellFormed = true)
    (hlines : a.lines .separate = [statement]) :
    Script.parse (heading ++ (statement ++ ['\n'])) = .ok (scriptOf a) := by
  have hwell : (scriptOf a).wellFormed = true := by
    simp [scriptOf, Script.wellFormed, Flow.wellFormed, State.wellFormed, Action.wellFormedAll,
      Flow.names, h]
    decide
  have hprint : (scriptOf a).print .separate = heading ++ (statement ++ ['\n']) := by
    rw [print_scriptOf, hlines, List.flatMap_singleton]
  rw [← hprint]
  exact Script.parse_print .separate hwell (.inl rfl)

section line

variable {v e : Text} (hstrip : Text.strip e = e) (hlone : e ≠ ['"'])
include hstrip hlone

/-- A text that begins and ends with a quote, and is no single one, stands between quotes. -/
theorem inQuotes_unquote (hquoted : Statement.isQuoted e = true) :
    Action.inQuotes (Statement.unquote e) = e := by
  have hunquote : Statement.unquote e = (e.drop 1).dropLast := by
    simp only [Statement.unquote, hstrip, hquoted, if_true]
  simp only [Statement.isQuoted, Bool.and_eq_true, decide_eq_true_eq] at hquoted
  obtain ⟨hfirst, hlast⟩ := hquoted
  rw [hunquote]
  cases e with
  | nil => cases hfirst
  | cons c r =>
    obtain rfl := Option.some.inj hfirst
    have hr : r ≠ [] := by
      rintro rfl
      exact hlone rfl
    obtain ⟨init, last, rfl⟩ := List.eq_nil_or_concat r |>.resolve_left hr
    rw [List.concat_eq_append, ← List.cons_append, List.getLast?_concat] at hlast
    obtain rfl := Option.some.inj hlast
    simp [Action.inQuotes]

theorem lines_action :
    (action v e).lines .separate = [line v e] := by
  unfold action line
  split
  · next hquoted => rw [Action.lines, inQuotes_unquote hstrip hlone hquoted]
  · rw [Action.lines]

theorem wellFormed_action (hname : v.isName = true) (hequals : '=' ∉ v)
    (hline : e.isOneLine = true) :
    (action v e).wellFormed = true := by
  unfold action
  split
  · next hquoted =>
    have hvalue : (Statement.unquote e).isOneLine = true := by
      rw [← inQuotes_unquote hstrip hlone hquoted] at hline
      simp only [Action.inQuotes, Text.isOneLine_append, Text.isOneLine_cons, Bool.and_eq_true]
        at hline
      exact hline.1.2
    simp [Action.wellFormed, hname, hequals, hvalue]
  · next hquoted => simp [Action.wellFormed, hname, hequals, hline, hstrip, hquoted]

/-- The line is read as the action. -/
theorem parse_scriptText (hname : v.isName = true) (hequals : '=' ∉ v)
    (hline : e.isOneLine = true) :
    Script.parse (scriptText v e) = .ok (scriptOf (action v e)) :=
  parse_scriptOf (wellFormed_action hstrip hlone hname hequals hline) (lines_action hstrip hlone)

end line

/-- An expression that has a value is no single quote. -/
theorem ne_lone_quote {ctx : Context} {e : Text} {x : Value} (h : Expr.evalText ctx e = .ok x) :
    e ≠ ['"'] := by
  rintro rfl
  cases h

/-- Between two quotes, a text without further ones is its own value. -/
theorem evalText_of_isQuoted {e : Text} (hstrip : Text.strip e = e) (hline : e.isOneLine = true)
    (hslash : '\\' ∉ e) {ctx : Context} {x : Value} (h : Expr.evalText ctx e = .ok x)
    (hquoted : Statement.isQuoted e = true) (hinner : '"' ∉ Statement.unquote e) :
    x = .text (Statement.unquote e) := by
  have hquotes := inQuotes_unquote hstrip (ne_lone_quote h) hquoted
  have hpart : ∀ c, c ∉ e → c ∉ Statement.unquote e := by
    intro c hc hmem
    rw [← hquotes] at hc
    exact hc (by simp [Action.inQuotes, hmem])
  have hends : ∀ c, Text.isLineEnd c = true → c ∉ e := by
    intro c hc hmem
    rw [Text.isOneLine_iff.1 hline c hmem] at hc
    cases hc
  have hvalue := Expr.evalText_quoted hinner (hpart _ hslash) (hpart '\n' (hends _ (by decide)))
    (hpart '\r' (hends _ (by decide))) (hpart _ (Expr.notMem_of_evalText h)) ctx
  have hsame : '"' :: (Statement.unquote e ++ ['"']) = e := hquotes
  rw [hsame, h] at hvalue
  exact Except.ok.inj hvalue

/-- A line `set v = e` assigns the text of the value of `e`, except where `e` begins and ends with a
quote and has another one in between: then it assigns what stands between the outer quotes. -/
theorem value_set_line_iff {v e : Text} (hname : v.isName = true) (hequals : '=' ∉ v)
    (hstrip : Text.strip e = e) (hline : e.isOneLine = true) (hslash : '\\' ∉ e) {s : Scene}
    {x : Value} {t : Text} (hx : Expr.evalText s.ctx e = .ok x) (ht : Scene.kept x = .ok t) :
    ∃ a u, Script.parse (scriptText v e) = .ok (scriptOf a) ∧
      a.run s = (s.assign v (.text u)).proceed ∧
      (u = t ↔ (Statement.isQuoted e = true → '"' ∈ Statement.unquote e →
        Statement.unquote e = t)) := by
  refine ⟨action v e, if Statement.isQuoted e then Statement.unquote e else t,
    parse_scriptText hstrip (ne_lone_quote hx) hname hequals hline, ?_, ?_⟩
  · unfold action
    split
    · rfl
    · rw [Action.run, hx]
      show s.evaluated (Scene.kept x) _ = _
      rw [ht]
      rfl
  · by_cases hquoted : Statement.isQuoted e = true
    · rw [if_pos hquoted]
      refine ⟨fun heq _ _ => heq, fun hsame => ?_⟩
      by_cases hinner : '"' ∈ Statement.unquote e
      · exact hsame hquoted hinner
      · rw [evalText_of_isQuoted hstrip hline hslash hx hquoted hinner] at ht
        exact Except.ok.inj ht
    · rw [if_neg hquoted]
      exact iff_of_true rfl fun h => absurd h hquoted

/-- A beginning without variables. -/
def empty : Scene := ⟨⟨"start".toList, [], [], none⟩, [], [], ⟨[], ⟨[], .failed []⟩⟩⟩

theorem value_set_line_iff_apostrophe :
    ∃ a, Script.parse (scriptText "v".toList "\"it's\"".toList) = .ok (scriptOf a) ∧
      a.run empty = (empty.assign "v".toList (.text "it's".toList)).proceed := by
  obtain ⟨a, u, hparse, hrun, hiff⟩ := value_set_line_iff (v := "v".toList)
    (e := "\"it's\"".toList) (s := empty) (x := .text "it's".toList) (by decide) (by decide)
    (by decide) (by decide) (by decide) rfl rfl
  have hu : u = "it's".toList := hiff.2 fun _ hinner => absurd hinner (by decide)
  exact ⟨a, hparse, by rw [hrun, hu]⟩

/-- The sum of two quoted texts is taken for one text. -/
theorem value_set_line_sum :
    (Expr.evalText empty.ctx "\"a\" + \"b\"".toList >>= Scene.kept) = .ok "ab".toList ∧
      ∃ a, Script.parse (scriptText "v".toList "\"a\" + \"b\"".toList) = .ok (scriptOf a) ∧
        a.run empty = (empty.assign "v".toList (.text "a\" + \"b".toList)).proceed := by
  have hquoted : Statement.isQuoted "\"a\" + \"b\"".toList = true := by decide
  have hunquote : Statement.unquote "\"a\" + \"b\"".toList = "a\" + \"b".toList := by decide
  refine ⟨by decide +kernel, _, parse_scriptText (by decide) (by decide) (by decide) (by decide)
    (by decide), ?_⟩
  rw [action, if_pos hquoted, hunquote]
  rfl

/-! ## Truth -/

/-- What an assignment keeps counts as true exactly if the value does, except for values that count
as false and whose text is not empty: false, zeros and empty bytes.  These are kept as texts that
count as true. -/
theorem holds_stored_iff {v e : Text} (hv : v.NamesVariable) {s : Scene} {x : Value}
    (hx : Expr.evalText s.ctx e = .ok x) :
    Expr.holdsText s.ctx e = .ok x.truth ∧
      (∀ f, Scene.kept x = .error f → Action.run (.setExpr v e) s = s.fail (.eval f)) ∧
      ∀ t, Scene.kept x = .ok t →
        Action.run (.setExpr v e) s = (s.assign v (.text t)).proceed ∧
          ∃ b, Expr.holdsText (s.assign v (.text t)).ctx v = .ok b ∧
            (b = false ↔ x = .none ∨ x = .text []) ∧
            (b = x.truth ↔ (x.truth = false → x = .none ∨ x = .text [])) := by
  have hrun : Action.run (.setExpr v e) s =
      s.evaluated (Scene.kept x) fun t => (s.assign v (.text t)).proceed := by
    rw [Action.run, hx]
    rfl
  refine ⟨Expr.holdsText_of_evalText hx, ?_, ?_⟩
  · intro f hf
    rw [hrun, hf]
    rfl
  · intro t ht
    have hempty := Scene.kept_eq_nil_iff ht
    have hholds : Expr.holdsText (s.assign v (.text t)).ctx v = .ok (!t.isEmpty) := by
      rw [hv.holdsText, Scene.assign, Assoc.get?_put_self]
      rfl
    have hfalse : (!t.isEmpty) = false ↔ x = .none ∨ x = .text [] := by
      rw [← hempty]
      simp
    refine ⟨by rw [hrun, ht]; rfl, _, hholds, hfalse, ?_⟩
    cases htruth : x.truth with
    | false => simpa using hfalse
    | true =>
      -- nothing and the empty text count as false
      have hnot : ¬(x = .none ∨ x = .text []) := by
        rintro (rfl | rfl) <;> cases htruth
      refine iff_of_true ?_ fun h => by cases h
      rw [← hfalse] at hnot
      simpa using hnot

theorem holds_stored_iff_true :
    Expr.holdsText empty.ctx "true".toList = .ok true ∧
      ∃ b, Expr.holdsText (empty.assign "v".toList (.text "True".toList)).ctx "v".toList = .ok b ∧
        b = true := by
  have hascii : ∀ c ∈ ['v'], c.toNat < 0x80 := List.forall_mem_singleton.2 (by decide)
  have hv : Text.NamesVariable "v".toList := ⟨hascii, by decide, by decide, by decide⟩
  have hx : Expr.evalText empty.ctx "true".toList = .ok (.bool true) := rfl
  obtain ⟨hholds, -, hstored⟩ := holds_stored_iff hv hx
  obtain ⟨-, b, hb, -, hiff⟩ := hstored _ rfl
  exact ⟨hholds, b, hb, hiff.2 fun h => by cases h⟩

/-- False is kept as a text that counts as true. -/
theorem holds_stored_false :
    Expr.holdsText empty.ctx "false".toList = .ok false ∧
      Expr.holdsText (Action.run (.setExpr "v".toList "false".toList) empty).scene.ctx "v".toList =
        .ok true := by
  decide +kernel

end Assignment
end Dialogue
