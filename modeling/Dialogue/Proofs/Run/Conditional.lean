import Dialogue.Proofs.Expr.Atom
import Dialogue.Proofs.Expr.Equality
import Dialogue.Run.Action
set_option autoImplicit false

/-!
# Inline and block conditionals

The condition that compares a variable with a quoted text holds exactly if the value of the variable
is equal to the text.  So an inline conditional and a chain with this condition whose only action is
the jump do the same.  Main statement: `Action.run_ifGoto_eq_chain`.
-/

namespace Dialogue

/-! ## The condition -/

namespace Lexer

theorem tokens?_blank (steps : Nat) (t : Text) :
    tokens? (steps + 1) [] false (' ' :: t) = tokens? steps [] false t := rfl

theorem tokens?_equals (steps : Nat) (t : Text) :
    tokens? (steps + 1) [] false ('=' :: '=' :: ' ' :: t) =
      (tokens? steps [] false (' ' :: t)).map fun more => .symbol .doubleEquals :: more := by
  show (tokens? steps [] false (' ' :: t)).bind (fun more => some (_ :: more)) = _
  cases tokens? steps [] false (' ' :: t) with
  | none => rfl
  | some more => rfl

end Lexer

/-- The text can stand between quotes as it is. -/
structure Text.Quotable (t : Text) : Prop where
  quote : '"' ∉ t
  slash : '\\' ∉ t
  newline : '\n' ∉ t
  return_ : '\r' ∉ t
  null : '\x00' ∉ t

/-- A printable text without quotes and backslashes can. -/
theorem Text.quotable_of_printable {t : Text} (h : ∀ c ∈ t, isPrintable c = true)
    (hquote : '"' ∉ t) (hslash : '\\' ∉ t) : t.Quotable := by
  have hcontrol {c : Char} (hc : isPrintable c = false) : c ∉ t := by
    intro hmem
    rw [h c hmem] at hc
    cases hc
  exact ⟨hquote, hslash, hcontrol (by decide), hcontrol (by decide), hcontrol (by decide)⟩

namespace Expr

/-- The condition that a variable is equal to a text. -/
def equation (left right : Text) : Text := left ++ (" == \"".toList ++ (right ++ ['"']))

section equation

variable {left right : Text}

theorem lex?_equation (hleft : left.NamesVariable) (hright : right.Quotable) :
    Lexer.lex? (equation left right) =
      some [.name left, .symbol .doubleEquals, .quotation (.text right) false] := by
  have hname : Lexer.operand? (equation left right) =
      some (some (.name left, ' ' :: '=' :: '=' :: ' ' :: '"' :: (right ++ ['"']))) :=
    hleft.operand?_append rfl
  have hquotation : Lexer.operand? ('"' :: (right ++ ['"'])) =
      some (some (.quotation (.text right) false, [])) := by
    show some (Literal.quotation? ⟨false, false, false, false⟩ ('"' :: (right ++ ['"']))) = _
    rw [Literal.quotation?_of_notMem hright.quote hright.slash hright.newline]
  have hplain {c : Char} (hpart : Text.isIdentifierPart c = false) (hsign : c ∉ " == \"".toList)
      (hnot : c ∉ right) : c ∉ equation left right := by
    have hnotLeft := Text.notMem_of_isIdentifier hleft.identifier hpart
    simp only [equation, List.mem_append, not_or]
    exact ⟨hnotLeft, hsign, hnot, fun hc => hsign (List.mem_singleton.1 hc ▸ by decide)⟩
  have hnull := hplain (c := '\x00') (by decide) (by decide) hright.null
  have hreturn := hplain (c := '\r') (by decide) (by decide) hright.return_
  obtain ⟨c, r, rfl, hc⟩ := hleft.exists_eq_cons
  obtain ⟨steps, hsteps⟩ : ∃ steps, 2 * (equation (c :: r) right).length + 2 = steps + 7 :=
    ⟨2 * (r.length + right.length) + 9, by simp [equation]; omega⟩
  rw [Lexer.lex?, if_neg (by simpa using hnull), Text.unifyNewlines_eq_self hreturn]
  dsimp only
  rw [hsteps, equation, List.cons_append]
  rw [equation, List.cons_append] at hname
  rw [Lexer.tokens?_fresh hc, Lexer.tokens?_operand hc hname, Lexer.tokens?_blank,
    Lexer.tokens?_equals, Lexer.tokens?_blank, Lexer.tokens?_operand (by decide) hquotation]
  rfl

theorem parse?_equation (hleft : left.NamesVariable) (hright : right.Quotable) :
    Parser.parse? (equation left right) =
      some (.compare (.name left .load) [(.eq, .constant (.text right) false)]) := by
  have hparse : Parser.parse? (equation left right) =
      some (.compare (.name left .load) [(.eq, .constant (.text (right ++ [])) false)]) := by
    rw [Parser.parse?, lex?_equation hleft hright]
    rfl
  rw [hparse, List.append_nil]

/-- The condition holds if the value of the variable is equal to the text. -/
theorem holdsText_equation (hleft : left.NamesVariable) (hright : right.Quotable) {ctx : Context}
    {t : Text} (hvalue : (Assoc.get? left ctx).getD (.text []) = .text t) :
    holdsText ctx (equation left right) = .ok (Text.sameAs t right) := by
  have hcompare : compareValues .eq (.text t) (.text right) = .ok (Text.sameAs t right) :=
    (Text.compareBy_eq_sameAs t right).1
  rw [holdsText, parse?_equation hleft hright]
  show (eval ctx (.name left .load) >>= fun v =>
    chainHolds ctx v [(.eq, .constant (.text right) false)]) = _
  rw [hleft.eval_name, hvalue]
  show (compareValues .eq (.text t) (.text right) >>= fun holds =>
    if holds then chainHolds ctx (.text right) [] else pure false) = _
  rw [hcompare]
  cases Text.sameAs t right with
  | true => rfl
  | false => rfl

end equation
end Expr

/-! ## The two forms -/

namespace Action

/-- The inline conditional goes to its target exactly if the value of the variable is equal to the
text, and changes nothing. -/
theorem run_ifGoto {left t : Text} {s : Scene} (hvalue : s.value left = .text t)
    (right target : Text) :
    run (.ifGoto left right target) s =
      ⟨if Text.sameAs t right then .jump target else .proceed, s, []⟩ := by
  rw [run, hvalue]
  show (if Text.sameAs t right then (⟨.jump target, s, []⟩ : Report) else s.proceed) = _
  cases Text.sameAs t right with
  | true => rfl
  | false => rfl

/-- A chain whose only action is a jump goes there exactly if its condition holds, and changes
nothing. -/
theorem run_chain_goto {condition : Text} {s : Scene} {holds : Bool}
    (h : Expr.holdsText s.ctx condition = .ok holds) (target : Text) :
    run (.chain [(condition, [.goto target])] none) s =
      ⟨if holds then .jump target else .proceed, s, []⟩ := by
  rw [run_chain, selected, h]
  cases holds with
  | true => rfl
  | false => rfl

/-- For a variable whose value is a text, or that was never set, the inline conditional and the
chain with the condition that the variable is equal to the text do the same: they go to the target
if the value and the text are equal, and else go on, and they change nothing. -/
theorem run_ifGoto_eq_chain {left right : Text} (hleft : left.NamesVariable)
    (hprintable : ∀ c ∈ right, Text.isPrintable c = true) (hquote : '"' ∉ right)
    (hslash : '\\' ∉ right) {s : Scene}
    (hvalue : Assoc.get? left s.ctx = none ∨ ∃ t, Assoc.get? left s.ctx = some (.text t))
    (target : Text) :
    ∃ t, s.value left = .text t ∧
      run (.ifGoto left right target) s =
        ⟨if Text.sameAs t right then .jump target else .proceed, s, []⟩ ∧
      run (.chain [(Expr.equation left right, [.goto target])] none) s =
        run (.ifGoto left right target) s := by
  have hright := Text.quotable_of_printable hprintable hquote hslash
  obtain ⟨t, ht⟩ : ∃ t, s.value left = .text t := by
    unfold Scene.value
    rcases hvalue with hnone | ⟨t, hsome⟩
    · exact ⟨[], by rw [hnone]; rfl⟩
    · exact ⟨t, by rw [hsome]; rfl⟩
  have hinline := run_ifGoto ht right target
  have hblock := run_chain_goto (Expr.holdsText_equation hleft hright ht) target
  exact ⟨t, ht, hinline, hblock.trans hinline.symm⟩

/-- A scene with a reply that was kept, in which a variable holds a numeral. -/
def numeralScene : Scene :=
  ⟨⟨"s".toList, [("s".toList, 1)], [("n".toList, .text "10".toList)], none⟩, ["Hi".toList], [],
    ⟨[], ⟨[], .failed []⟩⟩⟩

/-- The text is another numeral of the same number. -/
theorem run_ifGoto_eq_chain_numeral :
    run (.ifGoto "n".toList " 1_0.0".toList "end".toList) numeralScene =
        ⟨.jump "end".toList, numeralScene, []⟩ ∧
      run (.chain [("n == \" 1_0.0\"".toList, [.goto "end".toList])] none) numeralScene =
        ⟨.jump "end".toList, numeralScene, []⟩ := by
  have hleft : Text.NamesVariable "n".toList :=
    ⟨List.forall_mem_singleton.2 (by decide), rfl, rfl, by decide, by decide, by decide⟩
  have hprintable : ∀ c ∈ " 1_0.0".toList, Text.isPrintable c = true :=
    List.all_eq_true.1 rfl
  have hsame : Text.sameAs "10".toList " 1_0.0".toList = true := by decide +kernel
  obtain ⟨t, ht, hinline, hblock⟩ := run_ifGoto_eq_chain hleft hprintable (by decide) (by decide)
    (.inr ⟨"10".toList, rfl⟩ : _ ∨ ∃ t, Assoc.get? "n".toList numeralScene.ctx = some (.text t))
    "end".toList
  obtain rfl : t = "10".toList := Value.text.inj (ht.symm.trans rfl)
  rw [hsame] at hinline
  exact ⟨hinline, hblock.trans hinline⟩

end Action
end Dialogue
