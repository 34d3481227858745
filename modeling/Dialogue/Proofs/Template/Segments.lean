import Dialogue.Proofs.Expr.Atom
import Dialogue.Proofs.Template.RoundTrip
import Dialogue.Run.Action
import Mathlib.Data.List.Infix
set_option autoImplicit false

/-!
# Segment-wise interpolation

A template is written as literals with tags between them.  However the literals and the bodies of
the tags use braces, every tag is found where it was written, it is filled in on its own, and what
is filled in is not looked at again.  Main statement: `Template.interpolate_segments`.
-/

namespace Dialogue

/-! ## Tags and literals -/

/-- An identifier has no blanks. -/
theorem Text.isName_of_isIdentifier {name : Text} (h : isIdentifier name = true) :
    name.isName = true := by
  refine isName_iff.2 ⟨?_, fun c hc => ?_⟩
  · rintro rfl
    cases h
  · exact isBlank_of_isIdentifierPart (isIdentifierPart_of_isIdentifier h c hc)

namespace Segment

/-- A tag as it is written: its body with a blank at each side, between doubled braces. -/
def written (body : Text) : Text := opening ++ ' ' :: body ++ ' ' :: closing

end Segment

namespace Template

/-- What may stand between tags: no tag opens in it, and its end does not open one with what
follows. -/
structure Literal where
  text : Text
  noOpening : ¬Segment.opening <:+: text
  noBrace : text.getLast? ≠ some '\x7b'

/-- What may stand in a tag: no closing braces, and one line without blanks at its ends. -/
structure Body where
  text : Text
  stripped : Text.strip text = text
  oneLine : '\n' ∉ text
  noClosing : ¬Segment.closing <:+: text

/-- The tag with the body. -/
def Body.tag (b : Body) : Text := Segment.written b.text

end Template

/-- A text with tags: a literal, and tags that are each followed by a literal. -/
structure Template where
  start : Template.Literal
  rest : List (Template.Body × Template.Literal)

namespace Segment

/-- No end of a body, with the end of the tag after it, begins with closing braces. -/
theorem startsWith_closing_append {s : Text} (hne : s ≠ []) (h : ¬closing <:+: s) (t : Text) :
    Text.startsWith closing (s ++ ' ' :: t) = false := by
  refine Bool.eq_false_iff.2 fun hstarts => ?_
  obtain ⟨rest, hrest⟩ := Text.startsWith_iff.1 hstarts
  cases s with
  | nil => exact hne rfl
  | cons c s =>
    cases s with
    | nil =>
      have hsecond := (List.cons.inj (List.cons.inj hrest).2).1
      cases hsecond
    | cons d s =>
      obtain ⟨rfl, htail⟩ := List.cons.inj hrest
      obtain ⟨rfl, -⟩ := List.cons.inj htail
      exact h (List.prefix_append closing s).isInfix

/-- The rest of a body is read up to the blank before the closing braces. -/
theorem inner?_append {body : Text} (hlast : ∀ c ∈ body.getLast?, Text.isBlank c = false)
    (hline : '\n' ∉ body) (hclosing : ¬closing <:+: body) (t : Text) :
    inner? (body ++ ' ' :: (closing ++ t)) = some (body, body.length + 3) := by
  induction body with
  | nil => rfl
  | cons c body ih =>
    have hc : c ≠ '\n' := (List.ne_of_not_mem_cons hline).symm
    have hlater : ∀ d ∈ body.getLast?, Text.isBlank d = false := by
      intro d hd
      refine hlast d ?_
      rw [Option.mem_def, List.getLast?_cons, Option.mem_def.1 hd]
      rfl
    have hrest := ih hlater (List.not_mem_of_not_mem_cons hline)
      fun hpart => hclosing (List.infix_cons hpart)
    -- the last character of the body is not blank, so that stripping leaves something of it
    have hstart : Text.stripStart (c :: body) ≠ [] := by
      intro hnil
      have hblank := List.dropWhile_eq_nil_iff.1 hnil _ (List.getLast_mem (List.cons_ne_nil c body))
      rw [hlast _ (List.getLast?_eq_some_getLast _)] at hblank
      cases hblank
    have hstrip : Text.stripStart (c :: body ++ ' ' :: (closing ++ t)) =
        Text.stripStart (c :: body) ++ ' ' :: (closing ++ t) :=
      List.dropWhile_append.trans (if_neg (mt List.isEmpty_iff.1 hstart))
    have hsuffix : Text.stripStart (c :: body) <:+: c :: body :=
      (List.dropWhile_suffix _).isInfix
    have hstarts := startsWith_closing_append hstart (fun h => hclosing (h.trans hsuffix))
      (closing ++ t)
    rw [← hstrip] at hstarts
    rw [List.cons_append, inner?, ← List.cons_append, hstarts, if_neg Bool.false_ne_true, if_neg hc,
      hrest]
    rfl

theorem written_append (body t : Text) :
    written body ++ t = opening ++ ' ' :: (body ++ ' ' :: (closing ++ t)) := by
  simp [written]

/-- A tag is found where it begins, with its body. -/
theorem tag?_written (b : Template.Body) (t : Text) :
    tag? (b.tag ++ t) = some (b.text, b.tag.length) := by
  obtain ⟨body, hstrip, hline, hclosing⟩ := b
  show tag? (written body ++ t) = some (body, (written body).length)
  have hlength : (written body).length = 1 + (body.length + 3) + 2 := by
    simp [written, opening, closing]
    omega
  rw [written_append, hlength, tag?, Text.after?_append]
  cases body with
  | nil => rfl
  | cons c body =>
    have hsolid := Text.isSolid_iff.2 ⟨List.cons_ne_nil c body, hstrip⟩
    obtain ⟨front, d, hend, hd⟩ := Text.exists_concat_of_isSolid hsolid
    obtain ⟨c', body', hcons, hc⟩ := Text.exists_cons_of_isSolid hsolid
    obtain ⟨rfl, -⟩ := List.cons.inj hcons
    have hlast : ∀ e ∈ (c :: body).getLast?, Text.isBlank e = false := by
      intro e he
      rw [hend, List.getLast?_concat] at he
      rwa [← Option.some.inj he]
    have hspace : Text.isBlank ' ' = true := by decide
    have hstart : Text.stripStart (' ' :: (c :: body ++ ' ' :: (closing ++ t))) =
        c :: body ++ ' ' :: (closing ++ t) := by
      rw [Text.stripStart_cons_of_blank hspace, List.cons_append,
        Text.stripStart_cons_of_not_blank hc]
    have hblanks : blanks (' ' :: (c :: body ++ ' ' :: (closing ++ t))) = 1 := by
      rw [blanks, List.takeWhile_cons_of_pos hspace, List.cons_append,
        List.takeWhile_cons_of_neg (by simp [hc])]
      rfl
    dsimp only
    rw [hstart, hblanks, inner?_append hlast hline hclosing]
    rfl

/-- The characters of a tag are skipped. -/
theorem cut_skip (s t : Text) : cut s.length (s ++ t) = cut 0 t := by
  induction s with
  | nil => rfl
  | cons c s ih => exact ih

theorem cut_tag (b : Template.Body) (t : Text) : cut 0 (b.tag ++ t) = .tag b.text :: cut 0 t := by
  have htag := tag?_written b t
  obtain ⟨c, s, hcons⟩ : ∃ c s, b.tag = c :: s := ⟨_, _, rfl⟩
  rw [hcons, List.cons_append] at htag ⊢
  rw [cut, htag]
  exact congrArg _ (cut_skip s t)

/-- Nothing of a literal belongs to a tag. -/
theorem cut_literal (l : Template.Literal) (t : Text) :
    cut 0 (l.text ++ t) = l.text.map .char ++ cut 0 t := by
  obtain ⟨text, hopening, hbrace⟩ := l
  dsimp only
  induction text with
  | nil => rfl
  | cons c s ih =>
    have hnone : Text.after? opening (c :: (s ++ t)) = none := by
      refine Option.eq_none_iff_forall_ne_some.2 fun rest hrest => ?_
      obtain ⟨rfl, htail⟩ := List.cons.inj (Text.eq_append_of_after? hrest)
      cases s with
      | nil => exact hbrace rfl
      | cons d s =>
        obtain ⟨rfl, -⟩ := List.cons.inj htail
        exact hopening (List.prefix_append opening s).isInfix
    have hlater : s.getLast? ≠ some '\x7b' := by
      intro hlast
      refine hbrace ?_
      rw [List.getLast?_cons, hlast]
      rfl
    have htag : tag? (c :: (s ++ t)) = none := by
      rw [tag?, hnone]
    rw [List.cons_append, cut, htag]
    exact congrArg _ (ih (fun hpart => hopening (List.infix_cons hpart)) hlater)

/-! ## Rendering -/

theorem renderAll_append (ctx : Context) (xs ys : List Segment) :
    renderAll ctx (xs ++ ys) =
      renderAll ctx xs >>= fun s => (renderAll ctx ys).map (s ++ ·) := by
  induction xs with
  | nil =>
    show renderAll ctx ys = (renderAll ctx ys).map ([] ++ ·)
    cases renderAll ctx ys <;> rfl
  | cons x xs ih =>
    rw [List.cons_append, renderAll, ih, renderAll]
    cases x.render ctx with
    | error f => rfl
    | ok s =>
      cases renderAll ctx xs with
      | error f => rfl
      | ok t =>
        cases renderAll ctx ys with
        | error f => rfl
        | ok u => exact congrArg Except.ok (List.append_assoc s t u).symm

theorem renderAll_chars (ctx : Context) (t : Text) : renderAll ctx (t.map .char) = .ok t := by
  induction t with
  | nil => rfl
  | cons c t ih =>
    rw [List.map_cons, renderAll, ih]
    rfl

end Segment

namespace Template

/-! ## Templates -/

/-- The text of tags that are each followed by a literal. -/
def textOf : List (Body × Literal) → Text
  | [] => []
  | (b, l) :: rest => b.tag ++ l.text ++ textOf rest

/-- The text of a template. -/
def text (p : Template) : Text := p.start.text ++ textOf p.rest

/-- The text of tags and literals where each tag is replaced. -/
def fillAll (fill : Body → Except EvalFault Text) :
    List (Body × Literal) → Except EvalFault Text
  | [] => .ok []
  | (b, l) :: rest => do
    let s ← fill b
    let t ← fillAll fill rest
    return s ++ l.text ++ t

/-- The text of a template where each tag is replaced: the first literal, the first replacement, the
next literal, and so on.  It fails with the first replacement that fails. -/
def filled (fill : Body → Except EvalFault Text) (p : Template) : Except EvalFault Text :=
  (fillAll fill p.rest).map (p.start.text ++ ·)

/-- The bodies of the tags of a template. -/
def bodies (p : Template) : List Body := p.rest.map Prod.fst

/-- The text that a tag yields: that of its pipeline. -/
def yielded (ctx : Context) (b : Body) : Except EvalFault Text := (Pipeline.parse b.text).eval ctx

variable (ctx : Context)

theorem interpolate_literal_append (l : Literal) (t : Text) :
    Text.interpolate ctx (l.text ++ t) = (Text.interpolate ctx t).map (l.text ++ ·) := by
  rw [Text.interpolate, Segment.cut_literal, Segment.renderAll_append, Segment.renderAll_chars]
  rfl

theorem interpolate_tag_append (b : Body) (t : Text) :
    Text.interpolate ctx (b.tag ++ t) =
      yielded ctx b >>= fun s => (Text.interpolate ctx t).map (s ++ ·) := by
  rw [Text.interpolate, Segment.cut_tag, Segment.renderAll]
  rfl

/-- Nothing comes after the end of a text. -/
theorem bind_interpolate_nil (x : Except EvalFault Text) :
    (x >>= fun s => (Text.interpolate ctx []).map (s ++ ·)) = x := by
  cases x with
  | error f => rfl
  | ok s => exact congrArg Except.ok (List.append_nil s)

theorem interpolate_tag (b : Body) : Text.interpolate ctx b.tag = yielded ctx b := by
  have htag := interpolate_tag_append ctx b []
  rwa [List.append_nil, bind_interpolate_nil] at htag

/-- Whatever follows a template, its own tags and literals are filled in first and by themselves. -/
theorem interpolate_textOf_append (rest : List (Body × Literal)) (t : Text) :
    Text.interpolate ctx (textOf rest ++ t) =
      fillAll (yielded ctx) rest >>= fun s => (Text.interpolate ctx t).map (s ++ ·) := by
  induction rest with
  | nil =>
    show Text.interpolate ctx t = (Text.interpolate ctx t).map ([] ++ ·)
    cases Text.interpolate ctx t <;> rfl
  | cons p rest ih =>
    obtain ⟨b, l⟩ := p
    rw [textOf, List.append_assoc, List.append_assoc, interpolate_tag_append,
      interpolate_literal_append, ih, fillAll]
    cases yielded ctx b with
    | error f => rfl
    | ok s =>
      cases fillAll (yielded ctx) rest with
      | error f => rfl
      | ok u =>
        cases Text.interpolate ctx t with
        | error f => rfl
        | ok v => exact congrArg Except.ok (by simp)

theorem interpolate_text_append (p : Template) (t : Text) :
    Text.interpolate ctx (p.text ++ t) =
      p.filled (yielded ctx) >>= fun s => (Text.interpolate ctx t).map (s ++ ·) := by
  rw [text, List.append_assoc, interpolate_literal_append, interpolate_textOf_append, filled]
  cases fillAll (yielded ctx) p.rest with
  | error f => rfl
  | ok u =>
    cases Text.interpolate ctx t with
    | error f => rfl
    | ok v => exact congrArg Except.ok (List.append_assoc _ u v).symm

theorem interpolate_text (p : Template) :
    Text.interpolate ctx p.text = p.filled (yielded ctx) := by
  have htext := interpolate_text_append ctx p []
  rwa [List.append_nil, bind_interpolate_nil] at htext

/-- What a tag yields stays as it is between what stands before and after it. -/
theorem interpolate_between (p q : Template) {b : Body} {value : Text}
    (h : yielded ctx b = .ok value) :
    Text.interpolate ctx (p.text ++ b.tag ++ q.text) =
      Text.interpolate ctx p.text >>= fun s =>
        (Text.interpolate ctx q.text).map (s ++ value ++ ·) := by
  rw [List.append_assoc, interpolate_text_append, ← interpolate_text, interpolate_tag_append, h]
  cases Text.interpolate ctx p.text with
  | error f => rfl
  | ok s =>
    cases Text.interpolate ctx q.text with
    | error f => rfl
    | ok t => exact congrArg Except.ok (List.append_assoc s value t).symm

/-! ## Tags that name a variable -/

/-- An identifier as the body of a tag. -/
def Body.ofIdentifier {name : Text} (h : Text.isIdentifier name = true) : Body where
  text := name
  stripped := (Text.isSolid_iff.1 (Text.isSolid_of_isName (Text.isName_of_isIdentifier h))).2
  oneLine := Text.notMem_of_isIdentifier h (by decide)
  noClosing := by
    intro hpart
    have hbrace : '\x7d' ∉ name := Text.notMem_of_isIdentifier h (by decide)
    exact hbrace (hpart.subset (by decide))

/-- The text of a pipeline is that of the value after its filters. -/
theorem eval_eq_kept (p : Pipeline) :
    p.eval ctx =
      Pipeline.filtered p.filters ((Assoc.get? p.source ctx).getD (.text [])) >>= Scene.kept := by
  rw [Pipeline.eval]
  cases Pipeline.filtered p.filters ((Assoc.get? p.source ctx).getD (.text [])) with
  | error f => rfl
  | ok v =>
    cases v with
    | none => rfl
    | _ => simp only [bind, Except.bind, Scene.kept]

theorem eval_of_no_filters (source : Text) :
    Pipeline.eval ctx ⟨source, []⟩ = (Assoc.get? source ctx).elim (.ok []) Scene.kept := by
  rw [eval_eq_kept]
  cases Assoc.get? source ctx <;> rfl

theorem interpolate_identifier {name : Text} (h : Text.isIdentifier name = true) :
    Text.interpolate ctx (Segment.written name) =
      (Assoc.get? name ctx).elim (.ok []) Scene.kept := by
  have hbody : (Body.ofIdentifier h).text = name := rfl
  have hbar : '|' ∉ name := Text.notMem_of_isIdentifier h (by decide)
  have hparse := Pipeline.parse_of_notMem (Body.ofIdentifier h).stripped hbar
  rw [hbody] at hparse
  rw [← eval_of_no_filters, ← hparse]
  exact interpolate_tag ctx (Body.ofIdentifier h)

/-! ## Variables that a template reads -/

theorem eval_congr {ctx other : Context} {p : Pipeline}
    (h : Assoc.get? p.source other = Assoc.get? p.source ctx) : p.eval other = p.eval ctx := by
  rw [Pipeline.eval, h, Pipeline.eval]

theorem fillAll_congr {fill other : Body → Except EvalFault Text} {rest : List (Body × Literal)}
    (h : ∀ b ∈ rest.map Prod.fst, fill b = other b) : fillAll fill rest = fillAll other rest := by
  induction rest with
  | nil => rfl
  | cons p rest ih =>
    obtain ⟨b, l⟩ := p
    obtain ⟨hb, hrest⟩ := List.forall_mem_cons.1 h
    rw [fillAll, hb, ih hrest, fillAll]

/-- A template is filled in segment by segment and only once.  Each tag is replaced by what it
yields when it stands alone; a tag that is an identifier yields the text of the variable, which is
empty if the variable is not set or holds nothing; the text of a variable stays as it is wherever
the tag stands, whatever tags the text looks like; and no variable is read but those that the tags
of the template itself name. -/
theorem interpolate_segments (p : Template) :
    Text.interpolate ctx p.text = p.filled (fun b => Text.interpolate ctx b.tag) ∧
      (∀ name, Text.isIdentifier name = true →
        Text.interpolate ctx (Segment.written name) =
          (Assoc.get? name ctx).elim (.ok []) Scene.kept) ∧
      (∀ name value, Text.isIdentifier name = true → Assoc.get? name ctx = some (.text value) →
        ∀ q : Template, Text.interpolate ctx (p.text ++ Segment.written name ++ q.text) =
          Text.interpolate ctx p.text >>= fun s =>
            (Text.interpolate ctx q.text).map (s ++ value ++ ·)) ∧
      (∀ other : Context,
        (∀ b ∈ p.bodies, Assoc.get? (Pipeline.parse b.text).source other =
          Assoc.get? (Pipeline.parse b.text).source ctx) →
        Text.interpolate other p.text = Text.interpolate ctx p.text) := by
  refine ⟨?_, fun name => interpolate_identifier ctx, ?_, ?_⟩
  · rw [interpolate_text]
    exact congrArg (fun fill => p.filled fill) (funext fun b => (interpolate_tag ctx b).symm)
  · intro name value hname hvalue q
    refine interpolate_between ctx p q (b := Body.ofIdentifier hname) ?_
    rw [← interpolate_tag]
    refine (interpolate_identifier ctx hname).trans ?_
    rw [hvalue]
    rfl
  · intro other hsame
    rw [interpolate_text, interpolate_text, filled, filled]
    exact congrArg _ (fillAll_congr fun b hb => eval_congr (hsame b hb))

example :
    Text.interpolate [("a".toList, .text "\x7b\x7b b \x7d\x7d".toList), ("b".toList, .text ['!'])]
      "\x7b\x7b a \x7d\x7d\x7d \x7b \x7b\x7b b \x7d\x7d".toList =
      .ok "\x7b\x7b b \x7d\x7d\x7d \x7b !".toList := rfl

end Template
end Dialogue
