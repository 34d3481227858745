import Dialogue.Proofs.Run.Assignment
import Dialogue.Proofs.Template.Segments
set_option autoImplicit false

/-!
# Quotes inside a reply

A reply stands between quotes, and a default in one of its tags stands between quotes too.  The
inner quotes can be written bare.  If they are written with backslashes, these stay in the reply,
and the default is no filter any more.  Main statement: `Reply.escaped_default_iff`.
-/

namespace Dialogue

namespace FilterCall

/-! ## Texts that are no filters -/

/-- A backslash or a quote. -/
def isMark (c : Char) : Bool := c == '\\' || c == '"'

theorem find?_dropWhile {test : Char → Bool} (h : ∀ c, test c = true → isMark c = false)
    (t : Text) : (t.dropWhile test).find? isMark = t.find? isMark := by
  induction t with
  | nil => rfl
  | cons c t ih =>
    cases hc : test c with
    | true => rw [List.dropWhile_cons_of_pos hc, ih, List.find?_cons, h c hc]
    | false => rw [List.dropWhile_cons_of_neg (by simp [hc])]

theorem isMark_of_isBlank {c : Char} (h : Text.isBlank c = true) : isMark c = false := by
  refine Bool.eq_false_iff.2 fun hmark => ?_
  rcases Bool.or_eq_true_iff.1 hmark with hc | hc <;> cases beq_iff_eq.1 hc <;> cases h

theorem isMark_of_isWordChar {c : Char} (h : Text.isWordChar c = true) : isMark c = false := by
  refine Bool.eq_false_iff.2 fun hmark => ?_
  rcases Bool.or_eq_true_iff.1 hmark with hc | hc <;> cases beq_iff_eq.1 hc <;> cases h

/-- Blanks at the ends do not change which mark comes first. -/
theorem find?_strip (t : Text) : (Text.strip t).find? isMark = t.find? isMark := by
  have hend (u : Text) : (Text.stripEnd u).find? isMark = u.find? isMark := by
    have hsplit := congrArg List.reverse
      (List.takeWhile_append_dropWhile (p := Text.isBlank) (l := u.reverse))
    rw [List.reverse_append, List.reverse_reverse] at hsplit
    have hblank : (u.reverse.takeWhile Text.isBlank).reverse.find? isMark = none := by
      refine List.find?_eq_none.2 fun c hc => ?_
      have htest := List.mem_takeWhile_imp (List.mem_reverse.1 hc)
      simp [isMark_of_isBlank htest]
    calc (Text.stripEnd u).find? isMark
        = ((Text.stripEnd u).find? isMark).or none := (Option.or_none).symm
      _ = (Text.stripEnd u ++ (u.reverse.takeWhile Text.isBlank).reverse).find? isMark := by
        rw [List.find?_append, hblank]
      _ = u.find? isMark := congrArg _ hsplit
  rw [Text.strip, hend, Text.stripStart, find?_dropWhile fun c => isMark_of_isBlank]

theorem head?_of_argument? {t a : Text} (h : argument? t = some a) : t.find? isMark = some '"' := by
  unfold argument? at h
  split at h
  · rfl
  · cases h

/-- A filter has no argument, and then neither backslashes nor quotes, or the first of these is a
quote. -/
theorem find?_of_parse? {t : Text} {f : FilterCall} (h : parse? t = some f) :
    (f.arg = none ∧ t.find? isMark = none) ∨ t.find? isMark = some '"' := by
  cases t with
  | nil => cases h
  | cons c r =>
    rw [parse?] at h
    split at h
    · next hc =>
      have hmark : isMark c = false := by
        refine Bool.eq_false_iff.2 fun hmark => ?_
        rcases Bool.or_eq_true_iff.1 hmark with hd | hd <;> cases beq_iff_eq.1 hd <;> cases hc
      -- neither the name nor the blanks after it hold a mark
      have hfind : (c :: r).find? isMark =
          (Text.strip (r.dropWhile Text.isWordChar)).find? isMark := by
        rw [find?_strip, find?_dropWhile fun d => isMark_of_isWordChar, List.find?_cons, hmark]
      rw [hfind]
      dsimp only at h
      split at h
      · next hrest =>
        rw [hrest, ← Option.some.inj h]
        exact .inl ⟨rfl, rfl⟩
      · next a hrest =>
        obtain ⟨x, hx, -⟩ := Option.map_eq_some_iff.1 h
        have hfirst := head?_of_argument? hx
        rw [Text.stripStart, find?_dropWhile fun d => isMark_of_isBlank] at hfirst
        rw [hrest]
        exact .inr hfirst
      · cases h
    · cases h

/-- The filter that a part between bars writes. -/
def ofPart? (part : Text) : Option FilterCall := parse? (Text.strip part)

/-- A part whose first mark is a backslash is no filter. -/
theorem ofPart?_eq_none {t : Text} (h : t.find? isMark = some '\\') : ofPart? t = none := by
  refine Option.eq_none_iff_forall_ne_some.2 fun f hf => ?_
  rcases find?_of_parse? hf with ⟨-, hnone⟩ | hquote
  · rw [find?_strip, h] at hnone
    cases hnone
  · rw [find?_strip, h] at hquote
    cases hquote

theorem arg_of_ofPart? {t : Text} {f : FilterCall} (hquote : '"' ∉ t) (h : ofPart? t = some f) :
    f.arg = none := by
  rcases find?_of_parse? h with ⟨harg, -⟩ | hfirst
  · exact harg
  · rw [find?_strip] at hfirst
    exact absurd (List.mem_of_find?_eq_some hfirst) hquote

/-! ## Filters on texts -/

/-- A filter works on the text of a value. -/
theorem apply_eq (f : FilterCall) (v : Value) :
    f.apply v = Scene.kept v >>= fun t => f.apply (.text t) := by
  cases v with
  | none => rfl
  | text t => rfl
  | _ =>
    simp only [apply, Scene.kept, bind, Except.bind]
    split <;> rfl

/-- Without an argument, no filter makes something of nothing. -/
theorem apply_nil {f : FilterCall} (h : f.arg = none) : f.apply (.text []) = .ok [] := by
  have hshown : Value.shown (.text []) = .ok [] := rfl
  simp only [apply, h, hshown, bind, Except.bind]
  repeat' split
  all_goals rfl

end FilterCall

namespace Pipeline

/-- The text that comes out of filters. -/
def through (filters : List FilterCall) (t : Text) : Except EvalFault Text :=
  filtered filters (.text t) >>= Scene.kept

theorem through_cons (f : FilterCall) (fs : List FilterCall) (t : Text) :
    through (f :: fs) t = f.apply (.text t) >>= through fs := by
  rw [through, filtered]
  cases f.apply (.text t) <;> rfl

/-- A pipeline takes the text of its variable through its filters. -/
theorem eval_eq (ctx : Context) (p : Pipeline) :
    p.eval ctx =
      Scene.kept ((Assoc.get? p.source ctx).getD (.text [])) >>= through p.filters := by
  rw [Template.eval_eq_kept]
  generalize (Assoc.get? p.source ctx).getD (.text []) = v
  cases p.filters with
  | nil =>
    show Scene.kept v = _
    cases Scene.kept v <;> rfl
  | cons f fs =>
    rw [filtered, FilterCall.apply_eq]
    cases Scene.kept v with
    | error fault => rfl
    | ok t => rfl

theorem through_nil {filters : List FilterCall} (h : ∀ f ∈ filters, f.arg = none) :
    through filters [] = .ok [] := by
  induction filters with
  | nil => rfl
  | cons f fs ih =>
    obtain ⟨hf, hfs⟩ := List.forall_mem_cons.1 h
    rw [through_cons, FilterCall.apply_nil hf]
    exact ih hfs

/-! ## A default between escaped quotes -/

/-- The filters that a text has between its bars. -/
def between (a : Text) : List FilterCall :=
  (a.splitOn '|').tail.dropLast.filterMap FilterCall.ofPart?

theorem between_of_notMem {a : Text} (h : '|' ∉ a) : between a = [] := by
  rw [between, List.splitOn_eq_singleton h]
  rfl

theorem splitOn_cons_of_ne {c : Char} (h : c ≠ '|') (a : Text) :
    List.splitOn '|' (c :: a) = (a.splitOn '|').modifyHead (c :: ·) := by
  rw [List.splitOn, List.splitOnP_cons_eq_if_modifyHead, if_neg (by simpa using h)]
  rfl

theorem splitOn_bar (a : Text) : List.splitOn '|' ('|' :: a) = [] :: a.splitOn '|' := by
  rw [List.splitOn, List.splitOnP_cons_eq_if_modifyHead, if_pos (beq_self_eq_true '|')]
  rfl

theorem subset_of_mem_splitOn {a part : Text} (h : part ∈ a.splitOn '|') : part ⊆ a := by
  induction a generalizing part with
  | nil =>
    rw [List.splitOn_nil, List.mem_singleton] at h
    rw [h]
    exact List.nil_subset _
  | cons c a ih =>
    by_cases hbar : c = '|'
    · subst hbar
      rw [splitOn_bar] at h
      rcases List.mem_cons.1 h with rfl | hlater
      · exact List.nil_subset _
      · exact List.subset_cons_of_subset _ (ih hlater)
    · obtain ⟨first, rest, hsplit⟩ := List.exists_cons_of_ne_nil (List.splitOnP_ne_nil (· == '|') a)
      have hparts : a.splitOn '|' = first :: rest := hsplit
      rw [splitOn_cons_of_ne hbar, hparts, List.modifyHead_cons] at h
      rw [hparts] at ih
      rcases List.mem_cons.1 h with rfl | hlater
      · exact List.cons_subset_cons c (ih List.mem_cons_self)
      · exact List.subset_cons_of_subset _ (ih (List.mem_cons_of_mem _ hlater))

/-- A text without backslashes and quotes is cut at all its bars, and what comes after it goes to
the last part. -/
theorem exists_cutAtBars_append {a : Text} (hquote : '"' ∉ a) (hslash : '\\' ∉ a) {s : Text}
    (hs : cutAtBars false false s = [s]) :
    ∃ front last, a.splitOn '|' = front ++ [last] ∧
      cutAtBars false false (a ++ s) = front ++ [last ++ s] := by
  induction a with
  | nil => exact ⟨[], [], rfl, hs⟩
  | cons c a ih =>
    obtain ⟨front, last, hsplit, hcut⟩ :=
      ih (List.not_mem_of_not_mem_cons hquote) (List.not_mem_of_not_mem_cons hslash)
    by_cases hbar : c = '|'
    · subst hbar
      exact ⟨[] :: front, last, (splitOn_bar a).trans (congrArg ([] :: ·) hsplit),
        congrArg ([] :: ·) hcut⟩
    · have hnext : next? (false, false) c = some (false, false) := by
        have hc : c ≠ '"' := (List.ne_of_not_mem_cons hquote).symm
        have hd : c ≠ '\\' := (List.ne_of_not_mem_cons hslash).symm
        simp [next?, hbar, hc, hd]
      have hhead := cutAtBars_cons hnext (a ++ s)
      dsimp only at hhead
      rw [List.cons_append, hhead, hcut, splitOn_cons_of_ne hbar, hsplit]
      cases front with
      | nil => exact ⟨[], c :: last, rfl, rfl⟩
      | cons part front => exact ⟨(c :: part) :: front, last, rfl, rfl⟩

/-- A pipeline is read from its parts, if the last one is not empty. -/
theorem parse_of_cutAtBars {t source : Text} {parts : List Text}
    (hcut : cutAtBars false false t = source :: parts)
    (hlast : (source :: parts).getLast? ≠ some []) :
    parse t = ⟨Text.strip source, parts.filterMap FilterCall.ofPart?⟩ := by
  have hend : dropEmptyEnd (source :: parts) = source :: parts := if_neg hlast
  rw [parse, hcut, hend]
  show Pipeline.mk _ ((parts.map Text.strip).filterMap FilterCall.parse?) = _
  rw [List.filterMap_map]
  rfl

/-- A default between escaped quotes is no filter, but what stands between its bars may be one. -/
theorem parse_escaped {v a : Text} (hstrip : Text.strip v = v)
    (hplain : ∀ c ∈ v, isPlain c = true) (hquote : '"' ∉ a) (hslash : '\\' ∉ a) :
    parse (v ++ " | default:".toList ++ ['\\', '"'] ++ a ++ ['\\', '"']) = ⟨v, between a⟩ := by
  have hspace : Closed [' '] := rfl
  have hdefault : Closed " default:\\\"".toList := rfl
  have htext : v ++ " | default:".toList ++ ['\\', '"'] ++ a ++ ['\\', '"'] =
      (v ++ [' ']) ++ '|' :: (" default:\\\"".toList ++ (a ++ ['\\', '"'])) := by
    simp
  obtain ⟨front, last, hsplit, hcut⟩ :=
    exists_cutAtBars_append hquote hslash (s := ['\\', '"']) rfl
  have hwhole := ((closed_of_isPlain hplain).append hspace).cutAtBars_bar
    (" default:\\\"".toList ++ (a ++ ['\\', '"']))
  have hhead := cutAtBars_append hdefault (a ++ ['\\', '"'])
  dsimp only at hhead
  rw [hhead, hcut] at hwhole
  have hvar : Text.strip (v ++ [' ']) = v := by
    rw [Text.strip_concat_of_blank (by decide), hstrip]
  -- the first mark of the first part and of the last part is a backslash
  have hfirst (part : Text) : FilterCall.ofPart? (" default:\\\"".toList ++ part) = none :=
    FilterCall.ofPart?_eq_none rfl
  have hfinal : FilterCall.ofPart? (last ++ ['\\', '"']) = none := by
    refine FilterCall.ofPart?_eq_none ?_
    have hnone : last.find? FilterCall.isMark = none := by
      refine List.find?_eq_none.2 fun c hc hmark => ?_
      have hlast : last ∈ a.splitOn '|' := by simp [hsplit]
      have hmem : c ∈ a := subset_of_mem_splitOn hlast hc
      rcases Bool.or_eq_true_iff.1 hmark with hd | hd
      · exact hslash (beq_iff_eq.1 hd ▸ hmem)
      · exact hquote (beq_iff_eq.1 hd ▸ hmem)
    rw [List.find?_append, hnone]
    rfl
  rw [htext, between, hsplit]
  cases front with
  | nil =>
    rw [parse_of_cutAtBars hwhole (by simp), hvar, List.nil_append, List.modifyHead_cons,
      List.filterMap_cons_none (hfirst _)]
    rfl
  | cons part mids =>
    have hlast : ((v ++ [' ']) :: (" default:\\\"".toList ++ part) :: mids ++
        [last ++ ['\\', '"']]).getLast? ≠ some [] := by
      rw [List.getLast?_concat]
      simp
    rw [parse_of_cutAtBars hwhole hlast, hvar, List.cons_append, List.modifyHead_cons,
      List.filterMap_cons_none (hfirst _), List.filterMap_append, List.filterMap_cons_none hfinal,
      List.filterMap_nil, List.append_nil, List.cons_append, List.tail_cons, List.dropLast_concat]

end Pipeline

/-! ## Replies -/

/-- Keeps a line until it is emitted, unless its evaluation failed. -/
def Scene.replyWith (s : Scene) (line : Except EvalFault Text) : Report :=
  s.evaluated line fun t => (s.reply t).proceed

/-- The reply determines what was evaluated. -/
theorem Scene.replyWith_inj {s : Scene} {x y : Except EvalFault Text} :
    s.replyWith x = s.replyWith y ↔ x = y := by
  refine ⟨fun h => ?_, fun h => h ▸ rfl⟩
  cases x with
  | error f =>
    cases y with
    | error g =>
      have houtcome := congrArg Report.outcome h
      obtain rfl : f = g := by injection houtcome with hfault; injection hfault
      rfl
    | ok u => cases congrArg Report.outcome h
  | ok t =>
    cases y with
    | error g => cases congrArg Report.outcome h
    | ok u =>
      have hbuffer : s.buffer ++ [t] = s.buffer ++ [u] :=
        congrArg (fun r => r.scene.buffer) h
      rw [List.singleton_inj.1 (List.append_cancel_left hbuffer)]

namespace Reply

/-- A variable as a tag can name it: solid, on one line, and without bars, quotes, backslashes and
closing braces. -/
structure Names (v : Text) : Prop where
  solid : v.isSolid = true
  oneLine : v.isOneLine = true
  plain : ∀ c ∈ v, Pipeline.isPlain c = true
  noBrace : '\x7d' ∉ v

/-- Identifiers can be named. -/
theorem names_of_isIdentifier {v : Text} (h : Text.isIdentifier v = true) : Names v := by
  have hname : v.isName = true := Text.isName_of_isIdentifier h
  have hnot {c : Char} (hc : Text.isIdentifierPart c = false) : c ∉ v :=
    Text.notMem_of_isIdentifier h hc
  refine ⟨Text.isSolid_of_isName hname, Text.isOneLine_of_isName hname, ?_, hnot (by decide)⟩
  intro c hc
  refine Pipeline.isPlain_iff.2 ⟨?_, ?_, ?_⟩
  · rintro rfl
    exact hnot (by decide) hc
  · rintro rfl
    exact hnot (by decide) hc
  · rintro rfl
    exact hnot (by decide) hc

/-- A text as a default can hold it: on one line, and without quotes, backslashes and closing
braces. -/
structure Defaults (a : Text) : Prop where
  oneLine : a.isOneLine = true
  noQuote : '"' ∉ a
  noSlash : '\\' ∉ a
  noBrace : '\x7d' ∉ a

/-- A pipeline with a default between inner quotes of some spelling. -/
def pipeline (quote v a : Text) : Text := v ++ " | default:".toList ++ quote ++ a ++ quote

/-- The line whose reply is a tag with a default. -/
def line (quote v a : Text) : Text :=
  "reply \"\x7b\x7b ".toList ++ pipeline quote v a ++ " \x7d\x7d\"".toList

theorem line_eq (quote v a : Text) :
    line quote v a =
      "reply ".toList ++ Action.inQuotes (Segment.written (pipeline quote v a)) := by
  unfold line
  generalize pipeline quote v a = body
  simp [Action.inQuotes, Segment.written, Segment.opening, Segment.closing]

/-- A script whose only statement is the line. -/
def scriptText (quote v a : Text) : Text := Assignment.heading ++ (line quote v a ++ ['\n'])

/-- Inner quotes as they are. -/
def bare : Text := ['"']

/-- Inner quotes after backslashes. -/
def escaped : Text := ['\\', '"']

/-- The action that the line is read as. -/
def action (quote v a : Text) : Action := .reply (Segment.written (pipeline quote v a))

section line

variable {quote v a : Text} (hquote : quote = bare ∨ quote = escaped) (hv : Names v)
  (ha : Defaults a)
include hquote hv ha

theorem isOneLine_pipeline : (pipeline quote v a).isOneLine = true := by
  have hquotes : quote.isOneLine = true := by
    rcases hquote with rfl | rfl <;> decide
  have hfilter : Text.isOneLine " | default:".toList = true := by decide
  simp only [pipeline, Text.isOneLine_append, hv.oneLine, hfilter, hquotes, ha.oneLine]
  rfl

/-- The pipeline can be the body of a tag. -/
theorem exists_body : ∃ b : Template.Body, b.text = pipeline quote v a := by
  obtain ⟨slash, hslash, hend⟩ : ∃ slash : Text, '\x7d' ∉ slash ∧ quote = slash ++ ['"'] := by
    rcases hquote with rfl | rfl
    · exact ⟨[], by decide, rfl⟩
    · exact ⟨['\\'], by decide, rfl⟩
  have hsolid := Text.isSolid_append hv.solid (t := ['"']) (by decide)
    (" | default:".toList ++ quote ++ a ++ slash)
  have htext : v ++ (" | default:".toList ++ quote ++ a ++ slash) ++ ['"'] =
      pipeline quote v a := by
    simp [pipeline, hend]
  rw [htext] at hsolid
  have hbrace : '\x7d' ∉ pipeline quote v a := by
    simp [pipeline, hend, hv.noBrace, ha.noBrace, hslash]
  have hline : '\n' ∉ pipeline quote v a := by
    intro hmem
    cases Text.isOneLine_iff.1 (isOneLine_pipeline hquote hv ha) _ hmem
  exact ⟨⟨_, (Text.isSolid_iff.1 hsolid).2, hline, fun h => hbrace (h.subset (by decide))⟩, rfl⟩

/-- The line is read as the action. -/
theorem parse_scriptText :
    Script.parse (scriptText quote v a) = .ok (Assignment.scriptOf (action quote v a)) := by
  refine Assignment.parse_scriptOf ?_ ?_
  · have hopening : Text.isOneLine Segment.opening = true := by decide
    have hclosing : Text.isOneLine Segment.closing = true := by decide
    have hspace : Text.isLineEnd ' ' = false := by decide
    simp only [action, Action.wellFormed, Segment.written, Text.isOneLine_append,
      Text.isOneLine_cons, isOneLine_pipeline hquote hv ha, hopening, hclosing, hspace]
    rfl
  · rw [action, Action.lines, line_eq]

/-- The line replies with what its pipeline yields. -/
theorem run_action (s : Scene) :
    (action quote v a).run s = s.replyWith ((Pipeline.parse (pipeline quote v a)).eval s.ctx) := by
  obtain ⟨b, hb⟩ := exists_body hquote hv ha
  have htag := Template.interpolate_tag s.ctx b
  rw [Template.Body.tag, Template.yielded, hb] at htag
  rw [action, Action.run, htag]
  rfl

end line

theorem parse_bare {v a : Text} (hv : Names v) (ha : Defaults a) :
    Pipeline.parse (pipeline bare v a) = ⟨v, [⟨"default".toList, some a⟩]⟩ := by
  have hprint : Pipeline.print ⟨v, [⟨"default".toList, some a⟩]⟩ = pipeline bare v a := by
    simp [Pipeline.print, FilterCall.print, Text.joinWith, pipeline, bare,
      FilterCall.escape_eq_self ha.noSlash ha.noQuote]
  rw [← hprint]
  refine Pipeline.parse_print ⟨(Text.isSolid_iff.1 hv.solid).2, hv.plain, ?_⟩
  exact List.forall_mem_singleton.2 rfl

theorem parse_escaped {v a : Text} (hv : Names v) (ha : Defaults a) :
    Pipeline.parse (pipeline escaped v a) = ⟨v, Pipeline.between a⟩ :=
  Pipeline.parse_escaped (Text.isSolid_iff.1 hv.solid).2 hv.plain ha.noQuote ha.noSlash

/-- The default takes the place of the empty text. -/
theorem through_default (a t : Text) :
    Pipeline.through [⟨"default".toList, some a⟩] t = .ok (if t = [] then a else t) := by
  cases t <;> rfl

theorem run_bare {v a : Text} (hv : Names v) (ha : Defaults a) (s : Scene) :
    (action bare v a).run s =
      s.replyWith ((Scene.kept (s.value v)).map fun t => if t = [] then a else t) := by
  rw [run_action (.inl rfl) hv ha, parse_bare hv ha, Pipeline.eval_eq]
  show s.replyWith (Scene.kept (s.value v) >>= _) = _
  cases Scene.kept (s.value v) with
  | error f => rfl
  | ok t => exact congrArg s.replyWith (through_default a t)

theorem run_escaped {v a : Text} (hv : Names v) (ha : Defaults a) (s : Scene) :
    (action escaped v a).run s =
      s.replyWith (Scene.kept (s.value v) >>= Pipeline.through (Pipeline.between a)) := by
  rw [run_action (.inr rfl) hv ha, parse_escaped hv ha, Pipeline.eval_eq]
  rfl

/-- No filter between the bars of a default has an argument. -/
theorem arg_of_mem_between {a : Text} (ha : Defaults a) :
    ∀ f ∈ Pipeline.between a, f.arg = none := by
  intro f hf
  obtain ⟨part, hpart, hparse⟩ := List.mem_filterMap.1 hf
  have hmem : part ∈ a.splitOn '|' := List.mem_of_mem_tail (List.mem_of_mem_dropLast hpart)
  have hquote : '"' ∉ part := fun h => ha.noQuote (Pipeline.subset_of_mem_splitOn hmem h)
  exact FilterCall.arg_of_ofPart? hquote hparse

/-- A reply with a default between bare quotes is the text of the variable, or the default if
that is empty.  Between escaped quotes the default is never shown: the text of the variable goes
through the filters that happen to stand between bars of the default.  So the spellings agree
exactly if the text is not empty and those filters leave it as it is, or if the default is empty
too; and if the default has no bars, exactly if it is not needed or empty. -/
theorem escaped_default_iff {v a : Text} (hv : Names v) (ha : Defaults a) (s : Scene) :
    ∃ plain slashed : Action,
      Script.parse (scriptText bare v a) = .ok (Assignment.scriptOf plain) ∧
      Script.parse (scriptText escaped v a) = .ok (Assignment.scriptOf slashed) ∧
      plain.run s = s.replyWith ((Scene.kept (s.value v)).map fun t => if t = [] then a else t) ∧
      slashed.run s =
        s.replyWith (Scene.kept (s.value v) >>= Pipeline.through (Pipeline.between a)) ∧
      (slashed.run s = plain.run s ↔ ∀ t, Scene.kept (s.value v) = .ok t →
        if t = [] then a = [] else Pipeline.through (Pipeline.between a) t = .ok t) ∧
      ('|' ∉ a →
        (slashed.run s = plain.run s ↔ (Scene.kept (s.value v) = .ok [] → a = []))) := by
  have hagree : (action escaped v a).run s = (action bare v a).run s ↔
      ∀ t, Scene.kept (s.value v) = .ok t →
        if t = [] then a = [] else Pipeline.through (Pipeline.between a) t = .ok t := by
    rw [run_bare hv ha, run_escaped hv ha, Scene.replyWith_inj]
    cases Scene.kept (s.value v) with
    | error f => exact iff_of_true rfl fun t ht => by cases ht
    | ok t =>
      have hok : (∀ u, Except.ok (ε := EvalFault) t = .ok u →
          if u = [] then a = [] else Pipeline.through (Pipeline.between a) u = .ok u) ↔
          if t = [] then a = [] else Pipeline.through (Pipeline.between a) t = .ok t :=
        ⟨fun h => h t rfl, fun h u hu => Except.ok.inj hu ▸ h⟩
      rw [hok]
      show Pipeline.through (Pipeline.between a) t = .ok (if t = [] then a else t) ↔ _
      by_cases ht : t = []
      · subst ht
        rw [if_pos rfl, if_pos rfl, Pipeline.through_nil (arg_of_mem_between ha), Except.ok.injEq]
        exact eq_comm
      · rw [if_neg ht, if_neg ht]
  refine ⟨_, _, parse_scriptText (.inl rfl) hv ha, parse_scriptText (.inr rfl) hv ha,
    run_bare hv ha s, run_escaped hv ha s, hagree, fun hbar => ?_⟩
  rw [hagree, Pipeline.between_of_notMem hbar]
  refine ⟨fun h hempty => ?_, fun h t ht => ?_⟩
  · have hnil := h [] hempty
    rwa [if_pos rfl] at hnil
  · split
    · next hnil => exact h (hnil ▸ ht)
    · rfl

/-- A beginning where a name is known. -/
def knownName : Scene := Assignment.empty.assign "name".toList (.text "Ann".toList)

theorem escaped_default_iff_known :
    ∃ plain slashed : Action,
      Script.parse (scriptText bare "name".toList "my guest".toList) =
        .ok (Assignment.scriptOf plain) ∧
      Script.parse (scriptText escaped "name".toList "my guest".toList) =
        .ok (Assignment.scriptOf slashed) ∧
      plain.run knownName = (knownName.reply "Ann".toList).proceed ∧
      slashed.run knownName = (knownName.reply "Ann".toList).proceed := by
  have hname : Names "name".toList := names_of_isIdentifier rfl
  have hguest : Defaults "my guest".toList := ⟨by decide, by decide, by decide, by decide⟩
  obtain ⟨plain, slashed, hplain, hslashed, hrun, -, -, hiff⟩ :=
    escaped_default_iff hname hguest knownName
  have hsame := (hiff (by decide)).2 fun h => by cases h
  exact ⟨plain, slashed, hplain, hslashed, hrun, hsame.trans hrun⟩

/-- Where no name is known, the guest is greeted only if the quotes are bare. -/
theorem escaped_default_unknown :
    ∃ plain slashed : Action,
      Script.parse (scriptText bare "name".toList "guest".toList) =
        .ok (Assignment.scriptOf plain) ∧
      Script.parse (scriptText escaped "name".toList "guest".toList) =
        .ok (Assignment.scriptOf slashed) ∧
      plain.run Assignment.empty = (Assignment.empty.reply "guest".toList).proceed ∧
      slashed.run Assignment.empty = (Assignment.empty.reply []).proceed := by
  have hname : Names "name".toList := names_of_isIdentifier rfl
  have hguest : Defaults "guest".toList := ⟨by decide, by decide, by decide, by decide⟩
  exact ⟨_, _, parse_scriptText (.inl rfl) hname hguest, parse_scriptText (.inr rfl) hname hguest,
    run_bare hname hguest _, run_escaped hname hguest _⟩

end Reply
end Dialogue
