import Dialogue.Script.Block
import Dialogue.Proofs.Script.WellFormed
set_option autoImplicit false

/-!
# Round trip of statements

Every action that is no chain is written as one line.  That line is read as the action again,
whatever quotes, braces, equals signs or keywords its texts hold.  Main statement: `writes_lines`.
-/

namespace Dialogue

namespace Text

/-! ## Cutting and beginnings -/

/-- A character that does not occur in `start` cannot help a text to begin with it. -/
theorem after?_append_of_notMem {c : Char} {start : Text} (h : c ∉ start) (t rest : Text) :
    after? start (t ++ c :: rest) = (after? start t).map fun r => r ++ c :: rest := by
  induction start generalizing t with
  | nil => cases t <;> rfl
  | cons a start ih =>
    obtain ⟨hca, hstart⟩ : c ≠ a ∧ c ∉ start := by simpa using h
    cases t with
    | nil => simp [after?, Ne.symm hca]
    | cons d t =>
      by_cases had : a = d
      · simpa [after?, had] using ih hstart t
      · simp [after?, had]

/-- The cut is made at the first separator: none begins in a text without its first character. -/
theorem cutAt?_append {c : Char} {before : Text} (h : c ∉ before) (sep rest : Text) :
    cutAt? (c :: sep) (before ++ (c :: sep ++ rest)) = some (before, rest) := by
  induction before with
  | nil =>
    have hrest : after? (c :: sep) (c :: (sep ++ rest)) = some rest := after?_append (c :: sep) rest
    simp [cutAt?, hrest]
  | cons d before ih =>
    obtain ⟨hcd, hbefore⟩ : c ≠ d ∧ c ∉ before := by simpa using h
    rw [List.cons_append, cutAt?, after?, if_neg hcd, ih hbefore]
    rfl

theorem stripEnd_ne_nil {c : Char} {t : Text} (hc : c ∈ t) (hb : isBlank c = false) :
    stripEnd t ≠ [] := by
  intro h
  have hall : isBlank c = true := List.rdropWhile_eq_nil_iff.1 h c hc
  rw [hb] at hall
  exact Bool.noConfusion hall

theorem stripEnd_append_ne_nil {s : Text} (h : isSolid s = true) (t : Text) :
    stripEnd (s ++ t) ≠ [] := by
  obtain ⟨c, rest, rfl, hc⟩ := exists_cons_of_isSolid h
  exact stripEnd_ne_nil (c := c) (by simp) hc

/-- Stripping a line that begins with a word leaves the word and the space after it. -/
theorem strip_word {word rest : Text} (hw : isSolid word = true) (hr : stripEnd rest ≠ []) :
    strip (word ++ ' ' :: rest) = word ++ ' ' :: stripEnd rest := by
  obtain ⟨c, w, rfl, hc⟩ := exists_cons_of_isSolid hw
  have hsplit (x : Text) : c :: w ++ ' ' :: x = (c :: w ++ [' ']) ++ x := by simp
  rw [strip, List.cons_append, stripStart_cons_of_not_blank hc, ← List.cons_append, hsplit,
    stripEnd_append hr, ← hsplit]

end Text

namespace Statement

/-! ## Quotes -/

theorem isSolid_inQuotes (t : Text) : (Action.inQuotes t).isSolid = true := by
  have h := Text.isSolid_append (s := ['"']) (t := ['"']) (by decide) (by decide) t
  simpa [Action.inQuotes] using h

theorem isQuoted_inQuotes (t : Text) : isQuoted (Action.inQuotes t) = true := by
  rw [Action.inQuotes, isQuoted, List.getLast?_concat]
  rfl

/-- Quotes around a text are taken off again, whatever the text holds. -/
theorem unquote_inQuotes (t : Text) : unquote (Action.inQuotes t) = t := by
  have hs : Text.strip (Action.inQuotes t) = Action.inQuotes t :=
    (Text.isSolid_iff.1 (isSolid_inQuotes t)).2
  simp only [unquote, hs, isQuoted_inQuotes, if_true]
  simp [Action.inQuotes]

theorem isOneLine_inQuotes {t : Text} (h : t.isOneLine = true) :
    (Action.inQuotes t).isOneLine = true := by
  simp [Action.inQuotes, h]
  decide

/-! ## Lines that begin with a word -/

theorem parse_reply (rest : Text) :
    parse ("reply".toList ++ ' ' :: rest) = .ok (.reply (unquote (Text.strip rest))) := rfl

theorem parse_goto (rest : Text) :
    parse ("goto".toList ++ ' ' :: rest) = .ok (.goto (Text.strip rest)) := rfl

theorem parse_ask (rest : Text) :
    parse ("ask".toList ++ ' ' :: rest) = ask (Text.strip rest) := rfl

theorem parse_set (rest : Text) :
    parse ("set".toList ++ ' ' :: rest) = set (Text.strip rest) := rfl

theorem parse_save (rest : Text) :
    parse ("save".toList ++ ' ' :: rest) = save (Text.strip rest) := rfl

theorem parse_load (rest : Text) :
    parse ("load".toList ++ ' ' :: rest) = load (Text.strip rest) := rfl

theorem notMem_of_isName {c : Char} {t : Text} (h : t.isName = true) (hc : Text.isBlank c = true) :
    c ∉ t := by
  intro hmem
  have hb := (Text.isName_iff.1 h).2 c hmem
  rw [hc] at hb
  exact Bool.noConfusion hb

theorem ask_name {var : Text} (h : var.isName = true) (prompt : Text) :
    ask (var ++ ' ' :: Action.inQuotes prompt) = .ok (.ask var prompt) := by
  have hcut : Text.cutAt? [' '] (var ++ ' ' :: Action.inQuotes prompt) =
      some (var, Action.inQuotes prompt) :=
    Text.cutAt?_append (notMem_of_isName h (by decide)) [] (Action.inQuotes prompt)
  simp [ask, hcut, unquote_inQuotes]

theorem save_name {var : Text} (h : var.isName = true) (path : Text) :
    save (var ++ " to ".toList ++ Action.inQuotes path) = .ok (.save var path) := by
  have hcut : Text.cutAt? " to ".toList (var ++ " to ".toList ++ Action.inQuotes path) =
      some (var, Action.inQuotes path) := by
    rw [List.append_assoc]
    exact Text.cutAt?_append (notMem_of_isName h (by decide)) "to ".toList (Action.inQuotes path)
  have hs : Text.strip var = var := (Text.isSolid_iff.1 (Text.isSolid_of_isName h)).2
  simp only [save, hcut, hs, unquote_inQuotes]

theorem load_name {var : Text} (h : var.isName = true) (path : Text) :
    load (var ++ " from ".toList ++ Action.inQuotes path) = .ok (.load var path) := by
  have hcut : Text.cutAt? " from ".toList (var ++ " from ".toList ++ Action.inQuotes path) =
      some (var, Action.inQuotes path) := by
    rw [List.append_assoc]
    exact Text.cutAt?_append (notMem_of_isName h (by decide)) "from ".toList (Action.inQuotes path)
  have hs : Text.strip var = var := (Text.isSolid_iff.1 (Text.isSolid_of_isName h)).2
  simp only [load, hcut, hs, unquote_inQuotes]

/-- The variable ends at the first equals sign; what follows decides the kind of the action. -/
theorem set_name {var : Text} (h : var.isName = true) (heq : '=' ∉ var) (right : Text) :
    set (var ++ " =".toList ++ right) =
      if isQuoted (Text.strip right) then .ok (.set var (unquote (Text.strip right)))
      else .ok (.setExpr var (Text.strip right)) := by
  have hsplit : var ++ " =".toList ++ right = (var ++ [' ']) ++ (['='] ++ right) := by simp
  have hno : '=' ∉ var ++ [' '] := by simpa using heq
  have hcut : Text.cutAt? ['='] (var ++ " =".toList ++ right) = some (var ++ [' '], right) := by
    rw [hsplit]
    exact Text.cutAt?_append hno [] right
  have hs : Text.strip (var ++ [' ']) = var := by
    rw [Text.strip_concat_of_blank (by decide)]
    exact (Text.isSolid_iff.1 (Text.isSolid_of_isName h)).2
  simp only [set, hcut, hs]

theorem set_inQuotes {var : Text} (h : var.isName = true) (heq : '=' ∉ var) (value : Text) :
    set (var ++ " = ".toList ++ Action.inQuotes value) = .ok (.set var value) := by
  have hsplit : var ++ " = ".toList ++ Action.inQuotes value =
      var ++ " =".toList ++ ' ' :: Action.inQuotes value := by simp
  have hs : Text.strip (' ' :: Action.inQuotes value) = Action.inQuotes value := by
    rw [Text.strip_cons_of_blank (by decide)]
    exact (Text.isSolid_iff.1 (isSolid_inQuotes value)).2
  rw [hsplit, set_name h heq, hs, if_pos (isQuoted_inQuotes value), unquote_inQuotes]

/-- An expression that is not quoted is kept; an empty one leaves a line that ends with the equals
sign. -/
theorem set_strip_expr {var expr : Text} (h : var.isName = true) (heq : '=' ∉ var)
    (hs : Text.strip expr = expr) (hq : isQuoted expr = false) :
    set (Text.strip (var ++ " = ".toList ++ expr)) = .ok (.setExpr var expr) := by
  have hvar : var.isSolid = true := Text.isSolid_of_isName h
  by_cases hne : expr = []
  · subst hne
    have hline : Text.strip (var ++ " = ".toList ++ []) = var ++ " =".toList ++ [] := by
      have hsolid := Text.isSolid_append (t := ['=']) hvar (by decide) [' ']
      have hspace : var ++ " = ".toList ++ [] = (var ++ [' '] ++ ['=']) ++ [' '] := by simp
      rw [hspace, Text.strip_concat_of_blank (by decide), (Text.isSolid_iff.1 hsolid).2]
      simp
    rw [hline, set_name h heq]
    rfl
  · have hsolid := Text.isSolid_append hvar (Text.isSolid_iff.2 ⟨hne, hs⟩) " = ".toList
    have hsplit : var ++ " = ".toList ++ expr = var ++ " =".toList ++ ' ' :: expr := by simp
    rw [(Text.isSolid_iff.1 hsolid).2, hsplit, set_name h heq, Text.strip_cons_of_blank (by decide),
      hs, if_neg (by simp [hq])]

/-! ## The inline jump -/

theorem blanks_cons_of_not_blank {c : Char} (h : Text.isBlank c = false) (t : Text) :
    blanks (c :: t) = 0 := by
  simp [blanks, h]

theorem blanks_cons_of_blank {c : Char} (h : Text.isBlank c = true) (t : Text) :
    blanks (c :: t) = blanks t + 1 := by
  simp [blanks, h]

/-- After a blank, no target begins within a text without `goto` between blanks. -/
theorem blanks_of_after?_goto {b : Char} {t rest : Text} (hb : Text.isBlank b = true)
    (h : Text.hasGoto (b :: t) = false) {r : Text}
    (hr : Text.after? "goto".toList (Text.stripStart (t ++ '"' :: rest)) = some r) :
    blanks r = 0 := by
  induction t generalizing b with
  | nil => cases hr
  | cons d t ih =>
    simp only [Text.hasGoto, hb, Bool.true_and, Bool.or_eq_false_iff] at h
    cases hd : Text.isBlank d with
    | true =>
      rw [List.cons_append, Text.stripStart_cons_of_blank hd] at hr
      exact ih hd (by simpa [Text.hasGoto] using h.2) hr
    | false =>
      rw [List.cons_append, Text.stripStart_cons_of_not_blank hd, ← List.cons_append,
        Text.after?_append_of_notMem (by decide)] at hr
      obtain ⟨q, hq, rfl⟩ := Option.map_eq_some_iff.1 hr
      cases q with
      | nil => exact blanks_cons_of_not_blank (by decide) rest
      | cons e q =>
        have he := h.1
        rw [hq] at he
        exact blanks_cons_of_not_blank he _

theorem gotoTail?_eq_none {t : Text} (h : Text.hasGoto t = false) (rest : Text) :
    gotoTail? (t ++ '"' :: rest) = none := by
  cases t with
  | nil => rfl
  | cons b t =>
    cases hb : Text.isBlank b with
    | false => simp [gotoTail?, blanks_cons_of_not_blank hb]
    | true =>
      rw [gotoTail?, List.cons_append, if_neg (by simp [blanks_cons_of_blank hb]),
        Text.stripStart_cons_of_blank hb]
      cases hr : Text.after? "goto".toList (Text.stripStart (t ++ '"' :: rest)) with
      | none => rfl
      | some r => simp [blanks_of_after?_goto hb h hr]

theorem gotoTail?_name {target : Text} (h : target.isName = true) :
    gotoTail? (" goto ".toList ++ target) = some target := by
  obtain ⟨hne, hs⟩ := Text.isSolid_iff.1 (Text.isSolid_of_isName h)
  have hlen : 1 ≤ target.length := List.length_pos_iff.2 hne
  have hafter : Text.after? "goto".toList (Text.stripStart (" goto ".toList ++ target)) =
      some (' ' :: target) := rfl
  have hblanks : blanks (' ' :: target) ≠ 0 := by
    rw [blanks_cons_of_blank (by decide)]
    omega
  have hstart : blanks (" goto ".toList ++ target) ≠ 0 := by
    show blanks (' ' :: ("goto ".toList ++ target)) ≠ 0
    rw [blanks_cons_of_blank (by decide)]
    omega
  rw [gotoTail?, if_neg hstart, hafter]
  simp only [List.length_cons]
  rw [if_pos ⟨hblanks, by omega⟩, Text.strip_cons_of_blank (by decide), hs]

/-- The right side reaches to the quote before the jump. -/
theorem rightSide?_inQuotes {right target : Text} (h : Text.hasGoto right = false)
    (ht : target.isName = true) (c : Char) :
    rightSide? (c :: (right ++ '"' :: (" goto ".toList ++ target))) =
      some (c :: right ++ ['"'], target) := by
  induction right generalizing c with
  | nil =>
    have hquote : gotoTail? ('"' :: (" goto ".toList ++ target)) = none := gotoTail?_eq_none h _
    rw [List.nil_append, rightSide?, hquote]
    rw [rightSide?, gotoTail?_name ht]
    rfl
  | cons d right ih =>
    have hright : Text.hasGoto right = false := by
      simp only [Text.hasGoto, Bool.or_eq_false_iff] at h
      exact h.2
    rw [rightSide?, gotoTail?_eq_none h, List.cons_append, ih hright d]
    rfl

theorem afterEquals?_inQuotes {right target : Text} (h : Text.hasGoto right = false)
    (ht : target.isName = true) :
    afterEquals? (' ' :: (Action.inQuotes right ++ " goto ".toList ++ target)) =
      some (Action.inQuotes right, target) := by
  have hright := rightSide?_inQuotes h ht '"'
  have hline : Action.inQuotes right ++ " goto ".toList ++ target =
      '"' :: (right ++ '"' :: (" goto ".toList ++ target)) := by
    simp [Action.inQuotes]
  have hblanks : blanks (' ' :: (Action.inQuotes right ++ " goto ".toList ++ target)) = 1 := by
    rw [blanks_cons_of_blank (by decide), hline, blanks_cons_of_not_blank (by decide)]
  have hdown : downFrom 1 0 = [1, 0] := by decide
  rw [afterEquals?, hblanks, hdown, List.findSome?_cons, List.drop_succ_cons, List.drop_zero, hline,
    hright]
  rfl

theorem after?_equals_append_blank {t : Text} (h : Text.after? "==".toList t = none) (rest : Text) :
    Text.after? "==".toList (t ++ ' ' :: rest) = none := by
  rw [Text.after?_append_of_notMem (by decide), h]
  rfl

/-- The left side reaches to the first equals signs. -/
theorem leftSide?_append {left rest right target : Text} (hne : left ≠ [])
    (h : Text.has "==".toList left = false) (hrest : afterEquals? rest = some (right, target)) :
    leftSide? (left ++ ' ' :: ("==".toList ++ rest)) = some (left ++ [' '], right, target) := by
  have hspace : leftSide? (' ' :: ("==".toList ++ rest)) = some ([' '], right, target) := by
    rw [leftSide?, Text.after?_append, Option.bind_some, hrest]
  induction left with
  | nil => exact absurd rfl hne
  | cons c left ih =>
    simp only [Text.has, Text.cutAt?] at h
    split at h
    · simp at h
    · have hleft : Text.has "==".toList left = false := by simpa [Text.has] using h
      have hnone : Text.after? "==".toList (left ++ ' ' :: ("==".toList ++ rest)) = none := by
        apply after?_equals_append_blank
        cases left with
        | nil => rfl
        | cons d left =>
          simp only [Text.has, Text.cutAt?] at hleft
          split at hleft
          · simp at hleft
          · assumption
      rw [List.cons_append, leftSide?, hnone, Option.bind_none]
      by_cases hnil : left = []
      · subst hnil
        rw [List.nil_append, hspace]
        rfl
      · rw [ih hnil hleft]
        rfl

theorem ifGoto?_name {left right target : Text} (hl : left.isSolid = true)
    (heq : Text.has "==".toList left = false) (hr : Text.hasGoto right = false)
    (ht : target.isName = true) :
    ifGoto? ("if ".toList ++ left ++ " == ".toList ++ Action.inQuotes right ++ " goto ".toList ++
      target) = some (.ifGoto left right target) := by
  obtain ⟨hne, hs⟩ := Text.isSolid_iff.1 hl
  obtain ⟨c, rest, hc, hb⟩ := Text.exists_cons_of_isSolid hl
  have hline : "if ".toList ++ left ++ " == ".toList ++ Action.inQuotes right ++ " goto ".toList ++
      target = "if".toList ++ (' ' :: (left ++ ' ' :: ("==".toList ++
        ' ' :: (Action.inQuotes right ++ " goto ".toList ++ target)))) := by
    simp
  have hleft := leftSide?_append hne heq (afterEquals?_inQuotes hr ht)
  have hblanks (x : Text) : blanks (' ' :: (left ++ x)) = 1 := by
    rw [blanks_cons_of_blank (by decide), hc, List.cons_append, blanks_cons_of_not_blank hb]
  have hdown : downFrom 1 1 = [1] := by decide
  have hstrip : Text.strip (left ++ [' ']) = left := by
    rw [Text.strip_concat_of_blank (by decide), hs]
  rw [hline, ifGoto?, Text.after?_append]
  simp only [hblanks, hdown, List.findSome?_cons, List.drop_succ_cons, List.drop_zero, hleft,
    Option.map_some, hstrip, unquote_inQuotes]

/-! ## All statements -/

/-- The line is a statement of its own, wherever it stands, and is read as the action. -/
structure Writes (line : Text) (a : Action) : Prop where
  kind : LineKind.of line = .plain
  notBrace : line.head? ≠ some '\x7d'
  notElif : head? "elif" line = none
  notElse : Text.startsWith "else".toList line = false
  parse : Statement.parse line = .ok a

/-- A jump ends with its target, so its line opens no block. -/
theorem head?_eq_none_of_getLast? {word : String} {line : Text}
    (h : line.getLast? ≠ some '\x7b') : head? word line = none := by
  rw [head?]
  cases hr : Text.after? word.toList line with
  | none => rfl
  | some rest =>
    have hlast : rest.getLast? ≠ some '\x7b' := by
      intro hrest
      apply h
      rw [Text.eq_append_of_after? hr, List.getLast?_append, hrest]
      rfl
    simp [hlast]

theorem writes_ifGoto {left right target : Text}
    (h : (Action.ifGoto left right target).wellFormed = true) :
    Writes (Text.strip ("if ".toList ++ left ++ " == ".toList ++ Action.inQuotes right ++
      " goto ".toList ++ target)) (.ifGoto left right target) := by
  simp only [Action.wellFormed, Bool.and_eq_true, Bool.not_eq_true', bne_iff_ne] at h
  obtain ⟨⟨⟨⟨⟨⟨hl, -⟩, heq⟩, -⟩, hr⟩, ht⟩, hlast⟩ := h
  have htarget := Text.isSolid_of_isName ht
  obtain ⟨front, d, hd, -⟩ := Text.exists_concat_of_isSolid htarget
  have hsolid := Text.isSolid_append (s := "if".toList) (by decide) htarget
    (' ' :: (left ++ " == ".toList ++ Action.inQuotes right ++ " goto ".toList))
  have hline : "if ".toList ++ left ++ " == ".toList ++ Action.inQuotes right ++ " goto ".toList ++
      target = "if".toList ++ (' ' :: (left ++ " == ".toList ++ Action.inQuotes right ++
        " goto ".toList)) ++ target := by
    simp
  have hif := ifGoto?_name hl heq hr ht
  rw [hline] at hif ⊢
  rw [(Text.isSolid_iff.1 hsolid).2]
  have hopen : head? "if" ("if".toList ++ (' ' :: (left ++ " == ".toList ++ Action.inQuotes right ++
      " goto ".toList)) ++ target) = none := by
    apply head?_eq_none_of_getLast?
    rw [hd, ← List.append_assoc, List.getLast?_concat]
    rwa [hd, List.getLast?_concat] at hlast
  refine ⟨?_, by simp, rfl, rfl, ?_⟩
  · unfold LineKind.of
    rw [hopen]
    rfl
  · unfold Statement.parse
    rw [hif]
    rfl

/-- The words with which the other statements begin. -/
def words : List Text :=
  ["reply".toList, "goto".toList, "ask".toList, "set".toList, "save".toList, "load".toList]

theorem writes_word {word rest : Text} {a : Action} (hword : word ∈ words)
    (hrest : Text.stripEnd rest ≠ [])
    (hparse : Statement.parse (word ++ ' ' :: Text.stripEnd rest) = .ok a) :
    Writes (Text.strip (word ++ ' ' :: rest)) a := by
  simp only [words, List.mem_cons, List.not_mem_nil, or_false] at hword
  have hsolid : word.isSolid = true := by
    rcases hword with rfl | rfl | rfl | rfl | rfl | rfl <;> decide
  rw [Text.strip_word hsolid hrest]
  rcases hword with rfl | rfl | rfl | rfl | rfl | rfl <;>
    exact ⟨rfl, by simp, rfl, rfl, hparse⟩

theorem writes_reply (text : Text) :
    Writes (Text.strip ("reply ".toList ++ Action.inQuotes text)) (.reply text) := by
  have hsolid := isSolid_inQuotes text
  have hne : Text.stripEnd (Action.inQuotes text) ≠ [] := by
    simpa using Text.stripEnd_append_ne_nil hsolid []
  show Writes (Text.strip ("reply".toList ++ ' ' :: Action.inQuotes text)) _
  refine writes_word (by simp [words]) hne ?_
  rw [parse_reply, Text.strip_stripEnd, (Text.isSolid_iff.1 hsolid).2, unquote_inQuotes]

theorem writes_goto {target : Text} (h : target.isName = true) :
    Writes (Text.strip ("goto ".toList ++ target)) (.goto target) := by
  have hsolid := Text.isSolid_of_isName h
  have hne : Text.stripEnd target ≠ [] := by
    simpa using Text.stripEnd_append_ne_nil hsolid []
  show Writes (Text.strip ("goto".toList ++ ' ' :: target)) _
  refine writes_word (by simp [words]) hne ?_
  rw [parse_goto, Text.strip_stripEnd, (Text.isSolid_iff.1 hsolid).2]

theorem writes_ask {var : Text} (h : var.isName = true) (prompt : Text) :
    Writes (Text.strip ("ask ".toList ++ var ++ ' ' :: Action.inQuotes prompt))
      (.ask var prompt) := by
  have hsolid := Text.isSolid_append (Text.isSolid_of_isName h) (isSolid_inQuotes prompt) [' ']
  rw [List.append_assoc, List.singleton_append] at hsolid
  show Writes (Text.strip ("ask".toList ++ ' ' :: (var ++ ' ' :: Action.inQuotes prompt))) _
  refine writes_word (by simp [words])
    (Text.stripEnd_append_ne_nil (Text.isSolid_of_isName h) _) ?_
  rw [parse_ask, Text.strip_stripEnd, (Text.isSolid_iff.1 hsolid).2, ask_name h]

theorem writes_set {var : Text} (h : var.isName = true) (heq : '=' ∉ var) (value : Text) :
    Writes (Text.strip ("set ".toList ++ var ++ " = ".toList ++ Action.inQuotes value))
      (.set var value) := by
  have hvar := Text.isSolid_of_isName h
  have hsolid := Text.isSolid_append hvar (isSolid_inQuotes value) " = ".toList
  show Writes (Text.strip ("set".toList ++ ' ' :: (var ++ " = ".toList ++ Action.inQuotes value))) _
  refine writes_word (by simp [words]) ?_ ?_
  · rw [List.append_assoc]
    exact Text.stripEnd_append_ne_nil hvar _
  · rw [parse_set, Text.strip_stripEnd, (Text.isSolid_iff.1 hsolid).2, set_inQuotes h heq]

theorem writes_setExpr {var expr : Text} (h : var.isName = true) (heq : '=' ∉ var)
    (hs : Text.strip expr = expr) (hq : isQuoted expr = false) :
    Writes (Text.strip ("set ".toList ++ var ++ " = ".toList ++ expr)) (.setExpr var expr) := by
  show Writes (Text.strip ("set".toList ++ ' ' :: (var ++ " = ".toList ++ expr))) _
  refine writes_word (by simp [words]) ?_ ?_
  · rw [List.append_assoc]
    exact Text.stripEnd_append_ne_nil (Text.isSolid_of_isName h) _
  · rw [parse_set, Text.strip_stripEnd, set_strip_expr h heq hs hq]

theorem writes_save {var : Text} (h : var.isName = true) (path : Text) :
    Writes (Text.strip ("save ".toList ++ var ++ " to ".toList ++ Action.inQuotes path))
      (.save var path) := by
  have hvar := Text.isSolid_of_isName h
  have hsolid := Text.isSolid_append hvar (isSolid_inQuotes path) " to ".toList
  show Writes (Text.strip
    ("save".toList ++ ' ' :: (var ++ " to ".toList ++ Action.inQuotes path))) _
  refine writes_word (by simp [words]) ?_ ?_
  · rw [List.append_assoc]
    exact Text.stripEnd_append_ne_nil hvar _
  · rw [parse_save, Text.strip_stripEnd, (Text.isSolid_iff.1 hsolid).2, save_name h]

theorem writes_load {var : Text} (h : var.isName = true) (path : Text) :
    Writes (Text.strip ("load ".toList ++ var ++ " from ".toList ++ Action.inQuotes path))
      (.load var path) := by
  have hvar := Text.isSolid_of_isName h
  have hsolid := Text.isSolid_append hvar (isSolid_inQuotes path) " from ".toList
  show Writes (Text.strip ("load".toList ++ ' ' :: (var ++ " from ".toList ++
    Action.inQuotes path))) _
  refine writes_word (by simp [words]) ?_ ?_
  · rw [List.append_assoc]
    exact Text.stripEnd_append_ne_nil hvar _
  · rw [parse_load, Text.strip_stripEnd, (Text.isSolid_iff.1 hsolid).2, load_name h]

/-- An action that is no chain is written as one line, which is read as the action. -/
theorem writes_lines (s : Spelling) {a : Action} (h : a.wellFormed = true)
    (hchain : ∀ branches otherwise, a ≠ .chain branches otherwise) :
    ∃ line, a.lines s = [line] ∧ Writes (Text.strip line) a := by
  cases a with
  | reply text => exact ⟨_, rfl, writes_reply text⟩
  | goto target => exact ⟨_, rfl, writes_goto h⟩
  | ask var prompt =>
    simp only [Action.wellFormed, Bool.and_eq_true] at h
    exact ⟨_, rfl, writes_ask h.1 prompt⟩
  | set var value =>
    simp only [Action.wellFormed, Bool.and_eq_true, Bool.not_eq_true'] at h
    exact ⟨_, rfl, writes_set h.1.1 (by simpa using h.1.2) value⟩
  | setExpr var expr =>
    simp only [Action.wellFormed, Bool.and_eq_true, Bool.not_eq_true', beq_iff_eq] at h
    obtain ⟨⟨⟨⟨hvar, heq⟩, hs⟩, -⟩, hq⟩ := h
    exact ⟨_, rfl, writes_setExpr hvar (by simpa using heq) hs hq⟩
  | ifGoto left right target => exact ⟨_, rfl, writes_ifGoto h⟩
  | save var path =>
    simp only [Action.wellFormed, Bool.and_eq_true] at h
    exact ⟨_, rfl, writes_save h.1 path⟩
  | load var path =>
    simp only [Action.wellFormed, Bool.and_eq_true] at h
    exact ⟨_, rfl, writes_load h.1 path⟩
  | chain branches otherwise => exact absurd rfl (hchain branches otherwise)
  | compare left sign right body otherwise => exact Bool.noConfusion h
  | unknown kind => exact Bool.noConfusion h

end Statement
end Dialogue
