import Dialogue.Proofs.Text.Letters
import Dialogue.Proofs.Text.Strip
import Dialogue.Template.Printer
set_option autoImplicit false

/-!
# Round trip of pipelines

A pipeline that is written with escaped arguments is read as it was, whatever its arguments hold.
Three readers have to agree with the escaping: the one that cuts at bars, the one that takes an
argument out of its quotes, and the one that takes the backslashes away.  Main statement:
`Pipeline.print_reads_back`.
-/

namespace Dialogue

/-! ## Escapes -/

namespace Text

theorem replacePair_pair (a b c : Char) (t : Text) :
    replacePair a b c (a :: b :: t) = c :: replacePair a b c t := by
  rw [replacePair, if_pos ⟨rfl, rfl⟩]

theorem replacePair_cons_of_ne {a x : Char} (h : x ≠ a) (b c : Char) (t : Text) :
    replacePair a b c (x :: t) = x :: replacePair a b c t := by
  cases t with
  | nil => rfl
  | cons y t => rw [replacePair, if_neg fun hpair => h hpair.1]

theorem replacePair_cons_of_head? {b : Char} {t : Text} (h : t.head? ≠ some b) (a c x : Char) :
    replacePair a b c (x :: t) = x :: replacePair a b c t := by
  cases t with
  | nil => rfl
  | cons y t =>
    have hy : y ≠ b := fun hyb => h (congrArg some hyb)
    rw [replacePair, if_neg fun hpair => hy hpair.2]

end Text

namespace FilterCall

theorem escape_slash (t : Text) : escape ('\\' :: t) = '\\' :: '\\' :: escape t := rfl

theorem escape_quote (t : Text) : escape ('"' :: t) = '\\' :: '"' :: escape t := rfl

theorem escape_cons_of_ne {c : Char} (hslash : c ≠ '\\') (hquote : c ≠ '"') (t : Text) :
    escape (c :: t) = c :: escape t := by
  rw [escape, List.flatMap_cons, escapeChar, if_neg hslash, if_neg hquote]
  rfl

/-- What holds nothing to escape is written as it is. -/
theorem escape_eq_self {t : Text} (hslash : '\\' ∉ t) (hquote : '"' ∉ t) : escape t = t := by
  induction t with
  | nil => rfl
  | cons c t ih =>
    have hc : c ≠ '\\' := (List.ne_of_not_mem_cons hslash).symm
    have hd : c ≠ '"' := (List.ne_of_not_mem_cons hquote).symm
    rw [escape_cons_of_ne hc hd,
      ih (List.not_mem_of_not_mem_cons hslash) (List.not_mem_of_not_mem_cons hquote)]

theorem head?_escape_ne (t : Text) : (escape t).head? ≠ some '"' := by
  cases t with
  | nil => simp [escape]
  | cons c t =>
    by_cases hslash : c = '\\'
    · subst hslash
      simp [escape_slash]
    · by_cases hquote : c = '"'
      · subst hquote
        simp [escape_quote]
      · simp [escape_cons_of_ne hslash hquote, hquote]

/-- Without the backslashes before quotes, only those before backslashes are left. -/
theorem replacePair_escape (t : Text) :
    Text.replacePair '\\' '"' '"' (escape t) =
      t.flatMap fun c => if c = '\\' then ['\\', '\\'] else [c] := by
  induction t with
  | nil => rfl
  | cons c t ih =>
    rw [List.flatMap_cons, ← ih]
    by_cases hslash : c = '\\'
    · subst hslash
      rw [escape_slash, Text.replacePair_cons_of_head? (by simp),
        Text.replacePair_cons_of_head? (head?_escape_ne t)]
      rfl
    · rw [if_neg hslash]
      by_cases hquote : c = '"'
      · subst hquote
        rw [escape_quote, Text.replacePair_pair]
        rfl
      · rw [escape_cons_of_ne hslash hquote, Text.replacePair_cons_of_ne hslash]
        rfl

/-- An escaped text is unescaped to itself. -/
theorem unescape_escape (t : Text) : unescape (escape t) = t := by
  rw [unescape, replacePair_escape]
  induction t with
  | nil => rfl
  | cons c t ih =>
    rw [List.flatMap_cons]
    by_cases hslash : c = '\\'
    · subst hslash
      rw [if_pos rfl, List.cons_append, List.cons_append, List.nil_append, Text.replacePair_pair,
        ih]
    · rw [if_neg hslash, List.singleton_append, Text.replacePair_cons_of_ne hslash, ih]

/-! ## Single filters -/

/-- Every quote of an escaped text is directly after a backslash. -/
theorem quotesEscaped_escape (escaped : Bool) (t : Text) :
    quotesEscaped escaped (escape t) = true := by
  induction t generalizing escaped with
  | nil => rfl
  | cons c t ih =>
    by_cases hslash : c = '\\'
    · subst hslash
      rw [escape_slash]
      simp [quotesEscaped, ih]
    · by_cases hquote : c = '"'
      · subst hquote
        rw [escape_quote]
        simp [quotesEscaped, ih]
      · rw [escape_cons_of_ne hslash hquote]
        simp [quotesEscaped, hquote, ih]

theorem argument?_escape (t : Text) : argument? ('"' :: escape t ++ ['"']) = some (escape t) := by
  rw [List.cons_append, argument?, List.getLast?_concat]
  simp [quotesEscaped_escape]

/-- A name of a filter: an ASCII letter or underscore, and then characters of words. -/
def isFilterName : Text → Bool
  | [] => false
  | c :: t => (c.isAlpha || c == '_') && t.all Text.isWordChar

/-- The filter can be written. -/
def isNamed (f : FilterCall) : Bool := isFilterName f.name

theorem exists_of_isFilterName {name : Text} (h : isFilterName name = true) :
    ∃ c t, name = c :: t ∧ (c.isAlpha || c == '_') = true ∧ ∀ d ∈ t, Text.isWordChar d = true := by
  cases name with
  | nil => cases h
  | cons c t =>
    obtain ⟨hc, ht⟩ := Bool.and_eq_true_iff.1 h
    exact ⟨c, t, rfl, hc, List.all_eq_true.1 ht⟩

theorem isBlank_of_isAlpha {c : Char} (h : (c.isAlpha || c == '_') = true) :
    Text.isBlank c = false := by
  refine Text.isBlank_of_isAlphanum ?_
  simp only [Bool.or_eq_true, Char.isAlphanum] at h ⊢
  exact h.imp_left Or.inl

theorem isName_of_isFilterName {name : Text} (h : isFilterName name = true) :
    name.isName = true := by
  obtain ⟨c, t, rfl, hc, ht⟩ := exists_of_isFilterName h
  refine Text.isName_iff.2 ⟨List.cons_ne_nil c t, ?_⟩
  refine List.forall_mem_cons.2 ⟨isBlank_of_isAlpha hc, fun d hd => ?_⟩
  exact Text.isBlank_of_isWordChar (ht d hd)

theorem strip_print {f : FilterCall} (h : f.isNamed = true) : Text.strip f.print = f.print := by
  have hname := Text.isSolid_of_isName (isName_of_isFilterName h)
  unfold print
  split
  · exact (Text.isSolid_iff.1 hname).2
  · next a harg =>
    have hsolid := Text.isSolid_append hname (t := ['"']) (by decide) (':' :: '"' :: escape a)
    exact (Text.isSolid_iff.1 hsolid).2

/-- A filter that is written is read as it was. -/
theorem parse?_print {f : FilterCall} (h : f.isNamed = true) : parse? f.print = some f := by
  obtain ⟨name, arg⟩ := f
  obtain ⟨c, r, rfl, hc, hr⟩ := exists_of_isFilterName h
  cases arg with
  | none =>
    show parse? (c :: r) = _
    have htake : r.takeWhile Text.isWordChar = r := List.takeWhile_eq_self_iff.2 hr
    have hdrop : r.dropWhile Text.isWordChar = [] := List.dropWhile_eq_nil_iff.2 hr
    rw [parse?, if_pos hc, htake, hdrop]
    rfl
  | some a =>
    -- the name ends at the colon
    have hcolon : Text.isWordChar ':' = false := by decide
    have htake : (r ++ ':' :: '"' :: escape a ++ ['"']).takeWhile Text.isWordChar = r := by
      rw [List.append_assoc, List.takeWhile_append_of_pos hr, List.cons_append,
        List.takeWhile_cons_of_neg (by simp [hcolon]), List.append_nil]
    have hdrop : (r ++ ':' :: '"' :: escape a ++ ['"']).dropWhile Text.isWordChar =
        ':' :: '"' :: escape a ++ ['"'] := by
      rw [List.append_assoc, List.dropWhile_append_of_pos hr, List.cons_append,
        List.dropWhile_cons_of_neg (by simp [hcolon])]
    have hends : ':' :: ('"' :: escape a ++ ['"']) = ':' :: '"' :: escape a ++ ['"'] := rfl
    have hstrip : Text.strip (':' :: '"' :: escape a ++ ['"']) = ':' :: '"' :: escape a ++ ['"'] :=
      Text.strip_eq_self (by decide) (by decide) hends
    have hstart : Text.stripStart ('"' :: escape a ++ ['"']) = '"' :: escape a ++ ['"'] :=
      Text.stripStart_cons_of_not_blank (by decide) _
    show parse? (c :: (r ++ ':' :: '"' :: escape a ++ ['"'])) = _
    rw [parse?, if_pos hc, htake, hdrop, hstrip]
    show (argument? (Text.stripStart ('"' :: escape a ++ ['"']))).map _ = _
    rw [hstart, argument?_escape, Option.map_some, unescape_escape]

end FilterCall

/-! ## Cutting at bars -/

namespace Pipeline

/-- Whether the next character stands in quotes and whether a backslash keeps it from having a
meaning, after a character that does not divide; none if the character is a bar that divides. -/
def next? (flags : Bool × Bool) (c : Char) : Option (Bool × Bool) :=
  if flags.2 then some (flags.1, false)
  else if c = '\\' then some (flags.1, true)
  else if c = '"' then some (!flags.1, false)
  else if c = '|' && !flags.1 then none
  else some (flags.1, false)

/-- The same after a text; none if one of its bars divides. -/
def after? (flags : Bool × Bool) (t : Text) : Option (Bool × Bool) := t.foldlM next? flags

theorem after?_append (flags : Bool × Bool) (s t : Text) :
    after? flags (s ++ t) = (after? flags s).bind fun later => after? later t :=
  List.foldlM_append

theorem cutAtBars_ne_nil (inQuotes escaped : Bool) (t : Text) :
    cutAtBars inQuotes escaped t ≠ [] := by
  unfold cutAtBars
  dsimp only
  repeat' split
  all_goals exact List.cons_ne_nil _ _

/-- A character that does not divide belongs to the first part. -/
theorem cutAtBars_cons {flags later : Bool × Bool} {c : Char} (h : next? flags c = some later)
    (t : Text) :
    cutAtBars flags.1 flags.2 (c :: t) =
      (cutAtBars later.1 later.2 t).modifyHead (c :: ·) := by
  obtain ⟨part, parts, hparts⟩ := List.exists_cons_of_ne_nil (cutAtBars_ne_nil later.1 later.2 t)
  rw [hparts, List.modifyHead_cons, cutAtBars]
  dsimp only
  unfold next? at h
  split at h
  · next hescaped =>
    cases h
    dsimp only at hparts
    rw [if_pos hescaped, hparts]
  next hescaped =>
  rw [if_neg hescaped]
  split at h
  · next hslash =>
    cases h
    dsimp only at hparts
    rw [if_pos hslash, hparts]
  next hslash =>
  rw [if_neg hslash]
  split at h
  · next hquote =>
    cases h
    dsimp only at hparts
    rw [if_pos hquote, hparts]
  next hquote =>
  rw [if_neg hquote]
  split at h
  · cases h
  · next hbar =>
    cases h
    dsimp only at hparts
    rw [if_neg hbar, hparts]

/-- A text in which no bar divides belongs to the first part. -/
theorem cutAtBars_append {flags later : Bool × Bool} {s : Text} (h : after? flags s = some later)
    (t : Text) :
    cutAtBars flags.1 flags.2 (s ++ t) = (cutAtBars later.1 later.2 t).modifyHead (s ++ ·) := by
  induction s generalizing flags with
  | nil =>
    obtain rfl := Option.some.inj h
    exact (congrFun List.modifyHead_id _).symm
  | cons c s ih =>
    rw [after?, List.foldlM_cons] at h
    obtain ⟨next, hnext, hrest⟩ := Option.bind_eq_some_iff.1 h
    rw [List.cons_append, cutAtBars_cons hnext, ih hrest, List.modifyHead_modifyHead]
    rfl

theorem cutAtBars_eq_singleton {flags later : Bool × Bool} {s : Text}
    (h : after? flags s = some later) : cutAtBars flags.1 flags.2 s = [s] := by
  have hcut := cutAtBars_append h []
  rwa [List.append_nil, cutAtBars, List.modifyHead_cons, List.append_nil] at hcut

/-- The text can stand between two bars: none of its bars divides, and its quotes and escapes are
complete. -/
def Closed (t : Text) : Prop := after? (false, false) t = some (false, false)

theorem Closed.append {s t : Text} (hs : Closed s) (ht : Closed t) : Closed (s ++ t) := by
  rw [Closed, after?_append, hs]
  exact ht

theorem Closed.cutAtBars_bar {s : Text} (h : Closed s) (t : Text) :
    cutAtBars false false (s ++ '|' :: t) = s :: cutAtBars false false t := by
  have hcut := cutAtBars_append h ('|' :: t)
  have hbar : cutAtBars false false ('|' :: t) = [] :: cutAtBars false false t := rfl
  dsimp only at hcut
  rwa [hbar, List.modifyHead_cons, List.append_nil] at hcut

/-- A character without a meaning for the cutting. -/
def isPlain (c : Char) : Bool := c != '|' && c != '"' && c != '\\'

theorem isPlain_iff {c : Char} : isPlain c = true ↔ c ≠ '|' ∧ c ≠ '"' ∧ c ≠ '\\' := by
  simp [isPlain, and_assoc]

theorem closed_of_isPlain {t : Text} (h : ∀ c ∈ t, isPlain c = true) : Closed t := by
  induction t with
  | nil => rfl
  | cons c t ih =>
    obtain ⟨hc, ht⟩ := List.forall_mem_cons.1 h
    obtain ⟨hbar, hquote, hslash⟩ := isPlain_iff.1 hc
    have hnext : next? (false, false) c = some (false, false) := by
      simp [next?, hbar, hquote, hslash]
    rw [Closed, after?, List.foldlM_cons, hnext]
    exact ih ht

/-- An escaped text between quotes neither closes them nor keeps the next character from having a
meaning. -/
theorem after?_escape (t : Text) :
    after? (true, false) (FilterCall.escape t) = some (true, false) := by
  induction t with
  | nil => rfl
  | cons c t ih =>
    by_cases hslash : c = '\\'
    · subst hslash
      exact ih
    · by_cases hquote : c = '"'
      · subst hquote
        exact ih
      · have hnext : next? (true, false) c = some (true, false) := by
          simp [next?, hquote, hslash]
        rw [FilterCall.escape_cons_of_ne hslash hquote, after?, List.foldlM_cons, hnext]
        exact ih

theorem closed_quoted (a : Text) : Closed ('"' :: FilterCall.escape a ++ ['"']) := by
  have hopen : after? (false, false) ['"'] = some (true, false) := rfl
  have hclose : after? (true, false) ['"'] = some (false, false) := rfl
  show after? (false, false) (['"'] ++ FilterCall.escape a ++ ['"']) = _
  rw [after?_append, after?_append, hopen, Option.bind_some, after?_escape, Option.bind_some,
    hclose]

theorem isPlain_of_isWordChar {c : Char} (h : Text.isWordChar c = true) : isPlain c = true := by
  refine isPlain_iff.2 ⟨?_, ?_, ?_⟩ <;> rintro rfl <;> cases h

theorem closed_print {f : FilterCall} (h : f.isNamed = true) : Closed f.print := by
  have hname : Closed f.name := by
    obtain ⟨c, t, heq, hc, ht⟩ := FilterCall.exists_of_isFilterName h
    rw [heq]
    refine closed_of_isPlain (List.forall_mem_cons.2 ⟨?_, fun d hd => ?_⟩)
    · refine isPlain_iff.2 ⟨?_, ?_, ?_⟩ <;> rintro rfl <;> cases hc
    · exact isPlain_of_isWordChar (ht d hd)
  unfold FilterCall.print
  split
  · exact hname
  · next a harg =>
    have hcolon : Closed [':'] := rfl
    have hall := (hname.append hcolon).append (closed_quoted a)
    simpa using hall

/-! ## Pipelines -/

theorem exists_after?_of_notMem {t : Text} (h : '|' ∉ t) (flags : Bool × Bool) :
    ∃ later, after? flags t = some later := by
  induction t generalizing flags with
  | nil => exact ⟨flags, rfl⟩
  | cons c t ih =>
    have hbar : c ≠ '|' := (List.ne_of_not_mem_cons h).symm
    have hnext : ∃ next, next? flags c = some next := by
      simp only [next?, hbar, decide_false, Bool.false_and, Bool.false_eq_true, if_false]
      repeat' split
      all_goals exact ⟨_, rfl⟩
    obtain ⟨next, hnext⟩ := hnext
    rw [after?, List.foldlM_cons, hnext]
    exact ih (List.not_mem_of_not_mem_cons h) next

/-- A text without bars is a variable without filters. -/
theorem parse_of_notMem {t : Text} (hstrip : Text.strip t = t) (h : '|' ∉ t) :
    parse t = ⟨t, []⟩ := by
  obtain ⟨later, hlater⟩ := exists_after?_of_notMem h (false, false)
  have hcut : cutAtBars false false t = [t] := cutAtBars_eq_singleton hlater
  rw [parse, hcut]
  cases t with
  | nil => rfl
  | cons c t =>
    show Pipeline.mk (Text.strip (c :: t)) [] = _
    rw [hstrip]

/-- What is written between bars is found between bars, up to the blanks beside them. -/
theorem map_strip_cutAtBars {x : Text} {xs : List Text} (h : ∀ y ∈ x :: xs, Closed y) :
    (cutAtBars false false (Text.joinWith " | ".toList (x :: xs))).map Text.strip =
      (x :: xs).map Text.strip := by
  induction xs generalizing x with
  | nil =>
    have hx : Closed x := h x (by simp)
    exact congrArg _ (cutAtBars_eq_singleton hx)
  | cons y ys ih =>
    obtain ⟨hx, hrest⟩ := List.forall_mem_cons.1 h
    have hspace : Closed [' '] := rfl
    have hjoin : Text.joinWith " | ".toList (x :: y :: ys) =
        (x ++ [' ']) ++ '|' :: ([' '] ++ Text.joinWith " | ".toList (y :: ys)) := by
      simp [Text.joinWith]
    have hcut := cutAtBars_append hspace (Text.joinWith " | ".toList (y :: ys))
    dsimp only at hcut
    -- the blank after the bar goes to the next part
    have hstrip (parts : List Text) :
        (parts.modifyHead ([' '] ++ ·)).map Text.strip = parts.map Text.strip := by
      cases parts with
      | nil => rfl
      | cons part parts => exact congrArg (· :: _) (Text.strip_cons_of_blank (by decide) part)
    rw [hjoin, (hx.append hspace).cutAtBars_bar, hcut, List.map_cons, hstrip, ih hrest,
      Text.strip_concat_of_blank (by decide)]
    rfl

/-- The pipeline can be written: its variable has no blanks at its ends and no characters with a
meaning, and its filters have names. -/
structure Writable (p : Pipeline) : Prop where
  stripped : Text.strip p.source = p.source
  plain : ∀ c ∈ p.source, isPlain c = true
  named : ∀ f ∈ p.filters, f.isNamed = true

theorem Writable.closed {p : Pipeline} (h : p.Writable) :
    ∀ t ∈ p.source :: p.filters.map FilterCall.print, Closed t := by
  refine List.forall_mem_cons.2 ⟨closed_of_isPlain h.plain, List.forall_mem_map.2 fun f hf => ?_⟩
  exact closed_print (h.named f hf)

/-- The parts of a written pipeline. -/
theorem Writable.map_strip {p : Pipeline} (h : p.Writable) :
    (cutAtBars false false p.print).map Text.strip =
      p.source :: p.filters.map FilterCall.print := by
  rw [print, map_strip_cutAtBars h.closed, List.map_cons, h.stripped, List.map_map]
  refine congrArg (p.source :: ·) (List.map_congr_left fun f hf => ?_)
  exact FilterCall.strip_print (h.named f hf)

/-- A pipeline with filters does not end with an empty part. -/
theorem Writable.dropEmptyEnd {p : Pipeline} (h : p.Writable) (hfilters : p.filters ≠ []) :
    dropEmptyEnd (cutAtBars false false p.print) = cutAtBars false false p.print := by
  refine if_neg fun hlast => ?_
  obtain ⟨front, f, hf⟩ := (List.eq_nil_or_concat p.filters).resolve_left hfilters
  have hparts := congrArg List.getLast? h.map_strip
  rw [List.getLast?_map, hlast, Option.map_some, Text.strip_nil, hf, List.concat_eq_append,
    List.map_append, List.map_singleton, ← List.cons_append, List.getLast?_concat] at hparts
  have hsolid : f.print ≠ [] := by
    have hnamed := FilterCall.isName_of_isFilterName (h.named f (by simp [hf]))
    have hname := (Text.isName_iff.1 hnamed).1
    unfold FilterCall.print
    split <;> simp [hname]
  exact hsolid (Option.some.inj hparts).symm

theorem filterMap_parse?_print {fs : List FilterCall} (h : ∀ f ∈ fs, f.isNamed = true) :
    (fs.map FilterCall.print).filterMap FilterCall.parse? = fs := by
  induction fs with
  | nil => rfl
  | cons f fs ih =>
    obtain ⟨hf, hfs⟩ := List.forall_mem_cons.1 h
    rw [List.map_cons, List.filterMap_cons_some (FilterCall.parse?_print hf), ih hfs]

/-- A pipeline that is written is read as it was. -/
theorem parse_print {p : Pipeline} (h : p.Writable) : parse p.print = p := by
  obtain ⟨source, filters⟩ := p
  cases filters with
  | nil =>
    refine parse_of_notMem h.stripped fun hbar => ?_
    exact (isPlain_iff.1 (h.plain _ hbar)).1 rfl
  | cons f fs =>
    rw [parse, h.dropEmptyEnd (List.cons_ne_nil f fs), h.map_strip]
    show Pipeline.mk source ((f :: fs).map FilterCall.print |>.filterMap FilterCall.parse?) = _
    rw [filterMap_parse?_print h.named]

/-- Reading undoes writing: an escaped argument is unescaped to itself, and a pipeline with any
arguments is read as the variable and the filters that were written. -/
theorem print_reads_back {p : Pipeline} (h : p.Writable) :
    (∀ a, FilterCall.unescape (FilterCall.escape a) = a) ∧ parse p.print = p :=
  ⟨FilterCall.unescape_escape, parse_print h⟩

/-- A pipeline whose arguments look like the end of an argument, like further filters and like
escapes. -/
def delimiterPipeline : Pipeline :=
  ⟨"user.name".toList,
    [⟨"trim".toList, none⟩, ⟨"default".toList, some "a\" | upper | \"\\".toList⟩,
      ⟨"_x1".toList, some "\\\"\\\\\" \n\"".toList⟩, ⟨"default".toList, some []⟩]⟩

theorem print_reads_back_delimiters :
    delimiterPipeline.Writable ∧
      FilterCall.unescape (FilterCall.escape "\\\"\\\\\"".toList) = "\\\"\\\\\"".toList ∧
      parse delimiterPipeline.print = delimiterPipeline := by
  have hwritable : delimiterPipeline.Writable :=
    ⟨by decide, List.all_eq_true.1 rfl, List.all_eq_true.1 rfl⟩
  obtain ⟨hunescape, hparse⟩ := print_reads_back hwritable
  exact ⟨hwritable, hunescape _, hparse⟩

end Pipeline
end Dialogue
