import Dialogue.Proofs.Classifier.Choice
import Mathlib.Data.List.Infix
import Mathlib.Data.List.TakeWhile
set_option autoImplicit false

/-!
# Matching a reply against the candidates

A reply names the first candidate whose name stands in it, in whatever case.  A reply that is the
name of one candidate therefore names that candidate exactly if no candidate before it has a name
that is a part of its name.  Main statement: `Classifier.classify_exact_iff`.
-/

namespace Dialogue

/-! ## Parts of texts -/

namespace Text

theorem startsWith_iff_prefix {start t : Text} : startsWith start t = true ↔ start <+: t := by
  rw [startsWith_iff]
  constructor
  · rintro ⟨rest, rfl⟩
    exact List.prefix_append start rest
  · rintro ⟨rest, rfl⟩
    exact ⟨rest, rfl⟩

theorem has_nil (part : Text) : has part [] = startsWith part [] := by
  rw [has, startsWith, cutAt?, Option.isSome_map]

theorem has_cons (part : Text) (c : Char) (t : Text) :
    has part (c :: t) = (startsWith part (c :: t) || has part t) := by
  rw [has, has, startsWith, cutAt?]
  cases after? part (c :: t) with
  | none => simp
  | some rest => rfl

/-- A text has a part exactly if the part stands in it without a gap. -/
theorem has_iff_infix {part t : Text} : has part t = true ↔ part <:+: t := by
  induction t with
  | nil => rw [has_nil, startsWith_iff_prefix, List.prefix_nil, List.infix_nil]
  | cons c t ih =>
    rw [has_cons, Bool.or_eq_true, startsWith_iff_prefix, ih, List.infix_cons_iff]

theorem has_self (t : Text) : has t t = true := has_iff_infix.2 (List.infix_refl t)

end Text

namespace Classifier

/-! ## The first candidate -/

/-- The first name that passes a test is a given one exactly if those before it do not pass. -/
theorem find?_eq_some_iff_takeWhile {test : Text → Bool} {name : Text} {names : List Text}
    (hname : name ∈ names) (htest : test name = true) :
    names.find? test = some name ↔
      ∀ other ∈ names.takeWhile (· != name), test other = false := by
  induction names with
  | nil => cases hname
  | cons first rest ih =>
    by_cases hfirst : first = name
    · subst hfirst
      simp [htest]
    · have hrest : name ∈ rest := (List.mem_cons.1 hname).resolve_left (Ne.symm hfirst)
      rw [List.takeWhile_cons_of_pos (p := (· != name)) (bne_iff_ne.2 hfirst),
        List.forall_mem_cons, ← ih hrest]
      cases hpasses : test first with
      | true => simp [hpasses, hfirst]
      | false => simp [hpasses]

/-- A reply that is a name, in whatever case, names the first candidate whose name stands in it. -/
theorem named_of_exact {reply name : Text} {names : List Text} (hname : name ∈ names)
    (hexact : Text.lower (Text.strip reply) = Text.lower name) :
    named reply names =
      names.find? fun other => Text.has (Text.lower other) (Text.lower name) := by
  have htest : (fun other => Text.lower other == Text.lower (Text.strip reply) ||
      Text.has (Text.lower other) (Text.lower (Text.strip reply))) =
      fun other => Text.has (Text.lower other) (Text.lower name) := by
    funext other
    rw [hexact]
    -- what is equal to the reply also stands in it, so that equality decides nothing
    by_cases heq : Text.lower other = Text.lower name
    · simp [heq, Text.has_self]
    · simp [heq]
  have hfound : (names.find? fun other => Text.has (Text.lower other) (Text.lower name)).isSome =
      true := List.find?_isSome.2 ⟨name, hname, Text.has_self _⟩
  obtain ⟨first, hfirst⟩ := Option.isSome_iff_exists.1 hfound
  unfold named
  dsimp only
  rw [htest, hfirst]

/-! ## Classifiers with a key -/

section online

variable {c : Classifier} {s : Service} {targets exclude : List Text} {reply name : Text}

theorem result_classify_of_reply (honline : c.isOffline = false)
    (hne : candidates targets exclude ≠ []) (hreply : s.next.1.content = .ok reply)
    (words : Text) :
    (c.classify s (.text words) targets exclude).result =
      .ok (named reply (candidates targets exclude)) := by
  rw [classify_text, if_neg (by simpa using hne), if_neg (by simp [honline]), consult]
  dsimp only
  rw [hreply]

/-- A classifier with a key whose service replies with the name of a candidate, in whatever case,
suggests the first candidate whose name is a part of that name.  This is the candidate itself
exactly if no name before it is such a part; and it is the candidate in every order of the targets
exactly if no other candidate's name is a part of its name. -/
theorem classify_exact_iff (honline : c.isOffline = false)
    (hname : name ∈ candidates targets exclude) (hreply : s.next.1.content = .ok reply)
    (hexact : Text.lower (Text.strip reply) = Text.lower name) (words : Text) :
    (c.classify s (.text words) targets exclude).result =
        .ok ((candidates targets exclude).find? fun other =>
          Text.has (Text.lower other) (Text.lower name)) ∧
      ((c.classify s (.text words) targets exclude).result = .ok (some name) ↔
        ∀ other ∈ (candidates targets exclude).takeWhile (· != name),
          ¬Text.lower other <:+: Text.lower name) ∧
      ((∀ order, order.Perm targets →
          (c.classify s (.text words) order exclude).result = .ok (some name)) ↔
        ∀ other ∈ candidates targets exclude, other ≠ name →
          ¬Text.lower other <:+: Text.lower name) := by
  have hresult (order : List Text) (hmem : name ∈ candidates order exclude) :
      (c.classify s (.text words) order exclude).result =
        .ok ((candidates order exclude).find? fun other =>
          Text.has (Text.lower other) (Text.lower name)) := by
    rw [result_classify_of_reply honline (List.ne_nil_of_mem hmem) hreply,
      named_of_exact hmem hexact]
  have hiff (order : List Text) (hmem : name ∈ candidates order exclude) :
      (c.classify s (.text words) order exclude).result = .ok (some name) ↔
        ∀ other ∈ (candidates order exclude).takeWhile (· != name),
          ¬Text.lower other <:+: Text.lower name := by
    rw [hresult order hmem, Except.ok.injEq,
      find?_eq_some_iff_takeWhile hmem (Text.has_self (Text.lower name))]
    simp only [← Text.has_iff_infix, Bool.not_eq_true]
  refine ⟨hresult targets hname, hiff targets hname, ?_, ?_⟩
  · -- a candidate whose name is a part of the name wins when it comes first
    intro hall other hother hne hpart
    obtain ⟨htarget, hkept⟩ := mem_candidates.1 hother
    have hperm : (other :: targets.erase other).Perm targets := (List.perm_cons_erase htarget).symm
    have hmem : name ∈ candidates (other :: targets.erase other) exclude :=
      mem_candidates.2 ⟨hperm.mem_iff.2 (mem_candidates.1 hname).1, (mem_candidates.1 hname).2⟩
    have hfirst : candidates (other :: targets.erase other) exclude =
        other :: candidates (targets.erase other) exclude :=
      List.filter_cons_of_pos (by simpa using hkept)
    have hfound := Except.ok.inj ((hresult _ hmem).symm.trans (hall _ hperm))
    rw [hfirst, List.find?_cons, Text.has_iff_infix.2 hpart] at hfound
    exact hne (Option.some.inj hfound)
  · intro hall order hperm
    have hmem : name ∈ candidates order exclude :=
      mem_candidates.2 ⟨hperm.mem_iff.2 (mem_candidates.1 hname).1, (mem_candidates.1 hname).2⟩
    refine (hiff order hmem).2 fun other hother => ?_
    obtain ⟨htarget, hkept⟩ := mem_candidates.1 ((List.takeWhile_sublist _).subset hother)
    have hother : (other != name) = true := List.mem_takeWhile_imp (p := (· != name)) hother
    exact hall other (mem_candidates.2 ⟨hperm.mem_iff.1 htarget, hkept⟩) (bne_iff_ne.1 hother)

end online

/-- A classifier with a key. -/
def keyed : Classifier := ⟨defaultModel, .text ['k']⟩

/-- A service that replies with a text. -/
def replying (t : Text) : Service :=
  ⟨[.body (.object [("choices".toList, .array [.object [("message".toList,
    .object [("content".toList, .text t)])]])])], .failed []⟩

/-- The longer name comes first, so that the reply is honoured although the other name is a part
of it. -/
theorem classify_exact_iff_longerFirst :
    keyed.isOffline = false ∧
      (keyed.classify (replying " Weekend\n".toList) (.text "saturday".toList)
        ["weekend".toList, "end".toList, "start".toList] ["start".toList]).result =
        .ok (some "weekend".toList) := by
  refine ⟨rfl, ?_⟩
  have hiff := (@classify_exact_iff keyed (replying " Weekend\n".toList)
    ["weekend".toList, "end".toList, "start".toList] ["start".toList] " Weekend\n".toList
    "weekend".toList rfl (by decide) rfl rfl "saturday".toList).2.1
  exact hiff.2 (by decide)

/-- The shorter name comes first, so that a reply that is the longer name is taken for the
shorter. -/
theorem classify_shorterFirst :
    keyed.isOffline = false ∧
      "weekend".toList ∈ candidates ["end".toList, "weekend".toList] [] ∧
      ((candidates ["end".toList, "weekend".toList] []).map Text.lower).Nodup ∧
      (replying "weekend".toList).next.1.content = .ok "weekend".toList ∧
      Text.lower (Text.strip "weekend".toList) = Text.lower "weekend".toList ∧
      (keyed.classify (replying "weekend".toList) (.text "saturday".toList)
        ["end".toList, "weekend".toList] []).result = .ok (some "end".toList) :=
  ⟨rfl, by decide, by decide, rfl, rfl, rfl⟩

end Classifier
end Dialogue
