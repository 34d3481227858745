import Dialogue.Text.Blank
import Dialogue.Text.Lines
import Mathlib.Data.List.DropRight
set_option autoImplicit false

/-!
# Stripped texts and lines

What is left of a text when the blanks at its ends are taken off, and how a text that is written
line by line is cut into its lines again.
-/

namespace Dialogue.Text

/-! ## Blanks at the ends -/

/-- Every end of a line is a blank. -/
theorem isBlank_of_isLineEnd {c : Char} (h : isLineEnd c = true) : isBlank c = true := by
  simp only [isLineEnd, isBlank, Bool.or_eq_true, Bool.and_eq_true, decide_eq_true_eq,
    beq_iff_eq] at h ⊢
  split <;> simp only [Bool.or_eq_true, Bool.and_eq_true, decide_eq_true_eq, beq_iff_eq] <;> omega

theorem stripStart_cons_of_blank {c : Char} (h : isBlank c = true) (t : Text) :
    stripStart (c :: t) = stripStart t :=
  List.dropWhile_cons_of_pos h

theorem stripStart_cons_of_not_blank {c : Char} (h : isBlank c = false) (t : Text) :
    stripStart (c :: t) = c :: t :=
  List.dropWhile_cons_of_neg (by simp [h])

theorem stripEnd_concat_of_blank {c : Char} (h : isBlank c = true) (t : Text) :
    stripEnd (t ++ [c]) = stripEnd t :=
  List.rdropWhile_concat_pos isBlank t c h

theorem stripEnd_concat_of_not_blank {c : Char} (h : isBlank c = false) (t : Text) :
    stripEnd (t ++ [c]) = t ++ [c] :=
  List.rdropWhile_concat_neg isBlank t c (by simp [h])

/-- Blanks are taken off the last part only, unless nothing is left of it. -/
theorem stripEnd_append {t : Text} (h : stripEnd t ≠ []) (front : Text) :
    stripEnd (front ++ t) = front ++ stripEnd t := by
  have hne : (t.reverse.dropWhile isBlank).isEmpty = false := by
    cases hd : t.reverse.dropWhile isBlank with
    | nil => exact absurd (by simp [stripEnd, hd]) h
    | cons c rest => rfl
  simp [stripEnd, List.dropWhile_append, hne]

theorem stripEnd_cons_of_not_blank {c : Char} (h : isBlank c = false) (t : Text) :
    stripEnd (c :: t) = c :: stripEnd t := by
  have key : ∀ r : Text, (r ++ [c]).dropWhile isBlank = r.dropWhile isBlank ++ [c] := by
    intro r
    induction r with
    | nil => simp [h]
    | cons d r ih => by_cases hd : isBlank d <;> simp [hd, ih]
  simp [stripEnd, key]

/-- The two ends can be stripped in either order. -/
theorem stripStart_stripEnd (t : Text) : stripStart (stripEnd t) = stripEnd (stripStart t) := by
  induction t with
  | nil => rfl
  | cons c t ih =>
    cases hc : isBlank c with
    | false =>
      rw [stripEnd_cons_of_not_blank hc, stripStart_cons_of_not_blank hc,
        stripStart_cons_of_not_blank hc, stripEnd_cons_of_not_blank hc]
    | true =>
      rw [stripStart_cons_of_blank hc, ← ih]
      by_cases ht : stripEnd t = []
      · have hall : stripEnd (c :: t) = [] := by
          have hb : ∀ d ∈ t, isBlank d = true := List.rdropWhile_eq_nil_iff.1 ht
          exact List.rdropWhile_eq_nil_iff.2 (by simpa [hc] using hb)
        rw [hall, ht]
      · rw [← List.singleton_append, stripEnd_append ht, List.singleton_append,
          stripStart_cons_of_blank hc]

theorem strip_stripEnd (t : Text) : strip (stripEnd t) = strip t := by
  have hidem : stripEnd (stripEnd (stripStart t)) = stripEnd (stripStart t) :=
    List.rdropWhile_idempotent isBlank (stripStart t)
  rw [strip, stripStart_stripEnd, hidem, strip]

theorem strip_cons_of_blank {c : Char} (h : isBlank c = true) (t : Text) :
    strip (c :: t) = strip t := by
  rw [strip, stripStart_cons_of_blank h, strip]

theorem strip_concat_of_blank {c : Char} (h : isBlank c = true) (t : Text) :
    strip (t ++ [c]) = strip t := by
  rw [← strip_stripEnd (t ++ [c]), stripEnd_concat_of_blank h, strip_stripEnd]

theorem length_strip_le (t : Text) : (strip t).length ≤ t.length := by
  have hend : (strip t).length ≤ (stripStart t).length :=
    (List.rdropWhile_prefix isBlank (stripStart t)).length_le
  have hstart : (stripStart t).length ≤ t.length := (List.dropWhile_suffix isBlank).length_le
  exact hend.trans hstart

/-! ## Solid texts -/

/-- Not empty, and without blanks at its ends. -/
def isSolid (t : Text) : Bool := !t.isEmpty && strip t == t

/-- Not empty, and without blanks. -/
def isName (t : Text) : Bool := !t.isEmpty && t.all fun c => !isBlank c

/-- Without ends of lines. -/
def isOneLine (t : Text) : Bool := t.all fun c => !isLineEnd c

theorem isSolid_iff {t : Text} : isSolid t = true ↔ t ≠ [] ∧ strip t = t := by
  simp [isSolid]

theorem isName_iff {t : Text} : isName t = true ↔ t ≠ [] ∧ ∀ c ∈ t, isBlank c = false := by
  simp [isName]

theorem isOneLine_iff {t : Text} : isOneLine t = true ↔ ∀ c ∈ t, isLineEnd c = false := by
  simp [isOneLine]

@[simp] theorem isOneLine_append (s t : Text) :
    isOneLine (s ++ t) = (isOneLine s && isOneLine t) := by
  simp [isOneLine]

@[simp] theorem isOneLine_cons (c : Char) (t : Text) :
    isOneLine (c :: t) = (!isLineEnd c && isOneLine t) := by
  simp [isOneLine]

theorem isOneLine_of_isName {t : Text} (h : isName t = true) : isOneLine t = true := by
  rw [isOneLine_iff]
  intro c hc
  have hb := (isName_iff.1 h).2 c hc
  cases he : isLineEnd c with
  | false => rfl
  | true => rw [isBlank_of_isLineEnd he] at hb; exact hb

/-- A text that begins and ends with characters that are not blank is left as it is. -/
theorem strip_eq_self {c d : Char} {front back : Text} (hc : isBlank c = false)
    (hd : isBlank d = false) (h : c :: front = back ++ [d]) : strip (c :: front) = c :: front := by
  rw [strip, stripStart_cons_of_not_blank hc, h, stripEnd_concat_of_not_blank hd]

theorem isSolid_of_isName {t : Text} (h : isName t = true) : isSolid t = true := by
  obtain ⟨hne, hall⟩ := isName_iff.1 h
  refine isSolid_iff.2 ⟨hne, ?_⟩
  obtain ⟨c, front, rfl⟩ := List.exists_cons_of_ne_nil hne
  have hlast := List.dropLast_append_getLast hne
  exact strip_eq_self (hall c (by simp)) (hall _ (List.getLast_mem hne)) hlast.symm

/-- The first character of a solid text is not blank. -/
theorem exists_cons_of_isSolid {t : Text} (h : isSolid t = true) :
    ∃ c rest, t = c :: rest ∧ isBlank c = false := by
  obtain ⟨hne, hs⟩ := isSolid_iff.1 h
  obtain ⟨c, rest, rfl⟩ := List.exists_cons_of_ne_nil hne
  refine ⟨c, rest, rfl, ?_⟩
  cases hc : isBlank c with
  | false => rfl
  | true =>
    rw [strip_cons_of_blank hc] at hs
    have hle := length_strip_le rest
    rw [hs, List.length_cons] at hle
    omega

/-- The last character of a solid text is not blank. -/
theorem exists_concat_of_isSolid {t : Text} (h : isSolid t = true) :
    ∃ front d, t = front ++ [d] ∧ isBlank d = false := by
  obtain ⟨hne, hs⟩ := isSolid_iff.1 h
  refine ⟨t.dropLast, t.getLast hne, (List.dropLast_append_getLast hne).symm, ?_⟩
  cases hd : isBlank (t.getLast hne) with
  | false => rfl
  | true =>
    rw [← List.dropLast_append_getLast hne, strip_concat_of_blank hd] at hs
    have hle := length_strip_le t.dropLast
    rw [hs, List.length_append, List.length_singleton] at hle
    omega

/-- Two solid texts with anything between them make a solid text. -/
theorem isSolid_append {s t : Text} (hs : isSolid s = true) (ht : isSolid t = true)
    (middle : Text) : isSolid (s ++ middle ++ t) = true := by
  obtain ⟨c, rest, rfl, hc⟩ := exists_cons_of_isSolid hs
  obtain ⟨back, d, rfl, hd⟩ := exists_concat_of_isSolid ht
  have hends : c :: (rest ++ middle ++ (back ++ [d])) = (c :: rest ++ middle ++ back) ++ [d] := by
    simp
  exact isSolid_iff.2 ⟨by simp, strip_eq_self hc hd hends⟩

/-! ## Lines -/

/-- A line that is written with its end is read as the first line. -/
theorem lines_append_newline {line : Text} (h : isOneLine line = true) (t : Text) :
    lines (line ++ '\n' :: t) = line :: lines t := by
  induction line with
  | nil => simp [lines, isLineEnd]
  | cons c line ih =>
    obtain ⟨hc, hline⟩ : isLineEnd c = false ∧ isOneLine line = true := by simpa using h
    -- a carriage return is an end of a line, so the first characters are no pair of ends
    have hcr : c ≠ '\r' := by rintro rfl; simp [isLineEnd] at hc
    rw [List.cons_append, lines]
    · simp [hc, ih hline, ontoFirst]
    · intro rest hcontra
      exact absurd hcontra hcr

/-- Lines that are written one after another are read as they were written. -/
theorem lines_flatMap {ls : List Text} (h : ∀ line ∈ ls, isOneLine line = true) :
    lines (ls.flatMap fun line => line ++ ['\n']) = ls := by
  induction ls with
  | nil => rfl
  | cons line ls ih =>
    have hline : isOneLine line = true := h line (by simp)
    have hls : ∀ l ∈ ls, isOneLine l = true := fun l hl => h l (by simp [hl])
    rw [List.flatMap_cons, List.append_assoc, List.singleton_append, lines_append_newline hline,
      ih hls]

end Dialogue.Text
