set_option autoImplicit false

/-!
# Texts

A text is a list of characters.  Every text of the library -- script lines, variable values,
expressions, file contents -- has this type, so that a rule about text is a recursion over a list.
This module holds what the other modules need of lists of characters: removing a known beginning,
cutting at the first occurrence of a separator, replacing, and the order by code point.

Normative source: the strings of all components.

Deviation, disclosed: a string of the source can also hold half of a surrogate pair, which comes
from an escape in JSON or in an expression.  JSON values keep such a half (`Text.CodePoints`); in a
text U+FFFD takes its place.
-/

namespace Dialogue

/-- A text: its characters in reading order. -/
abbrev Text : Type := List Char

namespace Text

/-- What follows `start` in a text that begins with it. -/
def after? : (start t : Text) → Option Text
  | [], t => some t
  | _ :: _, [] => none
  | a :: start, c :: t => if a = c then after? start t else none

theorem after?_append (start t : Text) : after? start (start ++ t) = some t := by
  induction start with
  | nil => cases t <;> rfl
  | cons a start ih => simp [after?, ih]

theorem eq_append_of_after? {start t rest : Text} (h : after? start t = some rest) :
    t = start ++ rest := by
  induction start generalizing t with
  | nil => cases t <;> simp_all [after?]
  | cons a start ih =>
    cases t with
    | nil => simp [after?] at h
    | cons c t =>
      simp only [after?] at h
      split at h
      · next hac => subst hac; simp [ih h]
      · simp at h

/-- The text begins with `start`. -/
def startsWith (start t : Text) : Bool := (after? start t).isSome

theorem startsWith_iff {start t : Text} :
    startsWith start t = true ↔ ∃ rest, t = start ++ rest := by
  constructor
  · intro h
    obtain ⟨rest, hr⟩ := Option.isSome_iff_exists.1 h
    exact ⟨rest, eq_append_of_after? hr⟩
  · rintro ⟨rest, rfl⟩
    simp [startsWith, after?_append]

/-- The two sides of the first occurrence of `sep`. -/
def cutAt? (sep : Text) : Text → Option (Text × Text)
  | [] => (after? sep []).map fun rest => ([], rest)
  | c :: t =>
    match after? sep (c :: t) with
    | some rest => some ([], rest)
    | none => (cutAt? sep t).map fun (before, rest) => (c :: before, rest)

theorem eq_append_of_cutAt? {sep t before rest : Text} (h : cutAt? sep t = some (before, rest)) :
    t = before ++ sep ++ rest := by
  induction t generalizing before with
  | nil =>
    obtain ⟨r, hr, he⟩ := Option.map_eq_some_iff.1 h
    cases he
    simpa using eq_append_of_after? hr
  | cons c t ih =>
    simp only [cutAt?] at h
    split at h
    · next rest' hr =>
      cases h
      simpa using eq_append_of_after? hr
    · obtain ⟨⟨b, r⟩, hr, he⟩ := Option.map_eq_some_iff.1 h
      cases he
      simp [ih hr]

/-- `part` stands somewhere in the text. -/
def has (part t : Text) : Bool := (cutAt? part t).isSome

/-- Replaces the two characters `a b`, found from left to right, by `c`. -/
def replacePair (a b c : Char) : Text → Text
  | [] => []
  | [x] => [x]
  | x :: y :: t =>
    if x = a ∧ y = b then c :: replacePair a b c t else x :: replacePair a b c (y :: t)

/-- `t` with `sep` between its parts. -/
def joinWith (sep : Text) : List Text → Text
  | [] => []
  | [t] => t
  | t :: ts => t ++ sep ++ joinWith sep ts

/-- Strictly before, comparing code points from the left; a proper beginning comes first. -/
def before : Text → Text → Bool
  | _, [] => false
  | [], _ :: _ => true
  | a :: s, b :: t => a.toNat < b.toNat || (a == b && before s t)

/-- The text of a natural number in base ten. -/
def ofNat (n : Nat) : Text := Nat.toDigits 10 n

/-- The text of an integer in base ten. -/
def ofInt : Int → Text
  | .ofNat n => ofNat n
  | .negSucc n => '-' :: ofNat (n + 1)

/-- One digit of base sixteen, in lower case. -/
def hexDigit (n : Nat) : Char := Nat.digitChar (n % 16)

/-- `width` digits of base sixteen, in lower case. -/
def hex : (width n : Nat) → Text
  | 0, _ => []
  | width + 1, n => hex width (n / 16) ++ [hexDigit n]

/-- The value of a digit of base sixteen, in either case. -/
def hexValue? (c : Char) : Option Nat :=
  if c.isDigit then some (c.toNat - '0'.toNat)
  else if 'a' ≤ c && c ≤ 'f' then some (c.toNat - 'a'.toNat + 10)
  else if 'A' ≤ c && c ≤ 'F' then some (c.toNat - 'A'.toNat + 10)
  else none

/-- The number written by digits of base ten. -/
def decimalValue (digits : Text) : Nat :=
  digits.foldl (fun n c => n * 10 + (c.toNat - '0'.toNat)) 0

end Text
end Dialogue
