import Dialogue.Text.Quoted
set_option autoImplicit false

/-!
# Code points

A text consists of characters.  The escapes of some formats can also write one half of a surrogate
pair without the other; a text that may hold such halves is given by its code points.

Normative source: the JSON files that `runtime` (`Engine._exec_actions`) and `cli` (`run_cmd`) read
and write back.
-/

namespace Dialogue.CodePoints

/-- The character of a code point; a surrogate has none. -/
def char? (n : Nat) : Option Char := if n.isValidChar then some (Char.ofNat n) else none

/-- The text of code points, unless a surrogate is among them. -/
def text? : List Nat → Option Text
  | [] => some []
  | n :: codes => do
    let c ← char? n
    let t ← text? codes
    return c :: t

/-- The code points of a text. -/
def ofText (t : Text) : List Nat := t.map Char.toNat

/-- The text of code points, with the replacement character in the place of surrogates. -/
def replaced (codes : List Nat) : Text := codes.map fun n => (char? n).getD '�'

/-- How a code point is written between two marks. -/
def escapedIn (mark : Char) (n : Nat) : Text :=
  match char? n with
  | some c => Text.escapedIn mark c
  | none => '\\' :: 'u' :: Text.hex 4 n

/-- The code points between quoting marks. -/
def quoted (codes : List Nat) : Text :=
  let mark := Text.quoteMark (replaced codes)
  mark :: codes.flatMap (escapedIn mark) ++ [mark]

theorem char?_eq_some_iff {n : Nat} {c : Char} : char? n = some c ↔ n = c.toNat := by
  unfold char?
  split
  · next hvalid =>
    have hcode : (Char.ofNat n).toNat = n := by
      rw [Char.ofNat, dif_pos hvalid]
      rfl
    refine ⟨fun h => ?_, fun h => ?_⟩
    · rw [← Option.some.inj h, hcode]
    · rw [h, Char.ofNat_toNat]
  · next hinvalid =>
    refine iff_of_false (fun h => by cases h) fun h => hinvalid ?_
    rw [h]
    exact c.valid

theorem text?_eq_some_iff {codes : List Nat} {t : Text} :
    text? codes = some t ↔ codes = ofText t := by
  induction codes generalizing t with
  | nil => cases t <;> simp [text?, ofText]
  | cons n codes ih =>
    cases t with
    | nil => simp [text?, ofText, Option.bind_eq_some_iff]
    | cons c t => simp [text?, ofText, Option.bind_eq_some_iff, char?_eq_some_iff, ih]

@[simp] theorem text?_ofText (t : Text) : text? (ofText t) = some t := text?_eq_some_iff.2 rfl

theorem ofText_injective {s t : Text} (h : ofText s = ofText t) : s = t := by
  have hs := text?_ofText s
  rwa [h, text?_ofText, Option.some.injEq, eq_comm] at hs

end Dialogue.CodePoints
