import Dialogue.Text.Basic
set_option autoImplicit false

/-!
# Similar texts

How much two texts have in common: the longest run of characters that both contain, and then the
same for what stands before it and after it.

Normative source: `cli`, the options that `click` suggests for a misspelt one.
-/

namespace Dialogue.Text

/-- The number of characters with which both texts begin. -/
def commonStart : Text → Text → Nat
  | a :: s, b :: t => if a = b then commonStart s t + 1 else 0
  | _, _ => 0

/-- A run of characters that two texts share: where it begins in each, and its length. -/
structure SharedRun where
  left : Nat
  right : Nat
  length : Nat

/-- All runs that two texts share, by their beginnings. -/
def sharedRuns (s t : Text) : List SharedRun :=
  (List.range s.length).flatMap fun i =>
    (List.range t.length).map fun j => ⟨i, j, commonStart (s.drop i) (t.drop j)⟩

/-- The first longest run that two texts share. -/
def longestRun (s t : Text) : SharedRun :=
  (sharedRuns s t).foldl (fun best r => if best.length < r.length then r else best) ⟨0, 0, 0⟩

/-- The number of characters in common; the first number bounds how often the texts are cut. -/
def matchedWithin : Nat → Text → Text → Nat
  | 0, _, _ => 0
  | n + 1, s, t =>
    let r := longestRun s t
    if r.length = 0 then 0
    else
      matchedWithin n (s.take r.left) (t.take r.right) + r.length
        + matchedWithin n (s.drop (r.left + r.length)) (t.drop (r.right + r.length))

/-- The number of characters that two texts have in common. -/
def matched (s t : Text) : Nat := matchedWithin s.length s t

/-- A text with its likeness to another: twice the common characters, out of all characters. -/
structure Likeness where
  text : Text
  common : Nat
  total : Nat

/-- The likeness of a text to a word. -/
def likeness (word t : Text) : Likeness := ⟨t, 2 * matched t word, t.length + word.length⟩

/-- The text is alike enough: at least three fifths. -/
def Likeness.isClose (l : Likeness) : Bool := 3 * l.total ≤ 5 * l.common

/-- The first text is more alike; of two alike, the later in order. -/
def Likeness.above (l m : Likeness) : Bool :=
  if l.common * m.total = m.common * l.total then !before l.text m.text
  else m.common * l.total < l.common * m.total

/-- The texts that are most like a word, at most three, in order. -/
def mostLike (word : Text) (ts : List Text) : List Text :=
  let close := (ts.map (likeness word)).filter Likeness.isClose
  let best := (close.mergeSort Likeness.above).take 3
  (best.map Likeness.text).mergeSort fun s t => !before t s

end Dialogue.Text
