import Dialogue.Text.Basic
set_option autoImplicit false

/-!
# Terminal styles

Sequences that change the style of a terminal, and texts without them.

Normative source: `cli`, the lines that `click` echoes.
-/

namespace Dialogue.Text

/-- The character can be a parameter of a style sequence. -/
def isStyleParameter (c : Char) : Bool := c.isDigit || c == ';' || c == '?'

/-- The number of characters of a style sequence after its escape character, if the text begins with
one: a bracket, parameters and a letter. -/
def styleLength? (t : Text) : Option Nat :=
  match t with
  | '[' :: rest =>
    match rest.dropWhile isStyleParameter with
    | c :: _ => if c.isAlpha then some ((rest.takeWhile isStyleParameter).length + 2) else none
    | [] => none
  | _ => none

/-- The text without style sequences, where the first characters are passed over. -/
def unstyledAfter : Nat → Text → Text
  | _, [] => []
  | skip + 1, _ :: t => unstyledAfter skip t
  | 0, c :: t =>
    if c = '\x1b' then
      match styleLength? t with
      | some n => unstyledAfter n t
      | none => c :: unstyledAfter 0 t
    else c :: unstyledAfter 0 t

/-- The text without style sequences. -/
def unstyled (t : Text) : Text := unstyledAfter 0 t

end Dialogue.Text
