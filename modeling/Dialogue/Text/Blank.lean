import Dialogue.Text.Basic
set_option autoImplicit false

/-!
# Blank characters

The characters that surround a text without belonging to it: the ASCII blanks and separators, and
the space, line and paragraph separators of the other scripts.  `strip` takes them off both ends.

Normative source: `parser`, `_unquote` and `parse`; `runtime`, `_apply_filter` and `_fn_trim`.
-/

namespace Dialogue.Text

/-- Blank: whitespace, an information separator, or a space of some script. -/
def isBlank (c : Char) : Bool :=
  let n := c.toNat
  if n < 0x80 then (9 ≤ n && n ≤ 13) || (28 ≤ n && n ≤ 32)
  else n == 0x85 || n == 0xA0 || n == 0x1680 || (0x2000 ≤ n && n ≤ 0x200A) || n == 0x2028 ||
    n == 0x2029 || n == 0x202F || n == 0x205F || n == 0x3000

/-- Without the blanks at its beginning. -/
def stripStart (t : Text) : Text := t.dropWhile isBlank

/-- Without the blanks at its end. -/
def stripEnd (t : Text) : Text := (t.reverse.dropWhile isBlank).reverse

/-- Without the blanks at its two ends. -/
def strip (t : Text) : Text := stripEnd (stripStart t)

@[simp] theorem strip_nil : strip [] = [] := rfl

/-- The first run of characters that are not blank; empty if all are. -/
def firstWord (t : Text) : Text := (stripStart t).takeWhile fun c => !isBlank c

end Dialogue.Text
