import Dialogue.Text.Basic
set_option autoImplicit false

/-!
# Lines

A text is cut into lines at every line boundary; carriage return and line feed together are one
boundary, and a boundary at the end starts no further line.  `unifyNewlines` is the other reading
of line ends: carriage returns become line feeds and nothing is cut.

Normative source: `parser`, the lines of `parse`; `unifyNewlines` is how `runtime`, `cli`, `webapp`
and `llm_agent` read text files.
-/

namespace Dialogue.Text

/-- A character that ends a line. -/
def isLineEnd (c : Char) : Bool :=
  let n := c.toNat
  (10 ≤ n && n ≤ 13) || (28 ≤ n && n ≤ 30) || n == 0x85 || n == 0x2028 || n == 0x2029

/-- Puts a character in front of the first of some lines. -/
def ontoFirst (c : Char) : List Text → List Text
  | [] => [[c]]
  | l :: ls => (c :: l) :: ls

/-- The lines of a text, without their ends. -/
def lines : Text → List Text
  | [] => []
  | '\r' :: '\n' :: t => [] :: lines t
  | c :: t => if isLineEnd c then [] :: lines t else ontoFirst c (lines t)

/-- A carriage return, alone or before a line feed, becomes a line feed. -/
def unifyNewlines : Text → Text
  | [] => []
  | '\r' :: '\n' :: t => '\n' :: unifyNewlines t
  | c :: t => (if c = '\r' then '\n' else c) :: unifyNewlines t

end Dialogue.Text
