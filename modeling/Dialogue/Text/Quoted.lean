import Dialogue.Text.Printable
set_option autoImplicit false

/-!
# Quoted texts

A quoted text stands between apostrophes, or between quotation marks if it holds an apostrophe and
no quotation mark.  The quoting mark and the backslash are escaped by a backslash, and so are
characters that are not printable: the tabulator and the line ends by a letter, all others by their
code.  Bytes are quoted by the same rule with a `b` in front; there every byte beyond ASCII is
escaped.

Normative source: the candidates in the question of `llm_agent` (`classify_intent`), the refused
constructs of `runtime` (`_eval_value_node`) and the texts of arrays and objects that `runtime`
(`Engine._exec_actions`) and `cli` (`run_cmd`) load.
-/

namespace Dialogue.Text

/-- The mark that quotes a text: the apostrophe unless it occurs and the quotation mark does not. -/
def quoteMark (t : Text) : Char :=
  if t.contains '\x27' && !t.contains '"' then '"' else '\x27'

/-- How one character is written between two marks. -/
def escapedIn (mark c : Char) : Text :=
  if c = mark ∨ c = '\\' then ['\\', c]
  else if c = '\t' then ['\\', 't']
  else if c = '\n' then ['\\', 'n']
  else if c = '\r' then ['\\', 'r']
  else if isPrintable c then [c]
  else if c.toNat < 0x100 then '\\' :: 'x' :: hex 2 c.toNat
  else if c.toNat < 0x10000 then '\\' :: 'u' :: hex 4 c.toNat
  else '\\' :: 'U' :: hex 8 c.toNat

/-- The text between quoting marks. -/
def quoted (t : Text) : Text :=
  let mark := quoteMark t
  mark :: t.flatMap (escapedIn mark) ++ [mark]

/-- How one byte is written between two marks. -/
def escapedByteIn (mark : Char) (b : UInt8) : Text :=
  if b.toNat < 0x80 then escapedIn mark (Char.ofNat b.toNat) else '\\' :: 'x' :: hex 2 b.toNat

/-- Bytes between quoting marks. -/
def quotedBytes (bytes : List UInt8) : Text :=
  let mark := quoteMark (bytes.map fun b => Char.ofNat b.toNat)
  'b' :: mark :: bytes.flatMap (escapedByteIn mark) ++ [mark]

/-- Quoted texts in brackets, divided by commas. -/
def quotedList (ts : List Text) : Text :=
  '[' :: joinWith [',', ' '] (ts.map quoted) ++ [']']

end Dialogue.Text
