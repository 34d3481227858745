import Dialogue.Text.CaseTable
set_option autoImplicit false

/-!
# Upper case, lower case and title case

Case mapping of whole texts.  A character may become several, and the lower case of the capital
sigma depends on its place: at the end of a word it has a form of its own.  Title case writes the
first cased character of each word in its title form and the following ones in lower case, where
every character without case separates words.

Normative source: `runtime`, `_apply_filter`, `_fn_upper`, `_fn_lower` and `_fn_title`; `llm_agent`,
`classify_intent`.
-/

namespace Dialogue.Text

/-- The image of a code point under the rows of a table, if one covers it. -/
def shifted? (rows : List CaseRow) (n : Nat) : Option Char :=
  (rows.find? (·.covers n)).map fun r => Char.ofNat (Int.toNat (n + r.shift))

/-- The listed image of a code point. -/
def listed? (table : List (Nat × List Nat)) (n : Nat) : Option Text :=
  (table.lookup n).map fun image => image.map Char.ofNat

/-- The upper case of one character. -/
def upperOf (c : Char) : Text :=
  if c.toNat < 0x80 then [c.toUpper]
  else
    match listed? upperExpansions c.toNat with
    | some image => image
    | none => [(shifted? upperRows c.toNat).getD c]

/-- The lower case of one character, wherever it stands. -/
def lowerOf (c : Char) : Text :=
  if c.toNat < 0x80 then [c.toLower]
  else
    match listed? lowerExpansions c.toNat with
    | some image => image
    | none => [(shifted? lowerRows c.toNat).getD c]

/-- The form of one character at the beginning of a word. -/
def titleOf (c : Char) : Text :=
  if c.toNat < 0x80 then [c.toUpper]
  else
    match listed? titleForms c.toNat with
    | some image => image
    | none => upperOf c

/-- The character has case. -/
def isCased (c : Char) : Bool :=
  if c.toNat < 0x80 then c.isAlpha else casedRanges.has c.toNat

/-- The character is looked through when the end of a word is sought. -/
def isCaseIgnorable (c : Char) : Bool :=
  if c.toNat < 0x80 then c == '\x27' || c == '.' || c == ':' || c == '^' || c == '\x60'
  else caseIgnorableRanges.has c.toNat

/-- The next character that is not looked through has case. -/
def meetsCased (t : Text) : Bool :=
  match t.dropWhile isCaseIgnorable with
  | [] => false
  | c :: _ => isCased c

/-- The lower case of a character between the text before it, last character first, and the text
after it. -/
def lowerBetween (passed : Text) (c : Char) (rest : Text) : Text :=
  if c.toNat = 0x3A3 then
    [Char.ofNat (if meetsCased passed && !meetsCased rest then 0x3C2 else 0x3C3)]
  else lowerOf c

/-- The lower case of a text that follows the characters `passed`, last character first. -/
def lowerAfter (passed : Text) : Text → Text
  | [] => []
  | c :: t => lowerBetween passed c t ++ lowerAfter (c :: passed) t

/-- The text in lower case. -/
def lower (t : Text) : Text := lowerAfter [] t

/-- The text in upper case. -/
def upper (t : Text) : Text := t.flatMap upperOf

/-- The title case of a text that follows the characters `passed`, last character first. -/
def titleAfter (passed : Text) : Text → Text
  | [] => []
  | c :: t =>
    (if (passed.head?.map isCased).getD false then lowerBetween passed c t else titleOf c)
      ++ titleAfter (c :: passed) t

/-- The text in title case. -/
def title (t : Text) : Text := titleAfter [] t

end Dialogue.Text
