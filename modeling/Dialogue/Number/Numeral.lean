import Dialogue.Number.Decimal
import Dialogue.Text.Blank
import Dialogue.Text.Digit
set_option autoImplicit false

/-!
# Numerals

Which texts denote a number, and which number.  A numeral is a decimal with an optional sign,
fraction and exponent, or the name of an infinity or of NaN in any case.  Blanks may stand around
it, its digits may be those of any script, and single underscores may stand between digits.

Normative source: `runtime`, `_coerce_number`, `_to_number_maybe` and `_to_number`.
-/

namespace Dialogue.Number

/-- The value of an optional exponent part, which must be all that is left. -/
def readExponent? : Text → Option Int
  | [] => some 0
  | c :: t =>
    if c = 'e' ∨ c = 'E' then
      let (negative, digits) :=
        match t with
        | '-' :: r => (true, r)
        | '+' :: r => (false, r)
        | r => (false, r)
      if !digits.isEmpty && digits.all Char.isDigit then
        let e : Int := Text.decimalValue digits
        some (if negative then -e else e)
      else none
    else none

/-- A decimal without sign: digits with at most one point, and an optional exponent. -/
def readDecimal? (t : Text) : Option Decimal :=
  let whole := t.takeWhile Char.isDigit
  let rest := t.dropWhile Char.isDigit
  let (fraction, rest) :=
    match rest with
    | '.' :: r => (r.takeWhile Char.isDigit, r.dropWhile Char.isDigit)
    | r => ([], r)
  if whole.isEmpty && fraction.isEmpty then none
  else
    (readExponent? rest).map fun e => ⟨Text.decimalValue (whole ++ fraction), e - fraction.length⟩

/-- A number without sign. -/
def readUnsigned? (t : Text) : Option Float :=
  let low := t.map Char.toLower
  if low = "inf".toList ∨ low = "infinity".toList then some (1.0 / 0.0)
  else if low = "nan".toList then some (0.0 / 0.0)
  else (readDecimal? t).map Decimal.toFloat

/-- A number with an optional sign. -/
def readSigned? : Text → Option Float
  | '-' :: t => (readUnsigned? t).map fun x => -x
  | '+' :: t => readUnsigned? t
  | t => readUnsigned? t

/-- Leaves out underscores, each of which must stand between two digits; `last` is the character
before the text. -/
def dropUnderscores? (last : Option Char) : Text → Option Text
  | [] => if last = some '_' then none else some []
  | c :: t =>
    if c = '_' then
      if (last.map Char.isDigit).getD false then dropUnderscores? (some c) t else none
    else if last = some '_' ∧ ¬ c.isDigit then none
    else (dropUnderscores? (some c) t).map (c :: ·)

/-- A blank of ASCII; the information separators are not among them. -/
def isAsciiBlank (c : Char) : Bool := c == ' ' || (9 ≤ c.toNat && c.toNat ≤ 13)

/-- Without the blanks of ASCII at its two ends. -/
def trimAscii (t : Text) : Text :=
  ((t.dropWhile isAsciiBlank).reverse.dropWhile isAsciiBlank).reverse

/-- A text of ASCII characters as a number. -/
def readAscii? (t : Text) : Option Float :=
  (dropUnderscores? none t).bind fun plain => readSigned? (trimAscii plain)

/-- The character of ASCII that a character counts as in a numeral: a digit of any script counts
as that digit, a blank as a space. -/
def numeralChar? (c : Char) : Option Char :=
  if c.toNat < 0x80 then some c
  else if Text.isBlank c then some ' '
  else (Text.digitValue? c).map Nat.digitChar

/-- The number that a text denotes. -/
def read? (t : Text) : Option Float := (t.mapM numeralChar?).bind readAscii?

end Dialogue.Number
