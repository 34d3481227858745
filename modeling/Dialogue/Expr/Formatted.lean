import Dialogue.Expr.Literal
import Dialogue.Expr.Tree
set_option autoImplicit false

/-!
# Formatted texts

The body of a formatted text is cut into literal runs and replacement fields.  A doubled brace
stands for one brace outside of formats.  The expression of a field ends at the first colon,
exclamation mark, equals sign or closing brace outside of brackets and quotes.

Normative source: the expressions that `runtime` parses in `_eval_expr` and `_eval_bool`.
-/

namespace Dialogue.Formatted

/-- The brace that opens a field. -/
def openBrace : Char := '\x7b'

/-- The brace that closes a field. -/
def closeBrace : Char := '\x7d'

/-- Where a literal run stops. -/
inductive Stop where
  /-- At the end of the body. -/
  | finished
  /-- At a brace that opens a field; the text after it follows. -/
  | opens (rest : Text)
  /-- At the brace that closes the field around a format; the text from the brace on follows. -/
  | closes (rest : Text)
  /-- After a doubled brace. -/
  | doubled (rest : Text)

/-- Puts a character in front of a run. -/
def Stop.after (c : Char) (r : Option (Text × Stop)) : Option (Text × Stop) :=
  r.map fun (t, stop) => (c :: t, stop)

/-- A brace in a literal run, with the text after it; `inFormat` says that the run belongs to a
format. -/
def atBrace? (inFormat : Bool) (c : Char) (rest : Text) : Option (Text × Stop) :=
  if !inFormat && rest.head? = some c then some ([c], .doubled (rest.drop 1))
  else if c = openBrace then some ([], .opens rest)
  else if inFormat then some ([], .closes (c :: rest))
  else none

/-- The literal run at the beginning of a body.  Where backslashes escape, the character after one
is passed over, unless it is a brace. -/
def run? (raw inFormat : Bool) : Text → Option (Text × Stop)
  | [] => some ([], .finished)
  | '\\' :: c :: t =>
    if c = openBrace ∨ c = closeBrace then
      (atBrace? inFormat c t).map fun (run, stop) => ('\\' :: run, stop)
    else if raw then Stop.after '\\' (run? raw inFormat (c :: t))
    else Stop.after '\\' (Stop.after c (run? raw inFormat t))
  | c :: t =>
    if c = openBrace ∨ c = closeBrace then atBrace? inFormat c t
    else Stop.after c (run? raw inFormat t)

/-- The bracket that a character opens or closes. -/
def opening? : Char → Option Char
  | ')' => some '('
  | ']' => some '['
  | c => if c = closeBrace then some openBrace else none

/-- Brackets may be nested this deep. -/
def depthLimit : Nat := 200

/-- The expression of a field and the text from the character that ends it.  `skip` characters are
passed over; `quote` is the open quoting mark and whether it is threefold; `opened` holds the open
brackets. -/
def fieldText? (skip : Nat) (quote : Option (Char × Bool)) (opened : Text) :
    Text → Option (Text × Text)
  | [] => none
  | c :: t =>
    let more (skip : Nat) (quote : Option (Char × Bool)) (opened : Text) :=
      (fieldText? skip quote opened t).map fun (e, rest) => (c :: e, rest)
    if c = '\\' then none
    else
      match skip with
      | skip + 1 => more skip quote opened
      | 0 =>
        let threefold := Text.startsWith [c, c] t
        match quote with
        | some (mark, long) =>
          if c = mark then
            if !long then more 0 none opened
            else if threefold then more 2 none opened
            else more 0 quote opened
          else more 0 quote opened
        | none =>
          if c = '"' ∨ c = '\x27' then
            if threefold then more 2 (some (c, true)) opened else more 0 (some (c, false)) opened
          else if c = '(' ∨ c = '[' ∨ c = openBrace then
            if opened.length < depthLimit then more 0 none (c :: opened) else none
          else if c = '#' then none
          else if opened.isEmpty && "!:=<>\x7d".toList.contains c then
            if "!=<>".toList.contains c && t.head? = some '=' then more 1 none opened
            else if c = '<' ∨ c = '>' then more 0 none opened
            else some ([], c :: t)
          else
            match opening? c with
            | none => more 0 none opened
            | some o =>
              match opened with
              | top :: rest => if top = o then more 0 none rest else none
              | [] => none

/-- A part of a formatted text. -/
inductive Part where
  | literal (t : Text)
  | field (e : Expr)

/-- The parts as expressions; neighbouring literals are one, and empty ones are left out.  The
literal at the end has a mark of its own. -/
def assemble (marked lastMarked : Bool) (pending : Text) : List Part → List Expr
  | [] => if pending.isEmpty then [] else [.constant (.text pending) lastMarked]
  | .literal t :: parts => assemble marked lastMarked (pending ++ t) parts
  | .field e :: parts =>
    (if pending.isEmpty then [] else [.constant (.text pending) marked])
      ++ e :: assemble marked lastMarked [] parts

/-- A conversion letter after an exclamation mark, if there is one. -/
def conversion? : Text → Option (Option Char × Text)
  | '!' :: c :: t => if c = 's' ∨ c = 'r' ∨ c = 'a' then some (some c, t) else none
  | ['!'] => none
  | t => some (none, t)

/-- The equals sign that repeats the expression, with the blanks after it. -/
def echo : Text → Option Text × Text
  | '=' :: t => (some ('=' :: t.takeWhile Number.isAsciiBlank), t.dropWhile Number.isAsciiBlank)
  | t => (none, t)

end Dialogue.Formatted
