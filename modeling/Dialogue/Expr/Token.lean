import Dialogue.Text.Identifier
import Dialogue.Value
set_option autoImplicit false

/-!
# Tokens of expressions

Names, keywords, symbols and literals.  A name is kept in its normal form and a number as its
value; a text literal keeps its decoded content, or its body if it is formatted.

Normative source: the expressions that `runtime` parses in `_eval_expr` and `_eval_bool`.
-/

namespace Dialogue

/-- A word with a meaning of its own; `reserved` stands for those that begin no expression. -/
inductive Keyword where
  | and | or | not | in_ | is | if_ | else_ | for_ | lambda | yield | from_ | async | await
  | true | false | none | reserved
  deriving DecidableEq, Repr

/-- An operator or delimiter; `other` stands for those that occur in no expression. -/
inductive Symbol where
  | openParen | closeParen | openBracket | closeBracket | openBrace | closeBrace
  | comma | colon | dot | dots | equals | walrus
  | plus | minus | star | slash | doubleSlash | percent | at_ | doubleStar
  | shiftLeft | shiftRight | ampersand | bar | caret | tilde
  | less | lessEq | greater | greaterEq | doubleEquals | notEquals
  | other
  deriving DecidableEq, Repr

/-- The content of a text literal. -/
inductive Quotation where
  | text (t : Text)
  | bytes (bs : List UInt8)
  /-- A formatted text: its body, and whether backslashes stand for themselves. -/
  | formatted (raw : Bool) (body : Text)

/-- A token. -/
inductive Token where
  | name (id : Text)
  | keyword (k : Keyword)
  | symbol (s : Symbol)
  | number (v : Value)
  /-- A text literal, and whether it is marked with the letter u. -/
  | quotation (q : Quotation) (marked : Bool)
  | newline

namespace Token

/-- The words that are keywords. -/
def keywords : List (String × Keyword) := [
  ("and", .and), ("or", .or), ("not", .not), ("in", .in_), ("is", .is), ("if", .if_),
  ("else", .else_), ("for", .for_), ("lambda", .lambda), ("yield", .yield), ("from", .from_),
  ("async", .async), ("await", .await), ("True", .true), ("False", .false), ("None", .none),
  ("as", .reserved), ("assert", .reserved), ("break", .reserved), ("class", .reserved),
  ("continue", .reserved), ("def", .reserved), ("del", .reserved), ("elif", .reserved),
  ("except", .reserved), ("finally", .reserved), ("global", .reserved), ("import", .reserved),
  ("nonlocal", .reserved), ("pass", .reserved), ("raise", .reserved), ("return", .reserved),
  ("try", .reserved), ("while", .reserved), ("with", .reserved)]

/-- The keyword that a word is. -/
def keyword? (word : Text) : Option Keyword :=
  (keywords.find? fun (w, _) => w.toList = word).map Prod.snd

/-- Symbols, each before those that are its beginning. -/
def symbols : List (String × Symbol) := [
  ("**=", .other), ("//=", .other), ("<<=", .other), (">>=", .other), ("...", .dots),
  ("!=", .notEquals), ("%=", .other), ("&=", .other), ("**", .doubleStar), ("*=", .other),
  ("+=", .other), ("-=", .other), ("->", .other), ("//", .doubleSlash), ("/=", .other),
  (":=", .walrus), ("<<", .shiftLeft), ("<=", .lessEq), ("<>", .other), ("==", .doubleEquals),
  (">=", .greaterEq), (">>", .shiftRight), ("@=", .other), ("^=", .other), ("|=", .other),
  ("%", .percent), ("&", .ampersand), ("(", .openParen), (")", .closeParen), ("*", .star),
  ("+", .plus), (",", .comma), ("-", .minus), (".", .dot), ("/", .slash), (":", .colon),
  (";", .other), ("<", .less), ("=", .equals), (">", .greater), ("@", .at_), ("[", .openBracket),
  ("]", .closeBracket), ("^", .caret), ("\x7b", .openBrace), ("|", .bar), ("\x7d", .closeBrace),
  ("~", .tilde)]

/-- The symbol at the beginning of a text, and what follows it. -/
def symbol? (t : Text) : Option (Symbol × Text) :=
  symbols.findSome? fun (spelling, s) => (Text.after? spelling.toList t).map fun rest => (s, rest)

end Token
end Dialogue
