import Dialogue.Expr.Literal
import Dialogue.Text.Compatibility
import Dialogue.Text.Lines
set_option autoImplicit false

/-!
# Cutting an expression into tokens

Blanks, comments and continued lines separate tokens.  Line ends count only outside brackets, and
there a line must not be indented.  Brackets have to match.

Normative source: the expressions that `runtime` parses in `_eval_expr` and `_eval_bool`.
-/

namespace Dialogue.Lexer

/-- The indentation at the beginning of a line, and the line without it.  A backslash at the line
end continues the line, and then the first indentation that is not zero counts. -/
def indentation? (column first : Nat) : Text → Option (Nat × Text)
  | ' ' :: t => indentation? (column + 1) first t
  | '\t' :: t => indentation? ((column / 8 + 1) * 8) first t
  | '\x0c' :: t => indentation? 0 first t
  | '\\' :: '\n' :: c :: t => indentation? column (if first = 0 then column else first) (c :: t)
  | '\\' :: _ => none
  | t => some (if first = 0 then column else first, t)

/-- The rest of a line after a comment. -/
def skipComment (t : Text) : Text := t.dropWhile (· != '\n')

/-- The bracket that a closing bracket closes. -/
def opener? : Symbol → Option Symbol
  | .closeParen => some .openParen
  | .closeBracket => some .openBracket
  | .closeBrace => some .openBrace
  | _ => none

/-- Brackets may be nested this deep. -/
def depthLimit : Nat := 200

/-- The open brackets after a symbol, innermost first; none if brackets do not match. -/
def bracketsAfter? (s : Symbol) (opened : List Symbol) : Option (List Symbol) :=
  match s with
  | .openParen | .openBracket | .openBrace =>
    if opened.length < depthLimit then some (s :: opened) else none
  | .closeParen | .closeBracket | .closeBrace =>
    match opened with
    | o :: rest => if opener? s = some o then some rest else none
    | [] => none
  | _ => some opened

/-- The token that a word is. -/
def wordToken? (word : Text) : Option Token :=
  match Token.keyword? word with
  | some k => some (.keyword k)
  | none => if Text.isIdentifier word then some (.name (Text.compatible word)) else none

/-- The name, keyword or marked literal at the beginning of a text that begins with a word. -/
def word? (t : Text) : Option (Token × Text) :=
  let word := t.takeWhile Literal.isWordPart
  let rest := t.dropWhile Literal.isWordPart
  let quotes := rest.head? = some '"' || rest.head? = some '\x27'
  match if quotes then Literal.marks? word else none with
  | some m => Literal.quotation? m rest
  | none => (wordToken? word).map fun token => (token, rest)

/-- The name, keyword, number or literal at the beginning of a text; `none` if a symbol stands
there, and an inner `none` if the token is malformed. -/
def operand? (t : Text) : Option (Option (Token × Text)) :=
  match t with
  | [] => none
  | c :: r =>
    if Literal.isWordStart c then some (word? t)
    else if c = '"' ∨ c = '\x27' then some (Literal.quotation? ⟨false, false, false, false⟩ t)
    else if c.isDigit || (c == '.' && (r.head?.map Char.isDigit).getD false) then
      some ((Literal.number? t).map fun (v, rest) => (.number v, rest))
    else none

/-- Cuts a text into tokens.  `fresh` says that a line begins here, and `opened` holds the open
brackets.  Every step takes at least one character, so the length of the text bounds the steps. -/
def tokens? : (steps : Nat) → (opened : List Symbol) → (fresh : Bool) → Text → Option (List Token)
  | 0, _, _, _ => none
  | steps + 1, opened, true, t => do
    let (column, t) ← indentation? 0 0 t
    match t with
    | '#' :: _ => tokens? steps opened true (skipBlankLine t)
    | '\n' :: r => tokens? steps opened true r
    | _ => if opened.isEmpty && column != 0 then none else tokens? steps opened false t
  | steps + 1, opened, false, t =>
    match t with
    | [] => if opened.isEmpty then some [] else none
    | '\n' :: r =>
      if opened.isEmpty then (tokens? steps opened true r).map (.newline :: ·)
      else tokens? steps opened true r
    | '#' :: r => tokens? steps opened false (skipComment r)
    | '\\' :: '\n' :: c :: r => tokens? steps opened false (c :: r)
    | '\\' :: _ => none
    | c :: r =>
      if c = ' ' ∨ c = '\t' ∨ c = '\x0c' then tokens? steps opened false r
      else
        match operand? t with
        | some found => do
          let (token, rest) ← found
          let more ← tokens? steps opened false rest
          return token :: more
        | none => do
          let (s, rest) ← Token.symbol? t
          let opened ← bracketsAfter? s opened
          let more ← tokens? steps opened false rest
          return .symbol s :: more
where
  /-- What follows a line that holds only a comment; its line end counts for nothing. -/
  skipBlankLine (t : Text) : Text := (skipComment t).drop 1

/-- The tokens of an expression; none if it has a malformed token. -/
def lex? (t : Text) : Option (List Token) :=
  if t.contains '\x00' then none
  else
    let t := Text.unifyNewlines t
    tokens? (2 * t.length + 2) [] true t

end Dialogue.Lexer
