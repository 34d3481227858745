import Dialogue.Template.Pipeline
set_option autoImplicit false

/-!
# Writing pipelines

A pipeline as text: the variable and its filters, divided by bars, with arguments in quotes.

Normative source: the pipelines that `runtime` accepts in `_parse_pipeline`; the source has no
printer.
-/

namespace Dialogue

namespace FilterCall

/-- A character of an argument between quotes: backslashes are doubled, quotes follow a backslash.
-/
def escapeChar (c : Char) : Text :=
  if c = '\\' then ['\\', '\\'] else if c = '"' then ['\\', '"'] else [c]

/-- An argument between quotes. -/
def escape (t : Text) : Text := t.flatMap escapeChar

/-- A filter as text. -/
def print (f : FilterCall) : Text :=
  match f.arg with
  | none => f.name
  | some a => f.name ++ ':' :: '"' :: escape a ++ ['"']

end FilterCall

/-- A pipeline as text. -/
def Pipeline.print (p : Pipeline) : Text :=
  Text.joinWith " | ".toList (p.source :: p.filters.map FilterCall.print)

end Dialogue
