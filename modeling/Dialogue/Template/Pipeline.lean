import Dialogue.Expr.Eval
import Dialogue.Text.Word
set_option autoImplicit false

/-!
# Pipelines

A pipeline names a variable and the filters that its value passes through, divided by bars:
`name | trim | default: "guest"`.  Bars inside quotes belong to an argument, and a backslash keeps
the next character from having a meaning.  What is not a filter is passed over.

Normative source: `runtime`, `_parse_pipeline`, `_unescape_filter_arg` and `_apply_filter`.
-/

namespace Dialogue

/-- A filter as it is written: its name and its argument. -/
structure FilterCall where
  name : Text
  arg : Option Text
  deriving DecidableEq, Repr

/-- A variable and the filters on its value. -/
structure Pipeline where
  source : Text
  filters : List FilterCall
  deriving DecidableEq, Repr

namespace FilterCall

/-- Escaped quotes become quotes, then doubled backslashes become single ones. -/
def unescape (t : Text) : Text :=
  Text.replacePair '\\' '\\' '\\' (Text.replacePair '\\' '"' '"' t)

/-- Every quote is directly after a backslash; `escaped` says that a backslash stands before the
text. -/
def quotesEscaped (escaped : Bool) : Text → Bool
  | [] => true
  | c :: t => (c != '"' || escaped) && quotesEscaped (c == '\\') t

/-- A quoted argument: what stands between the first and the last character, if these are quotes
and every quote between them is escaped. -/
def argument? : Text → Option Text
  | '"' :: t =>
    match t.getLast? with
    | some '"' => if quotesEscaped false t.dropLast then some t.dropLast else none
    | _ => none
  | _ => none

/-- A filter: a name, and optionally a colon and a quoted argument. -/
def parse? (t : Text) : Option FilterCall :=
  match t with
  | [] => none
  | c :: r =>
    if c.isAlpha || c == '_' then
      let name := c :: r.takeWhile Text.isWordChar
      match Text.strip (r.dropWhile Text.isWordChar) with
      | [] => some ⟨name, none⟩
      | ':' :: a => (argument? (Text.stripStart a)).map fun x => ⟨name, some (unescape x)⟩
      | _ => none
    else none

/-- The text of a value after a filter; the name counts in any case, and an unknown filter changes
nothing. -/
def apply (f : FilterCall) (v : Value) : Except EvalFault Text := do
  let s ←
    match v with
    | .none => .ok []
    | v => v.shown
  let name := Text.lower f.name
  if name = "upper".toList then return Text.upper s
  else if name = "lower".toList then return Text.lower s
  else if name = "title".toList then return Text.title s
  else if name = "trim".toList then return Text.strip s
  else if name = "default".toList then return if s.isEmpty then f.arg.getD [] else s
  else return s

end FilterCall

namespace Pipeline

/-- The parts between the bars that stand outside of quotes.  There is always a first part. -/
def cutAtBars (inQuotes escaped : Bool) : Text → List Text
  | [] => [[]]
  | c :: t =>
    let keep (inQuotes escaped : Bool) :=
      match cutAtBars inQuotes escaped t with
      | [] => [[c]]
      | part :: parts => (c :: part) :: parts
    if escaped then keep inQuotes false
    else if c = '\\' then keep inQuotes true
    else if c = '"' then keep (!inQuotes) false
    else if c = '|' && !inQuotes then [] :: cutAtBars inQuotes false t
    else keep inQuotes false

/-- Without an empty part at the end. -/
def dropEmptyEnd (parts : List Text) : List Text :=
  if parts.getLast? = some [] then parts.dropLast else parts

/-- The pipeline that a text writes. -/
def parse (t : Text) : Pipeline :=
  match (dropEmptyEnd (cutAtBars false false t)).map Text.strip with
  | [] => ⟨[], []⟩
  | source :: segments => ⟨source, segments.filterMap FilterCall.parse?⟩

/-- The value after the filters. -/
def filtered (filters : List FilterCall) (v : Value) : Except EvalFault Value :=
  match filters with
  | [] => .ok v
  | f :: fs => do
    let t ← f.apply v
    filtered fs (.text t)

/-- The text that a pipeline yields: that of the variable after the filters, where an unset
variable is empty. -/
def eval (ctx : Context) (p : Pipeline) : Except EvalFault Text := do
  let v ← filtered p.filters ((Assoc.get? p.source ctx).getD (.text []))
  match v with
  | .none => return []
  | v => v.shown

end Pipeline
end Dialogue
