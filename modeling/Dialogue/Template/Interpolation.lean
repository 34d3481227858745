import Dialogue.Template.Pipeline
set_option autoImplicit false

/-!
# Interpolation

A reply may hold tags: a pipeline between doubled braces.  The text is cut into segments first, and
the segments are then rendered one by one.  A tag ends at the first closing braces, and between its
blanks there is no line end; anything else between braces stands for itself.

Normative source: `runtime`, `_interpolate` and `_VAR_TAG_RE`.
-/

namespace Dialogue

/-- A segment of a template. -/
inductive Segment where
  | char (c : Char)
  /-- A tag with what stands in it. -/
  | tag (inner : Text)
  deriving DecidableEq, Repr

namespace Segment

/-- The doubled brace that opens a tag. -/
def opening : Text := ['\x7b', '\x7b']

/-- The doubled brace that closes a tag. -/
def closing : Text := ['\x7d', '\x7d']

/-- The number of blanks at the beginning. -/
def blanks (t : Text) : Nat := (t.takeWhile Text.isBlank).length

/-- The text up to the first closing braces, and how many characters there are through them; blanks
before the braces do not belong to it. -/
def inner? : Text → Option (Text × Nat)
  | [] => none
  | c :: t =>
    if Text.startsWith closing (Text.stripStart (c :: t)) then some ([], blanks (c :: t) + 2)
    else if c = '\n' then none
    else (inner? t).map fun (inner, used) => (c :: inner, used + 1)

/-- The tag at the beginning of a text, and its number of characters. -/
def tag? (t : Text) : Option (Text × Nat) :=
  match Text.after? opening t with
  | none => none
  | some r => (inner? (Text.stripStart r)).map fun (inner, used) => (inner, blanks r + used + 2)

/-- The segments of a text, where `skip` characters belong to a tag that has been found. -/
def cut (skip : Nat) : Text → List Segment
  | [] => []
  | c :: t =>
    match skip with
    | skip + 1 => cut skip t
    | 0 =>
      match tag? (c :: t) with
      | some (inner, used) => .tag inner :: cut (used - 1) t
      | none => .char c :: cut 0 t

/-- The text of a segment. -/
def render (ctx : Context) : Segment → Except EvalFault Text
  | .char c => .ok [c]
  | .tag inner => (Pipeline.parse inner).eval ctx

/-- The text of segments. -/
def renderAll (ctx : Context) : List Segment → Except EvalFault Text
  | [] => .ok []
  | s :: rest => do
    let t ← s.render ctx
    let ts ← renderAll ctx rest
    return t ++ ts

end Segment

/-- A text with its tags filled in. -/
def Text.interpolate (ctx : Context) (t : Text) : Except EvalFault Text :=
  Segment.renderAll ctx (Segment.cut 0 t)

end Dialogue
