import Dialogue.Expr.Eval
set_option autoImplicit false

/-!
# Conditions

Comparison of values and the truth of expressions.  Two values that denote numbers compare as
numbers, any others as texts.  Connectives stop as soon as their truth is known, and so does a
chain of comparisons.

Normative source: `runtime`, `_eval_bool` with `_do_compare`, `_compare`, `_as_numbers`,
`_to_number_maybe` and `_to_number`.
-/

namespace Dialogue

/-- The comparisons of values. -/
inductive Comparison where
  | eq | ne | gt | lt | ge | le
  deriving DecidableEq, Repr

namespace Comparison

/-- The comparison that an operator sign names. -/
def ofSign? (sign : Text) : Option Comparison :=
  if sign = "==".toList then some eq
  else if sign = "!=".toList then some ne
  else if sign = ">".toList then some gt
  else if sign = "<".toList then some lt
  else if sign = ">=".toList then some ge
  else if sign = "<=".toList then some le
  else none

/-- The comparison of two numbers. -/
def ofNumbers (c : Comparison) (x y : Float) : Bool :=
  match c with
  | eq => x == y
  | ne => !(x == y)
  | gt => x > y
  | lt => x < y
  | ge => x ≥ y
  | le => x ≤ y

/-- The comparison of two texts, by code points. -/
def ofTexts (c : Comparison) (s t : Text) : Bool :=
  match c with
  | eq => s == t
  | ne => s != t
  | gt => Text.before t s
  | lt => Text.before s t
  | ge => !Text.before s t
  | le => !Text.before t s

end Comparison

namespace Value

/-- Compares two values under an operator sign. -/
def compareBy (sign : Text) (a b : Value) : Except EvalFault Bool := do
  let x ← a.number?
  let y ← b.number?
  match x, y with
  | some x, some y =>
    match Comparison.ofSign? sign with
    | some c => return c.ofNumbers x y
    | Option.none => .error (.unknownComparison sign)
  | _, _ =>
    let s ← a.shown
    let t ← b.shown
    match Comparison.ofSign? sign with
    | some c => return c.ofTexts s t
    | Option.none => .error (.unknownComparison sign)

end Value

/-- Compares two texts under an operator sign: as numbers if both denote one. -/
def Text.compareBy (sign s t : Text) : Except EvalFault Bool :=
  match Comparison.ofSign? sign with
  | none => .error (.unknownComparison sign)
  | some c =>
    match Number.read? s, Number.read? t with
    | some x, some y => .ok (c.ofNumbers x y)
    | _, _ => .ok (c.ofTexts s t)

/-- Two texts are equal, as numbers if both denote one. -/
def Text.sameAs (s t : Text) : Bool :=
  match Number.read? s, Number.read? t with
  | some x, some y => x == y
  | _, _ => s == t

/-- The sign of a comparison operator that compares values. -/
def CompareOp.sign? : CompareOp → Option Text
  | eq => some "==".toList
  | notEq => some "!=".toList
  | greater => some ">".toList
  | less => some "<".toList
  | greaterEq => some ">=".toList
  | lessEq => some "<=".toList
  | _ => none

namespace Expr

/-- A comparison of a value with the value of the next operand in a chain. -/
def compareValues (op : CompareOp) (a b : Value) : Except EvalFault Bool :=
  match op.sign? with
  | some sign => a.compareBy sign b
  | none => .error .notComparison

/-- The truth of a chain of comparisons that begins with a value. -/
def chainHolds (ctx : Context) (current : Value) :
    List (CompareOp × Expr) → Except EvalFault Bool
  | [] => .ok true
  | (op, e) :: rest => do
    let right ← eval ctx e
    if ← compareValues op current right then chainHolds ctx right rest else return false

/-- The construct has a value whose truth can be taken. -/
def isPlain : Expr → Bool
  | .constant _ _ | .name _ _ | .binary _ _ _ | .unary _ _ | .call _ _ _ => true
  | _ => false

mutual

/-- The truth of an expression. -/
def holds (ctx : Context) : Expr → Except EvalFault Bool
  | .boolOp .and values => allHold ctx values
  | .boolOp .or values => someHolds ctx values
  | .unary .not operand => do
    let b ← holds ctx operand
    return !b
  | .compare left rest => do
    let v ← eval ctx left
    chainHolds ctx v rest
  | e =>
    if e.isPlain then do
      let v ← eval ctx e
      return v.truth
    else .error (refusal .notCondition e)

/-- All conditions hold; stops at the first that does not. -/
def allHold (ctx : Context) : List Expr → Except EvalFault Bool
  | [] => .ok true
  | e :: es => do
    if ← holds ctx e then allHold ctx es else return false

/-- Some condition holds; stops at the first that does. -/
def someHolds (ctx : Context) : List Expr → Except EvalFault Bool
  | [] => .ok false
  | e :: es => do
    if ← holds ctx e then return true else someHolds ctx es

end

/-- The truth of the condition that a text writes. -/
def holdsText (ctx : Context) (t : Text) : Except EvalFault Bool :=
  match Parser.parse? t with
  | some e => holds ctx e
  | none => .error .malformed

end Expr
end Dialogue
