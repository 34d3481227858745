import Dialogue.Expr.Outline
import Dialogue.Expr.Parser
import Dialogue.Text.Case
set_option autoImplicit false

/-!
# Values of expressions

An expression in a script computes with numbers and texts: arithmetic, signs, variables, literals
and calls of the listed functions.  Everything else is refused.

Normative source: `runtime`, `_eval_value_node` with `_eval_expr`, `_coerce_number` and the
functions of `_FUNC_WHITELIST`.
-/

namespace Dialogue

namespace Value

/-- The text of a value. -/
def shown (v : Value) : Except EvalFault Text :=
  match v.text? with
  | some t => .ok t
  | Option.none => .error .tooManyDigits

@[simp] theorem shown_text (t : Text) : (Value.text t).shown = .ok t := rfl

/-- An integer as a floating-point number. -/
def intNumber (n : Int) : Except EvalFault Float :=
  match Number.ofInt? n with
  | some x => .ok x
  | Option.none => .error .outOfRange

/-- The number that a value denotes, if it denotes one. -/
def number? : Value → Except EvalFault (Option Float)
  | int n => (intNumber n).map some
  | float x => .ok (some x)
  | bool b => .ok (some (if b then 1.0 else 0.0))
  | text t => .ok (Number.read? t)
  | _ => .ok Option.none

/-- The value as a number where it denotes one, and itself otherwise. -/
def coerce (v : Value) : Except EvalFault Value := do
  match ← v.number? with
  | some x => return float x
  | Option.none => return v

/-- The number that a value must denote. -/
def toFloat : Value → Except EvalFault Float
  | int n => intNumber n
  | float x => .ok x
  | bool b => .ok (if b then 1.0 else 0.0)
  | text t =>
    match Number.read? t with
    | some x => .ok x
    | Option.none => .error (.notNumeral (Text.quoted t))
  | bytes bs =>
    match Number.readAscii? (bs.map fun b => Char.ofNat b.toNat) with
    | some x => .ok x
    | Option.none => .error (.notNumeral (Text.quotedBytes bs))
  | v => .error (.notNumber v.kind)

end Value

/-- The integer part of a number. -/
def integerPart (x : Float) : Except EvalFault Int :=
  match Number.parts? x with
  | some p => .ok p.truncate
  | none => .error (if x.isNaN then .nanToInteger else .infinityToInteger)

namespace Builtin

/-- The value of a function of one argument. -/
def apply1 (f : Builtin) (x : Value) : Except EvalFault Value :=
  match f with
  | len => do return .int (← x.shown).length
  | abs => do return .float (Float.abs (← x.toFloat))
  | int => do return .int (← integerPart (← x.toFloat))
  | float => do return .float (← x.toFloat)
  | str => do return .text (← x.shown)
  | upper => do return .text (Text.upper (← x.shown))
  | lower => do return .text (Text.lower (← x.shown))
  | title => do return .text (Text.title (← x.shown))
  | trim => do return .text (Text.strip (← x.shown))
  | f => .error (.wrongArity f 1)

/-- The value of a function of two arguments.  The smaller and the greater of two numbers are the
first unless the second is strictly smaller or greater. -/
def apply2 (f : Builtin) (x y : Value) : Except EvalFault Value :=
  match f with
  | min => do
    let a ← x.toFloat
    let b ← y.toFloat
    return .float (if b < a then b else a)
  | max => do
    let a ← x.toFloat
    let b ← y.toFloat
    return .float (if b > a then b else a)
  | contains => do
    let part ← y.shown
    let whole ← x.shown
    return .bool (Text.has part whole)
  | f => .error (.wrongArity f 2)

/-- The value of a function. -/
def apply (f : Builtin) (args : List Value) : Except EvalFault Value :=
  match args with
  | [x] => apply1 f x
  | [x, y] => apply2 f x y
  | args => .error (.wrongArity f args.length)

end Builtin

namespace BinaryOp

/-- The operator computes with numbers. -/
def isArithmetic : BinaryOp → Bool
  | add | sub | mul | div | floorDiv | mod => true
  | _ => false

/-- The result of an operator on two numbers. -/
def onNumbers (op : BinaryOp) (x y : Float) : Except EvalFault Float :=
  match op with
  | add => .ok (x + y)
  | sub => .ok (x - y)
  | mul => .ok (x * y)
  | div => if y == 0.0 then .error .divisionByZero else .ok (x / y)
  | floorDiv => if y == 0.0 then .error .quotientByZero else .ok (Number.floorQuotient x y)
  | mod => if y == 0.0 then .error .moduloByZero else .ok (Number.modulo x y)
  | _ => .error .notArithmetic

/-- The result of an operator: on two values that denote numbers that of the numbers, and the sum
of two texts is their concatenation. -/
def apply (op : BinaryOp) (l r : Value) : Except EvalFault Value := do
  match ← l.coerce, ← r.coerce with
  | .float x, .float y => return .float (← op.onNumbers x y)
  | _, _ =>
    match op, l, r with
    | .add, .text s, .text t => return .text (s ++ t)
    | _, _, _ => .error .notArithmetic

end BinaryOp

namespace UnaryOp

/-- The operator is a sign. -/
def isSign : UnaryOp → Bool
  | plus | minus => true
  | _ => false

/-- A value with a sign before it. -/
def apply (op : UnaryOp) (v : Value) : Except EvalFault Value := do
  match ← v.coerce with
  | .float x => return .float (if op = .minus then -x else x)
  | _ => .error .notSigned

end UnaryOp

namespace Expr

/-- The value of a name: a constant of the language in any case, or a variable, which is empty
unless it is set. -/
def nameValue (ctx : Context) (id : Text) : Value :=
  let low := Text.lower id
  if low = "true".toList then .bool true
  else if low = "false".toList then .bool false
  else if low = "null".toList then .none
  else (Assoc.get? id ctx).getD (.text [])

/-- A construct is refused with its outline. -/
def refusal (reason : Text → EvalFault) (e : Expr) : EvalFault :=
  match e.outline? with
  | some outline => reason outline
  | none => .tooManyDigits

/-- The function that an expression calls, if it may be called. -/
def callee? : Expr → Option Builtin
  | .name id _ => Builtin.ofName? id
  | _ => none

mutual

/-- The value of an expression. -/
def eval (ctx : Context) : Expr → Except EvalFault Value
  | .constant v _ => .ok v
  | .name id _ => .ok (nameValue ctx id)
  | .binary left op right =>
    if op.isArithmetic then do
      let l ← eval ctx left
      let r ← eval ctx right
      op.apply l r
    else .error (refusal .refused (.binary left op right))
  | .unary op operand =>
    if op.isSign then do
      let v ← eval ctx operand
      op.apply v
    else .error (refusal .refused (.unary op operand))
  | .call func args _ =>
    match callee? func with
    | some f => do
      let vs ← evalAll ctx args
      f.apply vs
    | none => .error .notCallable
  | .subscript _ _ _ => .error .notAccessible
  | .attribute _ _ _ => .error .notAccessible
  | e => .error (refusal .refused e)

/-- The values of expressions, from left to right. -/
def evalAll (ctx : Context) : List Expr → Except EvalFault (List Value)
  | [] => .ok []
  | e :: es => do
    let v ← eval ctx e
    let vs ← evalAll ctx es
    return v :: vs

end

/-- The value of the expression that a text writes. -/
def evalText (ctx : Context) (t : Text) : Except EvalFault Value :=
  match Parser.parse? t with
  | some e => eval ctx e
  | none => .error .malformed

end Expr
end Dialogue
