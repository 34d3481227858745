import Dialogue.Expr.Tree
set_option autoImplicit false

/-!
# Functions and faults of expressions

The functions that an expression may call, and every way in which the evaluation of an expression
can fail, with its message.

Normative source: `runtime`, `_FUNC_WHITELIST` and the faults of `_eval_value_node` and
`_eval_bool`.
-/

namespace Dialogue

/-- A function that expressions may call. -/
inductive Builtin where
  | len | abs | int | float | str | upper | lower | title | trim | min | max | contains
  deriving DecidableEq, Repr

namespace Builtin

/-- All functions. -/
def all : List Builtin :=
  [len, abs, int, float, str, upper, lower, title, trim, min, max, contains]

/-- The name by which an expression calls the function. -/
def name : Builtin → Text
  | len => "len".toList
  | abs => "abs".toList
  | int => "int".toList
  | float => "float".toList
  | str => "str".toList
  | upper => "upper".toList
  | lower => "lower".toList
  | title => "title".toList
  | trim => "trim".toList
  | min => "min".toList
  | max => "max".toList
  | contains => "contains".toList

/-- The function with a given name. -/
def ofName? (id : Text) : Option Builtin := all.find? fun f => f.name = id

/-- The names of the parameters. -/
def params : Builtin → List Text
  | min | max => [['a'], ['b']]
  | contains => [['h'], ['n']]
  | _ => [['x']]

@[simp] theorem ofName?_name (f : Builtin) : ofName? f.name = some f := by
  cases f <;> decide

end Builtin

/-- Why an expression has no value. -/
inductive EvalFault where
  /-- The text is no expression. -/
  | malformed
  /-- The operands are neither two numbers nor two texts to be added. -/
  | notArithmetic
  /-- The operand of a sign is no number. -/
  | notSigned
  /-- The callee is not one of the functions. -/
  | notCallable
  /-- Attributes and subscripts are closed. -/
  | notAccessible
  /-- The construct has no value; the outline shows it. -/
  | refused (outline : Text)
  /-- The construct is no condition; the outline shows it. -/
  | notCondition (outline : Text)
  /-- The comparison is not an order or equality. -/
  | notComparison
  /-- No such comparison operator. -/
  | unknownComparison (op : Text)
  | divisionByZero
  | quotientByZero
  | moduloByZero
  /-- The integer exceeds every floating-point number. -/
  | outOfRange
  | infinityToInteger
  | nanToInteger
  /-- The integer has too many digits to be written. -/
  | tooManyDigits
  /-- The quoted text denotes no number. -/
  | notNumeral (quoted : Text)
  /-- A value of this kind denotes no number. -/
  | notNumber (kind : Text)
  /-- The function was given the wrong number of arguments. -/
  | wrongArity (f : Builtin) (given : Nat)
  deriving DecidableEq, Repr

namespace EvalFault

/-- The message for a function called with the wrong number of arguments. -/
def arityMessage (f : Builtin) (given : Nat) : Text :=
  let called := "_fn_".toList ++ f.name ++ "() ".toList
  let noun (n : Nat) : Text := if n = 1 then "argument".toList else "arguments".toList
  let arity := f.params.length
  if given < arity then
    let missing := (f.params.drop given).map fun p => '\x27' :: p ++ ['\x27']
    called ++ "missing ".toList ++ Text.ofNat missing.length ++ " required positional ".toList
      ++ noun missing.length ++ ": ".toList ++ Text.joinWith " and ".toList missing
  else
    called ++ "takes ".toList ++ Text.ofNat arity ++ " positional ".toList ++ noun arity
      ++ " but ".toList ++ Text.ofNat given ++ " were given".toList

/-- The message of a fault. -/
def message : EvalFault → Text
  | malformed => "invalid syntax".toList
  | notArithmetic => "仅支持数字算术或字符串相加".toList
  | notSigned => "一元正负仅支持数字".toList
  | notCallable => "仅允许白名单函数调用".toList
  | notAccessible => "不允许下标/属性访问".toList
  | refused outline => "表达式不被允许：".toList ++ outline
  | notCondition outline => "不允许的布尔表达式：".toList ++ outline
  | notComparison => "比较运算仅支持 == != > < >= <=".toList
  | unknownComparison op => "不支持的操作符：".toList ++ op
  | divisionByZero => "float division by zero".toList
  | quotientByZero => "float floor division by zero".toList
  | moduloByZero => "float modulo".toList
  | outOfRange => "int too large to convert to float".toList
  | infinityToInteger => "cannot convert float infinity to integer".toList
  | nanToInteger => "cannot convert float NaN to integer".toList
  | tooManyDigits => ("Exceeds the limit (4300 digits) for integer string conversion; " ++
      "use sys.set_int_max_str_digits() to increase the limit").toList
  | notNumeral quoted => "could not convert string to float: ".toList ++ quoted
  | notNumber kind =>
    "float() argument must be a string or a real number, not '".toList ++ kind ++ ['\x27']
  | wrongArity f given => arityMessage f given

end EvalFault
end Dialogue
