import Dialogue.Value
set_option autoImplicit false

/-!
# Expression trees

The full expression language that a script author may write, although only a part of it has a
meaning in a script: what has none is refused with its outline (`Expr.Outline`), so the tree keeps
every construct.

Normative source: the expressions that `runtime` parses in `_eval_expr` and `_eval_bool`.
-/

namespace Dialogue

/-- `and` and `or`. -/
inductive BoolOp where
  | and
  | or
  deriving DecidableEq, Repr

/-- Operators between two operands. -/
inductive BinaryOp where
  | add | sub | mul | matMul | div | mod | pow | shiftLeft | shiftRight | bitOr | bitXor | bitAnd
  | floorDiv
  deriving DecidableEq, Repr

/-- Operators before one operand. -/
inductive UnaryOp where
  | invert | not | plus | minus
  deriving DecidableEq, Repr

/-- Comparison operators. -/
inductive CompareOp where
  | eq | notEq | less | lessEq | greater | greaterEq | is | isNot | member | notMember
  deriving DecidableEq, Repr

/-- Whether a place is read or bound. -/
inductive Access where
  | load
  | store
  deriving DecidableEq, Repr

mutual

/-- An expression. -/
inductive Expr where
  | boolOp (op : BoolOp) (values : List Expr)
  /-- An assignment inside an expression. -/
  | named (target : Text) (value : Expr)
  | binary (left : Expr) (op : BinaryOp) (right : Expr)
  | unary (op : UnaryOp) (operand : Expr)
  | lambda (params : Params) (body : Expr)
  /-- A conditional: test, value if true, value if false. -/
  | choice (test body orElse : Expr)
  /-- A dictionary; an entry without key spreads another dictionary. -/
  | dict (entries : List (Option Expr × Expr))
  | set (elements : List Expr)
  | listComp (element : Expr) (clauses : List Clause)
  | setComp (element : Expr) (clauses : List Clause)
  | dictComp (key value : Expr) (clauses : List Clause)
  | generator (element : Expr) (clauses : List Clause)
  | await (value : Expr)
  | yield (value : Option Expr)
  | yieldFrom (value : Expr)
  /-- A chain of comparisons. -/
  | compare (left : Expr) (rest : List (CompareOp × Expr))
  /-- A call; a keyword argument without name spreads a dictionary. -/
  | call (func : Expr) (args : List Expr) (keywords : List (Option Text × Expr))
  /-- A replacement field of a formatted text: the conversion letter and the format. -/
  | field (value : Expr) (conversion : Option Char) (format : Option Expr)
  /-- A formatted text. -/
  | joined (parts : List Expr)
  /-- A literal; `marked` says that it is a text marked with the letter u. -/
  | constant (value : Value) (marked : Bool)
  | attribute (value : Expr) (name : Text) (access : Access)
  | subscript (value index : Expr) (access : Access)
  | starred (value : Expr) (access : Access)
  | name (id : Text) (access : Access)
  | list (elements : List Expr) (access : Access)
  | tuple (elements : List Expr) (access : Access)
  | slice (lower upper step : Option Expr)

/-- A `for` clause of a comprehension with its conditions. -/
inductive Clause where
  | mk (target iterable : Expr) (conditions : List Expr) (isAsync : Bool)

/-- The parameters of a lambda expression.  `defaults` belong to the last of the positional ones;
`keywordOnly` pairs each name with its default. -/
inductive Params where
  | mk (positionalOnly positional : List Text) (rest : Option Text)
      (keywordOnly : List (Text × Option Expr)) (keywordRest : Option Text) (defaults : List Expr)

end

/-- The value `none` stands for an absent tree. -/
instance : Inhabited Expr := ⟨.constant .none false⟩

end Dialogue
