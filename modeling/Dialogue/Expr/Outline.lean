import Dialogue.Expr.Fault
set_option autoImplicit false

/-!
# Outlines

The outline of a tree names each construct and its parts.  It is shown when a construct is refused.
There is no outline if the tree holds an integer that is too long to be written.

Normative source: `runtime`, the faults of `_eval_value_node` and `_eval_bool`, which show the
refused construct.
-/

namespace Dialogue

/-- The name of an operator in an outline. -/
def BoolOp.outline : BoolOp → Text
  | and => "And()".toList
  | or => "Or()".toList

@[inherit_doc BoolOp.outline]
def BinaryOp.outline : BinaryOp → Text
  | add => "Add()".toList
  | sub => "Sub()".toList
  | mul => "Mult()".toList
  | matMul => "MatMult()".toList
  | div => "Div()".toList
  | mod => "Mod()".toList
  | pow => "Pow()".toList
  | shiftLeft => "LShift()".toList
  | shiftRight => "RShift()".toList
  | bitOr => "BitOr()".toList
  | bitXor => "BitXor()".toList
  | bitAnd => "BitAnd()".toList
  | floorDiv => "FloorDiv()".toList

@[inherit_doc BoolOp.outline]
def UnaryOp.outline : UnaryOp → Text
  | invert => "Invert()".toList
  | not => "Not()".toList
  | plus => "UAdd()".toList
  | minus => "USub()".toList

@[inherit_doc BoolOp.outline]
def CompareOp.outline : CompareOp → Text
  | eq => "Eq()".toList
  | notEq => "NotEq()".toList
  | less => "Lt()".toList
  | lessEq => "LtE()".toList
  | greater => "Gt()".toList
  | greaterEq => "GtE()".toList
  | is => "Is()".toList
  | isNot => "IsNot()".toList
  | member => "In()".toList
  | notMember => "NotIn()".toList

@[inherit_doc BoolOp.outline]
def Access.outline : Access → Text
  | load => "Load()".toList
  | store => "Store()".toList

namespace Outline

/-- A construct with its parts. -/
def node (name : String) (parts : List (String × Text)) : Text :=
  name.toList ++ '(' :: Text.joinWith ", ".toList
    (parts.map fun (label, part) => label.toList ++ '=' :: part) ++ [')']

/-- A list of parts. -/
def row (parts : List Text) : Text := '[' :: Text.joinWith ", ".toList parts ++ [']']

/-- A part that is left out if absent. -/
def optional (label : String) (part : Option Text) : List (String × Text) :=
  part.toList.map fun t => (label, t)

/-- A parameter of a lambda expression. -/
def param (name : Text) : Text := node "arg" [("arg", Text.quoted name)]

/-- The code of a conversion letter; a field without one shows `-1`. -/
def conversion : Option Char → Text
  | none => "-1".toList
  | some c => Text.ofNat c.toNat

end Outline

open Outline

mutual

/-- The outline of an expression. -/
def Expr.outline? : Expr → Option Text
  | .boolOp op values => do
    let vs ← Expr.outlines? values
    return node "BoolOp" [("op", op.outline), ("values", row vs)]
  | .named target value => do
    let v ← value.outline?
    return node "NamedExpr"
      [("target", node "Name" [("id", Text.quoted target), ("ctx", Access.store.outline)]),
       ("value", v)]
  | .binary left op right => do
    let l ← left.outline?
    let r ← right.outline?
    return node "BinOp" [("left", l), ("op", op.outline), ("right", r)]
  | .unary op operand => do
    let v ← operand.outline?
    return node "UnaryOp" [("op", op.outline), ("operand", v)]
  | .lambda params body => do
    let ps ← params.outline?
    let b ← body.outline?
    return node "Lambda" [("args", ps), ("body", b)]
  | .choice test body orElse => do
    let t ← test.outline?
    let b ← body.outline?
    let o ← orElse.outline?
    return node "IfExp" [("test", t), ("body", b), ("orelse", o)]
  | .dict entries => do
    let es ← Expr.entryOutlines? entries
    return node "Dict" [("keys", row (es.map Prod.fst)), ("values", row (es.map Prod.snd))]
  | .set elements => do
    let es ← Expr.outlines? elements
    return node "Set" [("elts", row es)]
  | .listComp element clauses => do
    let e ← element.outline?
    let cs ← Clause.outlines? clauses
    return node "ListComp" [("elt", e), ("generators", row cs)]
  | .setComp element clauses => do
    let e ← element.outline?
    let cs ← Clause.outlines? clauses
    return node "SetComp" [("elt", e), ("generators", row cs)]
  | .dictComp key value clauses => do
    let k ← key.outline?
    let v ← value.outline?
    let cs ← Clause.outlines? clauses
    return node "DictComp" [("key", k), ("value", v), ("generators", row cs)]
  | .generator element clauses => do
    let e ← element.outline?
    let cs ← Clause.outlines? clauses
    return node "GeneratorExp" [("elt", e), ("generators", row cs)]
  | .await value => do
    let v ← value.outline?
    return node "Await" [("value", v)]
  | .yield value => do
    let v ← Expr.optionOutline? value
    return node "Yield" (optional "value" v)
  | .yieldFrom value => do
    let v ← value.outline?
    return node "YieldFrom" [("value", v)]
  | .compare left rest => do
    let l ← left.outline?
    let rs ← Expr.comparisonOutlines? rest
    return node "Compare"
      [("left", l), ("ops", row (rs.map Prod.fst)), ("comparators", row (rs.map Prod.snd))]
  | .call func args keywords => do
    let f ← func.outline?
    let as ← Expr.outlines? args
    let ks ← Expr.keywordOutlines? keywords
    return node "Call" [("func", f), ("args", row as), ("keywords", row ks)]
  | .field value conv format => do
    let v ← value.outline?
    let f ← Expr.optionOutline? format
    return node "FormattedValue"
      ([("value", v), ("conversion", Outline.conversion conv)] ++ optional "format_spec" f)
  | .joined parts => do
    let ps ← Expr.outlines? parts
    return node "JoinedStr" [("values", row ps)]
  | .constant value marked => do
    let v ← value.literal?
    return node "Constant"
      ([("value", v)] ++ if marked then [("kind", Text.quoted ['u'])] else [])
  | .attribute value name access => do
    let v ← value.outline?
    return node "Attribute" [("value", v), ("attr", Text.quoted name), ("ctx", access.outline)]
  | .subscript value index access => do
    let v ← value.outline?
    let i ← index.outline?
    return node "Subscript" [("value", v), ("slice", i), ("ctx", access.outline)]
  | .starred value access => do
    let v ← value.outline?
    return node "Starred" [("value", v), ("ctx", access.outline)]
  | .name id access =>
    return node "Name" [("id", Text.quoted id), ("ctx", access.outline)]
  | .list elements access => do
    let es ← Expr.outlines? elements
    return node "List" [("elts", row es), ("ctx", access.outline)]
  | .tuple elements access => do
    let es ← Expr.outlines? elements
    return node "Tuple" [("elts", row es), ("ctx", access.outline)]
  | .slice lower upper step => do
    let l ← Expr.optionOutline? lower
    let u ← Expr.optionOutline? upper
    let s ← Expr.optionOutline? step
    return node "Slice" (optional "lower" l ++ optional "upper" u ++ optional "step" s)

/-- The outlines of some expressions. -/
def Expr.outlines? : List Expr → Option (List Text)
  | [] => some []
  | e :: es => do
    let o ← e.outline?
    let os ← Expr.outlines? es
    return o :: os

/-- The outline of an expression that may be absent. -/
def Expr.optionOutline? : Option Expr → Option (Option Text)
  | none => some none
  | some e => do
    let o ← e.outline?
    return some o

/-- The outlines of the keys and values of a dictionary. -/
def Expr.entryOutlines? : List (Option Expr × Expr) → Option (List (Text × Text))
  | [] => some []
  | (key, value) :: entries => do
    let k ← Expr.optionOutline? key
    let v ← value.outline?
    let es ← Expr.entryOutlines? entries
    return (k.getD "None".toList, v) :: es

/-- The outlines of the operators and operands of a chain of comparisons. -/
def Expr.comparisonOutlines? : List (CompareOp × Expr) → Option (List (Text × Text))
  | [] => some []
  | (op, e) :: rest => do
    let o ← e.outline?
    let os ← Expr.comparisonOutlines? rest
    return (op.outline, o) :: os

/-- The outlines of the keyword arguments of a call. -/
def Expr.keywordOutlines? : List (Option Text × Expr) → Option (List Text)
  | [] => some []
  | (name, e) :: rest => do
    let o ← e.outline?
    let os ← Expr.keywordOutlines? rest
    return node "keyword" (optional "arg" (name.map Text.quoted) ++ [("value", o)]) :: os

/-- The outlines of the defaults of keyword-only parameters. -/
def Expr.defaultOutlines? : List (Text × Option Expr) → Option (List Text)
  | [] => some []
  | (_, e) :: rest => do
    let o ← Expr.optionOutline? e
    let os ← Expr.defaultOutlines? rest
    return o.getD "None".toList :: os

/-- The outline of a clause of a comprehension. -/
def Clause.outline? : Clause → Option Text
  | .mk target iterable conditions isAsync => do
    let t ← target.outline?
    let i ← iterable.outline?
    let cs ← Expr.outlines? conditions
    return node "comprehension"
      [("target", t), ("iter", i), ("ifs", row cs), ("is_async", if isAsync then ['1'] else ['0'])]

/-- The outlines of the clauses of a comprehension. -/
def Clause.outlines? : List Clause → Option (List Text)
  | [] => some []
  | c :: cs => do
    let o ← c.outline?
    let os ← Clause.outlines? cs
    return o :: os

/-- The outline of the parameters of a lambda expression. -/
def Params.outline? : Params → Option Text
  | .mk positionalOnly positional rest keywordOnly keywordRest defaults => do
    let ks ← Expr.defaultOutlines? keywordOnly
    let ds ← Expr.outlines? defaults
    return node "arguments"
      ([("posonlyargs", row (positionalOnly.map param)), ("args", row (positional.map param))]
        ++ optional "vararg" (rest.map param)
        ++ [("kwonlyargs", row ((keywordOnly.map Prod.fst).map param)), ("kw_defaults", row ks)]
        ++ optional "kwarg" (keywordRest.map param) ++ [("defaults", row ds)])

end

end Dialogue
