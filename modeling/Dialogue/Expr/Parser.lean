import Dialogue.Expr.Formatted
import Dialogue.Expr.Lexer
set_option autoImplicit false

/-!
# Parsing expressions

A recursive-descent parser over tokens, one function for each level of the grammar.  Every function
takes a bound on the depth of the descent, which the length of the text gives; a function returns
the tree and the tokens after it.

Normative source: the expressions that `runtime` parses in `_eval_expr` and `_eval_bool`.

Deviation, disclosed: brackets apart (`Expr.Lexer`), the depth of an expression is not limited,
while the source fails when its call stack is exhausted.
-/

namespace Dialogue.Parser

/-- The tokens after an expected symbol. -/
def expect (s : Symbol) : List Token → Option (List Token)
  | .symbol t :: ts => if t = s then some ts else none
  | _ => none

/-- The tokens begin a clause of a comprehension. -/
def atClause : List Token → Bool
  | .keyword .for_ :: _ => true
  | .keyword .async :: _ => true
  | _ => false

/-- The binary operator of a level of precedence that a symbol is; from the loosest level up. -/
def binaryOp? : (level : Nat) → Symbol → Option BinaryOp
  | 0, .bar => some .bitOr
  | 1, .caret => some .bitXor
  | 2, .ampersand => some .bitAnd
  | 3, .shiftLeft => some .shiftLeft
  | 3, .shiftRight => some .shiftRight
  | 4, .plus => some .add
  | 4, .minus => some .sub
  | 5, .star => some .mul
  | 5, .slash => some .div
  | 5, .doubleSlash => some .floorDiv
  | 5, .percent => some .mod
  | 5, .at_ => some .matMul
  | _, _ => none

/-- The number of levels of binary operators. -/
def binaryLevels : Nat := 6

/-- The comparison operator at the beginning. -/
def compareOp? : List Token → Option (CompareOp × List Token)
  | .symbol .doubleEquals :: ts => some (.eq, ts)
  | .symbol .notEquals :: ts => some (.notEq, ts)
  | .symbol .less :: ts => some (.less, ts)
  | .symbol .lessEq :: ts => some (.lessEq, ts)
  | .symbol .greater :: ts => some (.greater, ts)
  | .symbol .greaterEq :: ts => some (.greaterEq, ts)
  | .keyword .is :: .keyword .not :: ts => some (.isNot, ts)
  | .keyword .is :: ts => some (.is, ts)
  | .keyword .in_ :: ts => some (.member, ts)
  | .keyword .not :: .keyword .in_ :: ts => some (.notMember, ts)
  | _ => none

/-- The unary operator that a symbol is. -/
def unaryOp? : Symbol → Option UnaryOp
  | .plus => some .plus
  | .minus => some .minus
  | .tilde => some .invert
  | _ => none

mutual

/-- An expression as the target of a `for` clause, which is bound and not read. -/
def asTarget? : Expr → Option Expr
  | .name id _ => some (.name id .store)
  | .attribute value name _ => some (.attribute value name .store)
  | .subscript value index _ => some (.subscript value index .store)
  | .starred value _ => (asTarget? value).map fun t => .starred t .store
  | .tuple elements _ => (asTargets? elements).map fun ts => .tuple ts .store
  | .list elements _ => (asTargets? elements).map fun ts => .list ts .store
  | _ => none

/-- Expressions as targets. -/
def asTargets? : List Expr → Option (List Expr)
  | [] => some []
  | e :: es => do
    let t ← asTarget? e
    let ts ← asTargets? es
    return t :: ts

end

/-- The parameters of a lambda expression while they are being read. -/
structure ParamState where
  /-- The positional parameters so far. -/
  positional : List (Text × Option Expr) := []
  /-- How many of them are positional only, once a slash has been read. -/
  slash : Option Nat := none
  /-- A star has been read. -/
  starred : Bool := false
  /-- The name after the star. -/
  rest : Option Text := none
  keywordOnly : List (Text × Option Expr) := []
  keywordRest : Option Text := none

namespace ParamState

/-- Adds a parameter.  A positional one after a default needs a default too. -/
def add? (s : ParamState) (name : Text) (value : Option Expr) : Option ParamState :=
  if s.starred then some { s with keywordOnly := s.keywordOnly ++ [(name, value)] }
  else if value.isNone && s.positional.any fun p => p.2.isSome then none
  else some { s with positional := s.positional ++ [(name, value)] }

/-- Marks the parameters so far as positional only. -/
def slash? (s : ParamState) : Option ParamState :=
  if s.starred || s.slash.isSome || s.positional.isEmpty then none
  else some { s with slash := some s.positional.length }

/-- A star without name needs a parameter after it. -/
def complete (s : ParamState) : Bool := !s.starred || s.rest.isSome || !s.keywordOnly.isEmpty

/-- The parameters read. -/
def params (s : ParamState) : Params :=
  let names := s.positional.map Prod.fst
  let n := s.slash.getD 0
  .mk (names.take n) (names.drop n) s.rest s.keywordOnly s.keywordRest
    (s.positional.filterMap Prod.snd)

end ParamState

/-- How far the arguments of a call have come: after a keyword argument no positional one may
follow, and after a spread dictionary no spread sequence either. -/
inductive Phase where
  | positional
  | keyword
  | spread
  deriving DecidableEq

/-- The arguments of a call while they are being read. -/
structure Arguments where
  args : List Expr := []
  keywords : List (Option Text × Expr) := []
  phase : Phase := .positional

namespace Arguments

/-- Adds a positional argument. -/
def addPositional? (a : Arguments) (e : Expr) : Option Arguments :=
  if a.phase = .positional then some { a with args := a.args ++ [e] } else none

/-- Adds a spread sequence. -/
def addStarred? (a : Arguments) (e : Expr) : Option Arguments :=
  if a.phase = .spread then none else some { a with args := a.args ++ [.starred e .load] }

/-- Adds a keyword argument. -/
def addKeyword (a : Arguments) (name : Text) (e : Expr) : Arguments :=
  { a with
    keywords := a.keywords ++ [(some name, e)]
    phase := if a.phase = .positional then .keyword else a.phase }

/-- Adds a spread dictionary. -/
def addSpread (a : Arguments) (e : Expr) : Arguments :=
  { a with keywords := a.keywords ++ [(none, e)], phase := .spread }

end Arguments

mutual

/-- An expression: a lambda expression, or a disjunction with an optional condition. -/
def expression : Nat → List Token → Option (Expr × List Token)
  | 0, _ => none
  | n + 1, .keyword .lambda :: ts => do
    let (params, ts) ← lambdaParams n {} ts
    let (body, ts) ← expression n ts
    return (.lambda params body, ts)
  | n + 1, ts => do
    let (body, ts) ← disjunction n ts
    match ts with
    | .keyword .if_ :: ts => do
      let (test, ts) ← disjunction n ts
      match ts with
      | .keyword .else_ :: ts => do
        let (orElse, ts) ← expression n ts
        return (.choice test body orElse, ts)
      | _ => none
    | ts => return (body, ts)

/-- Operands divided by `or`. -/
def disjunction : Nat → List Token → Option (Expr × List Token)
  | 0, _ => none
  | n + 1, ts => do
    let (e, ts) ← conjunction n ts
    let (es, ts) ← moreDisjuncts n ts
    return (if es.isEmpty then e else .boolOp .or (e :: es), ts)

/-- Further operands of `or`. -/
def moreDisjuncts : Nat → List Token → Option ((List Expr) × List Token)
  | 0, _ => none
  | n + 1, .keyword .or :: ts => do
    let (e, ts) ← conjunction n ts
    let (es, ts) ← moreDisjuncts n ts
    return (e :: es, ts)
  | _ + 1, ts => some ([], ts)

/-- Operands divided by `and`. -/
def conjunction : Nat → List Token → Option (Expr × List Token)
  | 0, _ => none
  | n + 1, ts => do
    let (e, ts) ← inversion n ts
    let (es, ts) ← moreConjuncts n ts
    return (if es.isEmpty then e else .boolOp .and (e :: es), ts)

/-- Further operands of `and`. -/
def moreConjuncts : Nat → List Token → Option ((List Expr) × List Token)
  | 0, _ => none
  | n + 1, .keyword .and :: ts => do
    let (e, ts) ← inversion n ts
    let (es, ts) ← moreConjuncts n ts
    return (e :: es, ts)
  | _ + 1, ts => some ([], ts)

/-- A comparison after any number of `not`. -/
def inversion : Nat → List Token → Option (Expr × List Token)
  | 0, _ => none
  | n + 1, .keyword .not :: ts => do
    let (e, ts) ← inversion n ts
    return (.unary .not e, ts)
  | n + 1, ts => do
    let (e, ts) ← binary n 0 ts
    let (rest, ts) ← comparisons n ts
    return (if rest.isEmpty then e else .compare e rest, ts)

/-- The operators and further operands of a chain of comparisons. -/
def comparisons : Nat → List Token → Option ((List (CompareOp × Expr)) × List Token)
  | 0, _ => none
  | n + 1, ts =>
    match compareOp? ts with
    | none => some ([], ts)
    | some (op, ts) => do
      let (e, ts) ← binary n 0 ts
      let (rest, ts) ← comparisons n ts
      return ((op, e) :: rest, ts)

/-- Binary operators from a level of precedence on. -/
def binary : Nat → (level : Nat) → List Token → Option (Expr × List Token)
  | 0, _, _ => none
  | n + 1, level, ts =>
    if level < binaryLevels then do
      let (e, ts) ← binary n (level + 1) ts
      binaryMore n level e ts
    else factor n ts

/-- Further operands of one level of precedence, grouped from the left. -/
def binaryMore : Nat → (level : Nat) → Expr → List Token → Option (Expr × List Token)
  | 0, _, _, _ => none
  | n + 1, level, left, .symbol s :: ts =>
    match binaryOp? level s with
    | none => some (left, .symbol s :: ts)
    | some op => do
      let (right, ts) ← binary n (level + 1) ts
      binaryMore n level (.binary left op right) ts
  | _ + 1, _, left, ts => some (left, ts)

/-- A power after any number of signs. -/
def factor : Nat → List Token → Option (Expr × List Token)
  | 0, _ => none
  | n + 1, .symbol s :: ts =>
    match unaryOp? s with
    | some op => do
      let (e, ts) ← factor n ts
      return (.unary op e, ts)
    | none => power n (.symbol s :: ts)
  | n + 1, ts => power n ts

/-- An operand with an optional exponent, which groups to the right. -/
def power : Nat → List Token → Option (Expr × List Token)
  | 0, _ => none
  | n + 1, ts => do
    let (base, ts) ←
      match ts with
      | .keyword .await :: ts => do
        let (e, ts) ← primary n ts
        some (.await e, ts)
      | ts => primary n ts
    match ts with
    | .symbol .doubleStar :: ts => do
      let (exponent, ts) ← factor n ts
      return (.binary base .pow exponent, ts)
    | ts => return (base, ts)

/-- An atom with its attributes, calls and subscripts. -/
def primary : Nat → List Token → Option (Expr × List Token)
  | 0, _ => none
  | n + 1, ts => do
    let (e, ts) ← atom n ts
    trailers n e ts

/-- Attributes, calls and subscripts after an expression. -/
def trailers : Nat → Expr → List Token → Option (Expr × List Token)
  | 0, _, _ => none
  | n + 1, e, .symbol .dot :: .name id :: ts => trailers n (.attribute e id .load) ts
  | n + 1, e, .symbol .openParen :: ts => do
    let (a, ts) ← arguments n {} ts
    trailers n (.call e a.args a.keywords) ts
  | n + 1, e, .symbol .openBracket :: ts => do
    let (index, ts) ← subscripts n ts
    trailers n (.subscript e index .load) ts
  | _ + 1, e, ts => some (e, ts)

/-- The arguments of a call through its closing parenthesis. -/
def arguments : Nat → Arguments → List Token → Option (Arguments × List Token)
  | 0, _, _ => none
  | _ + 1, a, .symbol .closeParen :: ts => some (a, ts)
  | n + 1, a, .symbol .star :: ts => do
    let (e, ts) ← expression n ts
    let a ← a.addStarred? e
    argumentsEnd n a ts
  | n + 1, a, .symbol .doubleStar :: ts => do
    let (e, ts) ← expression n ts
    argumentsEnd n (a.addSpread e) ts
  | n + 1, a, .name id :: .symbol .equals :: ts => do
    let (e, ts) ← expression n ts
    argumentsEnd n (a.addKeyword id e) ts
  | n + 1, a, ts => do
    let (e, ts) ← namedExpression n ts
    if atClause ts then
      if a.args.isEmpty && a.keywords.isEmpty then do
        let (cs, ts) ← clauses n ts
        let ts ← expect .closeParen ts
        return ({ a with args := [.generator e cs] }, ts)
      else none
    else do
      let a ← a.addPositional? e
      argumentsEnd n a ts

/-- After an argument: a comma and further arguments, or the closing parenthesis. -/
def argumentsEnd : Nat → Arguments → List Token → Option (Arguments × List Token)
  | 0, _, _ => none
  | n + 1, a, .symbol .comma :: ts => arguments n a ts
  | _ + 1, a, .symbol .closeParen :: ts => some (a, ts)
  | _ + 1, _, _ => none

/-- The index of a subscript through its closing bracket; several indices make a tuple. -/
def subscripts : Nat → List Token → Option (Expr × List Token)
  | 0, _ => none
  | n + 1, ts => do
    let single := ts.head?.any fun
      | .symbol .star => false
      | _ => true
    let (e, ts) ← subscript n ts
    match ts with
    | .symbol .closeBracket :: ts => return (if single then e else .tuple [e] .load, ts)
    | .symbol .comma :: ts => do
      let (es, ts) ← moreSubscripts n ts
      return (.tuple (e :: es) .load, ts)
    | _ => none

/-- Further indices through the closing bracket. -/
def moreSubscripts : Nat → List Token → Option ((List Expr) × List Token)
  | 0, _ => none
  | _ + 1, .symbol .closeBracket :: ts => some ([], ts)
  | n + 1, ts => do
    let (e, ts) ← subscript n ts
    match ts with
    | .symbol .closeBracket :: ts => return ([e], ts)
    | .symbol .comma :: ts => do
      let (es, ts) ← moreSubscripts n ts
      return (e :: es, ts)
    | _ => none

/-- One index: a spread sequence, a slice or an expression. -/
def subscript : Nat → List Token → Option (Expr × List Token)
  | 0, _ => none
  | n + 1, .symbol .star :: ts => do
    let (e, ts) ← expression n ts
    return (.starred e .load, ts)
  | n + 1, .symbol .colon :: ts => sliceUpper n none ts
  | n + 1, ts => do
    let (e, ts) ← namedExpression n ts
    match ts, e with
    | .symbol .colon :: _, .named _ _ => none
    | .symbol .colon :: ts, e => sliceUpper n (some e) ts
    | ts, e => return (e, ts)

/-- A slice after its first colon. -/
def sliceUpper : Nat → Option Expr → List Token → Option (Expr × List Token)
  | 0, _, _ => none
  | n + 1, lower, ts => do
    let (upper, ts) ← sliceBound n ts
    match ts with
    | .symbol .colon :: ts => do
      let (step, ts) ← sliceBound n ts
      return (.slice lower upper step, ts)
    | ts => return (.slice lower upper none, ts)

/-- A bound of a slice, which may be absent. -/
def sliceBound : Nat → List Token → Option ((Option Expr) × List Token)
  | 0, _ => none
  | _ + 1, .symbol .colon :: ts => some (none, .symbol .colon :: ts)
  | _ + 1, .symbol .comma :: ts => some (none, .symbol .comma :: ts)
  | _ + 1, .symbol .closeBracket :: ts => some (none, .symbol .closeBracket :: ts)
  | n + 1, ts => do
    let (e, ts) ← expression n ts
    return (some e, ts)

/-- An atom: a name, a literal or a bracketed expression. -/
def atom : Nat → List Token → Option (Expr × List Token)
  | 0, _ => none
  | _ + 1, .name id :: ts => some (.name id .load, ts)
  | _ + 1, .keyword .true :: ts => some (.constant (.bool true) false, ts)
  | _ + 1, .keyword .false :: ts => some (.constant (.bool false) false, ts)
  | _ + 1, .keyword .none :: ts => some (.constant .none false, ts)
  | _ + 1, .number v :: ts => some (.constant v false, ts)
  | _ + 1, .symbol .dots :: ts => some (.constant .ellipsis false, ts)
  | n + 1, .quotation q marked :: ts => quotations n marked q ts
  | n + 1, .symbol .openParen :: ts => parenthesized n ts
  | n + 1, .symbol .openBracket :: ts => bracketed n ts
  | n + 1, .symbol .openBrace :: ts => braced n ts
  | _ + 1, _ => none

/-- What follows an opening parenthesis: a tuple, a generator, or an expression on its own. -/
def parenthesized : Nat → List Token → Option (Expr × List Token)
  | 0, _ => none
  | _ + 1, .symbol .closeParen :: ts => some (.tuple [] .load, ts)
  | n + 1, .keyword .yield :: .keyword .from_ :: ts => do
    let (e, ts) ← expression n ts
    let ts ← expect .closeParen ts
    return (.yieldFrom e, ts)
  | _ + 1, .keyword .yield :: .symbol .closeParen :: ts => some (.yield none, ts)
  | n + 1, .keyword .yield :: ts => do
    let (e, ts) ← yielded n ts
    let ts ← expect .closeParen ts
    return (.yield (some e), ts)
  | n + 1, ts => do
    let (e, ts) ← element n ts
    match ts, e with
    | .symbol .comma :: ts, e => do
      let (es, ts) ← elements n .closeParen ts
      return (.tuple (e :: es) .load, ts)
    | _, .starred _ _ => none
    | .symbol .closeParen :: ts, e => return (e, ts)
    | ts, e => do
      let (cs, ts) ← clauses n ts
      let ts ← expect .closeParen ts
      return (.generator e cs, ts)

/-- What a `yield` hands out: one expression, or several as a tuple. -/
def yielded : Nat → List Token → Option (Expr × List Token)
  | 0, _ => none
  | n + 1, ts => do
    let (e, ts) ← yieldedItem n ts
    match ts with
    | .symbol .comma :: ts => do
      let (es, ts) ← moreYielded n ts
      return (.tuple (e :: es) .load, ts)
    | ts => return (e, ts)

/-- Further expressions of a `yield`. -/
def moreYielded : Nat → List Token → Option ((List Expr) × List Token)
  | 0, _ => none
  | _ + 1, .symbol .closeParen :: ts => some ([], .symbol .closeParen :: ts)
  | n + 1, ts => do
    let (e, ts) ← yieldedItem n ts
    match ts with
    | .symbol .comma :: ts => do
      let (es, ts) ← moreYielded n ts
      return (e :: es, ts)
    | ts => return ([e], ts)

/-- One expression of a `yield`, which may be spread. -/
def yieldedItem : Nat → List Token → Option (Expr × List Token)
  | 0, _ => none
  | n + 1, .symbol .star :: ts => do
    let (e, ts) ← binary n 0 ts
    return (.starred e .load, ts)
  | n + 1, ts => expression n ts

/-- An expression that may bind a name. -/
def namedExpression : Nat → List Token → Option (Expr × List Token)
  | 0, _ => none
  | n + 1, .name id :: .symbol .walrus :: ts => do
    let (e, ts) ← expression n ts
    return (.named id e, ts)
  | n + 1, ts => expression n ts

/-- An element of a tuple, list or set, which may be spread. -/
def element : Nat → List Token → Option (Expr × List Token)
  | 0, _ => none
  | n + 1, .symbol .star :: ts => do
    let (e, ts) ← binary n 0 ts
    return (.starred e .load, ts)
  | n + 1, ts => namedExpression n ts

/-- Elements divided by commas through a closing bracket. -/
def elements : Nat → (close : Symbol) → List Token → Option ((List Expr) × List Token)
  | 0, _, _ => none
  | n + 1, close, ts =>
    match expect close ts with
    | some ts => some ([], ts)
    | none => do
      let (e, ts) ← element n ts
      match ts with
      | .symbol .comma :: ts => do
        let (es, ts) ← elements n close ts
        return (e :: es, ts)
      | ts => do
        let ts ← expect close ts
        return ([e], ts)

/-- What follows an opening bracket: a list or a comprehension. -/
def bracketed : Nat → List Token → Option (Expr × List Token)
  | 0, _ => none
  | _ + 1, .symbol .closeBracket :: ts => some (.list [] .load, ts)
  | n + 1, ts => do
    let (e, ts) ← element n ts
    match ts, e with
    | .symbol .comma :: ts, e => do
      let (es, ts) ← elements n .closeBracket ts
      return (.list (e :: es) .load, ts)
    | .symbol .closeBracket :: ts, e => return (.list [e] .load, ts)
    | _, .starred _ _ => none
    | ts, e => do
      let (cs, ts) ← clauses n ts
      let ts ← expect .closeBracket ts
      return (.listComp e cs, ts)

/-- What follows an opening brace: a dictionary, a set or a comprehension. -/
def braced : Nat → List Token → Option (Expr × List Token)
  | 0, _ => none
  | _ + 1, .symbol .closeBrace :: ts => some (.dict [], ts)
  | n + 1, .symbol .doubleStar :: ts => do
    let (e, ts) ← binary n 0 ts
    let (es, ts) ← moreEntries n ts
    return (.dict ((none, e) :: es), ts)
  | n + 1, ts => do
    let (e, ts) ← element n ts
    match ts, e with
    | .symbol .comma :: ts, e => do
      let (es, ts) ← elements n .closeBrace ts
      return (.set (e :: es), ts)
    | .symbol .closeBrace :: ts, e => return (.set [e], ts)
    | _, .starred _ _ => none
    | .symbol .colon :: _, .named _ _ => none
    | .symbol .colon :: ts, e => do
      let (value, ts) ← expression n ts
      if atClause ts then do
        let (cs, ts) ← clauses n ts
        let ts ← expect .closeBrace ts
        return (.dictComp e value cs, ts)
      else do
        let (es, ts) ← moreEntries n ts
        return (.dict ((some e, value) :: es), ts)
    | ts, e => do
      let (cs, ts) ← clauses n ts
      let ts ← expect .closeBrace ts
      return (.setComp e cs, ts)

/-- After an entry of a dictionary: further entries through the closing brace. -/
def moreEntries : Nat → List Token → Option ((List (Option Expr × Expr)) × List Token)
  | 0, _ => none
  | _ + 1, .symbol .closeBrace :: ts => some ([], ts)
  | _ + 1, .symbol .comma :: .symbol .closeBrace :: ts => some ([], ts)
  | n + 1, .symbol .comma :: .symbol .doubleStar :: ts => do
    let (e, ts) ← binary n 0 ts
    let (es, ts) ← moreEntries n ts
    return ((none, e) :: es, ts)
  | n + 1, .symbol .comma :: ts => do
    let (key, ts) ← expression n ts
    let ts ← expect .colon ts
    let (value, ts) ← expression n ts
    let (es, ts) ← moreEntries n ts
    return ((some key, value) :: es, ts)
  | _ + 1, _ => none

/-- The clauses of a comprehension, at least one. -/
def clauses : Nat → List Token → Option ((List Clause) × List Token)
  | 0, _ => none
  | n + 1, ts => do
    let (isAsync, ts) ←
      match ts with
      | .keyword .async :: .keyword .for_ :: ts => some (true, ts)
      | .keyword .for_ :: ts => some (false, ts)
      | _ => none
    let (target, ts) ← targets n ts
    match ts with
    | .keyword .in_ :: ts => do
      let (iterable, ts) ← disjunction n ts
      let (conditions, ts) ← clauseConditions n ts
      let clause := Clause.mk target iterable conditions isAsync
      if atClause ts then do
        let (cs, ts) ← clauses n ts
        return (clause :: cs, ts)
      else return ([clause], ts)
    | _ => none

/-- The conditions of a clause. -/
def clauseConditions : Nat → List Token → Option ((List Expr) × List Token)
  | 0, _ => none
  | n + 1, .keyword .if_ :: ts => do
    let (e, ts) ← disjunction n ts
    let (es, ts) ← clauseConditions n ts
    return (e :: es, ts)
  | _ + 1, ts => some ([], ts)

/-- The targets of a clause; several make a tuple. -/
def targets : Nat → List Token → Option (Expr × List Token)
  | 0, _ => none
  | n + 1, ts => do
    let (t, ts) ← oneTarget n ts
    match ts with
    | .symbol .comma :: ts => do
      let (more, ts) ← moreTargets n ts
      return (.tuple (t :: more) .store, ts)
    | ts => return (t, ts)

/-- Further targets of a clause. -/
def moreTargets : Nat → List Token → Option ((List Expr) × List Token)
  | 0, _ => none
  | _ + 1, .keyword .in_ :: ts => some ([], .keyword .in_ :: ts)
  | n + 1, ts => do
    let (t, ts) ← oneTarget n ts
    match ts with
    | .symbol .comma :: ts => do
      let (more, ts) ← moreTargets n ts
      return (t :: more, ts)
    | ts => return ([t], ts)

/-- One target, which may be spread. -/
def oneTarget : Nat → List Token → Option (Expr × List Token)
  | 0, _ => none
  | n + 1, .symbol .star :: ts => do
    let (e, ts) ← primary n ts
    let t ← asTarget? e
    return (.starred t .store, ts)
  | n + 1, ts => do
    let (e, ts) ← primary n ts
    let t ← asTarget? e
    return (t, ts)

/-- The parameters of a lambda expression through the colon. -/
def lambdaParams : Nat → ParamState → List Token → Option (Params × List Token)
  | 0, _, _ => none
  | _ + 1, s, .symbol .colon :: ts => if s.complete then some (s.params, ts) else none
  | n + 1, s, .symbol .slash :: ts => do
    let s ← s.slash?
    lambdaParamsEnd n s ts
  | n + 1, s, .symbol .star :: .symbol .comma :: ts =>
    if s.starred then none else lambdaParams n { s with starred := true } ts
  | n + 1, s, .symbol .star :: .name id :: ts =>
    if s.starred then none else lambdaParamsEnd n { s with starred := true, rest := some id } ts
  | _ + 1, s, .symbol .doubleStar :: .name id :: ts => do
    let ts ←
      match ts with
      | .symbol .comma :: ts => expect .colon ts
      | ts => expect .colon ts
    if s.complete then some ({ s with keywordRest := some id }.params, ts) else none
  | n + 1, s, .name id :: .symbol .equals :: ts => do
    let (e, ts) ← expression n ts
    let s ← s.add? id (some e)
    lambdaParamsEnd n s ts
  | n + 1, s, .name id :: ts => do
    let s ← s.add? id none
    lambdaParamsEnd n s ts
  | _ + 1, _, _ => none

/-- After a parameter: a comma and further parameters, or the colon. -/
def lambdaParamsEnd : Nat → ParamState → List Token → Option (Params × List Token)
  | 0, _, _ => none
  | n + 1, s, .symbol .comma :: ts => lambdaParams n s ts
  | _ + 1, s, .symbol .colon :: ts => if s.complete then some (s.params, ts) else none
  | _ + 1, _, _ => none

/-- Neighbouring text literals, the first of which has been read. -/
def quotations : Nat → (marked : Bool) → Quotation → List Token → Option (Expr × List Token)
  | 0, _, _, _ => none
  | n + 1, marked, .bytes bs, ts => do
    let (more, ts) ← moreBytes n ts
    return (.constant (.bytes (bs ++ more)) marked, ts)
  | n + 1, marked, .text t, ts => do
    let (formatted, parts, ts) ← moreParts n marked ts
    let parts := Formatted.Part.literal t :: parts
    if formatted then return (.joined (Formatted.assemble marked marked [] parts), ts)
    else
      let whole := parts.flatMap fun
        | .literal t => t
        | .field _ => []
      return (.constant (.text whole) marked, ts)
  | n + 1, marked, .formatted raw body, ts => do
    let (parts, rest) ← formattedParts n marked raw false body
    if !rest.isEmpty then none
    else do
      let (_, more, ts) ← moreParts n marked ts
      return (.joined (Formatted.assemble marked marked [] (parts ++ more)), ts)

/-- Further bytes literals. -/
def moreBytes : Nat → List Token → Option ((List UInt8) × List Token)
  | 0, _ => none
  | n + 1, .quotation (.bytes bs) _ :: ts => do
    let (more, ts) ← moreBytes n ts
    return (bs ++ more, ts)
  | _ + 1, .quotation _ _ :: _ => none
  | _ + 1, ts => some ([], ts)

/-- Further text literals, and whether one of them is formatted. -/
def moreParts : Nat → (marked : Bool) → List Token →
    Option (Bool × List Formatted.Part × List Token)
  | 0, _, _ => none
  | _ + 1, _, .quotation (.bytes _) _ :: _ => none
  | n + 1, marked, .quotation (.text t) _ :: ts => do
    let (formatted, parts, ts) ← moreParts n marked ts
    return (formatted, .literal t :: parts, ts)
  | n + 1, marked, .quotation (.formatted raw body) _ :: ts => do
    let (parts, rest) ← formattedParts n marked raw false body
    if !rest.isEmpty then none
    else do
      let (_, more, ts) ← moreParts n marked ts
      return (true, parts ++ more, ts)
  | _ + 1, _, ts => some (false, [], ts)

/-- The parts of the body of a formatted text, or of a format up to the brace that closes it, and
what is left. -/
def formattedParts : Nat → (marked raw inFormat : Bool) → Text →
    Option (List Formatted.Part × Text)
  | 0, _, _, _, _ => none
  | n + 1, marked, raw, inFormat, t => do
    let (run, stop) ← Formatted.run? raw inFormat t
    let literal ← if raw then some run else Literal.decodeText? 0 run
    match stop with
    | .finished => return ([.literal literal], [])
    | .closes rest => return ([.literal literal], rest)
    | .doubled rest => do
      let (parts, rest) ← formattedParts n marked raw inFormat rest
      return (.literal literal :: parts, rest)
    | .opens rest => do
      let (echo, e, rest) ← replacement n marked raw inFormat rest
      let (parts, rest) ← formattedParts n marked raw inFormat rest
      return (.literal (literal ++ echo) :: .field e :: parts, rest)

/-- A replacement field after its opening brace: the text it repeats, the field, and what follows
its closing brace.  A field in a format has no fields in its own format. -/
def replacement : Nat → (marked raw inFormat : Bool) → Text → Option (Text × Expr × Text)
  | 0, _, _, _, _ => none
  | n + 1, marked, raw, inFormat, t => do
    let (source, rest) ← Formatted.fieldText? 0 none [] t
    if source.all fun c => c == ' ' || c == '\t' || c == '\n' || c == '\x0c' then none
    else do
      let tokens ← Lexer.lex? ('(' :: source ++ [')'])
      let (value, _) ← expression n tokens
      let (mark, rest) := Formatted.echo rest
      let (conversion, rest) ← Formatted.conversion? rest
      let (format, rest) ←
        match rest with
        | ':' :: r => do
          let (parts, rest) ←
            if inFormat then do
              let (run, stop) ← Formatted.run? raw true r
              let literal ← if raw then some run else Literal.decodeText? 0 run
              match stop with
              | .closes rest => some ([Formatted.Part.literal literal], rest)
              | _ => none
            else formattedParts n marked raw true r
          some (some (Expr.joined (Formatted.assemble marked false [] parts)), rest)
        | rest => some (none, rest)
      match rest with
      | c :: rest =>
        if c = Formatted.closeBrace then
          let conversion :=
            if mark.isSome && format.isNone && conversion.isNone then some 'r' else conversion
          let echoed := match mark with
            | some m => source ++ m
            | none => []
          return (echoed, .field value conversion format, rest)
        else none
      | [] => none

end

/-- The expressions that make up a whole text, where several make a tuple. -/
def expressions (n : Nat) (ts : List Token) : Option (Expr × List Token) := do
  let (e, ts) ← expression n ts
  match ts with
  | .symbol .comma :: ts => do
    let (es, ts) ← more n ts
    return (.tuple (e :: es) .load, ts)
  | ts => return (e, ts)
where
  /-- Further expressions after a comma, which may end the list. -/
  more : Nat → List Token → Option ((List Expr) × List Token)
    | 0, _ => none
    | _ + 1, [] => some ([], [])
    | _ + 1, .newline :: ts => some ([], .newline :: ts)
    | n + 1, ts => do
      let (e, ts) ← expression n ts
      match ts with
      | .symbol .comma :: ts => do
        let (es, ts) ← more n ts
        return (e :: es, ts)
      | ts => return ([e], ts)

/-- Only line ends are left. -/
def atEnd (ts : List Token) : Bool :=
  ts.all fun
    | .newline => true
    | _ => false

/-- The depth of the descent that a text of a given length allows. -/
def depth (length : Nat) : Nat := 32 * (length + 2)

/-- The tree of an expression; none if the text is no expression. -/
def parse? (t : Text) : Option Expr := do
  let tokens ← Lexer.lex? t
  let (e, ts) ← expressions (depth t.length) tokens
  if atEnd ts then some e else none

end Dialogue.Parser
