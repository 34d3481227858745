import Dialogue.Expr.Eval
import Dialogue.Proofs.Except
set_option autoImplicit false

/-!
# The whitelist of expressions

An expression has a value only if every construct in it, at any depth, is one of a few: literals,
names, arithmetic, signs, and calls of the listed functions.  The evaluation is strict, so nothing
else can hide in a part that is not looked at; the keyword arguments of a call are the only parts
that are not.  Main statement: `Expr.evalText_whitelist`.
-/

namespace Dialogue

/-- The expressions in a clause of a comprehension. -/
def Clause.parts : Clause → List Expr
  | mk target iterable conditions _ => target :: iterable :: conditions

/-- The expressions in the parameters of a lambda expression: their defaults. -/
def Params.parts : Params → List Expr
  | mk _ _ _ keywordOnly _ defaults => keywordOnly.filterMap Prod.snd ++ defaults

/-- The construct was refused, whatever its operands are. -/
def EvalFault.isRefusal : EvalFault → Bool
  | malformed => true
  | notCallable => true
  | notAccessible => true
  | refused _ => true
  | notCondition _ => true
  | _ => false

namespace Expr

/-! ## The constructs in a tree -/

/-- The expressions of which a construct is made, less the keyword arguments of a call. -/
def parts : Expr → List Expr
  | boolOp _ values => values
  | named _ value => [value]
  | binary left _ right => [left, right]
  | unary _ operand => [operand]
  | lambda params body => params.parts ++ [body]
  | choice test body orElse => [test, body, orElse]
  | dict entries => entries.flatMap fun (key, value) => key.toList ++ [value]
  | set elements => elements
  | listComp element clauses => element :: clauses.flatMap Clause.parts
  | setComp element clauses => element :: clauses.flatMap Clause.parts
  | dictComp key value clauses => key :: value :: clauses.flatMap Clause.parts
  | generator element clauses => element :: clauses.flatMap Clause.parts
  | await value => [value]
  | yield value => value.toList
  | yieldFrom value => [value]
  | compare left rest => left :: rest.map Prod.snd
  | call func args _ => func :: args
  | field value _ format => value :: format.toList
  | joined parts => parts
  | constant _ _ => []
  | .attribute value _ _ => [value]
  | subscript value index _ => [value, index]
  | starred value _ => [value]
  | name _ _ => []
  | list elements _ => elements
  | tuple elements _ => elements
  | slice lower upper step => lower.toList ++ upper.toList ++ step.toList

/-- The second expression is the first or stands in it, at any depth. -/
inductive Contains : Expr → Expr → Prop
  | self (e : Expr) : Contains e e
  | within {e part d : Expr} (hpart : part ∈ e.parts) (h : Contains part d) : Contains e d

/-- The operators of arithmetic. -/
def arithmetic : List BinaryOp := [.add, .sub, .mul, .div, .floorDiv, .mod]

/-- The operators that are signs. -/
def signs : List UnaryOp := [.plus, .minus]

/-- The names of the functions that may be called. -/
def functions : List Text :=
  ["len", "abs", "int", "float", "str", "upper", "lower", "title", "trim", "min", "max",
    "contains"].map String.toList

/-- The expression spreads a list. -/
def isStarred : Expr → Bool
  | starred _ _ => true
  | _ => false

/-- The construct itself is on the whitelist, whatever its parts are. -/
def isListed : Expr → Bool
  | constant _ _ => true
  | name _ _ => true
  | binary _ op _ => arithmetic.contains op
  | unary op _ => signs.contains op
  | call (name id _) args _ => functions.contains id && args.all fun arg => !arg.isStarred
  | _ => false

/-- Every construct in the tree is on the whitelist. -/
def Listed (e : Expr) : Prop := ∀ d, e.Contains d → d.isListed = true

theorem Listed.isListed {e : Expr} (h : e.Listed) : e.isListed = true := h e (.self e)

theorem Listed.part {e part : Expr} (h : e.Listed) (hpart : part ∈ e.parts) : part.Listed :=
  fun d hd => h d (.within hpart hd)

theorem listed_of_parts {e : Expr} (hown : e.isListed = true)
    (hparts : ∀ part ∈ e.parts, part.Listed) : e.Listed := by
  intro d hd
  cases hd with
  | self => exact hown
  | within hpart h => exact hparts _ hpart d h

/-! ## The lists and the evaluation -/

theorem contains_arithmetic (op : BinaryOp) : arithmetic.contains op = op.isArithmetic := by
  cases op <;> rfl

theorem contains_signs (op : UnaryOp) : signs.contains op = op.isSign := by
  cases op <;> rfl

theorem functions_eq : functions = Builtin.all.map Builtin.name := rfl

theorem contains_functions (id : Text) : functions.contains id = (Builtin.ofName? id).isSome := by
  rw [functions_eq, Builtin.ofName?, Bool.eq_iff_iff, List.find?_isSome]
  simp [eq_comm]

/-- Only a name can be called, and it must be that of a function. -/
theorem exists_of_callee? {func : Expr} {f : Builtin} (h : callee? func = some f) :
    ∃ id access, func = name id access ∧ functions.contains id = true := by
  cases func with
  | name id access =>
    refine ⟨id, access, rfl, ?_⟩
    rw [contains_functions]
    exact Option.isSome_of_eq_some h
  | _ => cases h

theorem listed_constant (v : Value) (marked : Bool) : (constant v marked).Listed :=
  listed_of_parts rfl (List.forall_mem_nil _)

theorem listed_name (id : Text) (access : Access) : (name id access).Listed :=
  listed_of_parts rfl (List.forall_mem_nil _)

theorem listed_call {func : Expr} {f : Builtin} {args : List Expr}
    {keywords : List (Option Text × Expr)} (hcallee : callee? func = some f)
    (hargs : ∀ arg ∈ args, arg.Listed) : (call func args keywords).Listed := by
  obtain ⟨id, access, rfl, hid⟩ := exists_of_callee? hcallee
  refine listed_of_parts ?_ (List.forall_mem_cons.2 ⟨listed_name id access, hargs⟩)
  rw [isListed, hid, Bool.true_and, List.all_eq_true]
  intro arg harg
  cases arg with
  | starred value access => cases (hargs _ harg).isListed
  | _ => rfl

/-! ## What has a value is listed -/

mutual

theorem listed_of_eval {ctx : Context} (e : Expr) {v : Value} (h : eval ctx e = .ok v) :
    e.Listed := by
  match e with
  | constant value marked => exact listed_constant value marked
  | name id access => exact listed_name id access
  | binary left op right =>
    rw [eval] at h
    split at h
    · next hop =>
      obtain ⟨l, hl, h⟩ := bind_eq_ok_iff.1 h
      obtain ⟨r, hr, -⟩ := bind_eq_ok_iff.1 h
      refine listed_of_parts ((contains_arithmetic op).trans hop) ?_
      exact List.forall_mem_cons.2
        ⟨listed_of_eval left hl, List.forall_mem_singleton.2 (listed_of_eval right hr)⟩
    · cases h
  | unary op operand =>
    rw [eval] at h
    split at h
    · next hop =>
      obtain ⟨x, hx, -⟩ := bind_eq_ok_iff.1 h
      exact listed_of_parts ((contains_signs op).trans hop)
        (List.forall_mem_singleton.2 (listed_of_eval operand hx))
    · cases h
  | call func args keywords =>
    rw [eval] at h
    split at h
    · next f hcallee =>
      obtain ⟨vs, hvs, -⟩ := bind_eq_ok_iff.1 h
      exact listed_call hcallee (listed_of_evalAll args hvs)
    · cases h
  | boolOp _ _ | named _ _ | lambda _ _ | choice _ _ _ | dict _ | set _ | listComp _ _
  | setComp _ _ | dictComp _ _ _ | generator _ _ | await _ | yield _ | yieldFrom _ | compare _ _
  | field _ _ _ | joined _ | .attribute _ _ _ | subscript _ _ _ | starred _ _ | list _ _ | tuple _ _
  | slice _ _ _ =>
    -- every other construct is refused before its parts are looked at
    cases h

theorem listed_of_evalAll {ctx : Context} (es : List Expr) {vs : List Value}
    (h : evalAll ctx es = .ok vs) : ∀ e ∈ es, e.Listed := by
  match es with
  | [] => exact List.forall_mem_nil _
  | e :: es =>
    rw [evalAll] at h
    obtain ⟨v, hv, h⟩ := bind_eq_ok_iff.1 h
    obtain ⟨vs, hvs, -⟩ := bind_eq_ok_iff.1 h
    exact List.forall_mem_cons.2 ⟨listed_of_eval e hv, listed_of_evalAll es hvs⟩

end

end Expr

/-! ## What is listed is not refused -/

/-- The computation is not refused, although it may fail. -/
def Computes {α : Type} (x : Except EvalFault α) : Prop := ∀ f, x = .error f → f.isRefusal = false

theorem computes_ok {α : Type} (a : α) : Computes (.ok a : Except EvalFault α) := by
  intro f h
  cases h

theorem computes_error {α : Type} {f : EvalFault} (h : f.isRefusal = false) :
    Computes (.error f : Except EvalFault α) := by
  intro g hg
  obtain rfl := Except.error.inj hg
  exact h

theorem Computes.bind {α β : Type} {x : Except EvalFault α} {next : α → Except EvalFault β}
    (hx : Computes x) (hnext : ∀ a, x = .ok a → Computes (next a)) : Computes (x >>= next) := by
  intro f h
  rcases bind_eq_error_iff.1 h with hfirst | ⟨a, ha, hlater⟩
  · exact hx f hfirst
  · exact hnext a ha f hlater

/-- A result that is only rewrapped. -/
theorem Computes.map {α β : Type} {x : Except EvalFault α} (hx : Computes x) (g : α → β) :
    Computes (do return g (← x)) :=
  hx.bind fun a _ => computes_ok (g a)

namespace Value

theorem computes_shown (v : Value) : Computes v.shown := by
  unfold shown
  split
  · exact computes_ok _
  · exact computes_error rfl

theorem computes_intNumber (n : Int) : Computes (intNumber n) := by
  unfold intNumber
  split
  · exact computes_ok _
  · exact computes_error rfl

theorem computes_number? (v : Value) : Computes v.number? := by
  cases v with
  | int n => exact (computes_intNumber n).map some
  | _ => exact computes_ok _

theorem computes_coerce (v : Value) : Computes v.coerce := by
  refine v.computes_number?.bind fun x _ => ?_
  split <;> exact computes_ok _

theorem computes_toFloat (v : Value) : Computes v.toFloat := by
  unfold toFloat
  split
  · exact computes_intNumber _
  · exact computes_ok _
  · exact computes_ok _
  · split
    · exact computes_ok _
    · exact computes_error rfl
  · split
    · exact computes_ok _
    · exact computes_error rfl
  · exact computes_error rfl

end Value

theorem computes_integerPart (x : Float) : Computes (integerPart x) := by
  unfold integerPart
  split
  · exact computes_ok _
  · refine computes_error ?_
    split <;> rfl

namespace Builtin

theorem computes_apply1 (f : Builtin) (x : Value) : Computes (f.apply1 x) := by
  have hshown := x.computes_shown
  have hfloat := x.computes_toFloat
  cases f with
  | abs => exact hfloat.map _
  | float => exact hfloat.map _
  | int => exact hfloat.bind fun n _ => (computes_integerPart n).map _
  | min | max | contains => exact computes_error rfl
  | len | str | upper | lower | title | trim => exact hshown.map _

theorem computes_apply2 (f : Builtin) (x y : Value) : Computes (f.apply2 x y) := by
  cases f with
  | min | max => exact x.computes_toFloat.bind fun a _ => y.computes_toFloat.map _
  | contains => exact y.computes_shown.bind fun part _ => x.computes_shown.map _
  | _ => exact computes_error rfl

theorem computes_apply (f : Builtin) (args : List Value) : Computes (f.apply args) := by
  unfold apply
  split
  · exact computes_apply1 f _
  · exact computes_apply2 f _ _
  · exact computes_error rfl

end Builtin

theorem BinaryOp.computes_onNumbers (op : BinaryOp) (x y : Float) :
    Computes (op.onNumbers x y) := by
  unfold onNumbers
  split
  · exact computes_ok _
  · exact computes_ok _
  · exact computes_ok _
  · split
    · exact computes_error rfl
    · exact computes_ok _
  · split
    · exact computes_error rfl
    · exact computes_ok _
  · split
    · exact computes_error rfl
    · exact computes_ok _
  · exact computes_error rfl

theorem BinaryOp.computes_apply (op : BinaryOp) (l r : Value) : Computes (op.apply l r) := by
  refine l.computes_coerce.bind fun x _ => r.computes_coerce.bind fun y _ => ?_
  split
  · exact (op.computes_onNumbers _ _).map _
  · split
    · exact computes_ok _
    · exact computes_error rfl

theorem UnaryOp.computes_apply (op : UnaryOp) (v : Value) : Computes (op.apply v) := by
  refine v.computes_coerce.bind fun x _ => ?_
  split
  · exact computes_ok _
  · exact computes_error rfl

namespace Expr

/-- The callee of a listed call is a function. -/
theorem exists_callee? {func : Expr} {args : List Expr} {keywords : List (Option Text × Expr)}
    (h : (call func args keywords).isListed = true) : ∃ f, callee? func = some f := by
  cases func with
  | name id access =>
    have hid : functions.contains id = true := (Bool.and_eq_true_iff.1 h).1
    rw [contains_functions] at hid
    exact Option.isSome_iff_exists.1 hid
  | _ => cases h

mutual

theorem computes_eval (ctx : Context) (e : Expr) (h : e.Listed) : Computes (eval ctx e) := by
  match e with
  | constant value marked => exact computes_ok value
  | name id access => exact computes_ok _
  | binary left op right =>
    have hop := h.isListed
    rw [isListed, contains_arithmetic] at hop
    rw [eval, if_pos hop]
    have hleft := computes_eval ctx left (h.part List.mem_cons_self)
    have hright := computes_eval ctx right (h.part (List.mem_cons_of_mem _ List.mem_cons_self))
    exact hleft.bind fun l _ => hright.bind fun r _ => op.computes_apply l r
  | unary op operand =>
    have hop := h.isListed
    rw [isListed, contains_signs] at hop
    rw [eval, if_pos hop]
    exact (computes_eval ctx operand (h.part List.mem_cons_self)).bind fun v _ =>
      op.computes_apply v
  | call func args keywords =>
    obtain ⟨f, hcallee⟩ := exists_callee? h.isListed
    rw [eval, hcallee]
    have hargs := computes_evalAll ctx args fun arg harg => h.part (List.mem_cons_of_mem _ harg)
    exact hargs.bind fun vs _ => f.computes_apply vs
  | boolOp _ _ | named _ _ | lambda _ _ | choice _ _ _ | dict _ | set _ | listComp _ _
  | setComp _ _ | dictComp _ _ _ | generator _ _ | await _ | yield _ | yieldFrom _ | compare _ _
  | field _ _ _ | joined _ | .attribute _ _ _ | subscript _ _ _ | starred _ _ | list _ _ | tuple _ _
  | slice _ _ _ => cases h.isListed

theorem computes_evalAll (ctx : Context) (es : List Expr) (h : ∀ e ∈ es, e.Listed) :
    Computes (evalAll ctx es) := by
  match es with
  | [] => exact computes_ok []
  | e :: es =>
    have hfirst := computes_eval ctx e (h e List.mem_cons_self)
    have hrest := computes_evalAll ctx es fun e' he' => h e' (List.mem_cons_of_mem e he')
    rw [evalAll]
    exact hfirst.bind fun v _ => hrest.map _

end

/-- If a text has a value, then every construct in its tree is on the whitelist.  If one is not,
evaluation fails, whatever the variables are.  If all are, nothing is refused: evaluation can fail
only where it computes. -/
theorem evalText_whitelist (t : Text) :
    (∀ ctx v, evalText ctx t = .ok v → ∃ e, Parser.parse? t = some e ∧ e.Listed) ∧
      (∀ e d, Parser.parse? t = some e → e.Contains d → d.isListed = false →
        ∀ ctx, ∃ f, evalText ctx t = .error f) ∧
      ∀ e, Parser.parse? t = some e → e.Listed →
        ∀ ctx f, evalText ctx t = .error f → f.isRefusal = false := by
  refine ⟨?_, ?_, ?_⟩
  · intro ctx v h
    unfold evalText at h
    split at h
    · next e he => exact ⟨e, he, listed_of_eval e h⟩
    · cases h
  · intro e d he hd hunlisted ctx
    rw [evalText, he]
    cases h : eval ctx e with
    | error f => exact ⟨f, h⟩
    | ok v =>
      have hlisted := listed_of_eval e h d hd
      cases hlisted.symm.trans hunlisted
  · intro e he hlisted ctx
    rw [evalText, he]
    exact computes_eval ctx e hlisted

/-- A keyword argument is not looked at, also if it is not on the whitelist. -/
example :
    eval [] (call (name "len".toList .load) [constant (.text "ab".toList) false]
      [(some "key".toList, .attribute (name "x".toList .load) "y".toList .load)]) =
        .ok (.int 2) := rfl

end Expr
end Dialogue
