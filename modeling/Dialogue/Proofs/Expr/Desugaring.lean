import Dialogue.Expr.Condition
import Mathlib.Data.List.Forall2
import Mathlib.Logic.Relation
set_option autoImplicit false

/-!
# Desugaring conditions

A chain of comparisons is the conjunction of the comparisons of its neighbours, and a `not` before a
connective is the other connective of the negated conditions.  Connectives and chains stop as soon
as their truth is known, so these laws have to keep not only the truth but also which operands are
evaluated, and with that the fault.  Main statement: `Expr.holds_desugared`.
-/

namespace Dialogue

/-- The connective that a `not` turns a connective into. -/
def BoolOp.dual : BoolOp → BoolOp
  | and => or
  | or => and

namespace Expr

/-! ## The laws -/

/-- The comparisons of neighbours in a chain, each on its own. -/
def neighbours (left : Expr) : List (CompareOp × Expr) → List Expr
  | [] => []
  | (op, e) :: rest => .compare left [(op, e)] :: neighbours e rest

/-- One construct of a condition is replaced.  What is compared, and every other expression that has
a value, stays as it is. -/
inductive Desugars : Expr → Expr → Prop
  /-- A chain of two or more comparisons becomes their conjunction. -/
  | chain (left : Expr) (first second : CompareOp × Expr) (rest : List (CompareOp × Expr)) :
      Desugars (.compare left (first :: second :: rest))
        (.boolOp .and (neighbours left (first :: second :: rest)))
  /-- A `not` moves inward through a connective. -/
  | deMorgan (op : BoolOp) (values : List Expr) :
      Desugars (.unary .not (.boolOp op values)) (.boolOp op.dual (values.map (.unary .not)))
  /-- Two `not` cancel each other. -/
  | double (e : Expr) : Desugars (.unary .not (.unary .not e)) e
  | inConnective (op : BoolOp) (before after : List Expr) {e e' : Expr} (h : Desugars e e') :
      Desugars (.boolOp op (before ++ e :: after)) (.boolOp op (before ++ e' :: after))
  | underNot {e e' : Expr} (h : Desugars e e') : Desugars (.unary .not e) (.unary .not e')

section laws

variable (ctx : Context)

theorem holds_not (e : Expr) : holds ctx (.unary .not e) = (holds ctx e).map (!·) := by
  rw [holds]
  cases holds ctx e with
  | error f => rfl
  | ok b => rfl

/-- The first negated condition that holds is the first condition that does not. -/
theorem someHolds_map_not (es : List Expr) :
    someHolds ctx (es.map (.unary .not)) = (allHold ctx es).map (!·) := by
  induction es with
  | nil => rfl
  | cons e es ih =>
    rw [List.map_cons, someHolds, allHold, holds_not]
    cases holds ctx e with
    | error f => rfl
    | ok b =>
      cases b with
      | true => exact ih
      | false => rfl

theorem allHold_map_not (es : List Expr) :
    allHold ctx (es.map (.unary .not)) = (someHolds ctx es).map (!·) := by
  induction es with
  | nil => rfl
  | cons e es ih =>
    rw [List.map_cons, allHold, someHolds, holds_not]
    cases holds ctx e with
    | error f => rfl
    | ok b =>
      cases b with
      | true => rfl
      | false => exact ih

theorem holds_compare_single (left e : Expr) (op : CompareOp) :
    holds ctx (.compare left [(op, e)]) =
      (eval ctx left >>= fun l => eval ctx e >>= fun r => compareValues op l r) := by
  rw [holds]
  cases eval ctx left with
  | error f => rfl
  | ok l =>
    show chainHolds ctx l [(op, e)] = _
    rw [chainHolds]
    cases eval ctx e with
    | error f => rfl
    | ok r =>
      show (compareValues op l r >>= _) = compareValues op l r
      cases compareValues op l r with
      | error f => rfl
      | ok b => cases b <;> rfl

/-- A chain is its comparisons, one after another: the operand in the middle has its value also when
it is evaluated again. -/
theorem allHold_neighbours {left : Expr} {l : Value} (hleft : eval ctx left = .ok l)
    (rest : List (CompareOp × Expr)) :
    allHold ctx (neighbours left rest) = chainHolds ctx l rest := by
  induction rest generalizing left l with
  | nil => rfl
  | cons first rest ih =>
    obtain ⟨op, e⟩ := first
    rw [neighbours, allHold, chainHolds, holds_compare_single, hleft]
    cases hright : eval ctx e with
    | error f => rfl
    | ok r =>
      show (compareValues op l r >>= fun b => _) = (compareValues op l r >>= fun b => _)
      cases compareValues op l r with
      | error f => rfl
      | ok b =>
        cases b with
        | true => exact ih hright
        | false => rfl

theorem holds_chain (left : Expr) (first : CompareOp × Expr) (rest : List (CompareOp × Expr)) :
    holds ctx (.boolOp .and (neighbours left (first :: rest))) =
      holds ctx (.compare left (first :: rest)) := by
  obtain ⟨op, e⟩ := first
  rw [holds, holds]
  cases hleft : eval ctx left with
  | error f =>
    -- the first comparison fails before it looks at its other operand
    rw [neighbours, allHold, holds_compare_single, hleft]
    rfl
  | ok l => exact allHold_neighbours ctx hleft _

theorem holds_deMorgan (op : BoolOp) (values : List Expr) :
    holds ctx (.boolOp op.dual (values.map (.unary .not))) =
      holds ctx (.unary .not (.boolOp op values)) := by
  cases op with
  | and =>
    rw [holds_not, BoolOp.dual, holds, holds]
    exact someHolds_map_not ctx values
  | or =>
    rw [holds_not, BoolOp.dual, holds, holds]
    exact allHold_map_not ctx values

theorem holds_double (e : Expr) : holds ctx (.unary .not (.unary .not e)) = holds ctx e := by
  rw [holds_not, holds_not]
  cases holds ctx e with
  | error f => rfl
  | ok b => cases b <;> rfl

/-- A condition in a connective counts by its outcome only. -/
theorem holds_connective {e e' : Expr} (h : holds ctx e' = holds ctx e) (op : BoolOp)
    (before after : List Expr) :
    holds ctx (.boolOp op (before ++ e' :: after)) =
      holds ctx (.boolOp op (before ++ e :: after)) := by
  cases op with
  | and =>
    rw [holds, holds]
    induction before with
    | nil => rw [List.nil_append, List.nil_append, allHold, allHold, h]
    | cons first before ih =>
      rw [List.cons_append, List.cons_append, allHold, allHold, ih]
  | or =>
    rw [holds, holds]
    induction before with
    | nil => rw [List.nil_append, List.nil_append, someHolds, someHolds, h]
    | cons first before ih =>
      rw [List.cons_append, List.cons_append, someHolds, someHolds, ih]

end laws

/-- No law changes the outcome of a condition. -/
theorem Desugars.holds_eq {e e' : Expr} (h : Desugars e e') (ctx : Context) :
    holds ctx e' = holds ctx e := by
  induction h with
  | chain left first second rest => exact holds_chain ctx left first (second :: rest)
  | deMorgan op values => exact holds_deMorgan ctx op values
  | double e => exact (holds_double ctx e).symm
  | inConnective op before after _ ih => exact holds_connective ctx ih op before after
  | underNot _ ih => rw [holds_not, holds_not, ih]

/-- A condition can be desugared into another, by any number of laws. -/
def DesugarsTo : Expr → Expr → Prop := Relation.ReflTransGen Desugars

namespace DesugarsTo

theorem refl (e : Expr) : DesugarsTo e e := Relation.ReflTransGen.refl

theorem trans {e e' e'' : Expr} (h : DesugarsTo e e') (h' : DesugarsTo e' e'') :
    DesugarsTo e e'' := Relation.ReflTransGen.trans h h'

theorem of_desugars {e e' : Expr} (h : Desugars e e') : DesugarsTo e e' :=
  Relation.ReflTransGen.single h

theorem holds_eq {e e' : Expr} (h : DesugarsTo e e') (ctx : Context) :
    holds ctx e' = holds ctx e := by
  induction h with
  | refl => rfl
  | tail _ hlast ih => exact (hlast.holds_eq ctx).trans ih

theorem underNot {e e' : Expr} (h : DesugarsTo e e') :
    DesugarsTo (.unary .not e) (.unary .not e') :=
  Relation.ReflTransGen.lift (Expr.unary .not) (fun _ _ => Desugars.underNot) _ _ h

theorem inConnective (op : BoolOp) (before after : List Expr) {e e' : Expr}
    (h : DesugarsTo e e') :
    DesugarsTo (.boolOp op (before ++ e :: after)) (.boolOp op (before ++ e' :: after)) :=
  Relation.ReflTransGen.lift (fun x => Expr.boolOp op (before ++ x :: after))
    (fun _ _ => Desugars.inConnective op before after) _ _ h

/-- The conditions of a connective can be desugared one by one. -/
theorem connective (op : BoolOp) {values values' : List Expr}
    (h : List.Forall₂ DesugarsTo values values') :
    DesugarsTo (.boolOp op values) (.boolOp op values') := by
  -- the conditions before the present one are desugared already
  suffices hfrom : ∀ before, DesugarsTo (.boolOp op (before ++ values))
      (.boolOp op (before ++ values')) from hfrom []
  induction h with
  | nil => exact fun before => refl _
  | @cons e e' values values' hfirst _ ih =>
    intro before
    have hrest := ih (before ++ [e'])
    rw [List.append_assoc, List.append_assoc] at hrest
    exact (inConnective op before values hfirst).trans hrest

end DesugarsTo

/-! ## Desugared conditions -/

/-- The condition is a single comparison or no connective at all. -/
def isAtomic : Expr → Bool
  | .boolOp _ _ => false
  | .unary .not _ => false
  | .compare _ (_ :: _ :: _) => false
  | _ => true

mutual

/-- There is no chain in the condition, and a `not` stands only before a single comparison or before
an expression that is no connective. -/
def isDesugared : Expr → Bool
  | .boolOp _ values => areDesugared values
  | .unary .not operand => operand.isAtomic
  | e => e.isAtomic

/-- All conditions are desugared. -/
def areDesugared : List Expr → Bool
  | [] => true
  | e :: es => e.isDesugared && areDesugared es

end

/-- A condition or its negation. -/
def under (negated : Bool) (e : Expr) : Expr := if negated then .unary .not e else e

theorem map_under_false (es : List Expr) : es.map (under false) = es := List.map_id es

mutual

/-- The condition or its negation, with its chains replaced and its `not` moved inward. -/
def desugar (negated : Bool) : Expr → Expr
  | .boolOp op values => .boolOp (if negated then op.dual else op) (desugarAll negated values)
  | .unary .not operand => desugar (!negated) operand
  | .compare left (first :: second :: rest) =>
    .boolOp (if negated then .or else .and)
      ((neighbours left (first :: second :: rest)).map (under negated))
  | e => under negated e

/-- The conditions or their negations. -/
def desugarAll (negated : Bool) : List Expr → List Expr
  | [] => []
  | e :: es => desugar negated e :: desugarAll negated es

end

/-- The condition with its chains replaced and its `not` moved inward. -/
def desugared (e : Expr) : Expr := desugar false e

theorem isDesugared_under {e : Expr} (h : e.isAtomic = true) (negated : Bool) :
    (under negated e).isDesugared = true := by
  cases negated with
  | true => exact h
  | false =>
    show e.isDesugared = true
    unfold isDesugared
    split
    · cases h
    · cases h
    · exact h

theorem areDesugared_neighbours (negated : Bool) (left : Expr)
    (rest : List (CompareOp × Expr)) :
    areDesugared ((neighbours left rest).map (under negated)) = true := by
  induction rest generalizing left with
  | nil => rfl
  | cons first rest ih =>
    obtain ⟨op, e⟩ := first
    rw [neighbours, List.map_cons, areDesugared, isDesugared_under rfl, ih]
    rfl

mutual

theorem isDesugared_desugar (negated : Bool) (e : Expr) :
    (desugar negated e).isDesugared = true := by
  unfold desugar
  split
  · exact areDesugared_desugarAll negated _
  · exact isDesugared_desugar (!negated) _
  · exact areDesugared_neighbours negated _ _
  · next hconnective hnot hchain =>
    refine isDesugared_under ?_ negated
    unfold isAtomic
    split
    · exact absurd rfl (hconnective _ _)
    · exact absurd rfl (hnot _)
    · exact absurd rfl (hchain _ _ _ _)
    · rfl

theorem areDesugared_desugarAll (negated : Bool) (es : List Expr) :
    areDesugared (desugarAll negated es) = true := by
  match es with
  | [] => rfl
  | e :: es =>
    rw [desugarAll, areDesugared, isDesugared_desugar negated e, areDesugared_desugarAll negated es]
    rfl

end

mutual

theorem desugarsTo_desugar (negated : Bool) (e : Expr) :
    DesugarsTo (under negated e) (desugar negated e) := by
  unfold desugar
  split
  · next op values =>
    have hvalues := desugarsTo_desugarAll negated values
    cases negated with
    | false =>
      rw [map_under_false] at hvalues
      exact .connective op hvalues
    | true => exact (DesugarsTo.of_desugars (.deMorgan op values)).trans (.connective _ hvalues)
  · next operand =>
    have hoperand := desugarsTo_desugar (!negated) operand
    cases negated with
    | false => exact hoperand
    | true => exact (DesugarsTo.of_desugars (.double operand)).trans hoperand
  · next left first second rest =>
    have hchain := DesugarsTo.of_desugars (.chain left first second rest)
    cases negated with
    | false =>
      rw [map_under_false]
      exact hchain
    | true => exact hchain.underNot.trans (.of_desugars (.deMorgan .and _))
  · exact DesugarsTo.refl _

theorem desugarsTo_desugarAll (negated : Bool) (es : List Expr) :
    List.Forall₂ DesugarsTo (es.map (under negated)) (desugarAll negated es) := by
  match es with
  | [] => exact .nil
  | e :: es => exact .cons (desugarsTo_desugar negated e) (desugarsTo_desugarAll negated es)

end

/-- Conditions may be desugared.  Every condition can be brought by the laws, and only by them, into
a form without chains in which a `not` stands only before single comparisons and values; it then has
the same truth or fails with the same fault, for all variables.  So does every condition on the
way. -/
theorem holds_desugared (ctx : Context) (e : Expr) :
    holds ctx e.desugared = holds ctx e ∧ e.desugared.isDesugared = true ∧
      DesugarsTo e e.desugared ∧ ∀ e', DesugarsTo e e' → holds ctx e' = holds ctx e := by
  have hreached : DesugarsTo e e.desugared := desugarsTo_desugar false e
  refine ⟨hreached.holds_eq ctx, isDesugared_desugar false e, hreached, ?_⟩
  intro e' he'
  exact he'.holds_eq ctx

/-- `not (a < b <= c and not d)` becomes `(not a < b or not b <= c) or d`. -/
example (a b c d : Expr) :
    desugared (.unary .not (.boolOp .and
      [.compare a [(.less, b), (.lessEq, c)], .unary .not (.unary .plus d)])) =
    .boolOp .or [.boolOp .or [.unary .not (.compare a [(.less, b)]),
      .unary .not (.compare b [(.lessEq, c)])], .unary .plus d] := rfl

end Expr
end Dialogue
