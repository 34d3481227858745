import Dialogue.Script.Printer
import Dialogue.Script.Statement
import Dialogue.Proofs.Text.Strip
set_option autoImplicit false

/-!
# Well-formed scripts

A script can be written down as text if its parts can: names are single words, texts stay on one
line, and no part holds what would end it too early.  Whether an `elif` or `else` that shares its
line with a closing brace continues the right chain is a property of its own, `attaches`.
-/

namespace Dialogue

/-- The word `goto` stands between blanks. -/
def Text.hasGoto : Text → Bool
  | [] => false
  | c :: t =>
    (isBlank c && match after? "goto".toList t with
      | some (d :: _) => isBlank d
      | _ => false) || hasGoto t

namespace Action

/-! ## Actions that can be written -/

mutual

/-- The action can be written as statements. -/
def wellFormed : Action → Bool
  | reply text => text.isOneLine
  | goto target => target.isName
  | ask var prompt => var.isName && prompt.isOneLine
  | set var value => var.isName && !var.contains '=' && value.isOneLine
  | setExpr var expr =>
    var.isName && !var.contains '=' && Text.strip expr == expr && expr.isOneLine &&
      !Statement.isQuoted expr
  | ifGoto left right target =>
    left.isSolid && left.isOneLine && !Text.has "==".toList left && right.isOneLine &&
      !right.hasGoto && target.isName && target.getLast? != some '\x7b'
  | save var path => var.isName && path.isOneLine
  | load var path => var.isName && path.isOneLine
  | chain branches otherwise =>
    !branches.isEmpty && wellFormedBranches branches && wellFormedOtherwise otherwise
  | compare _ _ _ _ _ => false
  | unknown _ => false

/-- All actions can be written. -/
def wellFormedAll : List Action → Bool
  | [] => true
  | a :: rest => wellFormed a && wellFormedAll rest

/-- All branches can be written. -/
def wellFormedBranches : List (Text × List Action) → Bool
  | [] => true
  | b :: rest => wellFormedBranch b && wellFormedBranches rest

/-- The condition and the actions of a branch can be written. -/
def wellFormedBranch : Text × List Action → Bool
  | (condition, actions) => condition.isSolid && condition.isOneLine && wellFormedAll actions

/-- The other actions of a chain can be written. -/
def wellFormedOtherwise : Option (List Action) → Bool
  | none => true
  | some actions => wellFormedAll actions

end

/-! ## Chains that keep their joints -/

/-- The last action is a chain without other actions, so that its last line is the closing brace of
a branch. -/
def endsOpen (actions : List Action) : Bool :=
  match actions.getLast? with
  | some (chain _ none) => true
  | _ => false

mutual

/-- In no chain, at any depth, a body that is continued by `elif` or `else` ends open. -/
def attaches : Action → Bool
  | chain branches otherwise =>
    attachesBranches otherwise.isSome branches && attachesOtherwise otherwise
  | _ => true

/-- All actions have the property. -/
def attachesAll : List Action → Bool
  | [] => true
  | a :: rest => attaches a && attachesAll rest

/-- The branches of a chain have it, whose last branch may be continued. -/
def attachesBranches (continued : Bool) : List (Text × List Action) → Bool
  | [] => true
  | b :: rest => attachesBranch (!rest.isEmpty || continued) b && attachesBranches continued rest

/-- A branch has it, which may be continued. -/
def attachesBranch (continued : Bool) : Text × List Action → Bool
  | (_, actions) => attachesAll actions && !(continued && endsOpen actions)

/-- The other actions of a chain have it. -/
def attachesOtherwise : Option (List Action) → Bool
  | none => true
  | some actions => attachesAll actions

end

end Action

/-! ## States, flows and scripts -/

/-- The state can be written. -/
def State.wellFormed (s : State) : Bool := s.name.isName && Action.wellFormedAll s.actions

/-- The flow can be written: its states can, and they have different names. -/
def Flow.wellFormed (f : Flow) : Bool :=
  f.name.isName && f.states.all State.wellFormed && decide f.names.Nodup

theorem Flow.isName_of_wellFormed {f : Flow} (h : f.wellFormed = true) : f.name.isName = true := by
  simp only [Flow.wellFormed, Bool.and_eq_true] at h
  exact h.1.1

theorem Flow.states_wellFormed {f : Flow} (h : f.wellFormed = true) :
    ∀ state ∈ f.states, state.wellFormed = true := by
  simp only [Flow.wellFormed, Bool.and_eq_true, List.all_eq_true] at h
  exact h.1.2

theorem Flow.nodup_names_of_wellFormed {f : Flow} (h : f.wellFormed = true) : f.names.Nodup := by
  simp only [Flow.wellFormed, Bool.and_eq_true, decide_eq_true_eq] at h
  exact h.2

/-- The script can be written: it has flows, they can be written, and they have different names. -/
def Script.wellFormed (s : Script) : Bool :=
  !s.flows.isEmpty && s.flows.all Flow.wellFormed && decide (s.flows.map Flow.name).Nodup

/-- In no chain of the script a body that is continued ends open. -/
def Script.attaches (s : Script) : Bool :=
  s.flows.all fun f => f.states.all fun state => Action.attachesAll state.actions

end Dialogue
