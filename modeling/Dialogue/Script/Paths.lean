import Dialogue.Script.Basic
set_option autoImplicit false

/-!
# Files of a script

The paths that a script names.

Normative source: `parser`, the paths in the actions `save` and `load`.
-/

namespace Dialogue

namespace Action

mutual

/-- The paths that an action names. -/
def paths : Action → List Text
  | save _ path => [path]
  | load _ path => [path]
  | chain branches otherwise => pathsOfBranches branches ++ pathsOfOtherwise otherwise
  | compare _ _ _ body otherwise => pathsOfAll body ++ pathsOfAll otherwise
  | _ => []

/-- The paths that actions name. -/
def pathsOfAll : List Action → List Text
  | [] => []
  | a :: rest => paths a ++ pathsOfAll rest

/-- The paths that branches name. -/
def pathsOfBranches : List (Text × List Action) → List Text
  | [] => []
  | b :: rest => pathsOfBranch b ++ pathsOfBranches rest

/-- The paths that a branch names. -/
def pathsOfBranch : Text × List Action → List Text
  | (_, actions) => pathsOfAll actions

/-- The paths that the other actions of a chain name. -/
def pathsOfOtherwise : Option (List Action) → List Text
  | none => []
  | some actions => pathsOfAll actions

end

end Action

/-- The paths that a script names. -/
def Script.paths (s : Script) : List Text :=
  s.flows.flatMap fun f => f.states.flatMap fun state => Action.pathsOfAll state.actions

end Dialogue
