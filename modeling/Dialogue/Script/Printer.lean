import Dialogue.Script.Basic
set_option autoImplicit false

/-!
# Writing scripts

A script as text, one statement a line.  A chain can be written in two spellings, which differ in
whether a closing brace shares its line with the `elif` or `else` that follows it.

Normative source: the statements that `parser` accepts in `parse`; the source has no printer.
-/

namespace Dialogue

/-- How a chain is continued after a branch. -/
inductive Spelling where
  /-- The closing brace stands before `elif` or `else`. -/
  | attached
  /-- The closing brace has a line of its own. -/
  | separate
  deriving DecidableEq, Repr

namespace Spelling

/-- The lines that close a branch and open the next block. -/
def joint (s : Spelling) (opening : Text) : List Text :=
  match s with
  | attached => [['\x7d', ' '] ++ opening]
  | separate => [['\x7d'], opening]

/-- The lines that open a branch; the first of a chain has nothing to close. -/
def heading (s : Spelling) (isFirst : Bool) (condition : Text) : List Text :=
  let brace := " \x7b".toList
  if isFirst then ["if ".toList ++ condition ++ brace]
  else s.joint ("elif ".toList ++ condition ++ brace)

end Spelling

namespace Action

/-- A text between quotes, as it stands. -/
def inQuotes (t : Text) : Text := '"' :: t ++ ['"']

mutual

/-- The lines of an action; one that has no statement has none. -/
def lines (s : Spelling) : Action → List Text
  | reply text => ["reply ".toList ++ inQuotes text]
  | goto target => ["goto ".toList ++ target]
  | ask var prompt => ["ask ".toList ++ var ++ ' ' :: inQuotes prompt]
  | set var value => ["set ".toList ++ var ++ " = ".toList ++ inQuotes value]
  | setExpr var expr => ["set ".toList ++ var ++ " = ".toList ++ expr]
  | ifGoto left right target =>
    ["if ".toList ++ left ++ " == ".toList ++ inQuotes right ++ " goto ".toList ++ target]
  | save var path => ["save ".toList ++ var ++ " to ".toList ++ inQuotes path]
  | load var path => ["load ".toList ++ var ++ " from ".toList ++ inQuotes path]
  | chain branches otherwise =>
    linesOfBranches s true branches ++ linesOfOtherwise s otherwise ++ [['\x7d']]
  | compare _ _ _ _ _ => []
  | unknown _ => []

/-- The lines of actions. -/
def linesOfAll (s : Spelling) : List Action → List Text
  | [] => []
  | a :: rest => lines s a ++ linesOfAll s rest

/-- The lines of the branches of a chain. -/
def linesOfBranches (s : Spelling) (isFirst : Bool) : List (Text × List Action) → List Text
  | [] => []
  | b :: rest => linesOfBranch s isFirst b ++ linesOfBranches s false rest

/-- The lines of a branch. -/
def linesOfBranch (s : Spelling) (isFirst : Bool) : Text × List Action → List Text
  | (condition, actions) => s.heading isFirst condition ++ linesOfAll s actions

/-- The lines of the other actions of a chain. -/
def linesOfOtherwise (s : Spelling) : Option (List Action) → List Text
  | none => []
  | some actions => s.joint "else \x7b".toList ++ linesOfAll s actions

end

@[simp] theorem linesOfAll_append (s : Spelling) (xs ys : List Action) :
    linesOfAll s (xs ++ ys) = linesOfAll s xs ++ linesOfAll s ys := by
  induction xs with
  | nil => rfl
  | cons a rest ih => simp [linesOfAll, ih]

end Action

/-- The lines of a state. -/
def State.lines (s : Spelling) (state : State) : List Text :=
  ("state ".toList ++ state.name) :: Action.linesOfAll s state.actions

/-- The lines of a flow. -/
def Flow.lines (s : Spelling) (f : Flow) : List Text :=
  ("flow ".toList ++ f.name) :: f.states.flatMap (State.lines s)

/-- The lines of a script. -/
def Script.lines (s : Spelling) (script : Script) : List Text := script.flows.flatMap (Flow.lines s)

/-- The text of a script. -/
def Script.print (s : Spelling) (script : Script) : Text :=
  (script.lines s).flatMap fun line => line ++ ['\n']

end Dialogue
