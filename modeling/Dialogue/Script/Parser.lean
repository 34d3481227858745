import Dialogue.Script.Block
import Dialogue.Text.Lines
set_option autoImplicit false

/-!
# Reading scripts

A script is read line by line.  Before the first flow lines are passed over; in a flow, lines
outside of states are passed over too.  A name that returns replaces what it named before.

Normative source: `parser`, `parse`.
-/

namespace Dialogue

/-- Where in a script the next line stands. -/
inductive Place where
  /-- Before the first flow. -/
  | outside
  /-- In a flow, outside of its states. -/
  | flow (f : Flow)
  /-- In the body of a state. -/
  | state (f : Flow) (name : Text) (body : Block)

/-- A script while it is being read: the finished flows and the place of the next line. -/
structure Reading where
  flows : List Flow := []
  place : Place := .outside

namespace Reading

/-- A flow begins after the finished ones. -/
def beginFlow (flows : List Flow) (name : Text) : Reading := ⟨flows, .flow ⟨name, []⟩⟩

/-- A line in a flow, outside of its states. -/
def stepFlow (flows : List Flow) (f : Flow) (line : Text) : Reading :=
  match Statement.after? "state" line with
  | some name => ⟨flows, .state f name {}⟩
  | none =>
    match Statement.after? "flow" line with
    | some name => beginFlow (Script.put f flows) name
    | none => ⟨flows, .flow f⟩

/-- One line of a script. -/
def step (r : Reading) (line : Text) : Except ScriptFault Reading :=
  match r.place with
  | .outside =>
    match Statement.after? "flow" line with
    | some name => .ok (beginFlow r.flows name)
    | none =>
      if Text.startsWith "state ".toList line then .error .stateOutsideFlow else .ok r
  | .flow f => .ok (stepFlow r.flows f line)
  | .state f name body => do
    match ← body.step line with
    | .more body => return ⟨r.flows, .state f name body⟩
    | .stopped actions =>
      return stepFlow r.flows { f with states := Flow.put ⟨name, actions⟩ f.states } line

/-- The lines of a script, one after another. -/
def run (r : Reading) : List Text → Except ScriptFault Reading
  | [] => .ok r
  | line :: rest => do
    let r ← r.step line
    r.run rest

/-- The script at the end of the text. -/
def finish (r : Reading) : Except ScriptFault Script :=
  match r.place with
  | .outside => .error .noFlow
  | .flow f => .ok ⟨Script.put f r.flows⟩
  | .state f name body => do
    let actions ← body.finish
    return ⟨Script.put { f with states := Flow.put ⟨name, actions⟩ f.states } r.flows⟩

end Reading

namespace Script

/-- The lines of a text without the blanks at their ends. -/
def strippedLines (t : Text) : List Text := (Text.lines t).map Text.strip

/-- The script that a text writes. -/
def parse (t : Text) : Except ScriptFault Script := do
  let r ← Reading.run {} (strippedLines t)
  r.finish

end Script
end Dialogue
