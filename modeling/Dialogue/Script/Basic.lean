import Dialogue.Text.Basic
set_option autoImplicit false

/-!
# Scripts

A script holds flows, a flow holds states, and a state holds the actions that are executed when
the conversation enters it.

Normative source: `parser`, `Action`, `State`, `Flow` and `Program`.
-/

namespace Dialogue

/-- What a state does. -/
inductive Action where
  /-- Emits a text with its tags filled in. -/
  | reply (text : Text)
  /-- Goes to another state. -/
  | goto (target : Text)
  /-- Asks a question and stores the answer. -/
  | ask (var prompt : Text)
  /-- Stores a text. -/
  | set (var value : Text)
  /-- Stores the text of an expression's value. -/
  | setExpr (var expr : Text)
  /-- Goes to another state if a variable equals a text. -/
  | ifGoto (left right target : Text)
  /-- Writes a variable into a file. -/
  | save (var path : Text)
  /-- Reads a variable from a file. -/
  | load (var path : Text)
  /-- Executes the first branch whose condition holds, or else the other actions. -/
  | chain (branches : List (Text × List Action)) (otherwise : Option (List Action))
  /-- Executes one of two lists of actions after a comparison of two expressions. -/
  | compare (left sign right : Text) (body otherwise : List Action)
  /-- An action of an unknown kind. -/
  | unknown (kind : Text)
  deriving Inhabited

/-- A branch of a chain: its condition and its actions. -/
abbrev Branch : Type := Text × List Action

/-- A state of a flow. -/
structure State where
  name : Text
  actions : List Action

/-- A flow: its states in order, of which the first is entered first. -/
structure Flow where
  name : Text
  states : List State

/-- A script: its flows in order. -/
structure Script where
  flows : List Flow

namespace Flow

/-- Adds a state; a state of the same name is replaced in its place. -/
def put (s : State) : List State → List State
  | [] => [s]
  | x :: rest => if x.name = s.name then s :: rest else x :: put s rest

/-- The state with a name. -/
def state? (f : Flow) (name : Text) : Option State := f.states.find? fun s => s.name = name

/-- The flow has a state with the name. -/
def has (f : Flow) (name : Text) : Bool := (f.state? name).isSome

/-- The names of the states in order. -/
def names (f : Flow) : List Text := f.states.map State.name

end Flow

namespace Script

/-- Adds a flow; a flow of the same name is replaced in its place. -/
def put (f : Flow) : List Flow → List Flow
  | [] => [f]
  | x :: rest => if x.name = f.name then f :: rest else x :: put f rest

/-- The flow with a name. -/
def flow? (s : Script) (name : Text) : Option Flow := s.flows.find? fun f => f.name = name

end Script
end Dialogue
