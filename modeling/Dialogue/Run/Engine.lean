import Dialogue.Run.Action
set_option autoImplicit false

/-!
# Runs

A run enters one state after another, until a state leads nowhere or something fails.  The number of
states that one run can enter is bounded.

Normative source: `runtime`, `Engine.__init__` and `Engine.run_iter`.
-/

namespace Dialogue

/-- A flow ready to be run, with the classifier that is used, if any. -/
structure Engine where
  flow : Flow
  classifier : Option Classifier

/-- Why a flow cannot be started. -/
inductive StartFault where
  | missingFlow (name : Text)
  | noStates
  deriving DecidableEq, Repr

/-- The message of a fault. -/
def StartFault.message : StartFault → Text
  | missingFlow name => "找不到 flow: ".toList ++ name
  | noStates => "该 flow 下没有任何 state".toList

/-- The beginning of a conversation: the engine, its state, and the notices of the classifier. -/
structure Opening where
  engine : Engine
  standing : EngineState
  notices : List Text

/-- How a visit to a state ends. -/
inductive VisitEnd where
  | finished
  | moved
  | failed (fault : RunFault)

/-- What a visit to a state leaves behind. -/
structure Visit where
  ending : VisitEnd
  scene : Scene
  events : List Event

/-- What a run leaves behind. -/
structure Run where
  fault : Option RunFault
  scene : Scene
  trace : List Entry

namespace Flow

/-- The actions of a state. -/
def actionsAt (f : Flow) (name : Text) : List Action := ((f.state? name).map State.actions).getD []

/-- The state for an answer that leads nowhere. -/
def fallback? (f : Flow) : Option Text :=
  ["fallback".toList, "unknown".toList, "end".toList].find? f.has

end Flow

namespace Engine

/-- Makes a flow of a script ready to be run, at its first state. -/
def start (script : Script) (name : Text) (ctx : Context) (source : Classifier.Source)
    (wanted : Bool) : Except StartFault Opening :=
  match script.flow? name with
  | none => .error (.missingFlow name)
  | some flow =>
    match flow.states with
    | [] => .error .noStates
    | first :: _ =>
      let (classifier, notices) := source.make? wanted
      .ok ⟨⟨flow, classifier⟩, ⟨first.name, [], ctx, none⟩, notices⟩

/-- Enters the present state. -/
def enter (s : Scene) : Scene :=
  { s with
    visits := Assoc.put s.place ((Assoc.get? s.place s.visits).getD 0 + 1) s.visits
    asked := none
    buffer := [] }

/-- Goes to a state of the flow. -/
def move (e : Engine) (target : Text) (s : Scene) (events : List Event) : Visit :=
  if e.flow.has target then ⟨.moved, { s with place := target }, events⟩
  else ⟨.failed (.missingState target), s, events⟩

/-- Goes to the fallback state, if the flow has one. -/
def fallBack (e : Engine) (s : Scene) (events : List Event) : Visit :=
  match e.flow.fallback? with
  | some target => e.move target s events
  | none => ⟨.finished, s, events⟩

/-- The line that announces a suggestion. -/
def suggestionLine (target : Text) : Text := "(LLM判定意图：".toList ++ target ++ [')']

/-- A suggestion is followed if it is another state of the flow. -/
def isUsable (e : Engine) (place target : Text) : Bool :=
  !target.isEmpty && e.flow.has target && target != place

/-- Routes by a classification: to the state that it suggests, if that is usable, or else to the
fallback state.  The requests and the notices of the classification are recorded first. -/
def routeBy (e : Engine) (inquiry : Inquiry) (s : Scene) (events : List Event) : Visit :=
  let events := events ++ inquiry.requests.map Event.requested ++ inquiry.notices.map Event.notice
  let s := { s with world := { s.world with service := inquiry.service } }
  match inquiry.result with
  | .error f => ⟨.failed (.intent f), s, events⟩
  | .ok (some target) =>
    if e.isUsable s.place target then e.move target s (events ++ [.shown (suggestionLine target)])
    else e.fallBack s events
  | .ok none => e.fallBack s events

/-- Classifies the answer to the last question among the other states, and routes by the result. -/
def follow (e : Engine) (c : Classifier) (var : Text) (s : Scene) (events : List Event) : Visit :=
  e.routeBy (c.classify s.world.service (s.value var) e.flow.names [s.place]) s events

/-- Routes after a state that asked for a variable and did not jump. -/
def route (e : Engine) (var : Text) (s : Scene) (events : List Event) : Visit :=
  match e.classifier with
  | some c => if var.isEmpty then e.fallBack s events else e.follow c var s events
  | none => e.fallBack s events

/-- Enters the present state, executes its actions, emits the buffered replies and routes. -/
def visit (e : Engine) (s : Scene) : Visit :=
  let r := Action.runAll (e.flow.actionsAt s.place) (enter s)
  let put := r.events ++ r.scene.buffer.map Event.shown
  let s := { r.scene with buffer := [] }
  match r.outcome with
  | .fail f => ⟨.failed f, r.scene, r.events⟩
  | .jump target => e.move target s put
  | .proceed =>
    match s.asked with
    | none => ⟨.finished, s, put⟩
    | some var => e.route var s put

/-- The number of states that one run may enter. -/
def visitLimit : Nat := 2000

/-- Runs on for a number of states. -/
def runFor (e : Engine) : Nat → Scene → Run
  | 0, s => ⟨some .endless, s, []⟩
  | n + 1, s =>
    let v := e.visit s
    let trace := v.events.map (Entry.mk s.place)
    match v.ending with
    | .finished => ⟨none, v.scene, trace⟩
    | .failed f => ⟨some f, v.scene, trace⟩
    | .moved =>
      let rest := e.runFor n v.scene
      { rest with trace := trace ++ rest.trace }

/-- Runs from a scene on. -/
def run (e : Engine) (s : Scene) : Run := e.runFor visitLimit s

/-- Runs from a state of the engine, with the answers that the user will give. -/
def resume (e : Engine) (standing : EngineState) (answers : List Value) (world : World) : Run :=
  e.run { standing with buffer := [], answers := answers, world := world }

end Engine

namespace Run

/-- The lines that the run emitted. -/
def lines (r : Run) : List Text := r.trace.filterMap fun x => x.event.line?

/-- The requests that the run made. -/
def requests (r : Run) : List Request := r.trace.filterMap fun x => x.event.request?

/-- The notices of the classifier. -/
def notices (r : Run) : List Text := r.trace.filterMap fun x => x.event.notice?

end Run
end Dialogue
