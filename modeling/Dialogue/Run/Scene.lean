import Dialogue.Classifier.Basic
import Dialogue.Disk.Store
import Dialogue.Script.Basic
set_option autoImplicit false

/-!
# Engine state and events

The state of the engine between two runs and within one, its environment, and its observable
effects.  All that a run does to its environment is recorded as a list of events, of which its
output, its requests and its notices are views.

Normative source: `runtime`, the fields of `Engine` and the `buffer` of `Engine.run_iter`; `webapp`,
`NeedMoreInput`.
-/

namespace Dialogue

/-- The environment of a conversation: its files and its remote service. -/
structure World where
  disk : Disk
  service : Service

/-- The state of the engine between two runs. -/
structure EngineState where
  /-- The name of the present state. -/
  place : Text
  /-- How often each state was entered. -/
  visits : Assoc Nat
  ctx : Context
  /-- The variable that was asked for last since the present state was entered. -/
  asked : Option Text

/-- The state of the engine within a run: also the pending replies, the input and the environment.
-/
structure Scene extends EngineState where
  /-- Replies that have not been emitted. -/
  buffer : List Text
  /-- The input that has not been consumed. -/
  answers : List Value
  world : World

/-- Why a run fails. -/
inductive RunFault where
  | eval (fault : EvalFault)
  | store (fault : Store.Fault)
  | unknownAction (kind : Text)
  /-- A question has no answer. -/
  | unanswered (var prompt : Text)
  /-- A jump to a state that the flow does not have. -/
  | missingState (target : Text)
  | intent (fault : IntentFault)
  /-- Too many states were entered. -/
  | endless

/-- The message of a fault. -/
def RunFault.message : RunFault → Text
  | eval fault => fault.message
  | store fault => fault.message
  | unknownAction kind => "未知动作：".toList ++ kind
  | unanswered var _ => "Need input for ".toList ++ var
  | missingState target => "goto 的目标状态不存在：".toList ++ target
  | intent fault => fault.message
  | endless => "可能出现死循环".toList

/-- An observable effect of a run. -/
inductive Event where
  /-- A reply emitted because a question follows. -/
  | flushed (line : Text)
  /-- A line emitted at the end of a state. -/
  | shown (line : Text)
  /-- A question, with its answer if there is one. -/
  | asked (var prompt : Text) (answer : Option Value)
  /-- A notice of the classifier. -/
  | notice (line : Text)
  | requested (request : Request)

namespace Event

/-- The line that an event emits in the conversation. -/
def line? : Event → Option Text
  | flushed line => some line
  | shown line => some line
  | _ => none

/-- The request that an event makes. -/
def request? : Event → Option Request
  | requested r => some r
  | _ => none

/-- The notice of the classifier that an event is. -/
def notice? : Event → Option Text
  | notice line => some line
  | _ => none

end Event

/-- An event, with the state in which it happens. -/
structure Entry where
  place : Text
  event : Event

/-- How a list of actions ends. -/
inductive Outcome where
  | proceed
  | jump (target : Text)
  | fail (fault : RunFault)

/-- What actions leave behind. -/
structure Report where
  outcome : Outcome
  scene : Scene
  events : List Event

namespace Report

/-- A report with events that happened before. -/
def after (events : List Event) (r : Report) : Report := { r with events := events ++ r.events }

@[simp] theorem after_nil (r : Report) : r.after [] = r := rfl

@[simp] theorem after_after (xs ys : List Event) (r : Report) :
    (r.after ys).after xs = r.after (xs ++ ys) := by
  simp [after]

@[simp] theorem outcome_after (xs : List Event) (r : Report) :
    (r.after xs).outcome = r.outcome := rfl

@[simp] theorem scene_after (xs : List Event) (r : Report) : (r.after xs).scene = r.scene := rfl

end Report

namespace Scene

/-- Nothing but the scene has changed. -/
def proceed (s : Scene) : Report := ⟨.proceed, s, []⟩

/-- A failure that changes nothing. -/
def fail (s : Scene) (f : RunFault) : Report := ⟨.fail f, s, []⟩

/-- Stores the value of a variable. -/
def assign (s : Scene) (var : Text) (v : Value) : Scene := { s with ctx := Assoc.put var v s.ctx }

/-- The value of a variable; a variable that was never set is empty. -/
def value (s : Scene) (var : Text) : Value := (Assoc.get? var s.ctx).getD (.text [])

/-- Appends a reply to the buffer. -/
def reply (s : Scene) (line : Text) : Scene := { s with buffer := s.buffer ++ [line] }

/-- Replaces the files. -/
def withDisk (s : Scene) (d : Disk) : Scene := { s with world := { s.world with disk := d } }

/-- Continues with a value, unless its evaluation failed. -/
def evaluated {α : Type} (s : Scene) (r : Except EvalFault α) (k : α → Report) : Report :=
  match r with
  | .ok a => k a
  | .error f => s.fail (.eval f)

end Scene
end Dialogue
