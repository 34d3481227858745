import Dialogue.Run.Engine
import Dialogue.Script.Parser
set_option autoImplicit false

/-!
# Sessions

A session steps a conversation from input to input.  Each step resumes the run with at most one
answer and pauses at the next question.  The chat records the inputs and the output.

Normative source: `webapp`, `SessionState` with `_make_ask_fn` and `step`.
-/

namespace Dialogue

/-- The author of an utterance. -/
inductive Speaker where
  | assistant
  | user
  deriving DecidableEq, Repr

/-- An entry of the chat. -/
structure Utterance where
  speaker : Speaker
  content : Value

/-- A question that waits for an answer. -/
structure Question where
  var : Text
  prompt : Text
  deriving DecidableEq, Repr

/-- A conversation between inputs. -/
structure Session where
  engine : Engine
  standing : EngineState
  chat : List Utterance
  awaiting : Option Question

/-- The view of a session after a step. -/
structure View where
  messages : List Utterance
  awaiting : Option Question
  ended : Bool

/-- Why a session cannot be opened. -/
inductive OpenFault where
  | script (fault : ScriptFault)
  | start (fault : StartFault)

/-- The message of a fault. -/
def OpenFault.message : OpenFault → Text
  | script fault => fault.message
  | start fault => fault.message

/-- What a step leaves behind: the session, the run, and the view or the fault. -/
structure Step where
  session : Session
  run : Run
  result : Except RunFault View

namespace Utterance

/-- A line as an entry of the assistant. -/
def ofLine (line : Text) : Utterance := ⟨.assistant, .text line⟩

/-- An input as an entry of the user. -/
def ofInput (v : Value) : Utterance := ⟨.user, v⟩

/-- The utterance is the assistant's, with these words. -/
def isLine (u : Utterance) (line : Text) : Bool :=
  match u.speaker, u.content with
  | .assistant, .text t => t == line
  | _, _ => false

end Utterance

namespace Session

/-- The flow that a session runs. -/
def flowName : Text := "main".toList

/-- Opens a session for the text of a script; also returns the notices of the classifier. -/
def start (text : Text) (source : Classifier.Source) (wanted : Bool) :
    Except OpenFault (Session × List Text) :=
  match Script.parse text with
  | .error f => .error (.script f)
  | .ok script =>
    match Engine.start script flowName [] source wanted with
    | .error f => .error (.start f)
    | .ok o => .ok (⟨o.engine, o.standing, [], none⟩, o.notices)

/-- The number of utterances in a view. -/
def recentLimit : Nat := 200

/-- The last utterances of a chat. -/
def recent (chat : List Utterance) : List Utterance := chat.drop (chat.length - recentLimit)

/-- New lines, without the first if it is the last entry of the chat. -/
def unrepeated (chat : List Utterance) : List Text → List Text
  | [] => []
  | line :: lines =>
    match chat.getLast? with
    | some last => if last.isLine line then lines else line :: lines
    | none => line :: lines

/-- The question at which a run stopped, if it stopped at one; an error if it failed otherwise. -/
def pause : Option RunFault → Except RunFault (Option Question)
  | none => .ok none
  | some (.unanswered var prompt) => .ok (some ⟨var, prompt⟩)
  | some f => .error f

/-- The lines of a step: those that were emitted, and the question that waits. -/
def outputLines (r : Run) (q : Option Question) : List Text :=
  r.lines ++ q.toList.map Question.prompt

/-- Steps a session with an input, which is the answer to the first question. -/
def step (s : Session) (world : World) (input : Option Value) : Step :=
  let chat := s.chat ++ input.toList.map Utterance.ofInput
  let r := s.engine.resume s.standing input.toList world
  let s := { s with chat := chat, standing := r.scene.toEngineState }
  match pause r.fault with
  | .error f => ⟨s, r, .error f⟩
  | .ok q =>
    let lines := unrepeated chat (outputLines r q)
    let chat := chat ++ lines.map Utterance.ofLine
    let ended := q.isNone && lines.isEmpty && !s.engine.flow.has s.standing.place
    ⟨{ s with chat := chat, awaiting := q }, r, .ok ⟨recent chat, q, ended⟩⟩

end Session
end Dialogue
