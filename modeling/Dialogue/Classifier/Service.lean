import Dialogue.Json.Reader
set_option autoImplicit false

/-!
# The remote service

A request to the service that reads intents, its replies, and the way from a reply to the text that
it carries.

Normative source: `llm_agent`, the request and the reply in `DeepSeekClient.classify_intent`.  The
service itself is a parameter: the replies that it will give, in order.
-/

namespace Dialogue

/-- A message of a request. -/
structure Message where
  role : Text
  content : Text

/-- A request. -/
structure Request where
  address : Text
  headers : Assoc Text
  /-- The time allowed, in seconds. -/
  timeout : Nat
  model : Text
  messages : List Message
  maxTokens : Nat
  temperature : Float

/-- A reply to a request: a JSON value, or a failure with its message. -/
inductive Reply where
  | body (j : Json)
  | failed (message : Text)

/-- The replies that the service will give: some in order, and then always the same. -/
structure Service where
  replies : List Reply
  afterwards : Reply

/-- The next reply. -/
def Service.next (s : Service) : Reply × Service :=
  match s.replies with
  | [] => (s.afterwards, s)
  | r :: rest => (r, { s with replies := rest })

/-- Why a reply carries no text. -/
inductive ReplyFault where
  | failed (message : Text)
  /-- An object without the member. -/
  | noMember (name : Text)
  /-- An object where an array is needed. -/
  | objectForArray
  /-- An array where an object is needed. -/
  | arrayForObject
  /-- A text where an object is needed. -/
  | textForObject
  | emptyArray
  | emptyText
  /-- A value that has no parts. -/
  | noParts (kind : Text)
  /-- The content is no text. -/
  | notText (kind : Text)
  deriving DecidableEq, Repr

/-- The message of a fault. -/
def ReplyFault.message : ReplyFault → Text
  | failed message => message
  | noMember name => Text.quoted name
  | objectForArray => "0".toList
  | arrayForObject => "list indices must be integers or slices, not str".toList
  | textForObject => "string indices must be integers, not 'str'".toList
  | emptyArray => "list index out of range".toList
  | emptyText => "string index out of range".toList
  | noParts kind => '\x27' :: kind ++ "' object is not subscriptable".toList
  | notText kind => '\x27' :: kind ++ "' object has no attribute 'strip'".toList

namespace Reply

/-- The member of an object. -/
def member (name : String) : Json → Except ReplyFault Json
  | .array _ => .error .arrayForObject
  | .text _ | .unpaired _ => .error .textForObject
  | v =>
    match v.members? with
    | some members =>
      match Assoc.get? name.toList members with
      | some v => .ok v
      | none => .error (.noMember name.toList)
    | none => .error (.noParts v.kind)

/-- The first item of an array, or the first character of a text. -/
def first : Json → Except ReplyFault Json
  | .array (v :: _) => .ok v
  | .array [] => .error .emptyArray
  | .text (c :: _) => .ok (.text [c])
  | .unpaired (n :: _) => .ok (.ofCodes [n])
  | .text [] | .unpaired [] => .error .emptyText
  | .object _ | .unpairedObject _ => .error .objectForArray
  | v => .error (.noParts v.kind)

/-- The text that a reply carries: the content of the message of its first choice. -/
def content : Reply → Except ReplyFault Text
  | failed message => .error (.failed message)
  | body j => do
    let choices ← member "choices" j
    let choice ← first choices
    let message ← member "message" choice
    match ← member "content" message with
    | .text t => return t
    | .unpaired codes => return CodePoints.replaced codes
    | v => .error (.notText v.kind)

end Reply
end Dialogue
