import Dialogue.Classifier.Service
import Dialogue.Disk.Basic
import Dialogue.Expr.Eval
set_option autoImplicit false

/-!
# Classifiers

A classifier picks the state that a user's words mean.  With a key it asks the remote service;
without one it only compares words.  It never picks a state outside its candidates.

Normative source: `llm_agent`, `DeepSeekClient` with `_load_api_key` and `classify_intent`.
-/

namespace Dialogue

/-- A classifier: the model that it asks for, and its key. -/
structure Classifier where
  model : Text
  key : Json

/-- Why no intent could be looked for. -/
inductive IntentFault where
  /-- The words are no text but a value of this kind. -/
  | notText (kind : Text)
  /-- The words cannot be written. -/
  | unwritable (fault : EvalFault)
  deriving DecidableEq, Repr

/-- The message of a fault. -/
def IntentFault.message : IntentFault → Text
  | notText kind => '\x27' :: kind ++ "' object has no attribute 'lower'".toList
  | unwritable fault => fault.message

/-- What a classification leaves behind: its result, its notices, the requests that
it made, and the service after it. -/
structure Inquiry where
  result : Except IntentFault (Option Text)
  notices : List Text
  requests : List Request
  service : Service

namespace Classifier

/-- The model that is asked for by default. -/
def defaultModel : Text := "deepseek-chat".toList

/-- The key that stands for none. -/
def demoKey : Text := "DEMO_KEY_HERE".toList

/-- The name of the key in a configuration. -/
def keyName : Text := "deepseek_api_key".toList

/-! ## Configuration -/

/-- A notice of the classifier. -/
def notice (line : Text) : Text := "[DeepSeekClient] ".toList ++ line

/-- The key in the text of a configuration, if it has one that counts; or why it cannot be read. -/
def keyInText (config : Text) : Except Text (Option Json) :=
  let t := Text.unifyNewlines config
  match Json.read t with
  | .error f => .error (f.message t)
  | .ok v =>
    match v.members? with
    | some members =>
      match Assoc.get? keyName members with
      | some key => .ok (if key.truth then some key else none)
      | none => .ok none
    | none => .error ('\x27' :: v.kind ++ "' object has no attribute 'get'".toList)

/-- The key of a configuration, if it has one that counts; or why it cannot be read. -/
def keyIn : Content → Except Text (Option Json)
  | .text t => keyInText t
  | .broken _ fault => .error fault.message

/-- The notice when there is no key. -/
def keyless : Text := notice "未找到有效 API Key，使用离线演示模式。".toList

/-- A classifier for a model with a configuration, and its notices. -/
def make (model : Text) (config : Option Content) : Classifier × List Text :=
  match config with
  | none => (⟨model, .text demoKey⟩, [keyless])
  | some config =>
    match keyIn config with
    | .ok (some key) => (⟨model, key⟩, [notice "从 config.json 读取到 API Key。".toList])
    | .ok none => (⟨model, .text demoKey⟩, [keyless])
    | .error message =>
      (⟨model, .text demoKey⟩, [notice ("读取 config.json 出错：".toList ++ message), keyless])

/-- What a classifier can be made from. -/
structure Source where
  /-- A classifier can be had at all. -/
  available : Bool
  /-- What the configuration file holds, if there is one. -/
  config : Option Content

/-- The classifier for a conversation that may want one, and its notices. -/
def Source.make? (src : Source) (wanted : Bool) : Option Classifier × List Text :=
  if wanted && src.available then
    let (c, notices) := make defaultModel src.config
    (some c, notices)
  else (none, [])

/-- The classifier has no key of its own. -/
def isOffline (c : Classifier) : Bool :=
  match c.key with
  | .text key => key == demoKey
  | _ => false

/-! ## Choosing -/

/-- The states to choose from. -/
def candidates (targets exclude : List Text) : List Text :=
  targets.filter fun t => !exclude.contains t

/-- The first candidate whose name is in the words, or has the words in it. -/
def resembling (words : Text) (names : List Text) : Option Text :=
  let words := Text.lower words
  names.find? fun name => Text.has (Text.lower name) words || Text.has words (Text.lower name)

/-- The candidate that a reply names: the first whose name is in it, or else its first word. -/
def named (reply : Text) (names : List Text) : Option Text :=
  let reply := Text.strip reply
  match names.find? fun name =>
      Text.lower name == Text.lower reply || Text.has (Text.lower name) (Text.lower reply) with
  | some name => some name
  | none =>
    let word := Text.firstWord reply
    if names.contains word then some word else none

/-- The instruction to the service. -/
def instruction : Text :=
  ("你是一个智能意图分类器。" ++
    "给定用户输入和候选状态名称，你需要从候选集中选择最可能匹配的状态。" ++
    "只输出状态名称本身，不要解释。").toList

/-- The question that is put to the service. -/
def question (words : Text) (names : List Text) : Text :=
  "候选状态：".toList ++ Text.quotedList names ++ "\n用户输入：".toList ++ words
    ++ "\n请返回最合适的状态名称：".toList

/-- The request to the service. -/
def request (c : Classifier) (words : Text) (names : List Text) : Request where
  address := "https://api.deepseek.com/v1/chat/completions".toList
  headers :=
    [("Authorization".toList, "Bearer ".toList ++ c.key.text?.getD []),
      ("Content-Type".toList, "application/json".toList)]
  timeout := 15
  model := c.model
  messages := [⟨"system".toList, instruction⟩, ⟨"user".toList, question words names⟩]
  maxTokens := 20
  temperature := 0.3

/-- Asks the service once. -/
def consult (c : Classifier) (s : Service) (words : Text) (names : List Text) : Inquiry :=
  let (reply, s) := s.next
  let asked := [c.request words names]
  match reply.content with
  | .ok t => ⟨.ok (named t names), [], asked, s⟩
  | .error f => ⟨.ok none, [notice ("调用失败：".toList ++ f.message)], asked, s⟩

/-- The state that a user's words mean, out of the targets that are not excluded. -/
def classify (c : Classifier) (s : Service) (words : Value) (targets exclude : List Text) :
    Inquiry :=
  let names := candidates targets exclude
  if names.isEmpty then ⟨.ok none, [], [], s⟩
  else if c.isOffline then
    match words with
    | .text t => ⟨.ok (resembling t names), [], [], s⟩
    | v => ⟨.error (.notText v.kind), [], [], s⟩
  else
    match words.shown with
    | .ok t => c.consult s t names
    | .error f => ⟨.error (.unwritable f), [], [], s⟩

/-! ## What a classifier can pick -/

theorem mem_candidates {targets exclude : List Text} {t : Text} :
    t ∈ candidates targets exclude ↔ t ∈ targets ∧ t ∉ exclude := by
  simp [candidates]

theorem resembling_mem {words t : Text} {names : List Text} (h : resembling words names = some t) :
    t ∈ names :=
  List.mem_of_find?_eq_some h

theorem named_mem {reply t : Text} {names : List Text} (h : named reply names = some t) :
    t ∈ names := by
  unfold named at h
  dsimp only at h
  split at h
  · rename_i hf
    exact Option.some.inj h ▸ List.mem_of_find?_eq_some hf
  · split at h
    · rename_i hc
      exact Option.some.inj h ▸ List.contains_iff_mem.mp hc
    · exact absurd h (by simp)

end Classifier
end Dialogue
