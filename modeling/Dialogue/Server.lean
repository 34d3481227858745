import Dialogue.Session
set_option autoImplicit false

/-!
# The server

A server holds any number of sessions, each under a name of its own.  The name of a new session
comes from outside; the sessions share the files and the remote service.

Normative source: `webapp`, `SESSIONS` with `index`, `api_start` and `api_send`.

Deviations, disclosed: an input that is an array or an object is held as its text, since a variable
holds neither; the framework around the handlers and its static files are not modelled.
-/

namespace Dialogue

/-- The sessions of a server by name, and what surrounds them. -/
structure Server where
  sessions : Assoc Session
  world : World

/-- Why a call fails. -/
inductive ServerFault where
  /-- The body of the call is no object but a value of this kind. -/
  | notObject (kind : Text)
  /-- The path is no text but a value of this kind. -/
  | badPath (kind : Text)
  /-- There is no file at the path. -/
  | noScript (path : Text)
  /-- There is no such session. -/
  | noSession
  /-- The name of the session is a value of a kind that cannot be a name. -/
  | badName (kind : Text)
  /-- The page is missing. -/
  | noPage
  | disk (fault : DiskFault)
  | session (fault : OpenFault)
  | run (fault : RunFault)

/-- The message of a fault. -/
def ServerFault.message : ServerFault → Text
  | notObject kind => '\x27' :: kind ++ "' object has no attribute 'get'".toList
  | badPath kind =>
    "unsupported operand type(s) for /: 'PosixPath' and '".toList ++ kind ++ ['\x27']
  | noScript path => "DSL 文件不存在: ".toList ++ path
  | noSession => "无效的会话，请先启动会话。".toList
  | badName kind => "unhashable type: '".toList ++ kind ++ ['\x27']
  | noPage => "'index.html' not found in search path: 'templates'".toList
  | disk fault => fault.message
  | session fault => fault.message
  | run fault => fault.message

/-- The status with which a fault is reported, if it has one of its own. -/
def ServerFault.status? : ServerFault → Option Nat
  | noScript _ => some 404
  | noSession => some 400
  | _ => none

/-- The answer to a call of a session: the name of the session, and the view after
its step. -/
structure Answer where
  name : Text
  view : View

/-- A page with its status. -/
structure Page where
  status : Nat
  body : Text

/-- What a call leaves behind: the server, the notices and the
requests on the way, and the answer. -/
structure Handled where
  server : Server
  notices : List Text
  requests : List Request
  result : Except ServerFault Answer

namespace Server

/-- A call that changes nothing. -/
def refuse (s : Server) (f : ServerFault) : Handled := ⟨s, [], [], .error f⟩

/-- Carries a session on and keeps it under its name. -/
def advance (s : Server) (name : Text) (session : Session) (input : Option Value) : Handled :=
  let step := session.step s.world input
  let server := ⟨Assoc.put name step.session s.sessions, step.run.scene.world⟩
  let result := match step.result with
    | .ok view => .ok ⟨name, view⟩
    | .error f => .error (.run f)
  ⟨server, step.run.notices, step.run.requests, result⟩

/-! ## Starting a session -/

/-- The path of the script of a call that names none. -/
def defaultScript : Text := "examples/customer.dsl".toList

/-- The text of the script at a path. -/
def script (s : Server) (path : Json) : Except ServerFault Text :=
  match path with
  | .text t =>
    let p := Path.ofText t
    if s.world.disk.has p then (s.world.disk.read p).mapError .disk else .error (.noScript t)
  | .unpaired codes => .error (.noScript (CodePoints.replaced codes))
  | v => .error (.badPath v.kind)

/-- Starts a session for the script that the body of a call names. -/
def start (s : Server) (source : Classifier.Source) (name : Text) (body : Json) : Handled :=
  match body.members? with
  | some members =>
    match s.script ((Assoc.get? "dsl_path".toList members).getD (.text defaultScript)) with
    | .error f => s.refuse f
    | .ok text =>
      let wanted := ((Assoc.get? "use_llm".toList members).map Json.truth).getD false
      match Session.start text source wanted with
      | .error f => s.refuse (.session f)
      | .ok (session, notices) =>
        let h := s.advance name session none
        { h with notices := notices ++ h.notices }
  | none => s.refuse (.notObject body.kind)

/-! ## Sending an input -/

/-- The session that the body of a call names. -/
def named (s : Server) (name : Json) : Except ServerFault (Text × Session) :=
  if !name.truth then .error .noSession
  else
    match name with
    | .text t =>
      match Assoc.get? t s.sessions with
      | some session => .ok (t, session)
      | none => .error .noSession
    | .array _ | .object _ | .unpairedObject _ => .error (.badName name.kind)
    | _ => .error .noSession

/-- The input in the body of a call; null is none. -/
def input (members : List (Text × Json)) : Option Value :=
  match Assoc.get? "text".toList members with
  | none => some (.text [])
  | some .null => none
  | some v => some (v.plain?.getD (.text (v.text?.getD [])))

/-- Steps the session that the body of a call names, with the input in it. -/
def send (s : Server) (body : Json) : Handled :=
  match body.members? with
  | some members =>
    match s.named ((Assoc.get? "session_id".toList members).getD .null) with
    | .error f => s.refuse f
    | .ok (name, session) => s.advance name session (input members)
  | none => s.refuse (.notObject body.kind)

/-! ## The page -/

/-- The text without its last newline. -/
def withoutLastNewline (t : Text) : Text := if t.getLast? = some '\n' then t.dropLast else t

/-- The page that the server shows. -/
def page (s : Server) : Except ServerFault Page :=
  let folder := Path.ofName "templates"
  let file := folder.join (Path.ofName "index.html")
  if !s.world.disk.has folder then .ok ⟨500, "<h1>⚠ templates 目录不存在</h1>".toList⟩
  else
    match s.world.disk.read file with
    | .ok t => .ok ⟨200, withoutLastNewline t⟩
    | .error (.undecodable f) => .error (.disk (.undecodable f))
    | .error _ => .error .noPage

end Server
end Dialogue
