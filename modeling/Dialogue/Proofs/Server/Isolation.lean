import Dialogue.Proofs.Except
import Dialogue.Proofs.Run.Executions
import Dialogue.Proofs.Script.RoundTrip
import Dialogue.Proofs.Session.Answer
import Dialogue.Server
set_option autoImplicit false

/-!
# Isolation of sessions

A call to the server changes no session but its own.  As long as no session reads or writes files or
uses a classifier, nothing else is shared either, so that every session gets the same answers as if
its own calls had been the only ones.  Main statement: `Server.responses_isolated`.
-/

namespace Dialogue

/-! ## Plain sessions -/

/-- The action reads or writes a file. -/
def Action.isStore : Action → Bool
  | save _ _ => true
  | load _ _ => true
  | _ => false

/-- No state reads or writes a file. -/
def Flow.isPlain (f : Flow) : Bool := f.leaves.all fun a => !a.isStore

/-- No flow reads or writes a file. -/
def Script.isPlain (s : Script) : Bool := s.flows.all Flow.isPlain

/-- The session neither reads nor writes files, and uses no classifier. -/
structure Session.IsPlain (s : Session) : Prop where
  flow : s.engine.flow.isPlain = true
  classifier : s.engine.classifier = none

namespace Session

/-- A plain session leaves what surrounds it as it is. -/
theorem IsPlain.world_step {s : Session} (h : s.IsPlain) (world : World) (input : Option Value) :
    (s.step world input).run.scene.world = world := by
  rw [run_step, Engine.resume, Engine.run]
  refine Engine.invariant_runFor (P := fun t => t.world = world) ?_ ?_ Engine.visitLimit rfl
  · intro a t hsimple ha ht
    refine (Action.world_run hsimple (fun var path hsave => ?_) t).trans ht
    subst hsave
    have hplain := List.all_eq_true.1 h.flow _ ha
    cases hplain
  · intro t u hcarries ht
    exact (congrArg₂ World.mk hcarries.disk (hcarries.service h.classifier)).trans ht

theorem IsPlain.step {s : Session} (h : s.IsPlain) (world : World) (input : Option Value) :
    (s.step world input).session.IsPlain := by
  constructor
  · rw [engine_step]
    exact h.flow
  · rw [engine_step]
    exact h.classifier

/-- A session for a plain script that wants no classifier is plain. -/
theorem isPlain_of_start {text : Text} {script : Script} {source : Classifier.Source}
    {session : Session} {notices : List Text} (hscript : Script.parse text = .ok script)
    (hplain : script.isPlain = true) (h : start text source false = .ok (session, notices)) :
    session.IsPlain := by
  rw [start, hscript] at h
  dsimp only at h
  split at h
  · cases h
  · next o ho =>
    obtain ⟨flow, first, rest, hflow, -, rfl⟩ := Engine.exists_of_start ho
    obtain ⟨rfl, -⟩ := Prod.mk.inj (Except.ok.inj h)
    exact ⟨List.all_eq_true.1 hplain flow (List.mem_of_find?_eq_some hflow), rfl⟩

end Session

namespace Server

/-! ## Calls -/

/-- A call to the server. -/
inductive Call where
  /-- A session is started, under a name that comes from outside. -/
  | start (name : Text) (body : Json)
  /-- An input is sent to a session. -/
  | send (body : Json)

namespace Call

/-- What a call leaves behind. -/
def handle (source : Classifier.Source) (s : Server) : Call → Handled
  | start name body => s.start source name body
  | send body => s.send body

/-- The name of the session that a call is about, if it names one. -/
def owner? : Call → Option Text
  | start name _ => some name
  | send body =>
    match body.members?.bind (Assoc.get? "session_id".toList) with
    | some (.text name) => some name
    | _ => none

/-- The call is about the session with this name. -/
def isOf (name : Text) (c : Call) : Bool := c.owner? = some name

/-- The path of the script that the body of a call names. -/
def pathIn (members : List (Text × Json)) : Json :=
  (Assoc.get? "dsl_path".toList members).getD (.text defaultScript)

/-- The body of a call asks for a classifier. -/
def wantsClassifier (members : List (Text × Json)) : Bool :=
  ((Assoc.get? "use_llm".toList members).map Json.truth).getD false

/-- A call that starts a session does so for a script that neither reads nor writes files, if for
one at all, and asks for no classifier. -/
def IsPlain (s : Server) : Call → Prop
  | start _ body =>
    ∀ members text script, body.members? = some members → s.script (pathIn members) = .ok text →
      Script.parse text = .ok script → script.isPlain = true ∧ wantsClassifier members = false
  | send _ => True

end Call

/-- The answers to calls, one after another. -/
def serve (source : Classifier.Source) : Server → List Call →
    List (Call × Except ServerFault Answer)
  | _, [] => []
  | s, c :: rest => (c, (c.handle source s).result) :: serve source (c.handle source s).server rest

/-- The responses to the session with a name: the answers to its own calls. -/
def responses (source : Classifier.Source) (name : Text) (s : Server) (calls : List Call) :
    List (Except ServerFault Answer) :=
  ((serve source s calls).filter fun told => told.1.isOf name).map Prod.snd

section responses

variable (source : Classifier.Source) {name : Text} (s : Server) {c : Call} (rest : List Call)

theorem responses_cons_own (h : c.isOf name = true) :
    responses source name s (c :: rest) =
      (c.handle source s).result :: responses source name (c.handle source s).server rest := by
  simp only [responses, serve, List.filter_cons, h, if_true, List.map_cons]

theorem responses_cons_other (h : c.isOf name = false) :
    responses source name s (c :: rest) =
      responses source name (c.handle source s).server rest := by
  simp only [responses, serve, List.filter_cons, h, Bool.false_eq_true, if_false]

end responses

/-! ## Turns -/

/-- What a call asks for: a session, under its name, is stepped with an input. -/
structure Turn where
  name : Text
  session : Session
  input : Option Value

/-- Steps a session, unless the call is refused. -/
def take (s : Server) : Except ServerFault Turn → Handled
  | .error f => s.refuse f
  | .ok turn => s.advance turn.name turn.session turn.input

/-- The members of the body of a call. -/
def membersOf (body : Json) : Except ServerFault (List (Text × Json)) :=
  body.members?.elim (.error (.notObject body.kind)) .ok

theorem membersOf_eq_ok {body : Json} {members : List (Text × Json)}
    (h : membersOf body = .ok members) : body.members? = some members := by
  unfold membersOf at h
  cases hbody : body.members? with
  | none =>
    rw [hbody] at h
    cases h
  | some found =>
    rw [hbody] at h
    exact congrArg some (Except.ok.inj h)

/-- The turn that a call asks for, or why it is refused. -/
def Call.turn (source : Classifier.Source) (s : Server) : Call → Except ServerFault Turn
  | start name body => do
    let members ← membersOf body
    let text ← s.script (pathIn members)
    let opened ← (Session.start text source (wantsClassifier members)).mapError .session
    return ⟨name, opened.1, none⟩
  | send body => do
    let members ← membersOf body
    let found ← s.named ((Assoc.get? "session_id".toList members).getD .null)
    return ⟨found.1, found.2, input members⟩

/-- To handle a call is to take its turn. -/
theorem handle_eq_take (source : Classifier.Source) (s : Server) (c : Call) :
    (c.handle source s).server = (s.take (c.turn source s)).server ∧
      (c.handle source s).result = (s.take (c.turn source s)).result := by
  cases c with
  | start name body =>
    simp only [Call.handle, Server.start, Call.turn, membersOf, bind, Except.bind]
    cases body.members? with
    | none => exact ⟨rfl, rfl⟩
    | some members =>
      simp only [Option.elim_some, Call.pathIn, Call.wantsClassifier]
      cases s.script ((Assoc.get? "dsl_path".toList members).getD (.text defaultScript)) with
      | error f => exact ⟨rfl, rfl⟩
      | ok text =>
        dsimp only
        cases Session.start text source
            (((Assoc.get? "use_llm".toList members).map Json.truth).getD false) with
        | error f => exact ⟨rfl, rfl⟩
        | ok opened => exact ⟨rfl, rfl⟩
  | send body =>
    simp only [Call.handle, Server.send, Call.turn, membersOf, bind, Except.bind]
    cases body.members? with
    | none => exact ⟨rfl, rfl⟩
    | some members =>
      simp only [Option.elim_some]
      cases s.named ((Assoc.get? "session_id".toList members).getD .null) with
      | error f => exact ⟨rfl, rfl⟩
      | ok found => exact ⟨rfl, rfl⟩

/-- A session is found only under the name that a text gives. -/
theorem named_eq_ok {s : Server} {id : Json} {name : Text} {session : Session}
    (h : s.named id = .ok (name, session)) :
    id = .text name ∧ Assoc.get? name s.sessions = some session := by
  unfold named at h
  split at h
  · cases h
  · split at h
    · split at h
      · next found hfound =>
        obtain ⟨rfl, rfl⟩ := Prod.mk.inj (Except.ok.inj h)
        exact ⟨rfl, hfound⟩
      · cases h
    · cases h
    · cases h
    · cases h
    · cases h

/-- A turn is that of a session that is started, or of one that is there under the name that the
call gives. -/
theorem Call.turn_cases {source : Classifier.Source} {s : Server} {c : Call} {turn : Turn}
    (h : c.turn source s = .ok turn) :
    (∃ body members text notices, c = start turn.name body ∧ body.members? = some members ∧
        s.script (pathIn members) = .ok text ∧
        Session.start text source (wantsClassifier members) = .ok (turn.session, notices)) ∨
      ∃ body members, c = send body ∧ body.members? = some members ∧
        Assoc.get? "session_id".toList members = some (.text turn.name) ∧
        Assoc.get? turn.name s.sessions = some turn.session := by
  cases c with
  | start name body =>
    obtain ⟨members, hmembers, h⟩ := bind_eq_ok_iff.1 h
    obtain ⟨text, htext, h⟩ := bind_eq_ok_iff.1 h
    obtain ⟨opened, hopened, h⟩ := bind_eq_ok_iff.1 h
    obtain rfl := Except.ok.inj h
    exact .inl ⟨body, members, text, opened.2, rfl, membersOf_eq_ok hmembers, htext,
      mapError_eq_ok_iff.1 hopened⟩
  | send body =>
    obtain ⟨members, hmembers, h⟩ := bind_eq_ok_iff.1 h
    obtain ⟨found, hfound, h⟩ := bind_eq_ok_iff.1 h
    obtain rfl := Except.ok.inj h
    obtain ⟨hid, hsession⟩ := named_eq_ok hfound
    refine .inr ⟨body, members, rfl, membersOf_eq_ok hmembers, ?_, hsession⟩
    cases hget : Assoc.get? "session_id".toList members with
    | none =>
      rw [hget] at hid
      cases hid
    | some id =>
      rw [hget] at hid
      exact congrArg some hid

/-- A call carries on no session but its own. -/
theorem Call.owner?_of_turn {source : Classifier.Source} {s : Server} {c : Call} {turn : Turn}
    (h : c.turn source s = .ok turn) : c.owner? = some turn.name := by
  rcases turn_cases h with
    ⟨body, members, text, notices, rfl, -, -⟩ | ⟨body, members, rfl, hbody, hid, -⟩
  · rfl
  · rw [owner?, hbody, Option.bind_some, hid]

/-! ## One call -/

/-- All sessions are plain. -/
def IsPlain (s : Server) : Prop :=
  ∀ name session, Assoc.get? name s.sessions = some session → session.IsPlain

/-- In a plain server a plain call carries on a plain session. -/
theorem IsPlain.turn {source : Classifier.Source} {s : Server} (hs : s.IsPlain) {c : Call}
    (hc : c.IsPlain s) {turn : Turn} (h : c.turn source s = .ok turn) : turn.session.IsPlain := by
  rcases Call.turn_cases h with
    ⟨body, members, text, notices, rfl, hbody, htext, hstart⟩ | ⟨body, members, rfl, -, -, hsession⟩
  · cases hparse : Script.parse text with
    | error f =>
      rw [Session.start, hparse] at hstart
      cases hstart
    | ok script =>
      obtain ⟨hplain, hwants⟩ := hc members text script hbody htext hparse
      rw [hwants] at hstart
      exact Session.isPlain_of_start hparse hplain hstart
  · exact hs turn.name turn.session hsession

/-- A plain call changes no session but its own, and nothing around the sessions. -/
theorem IsPlain.handle (source : Classifier.Source) {s : Server} (hs : s.IsPlain) {c : Call}
    (hc : c.IsPlain s) :
    (c.handle source s).server.IsPlain ∧ (c.handle source s).server.world = s.world ∧
      ∀ name, c.isOf name = false →
        Assoc.get? name (c.handle source s).server.sessions = Assoc.get? name s.sessions := by
  rw [(handle_eq_take source s c).1]
  cases hturn : c.turn source s with
  | error f => exact ⟨hs, rfl, fun _ _ => rfl⟩
  | ok turn =>
    have hplain := hs.turn hc hturn
    have howner := Call.owner?_of_turn hturn
    refine ⟨?_, hplain.world_step s.world turn.input, ?_⟩
    · intro name session hsession
      by_cases hname : name = turn.name
      · subst hname
        rw [take, advance, Assoc.get?_put_self] at hsession
        obtain rfl := Option.some.inj hsession
        exact hplain.step s.world turn.input
      · rw [take, advance, Assoc.get?_put_of_ne hname] at hsession
        exact hs name session hsession
    · intro name hother
      refine Assoc.get?_put_of_ne (fun hname => ?_) _ _
      rw [Call.isOf, howner, hname] at hother
      simp at hother

/-- Both servers have the same environment, and the same session under a name. -/
structure AgreeOn (name : Text) (s t : Server) : Prop where
  world : t.world = s.world
  session : Assoc.get? name t.sessions = Assoc.get? name s.sessions

theorem script_eq {s t : Server} (h : t.world = s.world) (path : Json) :
    t.script path = s.script path := by
  unfold script
  rw [h]

theorem Call.IsPlain.of_world {s t : Server} (h : t.world = s.world) {c : Call}
    (hc : c.IsPlain s) : c.IsPlain t := by
  cases c with
  | start name body =>
    intro members text script hbody htext
    rw [script_eq h] at htext
    exact hc members text script hbody htext
  | send body => trivial

/-- The turn that a call asks for depends on the environment and on its own session only. -/
theorem AgreeOn.turn_eq {source : Classifier.Source} {name : Text} {s t : Server} {c : Call}
    (h : AgreeOn name s t) (hown : c.owner? = some name) : c.turn source t = c.turn source s := by
  cases c with
  | start owner body => simp only [Call.turn, script_eq h.world]
  | send body =>
    rw [Call.owner?] at hown
    simp only [Call.turn, membersOf]
    cases hbody : body.members? with
    | none => rfl
    | some members =>
      rw [hbody, Option.bind_some] at hown
      split at hown
      · next id hid =>
        obtain rfl := Option.some.inj hown
        have hnamed : t.named (.text id) = s.named (.text id) := by simp only [named, h.session]
        simp only [Option.elim_some, bind, Except.bind, hid, Option.getD_some, hnamed]
      · cases hown

/-- Servers that are alike answer the calls of the session alike, and stay alike. -/
theorem AgreeOn.handle_own (source : Classifier.Source) {name : Text} {s t : Server} {c : Call}
    (h : AgreeOn name s t) (hown : c.owner? = some name) :
    (c.handle source t).result = (c.handle source s).result ∧
      AgreeOn name (c.handle source s).server (c.handle source t).server := by
  obtain ⟨hserver, hresult⟩ := handle_eq_take source s c
  obtain ⟨hserver', hresult'⟩ := handle_eq_take source t c
  rw [hserver, hresult, hserver', hresult', h.turn_eq hown]
  cases hturn : c.turn source s with
  | error f => exact ⟨rfl, h⟩
  | ok turn =>
    obtain rfl : turn.name = name :=
      Option.some.inj ((Call.owner?_of_turn hturn).symm.trans hown)
    unfold take advance
    rw [h.world]
    exact ⟨rfl, rfl, by rw [Assoc.get?_put_self, Assoc.get?_put_self]⟩

/-! ## Any number of calls -/

theorem AgreeOn.responses_eq {source : Classifier.Source} {name : Text} {s t : Server}
    {calls : List Call} (h : AgreeOn name s t) (hs : s.IsPlain)
    (hcalls : ∀ c ∈ calls, c.IsPlain s) :
    responses source name s calls = responses source name t (calls.filter (Call.isOf name)) := by
  -- the second server sees the calls of the session only, and stays like the first
  induction calls generalizing s t with
  | nil => rfl
  | cons c rest ih =>
    obtain ⟨hc, hrest⟩ := List.forall_mem_cons.1 hcalls
    obtain ⟨hs', hworld, hkeeps⟩ := hs.handle source hc
    have hrest' : ∀ c' ∈ rest, c'.IsPlain (c.handle source s).server := fun c' hc' =>
      (hrest c' hc').of_world hworld
    cases hown : c.isOf name with
    | true =>
      obtain ⟨hresult, hafter⟩ := h.handle_own source (of_decide_eq_true hown)
      rw [List.filter_cons_of_pos hown, responses_cons_own source s rest hown,
        responses_cons_own source t _ hown, hresult, ih hafter hs' hrest']
    | false =>
      have hafter : AgreeOn name (c.handle source s).server t :=
        ⟨h.world.trans hworld.symm, h.session.trans (hkeeps name hown).symm⟩
      rw [List.filter_cons_of_neg (by rw [hown]; exact Bool.false_ne_true),
        responses_cons_other source s rest hown, ih hafter hs' hrest']

/-- An input for a session that is not there is refused. -/
theorem send_of_unknown (s : Server) {body : Json} {members : List (Text × Json)} {id : Text}
    (hbody : body.members? = some members)
    (hid : Assoc.get? "session_id".toList members = some (.text id))
    (hunknown : id = [] ∨ Assoc.get? id s.sessions = none) :
    s.send body = s.refuse .noSession := by
  have hnamed : s.named (.text id) = .error .noSession := by
    unfold named
    rcases hunknown with rfl | hunknown
    · rfl
    · split
      · rfl
      · dsimp only
        rw [hunknown]
  simp only [send, hbody, hid, Option.getD_some, hnamed]

/-- Whatever calls are made, in whatever order, also such that fail or name a session that is not
there: if no session reads or writes files or uses a classifier, each session gets the same answers
as if its own calls had been the only ones.  An input for a session whose name is empty or unknown
is refused with status 400 and changes nothing. -/
theorem responses_isolated (source : Classifier.Source) {s : Server} {calls : List Call}
    (hs : s.IsPlain) (hcalls : ∀ c ∈ calls, c.IsPlain s) :
    (∀ name, responses source name s calls =
        responses source name s (calls.filter (Call.isOf name))) ∧
      ∀ (t : Server) (body : Json) (members : List (Text × Json)) (id : Text),
        body.members? = some members →
        Assoc.get? "session_id".toList members = some (.text id) →
        (id = [] ∨ Assoc.get? id t.sessions = none) →
          (t.send body).server = t ∧
            ∃ f, (t.send body).result = .error f ∧ f.status? = some 400 := by
  refine ⟨fun name => AgreeOn.responses_eq ⟨rfl, rfl⟩ hs hcalls, ?_⟩
  intro t body members id hbody hid hunknown
  rw [send_of_unknown t hbody hid hunknown]
  exact ⟨rfl, .noSession, rfl, rfl⟩

/-- A script that asks again and again, and fails if the answer is `x`. -/
def asking : Script :=
  ⟨[⟨"main".toList, [
      ⟨"start".toList, [
        .ask "name".toList "Name?".toList,
        .ifGoto "name".toList "x".toList "nowhere".toList,
        .goto "start".toList]⟩]⟩]⟩

/-- A server without sessions that can reach the script. -/
def askingServer : Server :=
  ⟨[], ⟨[("a.dsl".toList, .file (.text (asking.print .separate)))], ⟨[], .failed []⟩⟩⟩

/-- The body of a call that starts a session for the script. -/
def askingBody : Json := .object [("dsl_path".toList, .text "a.dsl".toList)]

/-- The body of a call that sends a text to a session. -/
def inputBody (name text : Text) : Json :=
  .object [("session_id".toList, .text name), ("text".toList, .text text)]

/-- The calls of two sessions and of one that is not there. -/
def interleaved : List Call :=
  [.start ['A'] askingBody, .send (inputBody ['B'] ['y']), .start ['B'] askingBody,
    .send (inputBody ['B'] ['x']), .send (inputBody ['A'] ['y']), .send (inputBody [] ['y']),
    .send (inputBody ['B'] ['y'])]

theorem responses_isolated_interleaved :
    askingServer.IsPlain ∧ (∀ c ∈ interleaved, c.IsPlain askingServer) ∧
      responses ⟨false, none⟩ ['A'] askingServer interleaved =
        responses ⟨false, none⟩ ['A'] askingServer
          [.start ['A'] askingBody, .send (inputBody ['A'] ['y'])] := by
  have hs : askingServer.IsPlain := by
    intro name session h
    cases h
  have hscript : askingServer.script (.text "a.dsl".toList) = .ok (asking.print .separate) :=
    rfl
  have hparse : Script.parse (asking.print .separate) = .ok asking :=
    Script.parse_print .separate (by decide) (.inl rfl)
  have hstart : ∀ name, (Call.start name askingBody).IsPlain askingServer := by
    intro name members text script hbody htext hparsed
    obtain rfl := Option.some.inj hbody
    obtain rfl := Except.ok.inj (hscript.symm.trans htext)
    obtain rfl := Except.ok.inj (hparse.symm.trans hparsed)
    exact ⟨by decide, rfl⟩
  have hcalls : ∀ c ∈ interleaved, c.IsPlain askingServer := by
    simp only [interleaved, List.forall_mem_cons, List.not_mem_nil]
    exact ⟨hstart _, trivial, hstart _, trivial, trivial, trivial, trivial, by simp⟩
  refine ⟨hs, hcalls, ?_⟩
  exact (responses_isolated ⟨false, none⟩ hs hcalls).1 ['A']

end Server
end Dialogue
