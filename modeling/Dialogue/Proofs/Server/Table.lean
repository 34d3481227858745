import Dialogue.Proofs.Assoc
import Dialogue.Proofs.Server.Isolation
set_option autoImplicit false

/-!
# The table of sessions

A call that is refused leaves the server as it is, and no call removes a session.  A session is put
into the table before its first step, so that a start that fails in this step leaves it there for
good.  Main statement: `Server.sessions_start_iff`.
-/

namespace Dialogue.Server

variable {source : Classifier.Source} {s : Server}

/-! ## Refusals -/

theorem script_ne_run {path : Json} {fault : ServerFault} (h : s.script path = .error fault)
    (f : RunFault) : fault ≠ .run f := by
  rintro rfl
  unfold script at h
  split at h
  · dsimp only at h
    split at h
    · obtain ⟨g, -, hg⟩ := mapError_eq_error_iff.1 h
      cases hg
    · cases h
  · cases h
  · cases h

theorem named_ne_run {id : Json} {fault : ServerFault} (h : s.named id = .error fault)
    (f : RunFault) : fault ≠ .run f := by
  rintro rfl
  unfold named at h
  split at h
  · cases h
  · split at h
    · split at h <;> cases h
    · cases h
    · cases h
    · cases h
    · cases h

/-- A call that is refused has not run anything. -/
theorem Call.turn_ne_run {c : Call} {fault : ServerFault} (h : c.turn source s = .error fault)
    (f : RunFault) : fault ≠ .run f := by
  have hmembers {body : Json} (h : membersOf body = .error fault) : fault ≠ .run f := by
    rintro rfl
    unfold membersOf at h
    cases hbody : body.members? with
    | none =>
      rw [hbody] at h
      cases h
    | some members =>
      rw [hbody] at h
      cases h
  cases c with
  | start name body =>
    rcases bind_eq_error_iff.1 h with hbody | ⟨members, -, h⟩
    · exact hmembers hbody
    rcases bind_eq_error_iff.1 h with hscript | ⟨text, -, h⟩
    · exact script_ne_run hscript f
    rcases bind_eq_error_iff.1 h with hopened | ⟨opened, -, h⟩
    · rintro rfl
      obtain ⟨g, -, hg⟩ := mapError_eq_error_iff.1 hopened
      cases hg
    · cases h
  | send body =>
    rcases bind_eq_error_iff.1 h with hbody | ⟨members, -, h⟩
    · exact hmembers hbody
    rcases bind_eq_error_iff.1 h with hnamed | ⟨found, -, h⟩
    · exact named_ne_run hnamed f
    · cases h

/-! ## Growth of the table -/

/-- The server after calls, whatever came of them. -/
def after (source : Classifier.Source) (s : Server) (calls : List Call) : Server :=
  calls.foldl (fun s c => (c.handle source s).server) s

/-- No call removes a session. -/
theorem keys_handle (source : Classifier.Source) (s : Server) (c : Call) :
    s.sessions.keys <+: (c.handle source s).server.sessions.keys := by
  rw [(handle_eq_take source s c).1]
  cases c.turn source s with
  | error f => exact List.prefix_refl _
  | ok turn =>
    show s.sessions.keys <+: Assoc.keys (Assoc.put turn.name _ s.sessions)
    rw [Assoc.keys_put]
    split
    · exact List.prefix_refl _
    · exact List.prefix_append _ _

theorem keys_after (source : Classifier.Source) (s : Server) (calls : List Call) :
    s.sessions.keys <+: (s.after source calls).sessions.keys := by
  induction calls generalizing s with
  | nil => exact List.prefix_refl _
  | cons c rest ih => exact (keys_handle source s c).trans (ih (c.handle source s).server)

/-! ## Starts that fail -/

theorem start_eq_take (source : Classifier.Source) (s : Server) (name : Text) (body : Json) :
    (s.start source name body).server = (s.take ((Call.start name body).turn source s)).server ∧
      (s.start source name body).result = (s.take ((Call.start name body).turn source s)).result :=
  handle_eq_take source s (.start name body)

theorem Call.turn_start {name text : Text} {members : List (Text × Json)}
    (h : s.script (pathIn members) = .ok text) :
    (Call.start name (.object members)).turn source s =
      (Session.start text source (wantsClassifier members)).mapError .session >>= fun opened =>
        .ok ⟨name, opened.1, none⟩ := by
  simp only [turn, membersOf, Json.members?, Option.elim_some, bind, Except.bind, h]
  rfl

theorem exists_of_result_advance {name : Text} {session : Session} {input : Option Value}
    {fault : ServerFault} (h : (s.advance name session input).result = .error fault) :
    ∃ f, fault = .run f := by
  unfold advance at h
  dsimp only at h
  split at h
  · cases h
  · next f _ => exact ⟨f, (Except.error.inj h).symm⟩

/-- A start that fails leaves the table as it was exactly if it does not fail in the first step of
its session.  If it does, the session stays in the table, under a name that no answer has given,
whatever calls follow. -/
theorem sessions_start_iff {name : Text} {body : Json} {fault : ServerFault}
    (hfresh : name ∉ s.sessions.keys)
    (hfault : (s.start source name body).result = .error fault) :
    ((s.start source name body).server.sessions = s.sessions ↔ ∀ f, fault ≠ .run f) ∧
      ((∀ f, fault ≠ .run f) → (s.start source name body).server = s) ∧
      ∀ f, fault = .run f →
        (∃ session, (s.start source name body).server.sessions = s.sessions ++ [(name, session)]) ∧
          ∀ calls, name ∈ ((s.start source name body).server.after source calls).sessions.keys := by
  obtain ⟨hserver, hresult⟩ := start_eq_take source s name body
  rw [hresult] at hfault
  rw [hserver]
  cases hturn : (Call.start name body).turn source s with
  | error f =>
    rw [hturn] at hfault
    obtain rfl := Except.error.inj hfault
    have hrefused := Call.turn_ne_run hturn
    exact ⟨⟨fun _ => hrefused, fun _ => rfl⟩, fun _ => rfl, fun f hf => absurd hf (hrefused f)⟩
  | ok turn =>
    obtain rfl : name = turn.name := Option.some.inj (Call.owner?_of_turn hturn)
    rw [hturn] at hfault
    obtain ⟨f, rfl⟩ := exists_of_result_advance hfault
    have hsessions : (s.take (.ok turn)).server.sessions =
        s.sessions ++ [(turn.name, (turn.session.step s.world turn.input).session)] :=
      Assoc.put_of_notMem hfresh _
    have hmem : turn.name ∈ (s.take (.ok turn)).server.sessions.keys := by
      rw [hsessions, Assoc.keys, List.map_append]
      exact List.mem_append_right _ List.mem_cons_self
    refine ⟨⟨?_, fun hnot => absurd rfl (hnot f)⟩, fun hnot => absurd rfl (hnot f), ?_⟩
    · intro hsame
      rw [hsessions] at hsame
      exact absurd hsame (by simp)
    · intro g _
      exact ⟨⟨_, hsessions⟩, fun calls => (keys_after source _ calls).subset hmem⟩

/-- A server without sessions that can reach a text. -/
def serverWith (text : Text) : Server :=
  ⟨[], ⟨[("a.dsl".toList, .file (.text text))], ⟨[], .failed []⟩⟩⟩

theorem turn_serverWith {text : Text}
    (h : (serverWith text).script (.text "a.dsl".toList) = .ok text) :
    (Call.start ['A'] askingBody).turn ⟨false, none⟩ (serverWith text) =
      (Session.start text ⟨false, none⟩ false).mapError .session >>= fun opened =>
        .ok ⟨['A'], opened.1, none⟩ :=
  Call.turn_start h

/-- A text with a line that is no statement. -/
def invalidText : Text := "flow main\nstate s\nbogus".toList

/-- A start for a text that is no script leaves nothing in the table. -/
theorem sessions_start_iff_invalid :
    ((serverWith invalidText).start ⟨false, none⟩ ['A'] askingBody).result =
        .error (.session (.script (.unknownStatement "bogus".toList))) ∧
      ((serverWith invalidText).start ⟨false, none⟩ ['A'] askingBody).server.sessions = [] := by
  have hopened : Session.start invalidText ⟨false, none⟩ false =
      .error (.script (.unknownStatement "bogus".toList)) := rfl
  have hfault : ((serverWith invalidText).start ⟨false, none⟩ ['A'] askingBody).result =
      .error (.session (.script (.unknownStatement "bogus".toList))) := by
    rw [(start_eq_take _ _ _ _).2, turn_serverWith rfl, hopened]
    rfl
  refine ⟨hfault, (sessions_start_iff (by decide) hfault).1.2 fun f h => ?_⟩
  cases h

/-- A text whose only state goes to one that is not there. -/
def missingTargetText : Text := "flow main\nstate s\ngoto nowhere\n".toList

/-- A session that was opened for it. -/
def missingTargetSession : Session :=
  ⟨⟨⟨"main".toList, [⟨"s".toList, [.goto "nowhere".toList]⟩]⟩, none⟩,
    ⟨"s".toList, [], [], none⟩, [], none⟩

/-- The start fails in the first step of the session, which stays in the table. -/
theorem sessions_start_missingTarget :
    (serverWith missingTargetText).sessions = [] ∧
      ((serverWith missingTargetText).start ⟨false, none⟩ ['A'] askingBody).result =
        .error (.run (.missingState "nowhere".toList)) ∧
      ((serverWith missingTargetText).start ⟨false, none⟩ ['A'] askingBody).server.sessions.keys =
        [['A']] := by
  have hopened :
      Session.start missingTargetText ⟨false, none⟩ false = .ok (missingTargetSession, []) := rfl
  obtain ⟨hserver, hresult⟩ :=
    start_eq_take ⟨false, none⟩ (serverWith missingTargetText) ['A'] askingBody
  rw [turn_serverWith rfl, hopened] at hserver hresult
  refine ⟨rfl, hresult.trans rfl, ?_⟩
  rw [hserver]
  rfl

end Dialogue.Server
