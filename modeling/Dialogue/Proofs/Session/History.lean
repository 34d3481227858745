import Dialogue.Proofs.Run.Bounds
import Dialogue.Proofs.Session.Repetition
set_option autoImplicit false

/-!
# The history of a session

A session goes on from input to input, also after inputs at which it fails, and what surrounds it
may change in between.  Main statements: the chat is a faithful record of the inputs and the output
(`Session.chat_recorded`), and the end of a conversation is shown only by there being no question,
as the flag for it is never set (`Session.ended_agrees_iff`).
-/

namespace Dialogue

theorem Utterance.isLine_iff {u : Utterance} {line : Text} :
    u.isLine line = true ↔ u = .ofLine line := by
  obtain ⟨speaker, content⟩ := u
  cases speaker with
  | user => simp [isLine, ofLine]
  | assistant =>
    cases content with
    | text t => simp [isLine, ofLine]
    | _ => simp [isLine, ofLine]

namespace Session

/-- An input: the world that it finds, and the answer of the user, if any. -/
structure Input where
  world : World
  words : Option Value

/-- The step that an input makes. -/
def take (s : Session) (i : Input) : Step := s.step i.world i.words

/-- The session after inputs, whatever came of them. -/
def after (s : Session) (inputs : List Input) : Session :=
  inputs.foldl (fun s i => (s.take i).session) s

theorem after_append (s : Session) (earlier later : List Input) :
    s.after (earlier ++ later) = (s.after earlier).after later := List.foldl_append

/-- What every step keeps holds after all inputs. -/
theorem after_induct {P : Session → Prop} (htake : ∀ s i, P s → P (s.take i).session)
    (inputs : List Input) {s : Session} (h : P s) : P (s.after inputs) := by
  induction inputs generalizing s with
  | nil => exact h
  | cons i rest ih => exact ih (htake s i h)

/-- A session that was opened has an empty chat, and is at a state of its flow. -/
theorem opened_of_start {text : Text} {source : Classifier.Source} {wanted : Bool} {s : Session}
    {notices : List Text} (h : start text source wanted = .ok (s, notices)) :
    s.chat = [] ∧ s.standing.Within s.engine.flow := by
  unfold start at h
  split at h
  · cases h
  · next script hscript =>
    split at h
    · cases h
    · next opening hopening =>
      cases h
      exact ⟨rfl, Engine.within_start hopening⟩

/-! ## The chat -/

theorem chat_step_of_error {s : Session} {world : World} {input : Option Value} {f : RunFault}
    (h : (s.step world input).result = .error f) :
    (s.step world input).session.chat = s.chat ++ input.toList.map Utterance.ofInput := by
  rw [step] at h ⊢
  split
  · rfl
  · next q hpause =>
    simp only [hpause] at h
    cases h

/-- A step adds the input, and then lines of the assistant. -/
theorem exists_chat_step (s : Session) (world : World) (input : Option Value) :
    ∃ lines : List Text, (s.step world input).session.chat =
      s.chat ++ input.toList.map Utterance.ofInput ++ lines.map Utterance.ofLine := by
  cases hresult : (s.step world input).result with
  | error f =>
    refine ⟨[], ?_⟩
    rw [chat_step_of_error hresult, List.map_nil, List.append_nil]
  | ok view => exact ⟨_, chat_step hresult⟩

theorem chat_prefix_after (s : Session) (inputs : List Input) :
    s.chat <+: (s.after inputs).chat := by
  refine after_induct (P := fun t => s.chat <+: t.chat) ?_ inputs (List.prefix_refl _)
  intro t i ht
  obtain ⟨lines, hchat⟩ := exists_chat_step t i.world i.words
  rw [take, hchat, List.append_assoc]
  exact ht.trans (List.prefix_append _ _)

/-- The entries of the user in the chat. -/
def userInputs (s : Session) : List Utterance := s.chat.filter fun u => u.speaker = .user

theorem userInputs_step (s : Session) (world : World) (input : Option Value) :
    (s.step world input).session.userInputs =
      s.userInputs ++ input.toList.map Utterance.ofInput := by
  obtain ⟨lines, hchat⟩ := exists_chat_step s world input
  have hinput : ((input.toList.map Utterance.ofInput).filter fun u => u.speaker = .user) =
      input.toList.map Utterance.ofInput := by
    cases input with
    | none => rfl
    | some v => rfl
  have hlines : ((lines.map Utterance.ofLine).filter fun u => u.speaker = .user) = [] := by
    rw [List.filter_eq_nil_iff]
    intro u hmem
    obtain ⟨line, -, rfl⟩ := List.mem_map.1 hmem
    simp [Utterance.ofLine]
  rw [userInputs, hchat, List.filter_append, List.filter_append, hinput, hlines, List.append_nil]
  rfl

theorem userInputs_after (s : Session) (inputs : List Input) :
    (s.after inputs).userInputs =
      s.userInputs ++ (inputs.filterMap Input.words).map Utterance.ofInput := by
  induction inputs generalizing s with
  | nil => exact (List.append_nil _).symm
  | cons i rest ih =>
    show ((s.take i).session.after rest).userInputs = _
    rw [ih, take, userInputs_step, List.filterMap_cons, List.append_assoc]
    cases i.words with
    | none => rfl
    | some v => rfl

/-- The lines that are added are all that were emitted, or all but the first; the first is left out
exactly if it is the last entry of the chat. -/
theorem unrepeated_cases (chat : List Utterance) (lines : List Text) :
    ∃ dropped, lines = dropped ++ unrepeated chat lines ∧ dropped.length ≤ 1 ∧
      (dropped ≠ [] ↔ ∃ line, lines.head? = some line ∧ chat.getLast? = some (.ofLine line)) := by
  cases lines with
  | nil => exact ⟨[], rfl, Nat.zero_le 1, by simp⟩
  | cons line lines =>
    rw [unrepeated]
    cases hlast : chat.getLast? with
    | none => exact ⟨[], rfl, Nat.zero_le 1, by simp⟩
    | some last =>
      by_cases hsame : last.isLine line = true
      · refine ⟨[line], ?_, Nat.le_refl 1, ?_⟩
        · simp only [hsame, if_true]
          rfl
        · simp [Utterance.isLine_iff.1 hsame]
      · refine ⟨[], ?_, Nat.zero_le 1, ?_⟩
        · simp only [hsame]
          rfl
        · have hother : last ≠ .ofLine line := fun heq => hsame (Utterance.isLine_iff.2 heq)
          simp [hother]

/-- The messages of a view are the last of the chat. -/
theorem recent_spec (chat : List Utterance) :
    (∃ earlier, chat = earlier ++ recent chat) ∧ (recent chat).length = min 200 chat.length := by
  refine ⟨⟨_, (List.take_append_drop _ chat).symm⟩, ?_⟩
  rw [recent, List.length_drop, recentLimit]
  omega

/-- The view of a step: the last entries of the chat, and the end only if it is outside of the
flow. -/
theorem view_step {s : Session} {world : World} {input : Option Value} {view : View}
    (h : (s.step world input).result = .ok view) :
    view.messages = recent (s.step world input).session.chat ∧
      (view.ended = true →
        s.engine.flow.has (s.step world input).session.standing.place = false) := by
  unfold step at h ⊢
  generalize s.engine.resume s.standing input.toList world = r at h ⊢
  cases hpause : pause r.fault with
  | error f =>
    simp only [hpause] at h
    cases h
  | ok q =>
    simp only [hpause] at h ⊢
    rw [← Except.ok.inj h]
    simp

/-- What an input adds to the record of a session. -/
structure Recorded (s : Session) (i : Input) : Prop where
  /-- The run goes on from the state of the session, with the input as the answer. -/
  resumed : (s.take i).run = s.engine.resume s.standing i.words.toList i.world
  /-- The step pauses where its run stops at a question, and fails if it fails otherwise. -/
  paused : (s.take i).result.map View.awaiting = pause (s.take i).run.fault
  /-- A step that fails adds only the input. -/
  failed : ∀ f, (s.take i).result = .error f →
    (s.take i).session.chat = s.chat ++ i.words.toList.map Utterance.ofInput
  /-- With an input, all lines and the prompt are added after it. -/
  answered : ∀ v view, i.words = some v → (s.take i).result = .ok view →
    (s.take i).session.chat =
      s.chat ++ .ofInput v :: (s.take i).run.outputLines.map Utterance.ofLine
  /-- Without an input, the first of them is left out exactly if it is the last entry of the chat.
  -/
  unasked : ∀ view, i.words = none → (s.take i).result = .ok view →
    ∃ dropped kept, (s.take i).run.outputLines = dropped ++ kept ∧
      (s.take i).session.chat = s.chat ++ kept.map Utterance.ofLine ∧ dropped.length ≤ 1 ∧
      (dropped ≠ [] ↔ ∃ line, (s.take i).run.outputLines.head? = some line ∧
        s.chat.getLast? = some (.ofLine line))
  /-- The view holds the last entries of the chat. -/
  assistantLines : ∀ view, (s.take i).result = .ok view →
    (∃ earlier, (s.take i).session.chat = earlier ++ view.messages) ∧
      view.messages.length = min 200 (s.take i).session.chat.length

theorem recorded_take (s : Session) (i : Input) : s.Recorded i where
  resumed := run_step s i.world i.words
  paused := awaiting_step s i.world i.words
  failed _ h := chat_step_of_error h
  answered := by
    intro v view hwords hview
    -- The last entry is then the user's, so no line of the assistant is left out.
    have hchat := chat_step hview
    rw [hwords, Option.toList_some, List.map_singleton, unrepeated_concat_ofInput,
      List.append_assoc] at hchat
    rw [take, hwords]
    exact hchat
  unasked := by
    intro view hwords hview
    have hchat := chat_step hview
    rw [hwords, Option.toList_none, List.map_nil, List.append_nil] at hchat
    obtain ⟨dropped, hlines, hlength, hiff⟩ := unrepeated_cases s.chat (s.take i).run.outputLines
    rw [take, hwords] at hlines hiff ⊢
    exact ⟨dropped, _, hlines, hchat, hlength, hiff⟩
  assistantLines := by
    intro view hview
    rw [(view_step hview).1]
    exact recent_spec _

/-- The chat of a session is a faithful record.  Over all inputs, those at which the session fails
included, it only grows at its end, the entries of the user in it are the inputs in order, and every
further input adds the output of its run. -/
theorem chat_recorded {text : Text} {source : Classifier.Source} {wanted : Bool} {s : Session}
    {notices : List Text} (h : start text source wanted = .ok (s, notices)) (inputs : List Input) :
    (∀ later, (s.after inputs).chat <+: (s.after (inputs ++ later)).chat) ∧
      (s.after inputs).userInputs = (inputs.filterMap Input.words).map Utterance.ofInput ∧
      ∀ i, (s.after inputs).Recorded i := by
  obtain ⟨hchat, -⟩ := opened_of_start h
  refine ⟨?_, ?_, recorded_take _⟩
  · intro later
    rw [after_append]
    exact chat_prefix_after _ later
  · rw [userInputs_after, userInputs, hchat]
    rfl

/-- A text whose only state asks. -/
def askingText : Text := "flow main\nstate start\nask name \"Name?\"\n".toList

/-- A session that was opened for it. -/
def askingSession : Session :=
  ⟨⟨⟨"main".toList, [⟨"start".toList, [.ask "name".toList "Name?".toList]⟩]⟩, none⟩,
    ⟨"start".toList, [], [], none⟩, [], none⟩

/-- A question that is asked again at once is not repeated in the chat. -/
theorem chat_recorded_asking :
    start askingText ⟨false, none⟩ false = .ok (askingSession, []) ∧
      (askingSession.after [⟨emptyWorld, none⟩]).chat = [.ofLine "Name?".toList] ∧
      (askingSession.after [⟨emptyWorld, none⟩, ⟨emptyWorld, none⟩]).chat =
        [.ofLine "Name?".toList] := by
  have hstart : start askingText ⟨false, none⟩ false = .ok (askingSession, []) := rfl
  obtain ⟨-, -, hrecorded⟩ := chat_recorded hstart [⟨emptyWorld, none⟩]
  obtain ⟨dropped, kept, hlines, hchat, -, hiff⟩ :=
    (hrecorded ⟨emptyWorld, none⟩).unasked _ rfl rfl
  have hdropped : dropped ≠ [] := hiff.2 ⟨"Name?".toList, rfl, rfl⟩
  have hkept : kept = [] := by
    have htotal : 1 = dropped.length + kept.length := by
      rw [← List.length_append, ← hlines]
      rfl
    have hpos := List.length_pos_iff.2 hdropped
    exact List.length_eq_zero_iff.1 (by omega)
  rw [hkept] at hchat
  exact ⟨hstart, rfl, hchat⟩

/-! ## The end -/

theorem within_take {s : Session} (h : s.standing.Within s.engine.flow) (i : Input) :
    (s.take i).session.standing.Within (s.take i).session.engine.flow := by
  rw [take, engine_step, standing_step, run_step]
  exact (Engine.within_runFor h Engine.visitLimit).1

theorem fault_eq_none_iff {r : Run} {q : Option Question} (h : pause r.fault = .ok q) :
    q = none ↔ r.fault = none := by
  cases hfault : r.fault with
  | none =>
    rw [hfault] at h
    simp [← Except.ok.inj h]
  | some f =>
    rw [hfault] at h
    cases f with
    | unanswered var prompt => simp [← Except.ok.inj h]
    | _ => cases h

/-- A step shows that the conversation has ended by showing no question: it does so exactly if its
run has finished.  The flag for the end is never set, since the session always stands at a state of
its flow, so the flag agrees with the end of the run exactly at the steps that wait for an answer.
-/
theorem ended_agrees_iff {text : Text} {source : Classifier.Source} {wanted : Bool} {s : Session}
    {notices : List Text} (h : start text source wanted = .ok (s, notices)) (inputs : List Input)
    (i : Input) {view : View} (hview : ((s.after inputs).take i).result = .ok view) :
    view.awaiting = ((s.after inputs).take i).run.question? ∧
      (view.awaiting = none ↔ ((s.after inputs).take i).run.fault = none) ∧
      view.ended = false ∧
      ((view.ended = true ↔ ((s.after inputs).take i).run.fault = none) ↔
        view.awaiting.isSome = true) := by
  have hpause : pause ((s.after inputs).take i).run.fault = .ok view.awaiting := by
    rw [← (recorded_take _ i).paused, hview]
    rfl
  have hwithin : (s.after inputs).standing.Within (s.after inputs).engine.flow :=
    after_induct (P := fun t => t.standing.Within t.engine.flow) (fun _ i ht => within_take ht i)
      inputs (opened_of_start h).2
  have hended : view.ended = false := by
    have hplace := (within_take hwithin i).place
    rw [take, engine_step] at hplace
    by_contra hnot
    have houtside := (view_step hview).2 (eq_true_of_ne_false hnot)
    cases hplace.symm.trans houtside
  have hfault := fault_eq_none_iff hpause
  refine ⟨pause_eq_question? hpause, hfault, hended, ?_⟩
  rw [← hfault, hended]
  cases view.awaiting with
  | none => simp
  | some q => simp

/-- A step that waits shows that the conversation has not ended. -/
theorem ended_agrees_iff_asking :
    start askingText ⟨false, none⟩ false = .ok (askingSession, []) ∧
      ∃ view, ((askingSession.after [⟨emptyWorld, none⟩]).take ⟨emptyWorld, none⟩).result =
          .ok view ∧
        view.awaiting = some ⟨"name".toList, "Name?".toList⟩ ∧
        (view.ended = true ↔
          ((askingSession.after [⟨emptyWorld, none⟩]).take ⟨emptyWorld, none⟩).run.fault =
            none) := by
  have hstart : start askingText ⟨false, none⟩ false = .ok (askingSession, []) := rfl
  have hagrees := ended_agrees_iff hstart [⟨emptyWorld, none⟩] ⟨emptyWorld, none⟩ rfl
  exact ⟨hstart, _, rfl, rfl, hagrees.2.2.2.2 rfl⟩

/-- A text whose only state replies. -/
def replyingText : Text := "flow main\nstate s\nreply \"Hi\"\n".toList

/-- A session that was opened for it. -/
def replyingSession : Session :=
  ⟨⟨⟨"main".toList, [⟨"s".toList, [.reply "Hi".toList]⟩]⟩, none⟩,
    ⟨"s".toList, [], [], none⟩, [], none⟩

/-- The first step is through with the flow and waits for nothing, but does not show the end. -/
theorem ended_replying :
    start replyingText ⟨false, none⟩ false = .ok (replyingSession, []) ∧
      (replyingSession.take ⟨emptyWorld, none⟩).run.fault = none ∧
      (replyingSession.take ⟨emptyWorld, none⟩).result =
        .ok ⟨[.ofLine "Hi".toList], none, false⟩ :=
  ⟨rfl, rfl, rfl⟩

end Session
end Dialogue
