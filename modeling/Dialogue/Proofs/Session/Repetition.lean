import Dialogue.Proofs.Session.Replay
set_option autoImplicit false

/-!
# Repeated output of a session

A step begins the present state anew, so it emits once more what the state replies before its
question.  A line is left out only if it is the last entry of the chat, and before a step with an
answer the user spoke last.  Main statement: with every answer a session repeats the lines before
the question, and its chat is the output of a single run exactly if there are none.
-/

namespace Dialogue

namespace Event

/-- The message of an event to the user: a line, or a question. -/
def message? : Event → Option Text
  | asked _ prompt _ => some prompt
  | event => event.line?

/-- All messages to the user. -/
def messages (events : List Event) : List Text := events.filterMap message?

/-- The lines that are emitted. -/
def lines (events : List Event) : List Text := events.filterMap line?

theorem messages_append (xs ys : List Event) : messages (xs ++ ys) = messages xs ++ messages ys :=
  List.filterMap_append

theorem lines_append (xs ys : List Event) : lines (xs ++ ys) = lines xs ++ lines ys :=
  List.filterMap_append

/-- Where nothing is asked, the messages are the lines. -/
theorem messages_eq_lines {events : List Event} (hsettled : Settled events)
    (hanswered : answered events = []) : messages events = lines events := by
  refine List.filterMap_congr fun event hmem => ?_
  cases event with
  | asked var prompt answer =>
    cases answer with
    | none => cases hsettled _ hmem
    | some v => cases List.filterMap_eq_nil_iff.1 hanswered _ hmem
  | _ => rfl

theorem messages_unanswered (q : Option Question) :
    messages (q.toList.map Question.unanswered) = q.toList.map Question.prompt := by
  cases q <;> rfl

theorem lines_unanswered (q : Option Question) :
    lines (q.toList.map Question.unanswered) = [] := by
  cases q <;> rfl

/-- Where no question has an answer, the question at the end comes after all lines. -/
theorem messages_of_unanswered {before : List Event} (hsettled : Settled before)
    (hanswered : answered before = []) (q : Option Question) :
    messages (before ++ q.toList.map Question.unanswered) =
      lines (before ++ q.toList.map Question.unanswered) ++ q.toList.map Question.prompt := by
  rw [messages_append, messages_eq_lines hsettled hanswered, messages_unanswered, lines_append,
    lines_unanswered, List.append_nil]

/-- A question that waits at the end comes after every answer. -/
theorem exists_of_append_eq {common more before : List Event} {x : Event} {q : Option Question}
    (hx : x.isOpen = false)
    (h : common ++ x :: more = before ++ q.toList.map Question.unanswered) :
    ∃ later, more = later ++ q.toList.map Question.unanswered ∧ before = common ++ x :: later := by
  have hopen : ∀ event ∈ q.toList.map Question.unanswered, event.isOpen = true := by
    intro event hmem
    obtain ⟨q', -, rfl⟩ := List.mem_map.1 hmem
    rfl
  rcases List.append_eq_append_iff.1 h with ⟨later, hbefore, hmore⟩ | ⟨later, hcommon, hq⟩
  · cases later with
    | nil =>
      have hmem : x ∈ q.toList.map Question.unanswered := by
        rw [List.nil_append] at hmore
        rw [← hmore]
        exact List.mem_cons_self
      exact Bool.noConfusion (hx.symm.trans (hopen x hmem))
    | cons y later =>
      obtain ⟨rfl, rfl⟩ := List.cons.inj hmore
      exact ⟨later, rfl, hbefore⟩
  · have hmem : x ∈ q.toList.map Question.unanswered := by
      rw [hq]
      exact List.mem_append_right _ List.mem_cons_self
    exact Bool.noConfusion (hx.symm.trans (hopen x hmem))

end Event

namespace Run

/-- The messages of a run to the user: its lines and its questions, in order. -/
def messages (r : Run) : List Text := Event.messages r.events

/-- The lines of a run, and the question at which it waits. -/
def outputLines (r : Run) : List Text := Session.outputLines r r.question?

theorem lines_eq (r : Run) : r.lines = Event.lines r.events := by
  rw [Event.lines, Run.events, List.filterMap_map]
  rfl

end Run

namespace Engine

/-- The messages of a run without answers are its lines, and then the question at which it waits. -/
theorem messages_eq_outputLines (e : Engine) {s : Scene} (h : s.answers = []) :
    (e.run s).messages = (e.run s).outputLines := by
  obtain ⟨before, hsettled, hevents⟩ := runFor_closing e visitLimit s
  have hgiven : (e.run s).answered = [] := by
    have hgiven := runFor_given e visitLimit s
    rw [h] at hgiven
    exact List.map_eq_nil_iff.1 (List.append_eq_nil_iff.1 hgiven).1
  have hanswered : Event.answered before = [] := by
    have hnil : Event.answered (e.run s).events = [] := hgiven
    rw [run, hevents, Event.answered_append] at hnil
    exact (List.append_eq_nil_iff.1 hnil).1
  rw [Run.messages, Run.outputLines, Session.outputLines, Run.lines_eq, run, hevents]
  exact Event.messages_of_unanswered hsettled hanswered _

/-- With an answer a run first emits the lines that it emits without. -/
theorem lines_run_of_agrees (e : Engine) {s t : Scene} {v : Value} (h : s.Agrees [v] t) :
    ∃ more, (e.run t).outputLines = (e.run s).lines ++ more := by
  rw [Run.outputLines, Session.outputLines, Run.lines_eq, Run.lines_eq]
  rcases runFor_follows e visitLimit h with
    ⟨-, htrace, -⟩ | ⟨q, v', rest, common, more, -, -, hbefore, hafter, -⟩
  · have hevents : (e.run t).events = (e.run s).events :=
      congrArg (List.map Entry.event) htrace
    rw [hevents]
    exact ⟨_, rfl⟩
  · have hlines : Event.lines (e.run s).events = Event.lines common := by
      rw [run, hbefore, Event.lines_append]
      exact List.append_nil _
    rw [hlines, run, hafter, Event.lines_append, List.append_assoc]
    exact ⟨_, rfl⟩

/-- With an answer a run emits the question at which it waits without, and then its further lines
and the question at which it waits next. -/
theorem outputLines_of_continuesPast (e : Engine) {s : Scene} {common more : List Event}
    {q : Question}
    {v : Value} (hevents : (e.run s).events = common ++ q.answeredBy v :: more)
    (hmore : Event.answered more = []) :
    (e.run s).outputLines = Event.lines common ++ Event.messages more := by
  obtain ⟨before, hsettled, hclosing⟩ := runFor_closing e visitLimit s
  obtain ⟨later, rfl, rfl⟩ :=
    Event.exists_of_append_eq (x := q.answeredBy v) rfl (hevents.symm.trans hclosing)
  have hlater : Event.Settled later := fun event hmem =>
    hsettled event (List.mem_append_right _ (List.mem_cons_of_mem _ hmem))
  have hanswered : Event.answered later = [] := by
    rw [Event.answered_append] at hmore
    exact (List.append_eq_nil_iff.1 hmore).1
  have hlines : Event.lines (e.run s).events = Event.lines common ++
      Event.lines (later ++ (e.run s).question?.toList.map Question.unanswered) := by
    rw [hevents, Event.lines_append]
    rfl
  rw [Run.outputLines, Session.outputLines, Run.lines_eq, hlines, List.append_assoc]
  exact congrArg (_ ++ ·) (Event.messages_of_unanswered hlater hanswered _).symm

/-- A run that waits and begins anew with an answer emits the lines before the question once more,
and then what a run that had the answer at once emits next. -/
theorem exists_repetition {e : Engine} (h : e.flow.asksOnce = true) {s s' t t' : Scene}
    {q : Question} {v : Value} (hq : (e.run s).question? = some q) (hs : s.Agrees [v] s')
    (ht : (e.run s).scene.Agrees [] t) (ht' : (e.run s).scene.Agrees [v] t')
    (hend : (e.run s').fault ≠ some .endless) :
    ∃ before new, (e.run s).messages = before ++ (e.run t).lines ++ [q.prompt] ∧
      (e.run s').messages = (e.run s).messages ++ new ∧
      (e.run t').outputLines = (e.run t).lines ++ new := by
  obtain ⟨earlier, hrepeated, hon⟩ := exists_resumption h hq
  obtain ⟨hwaiting, htrace⟩ := hrepeated t ht
  obtain ⟨-, -, htrace'⟩ := hon v s' t' hs ht' hend
  have hnone : t.answers = [] := by
    have hleft : (e.run s).scene.answers = [] := (runFor_waiting e hq).1
    rw [ht.answers, hleft]
    rfl
  have hagrees : t.Agrees [v] t' := by
    refine ⟨ht'.place.trans ht.place.symm, ht'.ctx.trans ht.ctx.symm,
      ht'.world.trans ht.world.symm, ?_⟩
    rw [ht'.answers, ht.answers, List.append_nil]
  have houtput : (e.run t).messages = (e.run t).lines ++ [q.prompt] := by
    rw [messages_eq_outputLines e hnone, Run.outputLines, Session.outputLines, hwaiting]
    rfl
  have hmessages : (e.run s).messages =
      Event.messages (earlier.map Entry.event) ++ (e.run t).messages := by
    rw [Run.messages, Run.events, htrace, List.map_append, Event.messages_append]
    rfl
  have hmessages' : (e.run s').messages =
      Event.messages (earlier.map Entry.event) ++ (e.run t').messages := by
    rw [Run.messages, Run.events, htrace', List.map_append, Event.messages_append]
    rfl
  obtain ⟨common, more, hbefore, hafter, hmore⟩ := exists_continuesPast e hwaiting hagrees
  have hlines : (e.run t).lines = Event.lines common := by
    rw [Run.lines_eq, hbefore, Event.lines_append]
    exact List.append_nil _
  refine ⟨Event.messages (earlier.map Entry.event), Event.messages more, ?_, ?_, ?_⟩
  · rw [hmessages, houtput, List.append_assoc]
  · have hnext : (e.run t').messages = (e.run t).messages ++ Event.messages more := by
      rw [Run.messages, Run.messages, hafter, hbefore, Event.messages_append,
        Event.messages_append, List.append_assoc]
      rfl
    rw [hmessages', hnext, hmessages, List.append_assoc]
  · rw [hlines]
    exact outputLines_of_continuesPast e hafter hmore

end Engine

namespace Session

/-! ## The chat -/

/-- The entries of the assistant in a chat. -/
def assistantLines (s : Session) : List Utterance := s.chat.filter fun u => u.speaker = .assistant

theorem filter_assistant_map_ofLine (lines : List Text) :
    ((lines.map Utterance.ofLine).filter fun u => u.speaker = .assistant) =
      lines.map Utterance.ofLine := by
  rw [List.filter_eq_self]
  intro u hmem
  obtain ⟨line, -, rfl⟩ := List.mem_map.1 hmem
  rfl

theorem pause_eq_question? {r : Run} {q : Option Question} (h : pause r.fault = .ok q) :
    q = r.question? := by
  rw [Run.question?]
  cases hfault : r.fault with
  | none =>
    rw [hfault] at h
    exact (Except.ok.inj h).symm
  | some f =>
    rw [hfault] at h
    cases f with
    | unanswered var prompt => exact (Except.ok.inj h).symm
    | _ => cases h

/-- After the user's words no line is left out. -/
theorem unrepeated_concat_ofInput (chat : List Utterance) (v : Value) (lines : List Text) :
    unrepeated (chat ++ [.ofInput v]) lines = lines := by
  cases lines with
  | nil => rfl
  | cons line lines =>
    rw [unrepeated, List.getLast?_concat]
    rfl

/-- A step that does not fail adds the output of its run, but for a first line that is the last
entry already. -/
theorem chat_step {s : Session} {world : World} {input : Option Value} {view : View}
    (h : (s.step world input).result = .ok view) :
    (s.step world input).session.chat = s.chat ++ input.toList.map Utterance.ofInput ++
      (unrepeated (s.chat ++ input.toList.map Utterance.ofInput)
        (s.step world input).run.outputLines).map Utterance.ofLine := by
  rw [run_step]
  rw [step] at h ⊢
  cases hpause : pause (s.engine.resume s.standing input.toList world).fault with
  | error f =>
    simp only [hpause] at h
    cases h
  | ok q =>
    obtain rfl := pause_eq_question? hpause
    rfl

theorem assistantLines_step_some {s : Session} {world : World} {v : Value} {view : View}
    (h : (s.step world (some v)).result = .ok view) :
    (s.step world (some v)).session.assistantLines =
      s.assistantLines ++ (s.step world (some v)).run.outputLines.map Utterance.ofLine := by
  have hinput : ([Utterance.ofInput v].filter fun u => u.speaker = .assistant) = [] := rfl
  rw [assistantLines, chat_step h, Option.toList_some, List.map_singleton,
    unrepeated_concat_ofInput,
    List.filter_append, List.filter_append, filter_assistant_map_ofLine, hinput, List.append_nil]
  rfl

/-- The first step shows all messages of its run. -/
theorem assistantLines_stepAll_nil {s : Session} (hchat : s.chat = []) {world : World} {view : View}
    (h : (s.stepAll world []).result = .ok view) :
    (s.stepAll world []).session.assistantLines =
      (s.engine.resume s.standing [] world).messages.map Utterance.ofLine := by
  have hrun : (s.step world none).run = s.engine.resume s.standing [] world :=
    run_step s world none
  have hmessages : (s.engine.resume s.standing [] world).messages =
      (s.engine.resume s.standing [] world).outputLines :=
    Engine.messages_eq_outputLines s.engine rfl
  have hall (lines : List Text) : unrepeated [] lines = lines := by cases lines <;> rfl
  show (s.step world none).session.assistantLines = _
  rw [assistantLines, chat_step h, hchat, Option.toList_none, List.map_nil, List.append_nil,
    List.nil_append,
    hall, filter_assistant_map_ofLine, hrun, hmessages]

theorem assistantLines_stepAll_concat {s : Session} {world : World} {earlier : List Value}
    {v : Value}
    {view : View} (h : (s.stepAll world (earlier ++ [v])).result = .ok view) :
    (s.stepAll world (earlier ++ [v])).session.assistantLines =
      (s.stepAll world earlier).session.assistantLines ++
        (s.stepAll world (earlier ++ [v])).run.outputLines.map Utterance.ofLine := by
  rw [stepAll_concat] at h ⊢
  exact assistantLines_step_some h

/-- With every answer a session first repeats what it would emit without an answer. -/
theorem exists_assistantLines_concat {s : Session} {world : World} {earlier : List Value}
    {v : Value}
    {view : View} (h : (s.stepAll world (earlier ++ [v])).result = .ok view) :
    ∃ new, (s.stepAll world (earlier ++ [v])).session.assistantLines =
      (s.stepAll world earlier).session.assistantLines ++
        (((s.stepAll world earlier).next none).run.lines ++ new).map Utterance.ofLine := by
  obtain ⟨new, hnew⟩ : ∃ new, (s.stepAll world (earlier ++ [v])).run.outputLines =
      ((s.stepAll world earlier).next none).run.lines ++ new := by
    rw [stepAll_concat, run_next_stepAll, run_next_stepAll]
    exact Engine.lines_run_of_agrees s.engine ⟨rfl, rfl, rfl, rfl⟩
  exact ⟨new, by rw [assistantLines_stepAll_concat h, hnew]⟩

/-- With an answer a session emits the lines before its question once more, and then what one run
with all the answers emits next. -/
theorem exists_repetition {s : Session} (honce : s.engine.flow.asksOnce = true) (world : World)
    {earlier : List Value} {v : Value} {q : Question} {view : View}
    (hearlier : ∀ first, first <+: earlier → first ≠ earlier →
      ∃ q, (s.stepAll world first).Awaits q)
    (hq : (s.stepAll world earlier).Awaits q)
    (h : (s.stepAll world (earlier ++ [v])).result = .ok view)
    (hend : (s.engine.resume s.standing (earlier ++ [v]) world).fault ≠ some .endless) :
    ∃ before new,
      (s.engine.resume s.standing earlier world).messages =
        before ++ ((s.stepAll world earlier).next none).run.lines ++ [q.prompt] ∧
      (s.engine.resume s.standing (earlier ++ [v]) world).messages =
        (s.engine.resume s.standing earlier world).messages ++ new ∧
      (s.stepAll world (earlier ++ [v])).session.assistantLines =
        (s.stepAll world earlier).session.assistantLines ++
          (((s.stepAll world earlier).next none).run.lines ++ new).map Utterance.ofLine := by
  obtain ⟨hfault, hscene⟩ := stepAll_eq_resume honce world hearlier
    (Engine.not_endless_of_append s.engine s.standing world hend)
  have hwaiting : (s.engine.resume s.standing earlier world).question? = some q := by
    rw [awaits_stepAll_iff, Run.question?, hfault] at hq
    exact hq
  have hleft := (Engine.resume_waiting _ _ _ hwaiting).1
  have hagrees (answers : List Value) :
      (s.engine.resume s.standing earlier world).scene.Agrees answers
        { (s.stepAll world earlier).run.scene.toEngineState with
          buffer := [], answers := answers, world := (s.stepAll world earlier).run.scene.world } :=
    ⟨hscene.place, hscene.ctx, hscene.world, by rw [hleft]; rfl⟩
  have hfurther : Scene.Agrees [v]
      { s.standing with buffer := [], answers := earlier, world := world }
      { s.standing with buffer := [], answers := earlier ++ [v], world := world } :=
    ⟨rfl, rfl, rfl, rfl⟩
  obtain ⟨before, new, hbefore, hnew, hlines⟩ :=
    Engine.exists_repetition honce hwaiting hfurther (hagrees []) (hagrees [v]) hend
  have hlast : (s.stepAll world (earlier ++ [v])).run.outputLines =
      ((s.stepAll world earlier).next none).run.lines ++ new := by
    rw [stepAll_concat, run_next_stepAll, run_next_stepAll]
    exact hlines
  refine ⟨before, new, ?_, hnew, by rw [assistantLines_stepAll_concat h, hlast]⟩
  rw [run_next_stepAll]
  exact hbefore

theorem exists_view {last : Step} {q : Option Question}
    (h : last.result.map View.awaiting = .ok q) : ∃ view, last.result = .ok view := by
  cases hresult : last.result with
  | error f =>
    rw [hresult] at h
    cases h
  | ok view => exact ⟨view, rfl⟩

/-- A session shows no less than one run with all the answers emits, and the same exactly if it
never repeated anything. -/
theorem assistantLines_eq_messages {s : Session} (hchat : s.chat = [])
    (honce : s.engine.flow.asksOnce = true) (world : World) {answers : List Value}
    (hearlier : ∀ earlier, earlier <+: answers → earlier ≠ answers →
      ∃ q, (s.stepAll world earlier).Awaits q)
    (hview : ∃ view, (s.stepAll world answers).result = .ok view)
    (hend : (s.engine.resume s.standing answers world).fault ≠ some .endless) :
    (s.engine.resume s.standing answers world).messages.length ≤
        (s.stepAll world answers).session.assistantLines.length ∧
      ((s.stepAll world answers).session.assistantLines =
          (s.engine.resume s.standing answers world).messages.map Utterance.ofLine ↔
        ∀ earlier, earlier <+: answers → earlier ≠ answers →
          ((s.stepAll world earlier).next none).run.lines = []) := by
  obtain ⟨view, hview⟩ := hview
  induction answers using List.reverseRecOn generalizing view with
  | nil =>
    rw [assistantLines_stepAll_nil hchat hview]
    refine ⟨by simp, fun _ earlier hpre hne => ?_, fun _ => rfl⟩
    exact absurd (List.prefix_nil.1 hpre) hne
  | append_singleton answers v ih =>
    obtain ⟨hfirst, q, hq⟩ := forall_earlier_concat_iff.1 hearlier
    obtain ⟨view', hview'⟩ := exists_view hq
    obtain ⟨hlength, hiff⟩ :=
      ih hfirst (Engine.not_endless_of_append s.engine s.standing world hend) view' hview'
    obtain ⟨before, new, -, hmessages, htold⟩ :=
      exists_repetition honce world hfirst hq hview hend
    rw [htold, hmessages, forall_earlier_concat_iff, ← hiff]
    -- what is repeated makes the chat longer, and never shorter
    generalize ((s.stepAll world answers).next none).run.lines = repeated
    generalize (s.stepAll world answers).session.assistantLines = assistantLines at hlength
    generalize (s.engine.resume s.standing answers world).messages = messages at hlength
    refine ⟨by simp; omega, fun heq => ?_, ?_⟩
    · have hrepeated : repeated = [] := by
        have hlengths := congrArg List.length heq
        simp only [List.length_append, List.length_map] at hlengths
        exact List.length_eq_zero_iff.1 (by omega)
      rw [hrepeated, List.nil_append, List.map_append] at heq
      exact ⟨List.append_cancel_right heq, hrepeated⟩
    · rintro ⟨rfl, rfl⟩
      rw [List.nil_append, List.map_append]

/-- The lines that a session would emit next without an answer. -/
def repeatedLines (s : Session) (world : World) (answers : List Value) : List Text :=
  ((s.stepAll world answers).next none).run.lines

/-- A session that waits for an answer emits, with the answer, what it would have emitted without.
In a flow whose states ask at most once, each time after nothing but replies, these are the lines
before the question, which it has emitted already; what it emits then is what one run with all the
answers emits next.  So the session has shown exactly what the single run emits if and only if there
was no line before any of its questions. -/
theorem assistantLines_stepAll_iff {text : Text} {script : Script} {source : Classifier.Source}
    {wanted : Bool} {opening : Opening} (hscript : Script.parse text = .ok script)
    (hopening : Engine.start script flowName [] source wanted = .ok opening) :
    ∃ s, start text source wanted = .ok (s, opening.notices) ∧
      ∀ (world : World) (answers : List Value),
        (∀ earlier, earlier <+: answers → earlier ≠ answers →
          ∃ q, (s.stepAll world earlier).Awaits q) →
        (∃ view, (s.stepAll world answers).result = .ok view) →
        (∀ earlier v, earlier ++ [v] <+: answers → ∃ new,
          (s.stepAll world (earlier ++ [v])).session.assistantLines =
            (s.stepAll world earlier).session.assistantLines ++
              (s.repeatedLines world earlier ++ new).map Utterance.ofLine) ∧
        (opening.engine.flow.asksOnce = true →
          (opening.engine.resume opening.standing answers world).fault ≠ some .endless →
          (∀ earlier v, earlier ++ [v] <+: answers → ∃ q before new,
            (s.stepAll world earlier).Awaits q ∧
            (opening.engine.resume opening.standing earlier world).messages =
              before ++ s.repeatedLines world earlier ++ [q.prompt] ∧
            (opening.engine.resume opening.standing (earlier ++ [v]) world).messages =
              (opening.engine.resume opening.standing earlier world).messages ++ new ∧
            (s.stepAll world (earlier ++ [v])).session.assistantLines =
              (s.stepAll world earlier).session.assistantLines ++
                (s.repeatedLines world earlier ++ new).map Utterance.ofLine) ∧
          ((s.stepAll world answers).session.assistantLines =
              (opening.engine.resume opening.standing answers world).messages.map
                Utterance.ofLine ↔
            ∀ earlier, earlier <+: answers → earlier ≠ answers →
              s.repeatedLines world earlier = [])) := by
  refine ⟨_, start_eq_ok hscript hopening, fun world answers hearlier hview => ?_⟩
  -- every step up to the last ends with a view
  have hviews : ∀ first, first <+: answers → ∃ view,
      (stepAll ⟨opening.engine, opening.standing, [], none⟩ world first).result = .ok view := by
    intro first hpre
    by_cases heq : first = answers
    · rw [heq]
      exact hview
    · obtain ⟨q, hq⟩ := hearlier first hpre heq
      exact exists_view hq
  refine ⟨fun earlier v hpre => ?_, fun honce hend => ⟨fun earlier v hpre => ?_, ?_⟩⟩
  · obtain ⟨view, hlast⟩ := hviews _ hpre
    exact exists_assistantLines_concat hlast
  · obtain ⟨view, hlast⟩ := hviews _ hpre
    obtain ⟨hfirst, q, hq⟩ := forall_earlier_concat_iff.1 (forall_earlier_mono hpre hearlier)
    obtain ⟨later, rfl⟩ := hpre
    have hend' := Engine.not_endless_of_append opening.engine opening.standing world hend
    obtain ⟨before, new, hrepeated⟩ := exists_repetition honce world hfirst hq hlast hend'
    exact ⟨q, before, new, hq, hrepeated⟩
  · exact (assistantLines_eq_messages rfl honce world hearlier hview hend).2

/-- A flow whose states begin with their questions. -/
def questionsFirst : Flow :=
  ⟨"main".toList, [
    ⟨"start".toList, [
      .ask "name".toList "Name?".toList,
      .reply "Hello \x7b\x7bname\x7d\x7d".toList,
      .goto "more".toList]⟩,
    ⟨"more".toList, [
      .ask "like".toList "Like?".toList,
      .goto "end".toList]⟩,
    ⟨"end".toList, [.reply "Bye".toList]⟩]⟩

/-- The beginning of a conversation with the flow. -/
def questionsFirstOpening : Opening := ⟨⟨questionsFirst, none⟩, ⟨"start".toList, [], [], none⟩, []⟩

theorem assistantLines_stepAll_iff_questionsFirst :
    ∃ s, start (Script.print .separate ⟨[questionsFirst]⟩) ⟨false, none⟩ false = .ok (s, []) ∧
      (s.stepAll emptyWorld [.text "Bob".toList, .text "yes".toList]).session.assistantLines =
        ["Name?".toList, "Hello Bob".toList, "Like?".toList, "Bye".toList].map
          Utterance.ofLine := by
  have hparse : Script.parse (Script.print .separate ⟨[questionsFirst]⟩) =
      .ok ⟨[questionsFirst]⟩ := Script.parse_print .separate (by decide) (.inl rfl)
  have hopening : Engine.start ⟨[questionsFirst]⟩ flowName [] ⟨false, none⟩ false =
      .ok questionsFirstOpening := rfl
  obtain ⟨s, hstart, hall⟩ := assistantLines_stepAll_iff hparse hopening
  obtain rfl : s = ⟨questionsFirstOpening.engine, questionsFirstOpening.standing, [], none⟩ :=
    congrArg Prod.fst (Except.ok.inj (hstart.symm.trans (start_eq_ok hparse hopening)))
  have hearlier : ∀ {p : List Value → Prop}, p [] → p [.text "Bob".toList] →
      ∀ earlier, earlier <+: [Value.text "Bob".toList, .text "yes".toList] →
        earlier ≠ [.text "Bob".toList, .text "yes".toList] → p earlier := fun hnil hone =>
    forall_earlier_concat_iff.2 ⟨forall_earlier_concat_iff.2
      ⟨fun earlier hpre hne => absurd (List.prefix_nil.1 hpre) hne, hnil⟩, hone⟩
  have hfault : (questionsFirstOpening.engine.resume questionsFirstOpening.standing
      [.text "Bob".toList, .text "yes".toList] emptyWorld).fault = none :=
    Option.isNone_iff_eq_none.1 (by decide +kernel)
  have hend : (questionsFirstOpening.engine.resume questionsFirstOpening.standing
      [.text "Bob".toList, .text "yes".toList] emptyWorld).fault ≠ some .endless := by
    rw [hfault]
    simp
  have hlast : (stepAll ⟨questionsFirstOpening.engine, questionsFirstOpening.standing, [], none⟩
      emptyWorld [.text "Bob".toList, .text "yes".toList]).run.fault = none :=
    Option.isNone_iff_eq_none.1 (by decide +kernel)
  have hawaiting := awaiting_stepAll
    ⟨questionsFirstOpening.engine, questionsFirstOpening.standing, [], none⟩ emptyWorld
    [.text "Bob".toList, .text "yes".toList]
  rw [hlast] at hawaiting
  obtain ⟨-, honce⟩ := hall emptyWorld [.text "Bob".toList, .text "yes".toList]
    (hearlier ⟨⟨"name".toList, "Name?".toList⟩, (awaits_stepAll_iff _ _ _).2 (by decide +kernel)⟩
      ⟨⟨"like".toList, "Like?".toList⟩, (awaits_stepAll_iff _ _ _).2 (by decide +kernel)⟩)
    (exists_view hawaiting)
  refine ⟨_, hstart, ((honce (by decide) hend).2.2 (hearlier ?_ ?_)).trans ?_⟩
  · decide +kernel
  · decide +kernel
  · exact congrArg _ (by decide +kernel)

/-- A flow that greets before it asks. -/
def greetsFirst : Flow :=
  ⟨"main".toList, [
    ⟨"start".toList, [
      .reply "Hi".toList,
      .ask "name".toList "Name?".toList,
      .goto "end".toList]⟩,
    ⟨"end".toList, [.reply "Bye".toList]⟩]⟩

/-- A session at the beginning of the flow. -/
def greetsFirstSession : Session := ⟨⟨greetsFirst, none⟩, ⟨"start".toList, [], [], none⟩, [], none⟩

/-- The flow as text. -/
def greetsFirstText : Text :=
  ("flow main\nstate start\nreply \"Hi\"\nask name \"Name?\"\ngoto end\n" ++
    "state end\nreply \"Bye\"\n").toList

/-- The greeting is shown once more with the answer, although a single run emits it once. -/
theorem assistantLines_stepAll_greetsFirst :
    start greetsFirstText ⟨false, none⟩ false = .ok (greetsFirstSession, []) ∧
      (greetsFirstSession.stepAll emptyWorld []).Awaits ⟨"name".toList, "Name?".toList⟩ ∧
      (greetsFirstSession.stepAll emptyWorld [.text "Bob".toList]).session.assistantLines =
        ["Hi".toList, "Name?".toList, "Hi".toList, "Bye".toList].map Utterance.ofLine ∧
      (greetsFirstSession.engine.resume greetsFirstSession.standing [.text "Bob".toList]
        emptyWorld).messages = ["Hi".toList, "Name?".toList, "Bye".toList] := by
  refine ⟨?_, rfl, rfl, rfl⟩
  have hparse : Script.parse (Script.print .separate ⟨[greetsFirst]⟩) = .ok ⟨[greetsFirst]⟩ :=
    Script.parse_print .separate (by decide) (.inl rfl)
  have htext : Script.print .separate ⟨[greetsFirst]⟩ = greetsFirstText := by decide
  rw [start, ← htext, hparse]
  rfl

end Session
end Dialogue
