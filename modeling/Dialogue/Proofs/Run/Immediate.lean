import Dialogue.Proofs.Run.Visits
set_option autoImplicit false

/-!
# Buffered and immediate output

A flow can also be executed in such a way that every reply is emitted at the moment at which it
is executed.  A run keeps its replies instead, until a question follows or the state ends.  What has
been emitted and what is buffered is together what is emitted at once (`Immediate.Matches`).  Main
statement: a run emits and asks the same in the same order, and only if an action fails that is
not a question, the replies since the last question of the state are missing at the end
(`Engine.trace_resume`).

Normative source: `runtime`, `Engine._exec_actions`, where the buffer is flushed before a question.
-/

namespace Dialogue

/-- The event, without regard to when a line was emitted. -/
def Event.merged : Event → Event
  | flushed line => shown line
  | event => event

/-- The event is a question. -/
def Event.isAsked : Event → Bool
  | asked _ _ _ => true
  | _ => false

/-- The entry, without regard to when a line was emitted. -/
def Entry.merged (x : Entry) : Entry := ⟨x.place, x.event.merged⟩

/-- The visit fails because of an action that is not a question. -/
def VisitEnd.isInternal : VisitEnd → Bool
  | failed f => f.isInternal
  | _ => false

/-- The scene without replies that are kept. -/
def Scene.emptied (s : Scene) : Scene := { s with buffer := [] }

namespace Immediate

/-! ## Immediate execution -/

/-- Asks a question and stores its answer. -/
def ask (s : Scene) (var prompt : Text) : Report :=
  match s.answers with
  | [] => ⟨.fail (.unanswered var prompt), s, [.asked var prompt none]⟩
  | v :: rest =>
    ⟨.proceed, { s with answers := rest, ctx := Assoc.put var v s.ctx, asked := some var },
      [.asked var prompt (some v)]⟩

mutual

/-- Executes an action; a reply is emitted at once. -/
def run (a : Action) (s : Scene) : Report :=
  match _heffect : a.effect s.ctx s.world.disk with
  | .stop outcome => ⟨outcome, s, []⟩
  | .reply line => ⟨.proceed, s, [.shown line]⟩
  | .assign var value => (s.assign var value).proceed
  | .write disk outcome => ⟨outcome, s.withDisk disk, []⟩
  | .ask var prompt => ask s var prompt
  | .execute body => runAll body s
termination_by sizeOf a
decreasing_by
  have howns := Action.owns_effect a s.ctx s.world.disk
  rw [_heffect] at howns
  exact Action.sizeOf_lt_of_mem_bodies howns

/-- Executes actions in order, until one jumps or fails. -/
def runAll (actions : List Action) (s : Scene) : Report :=
  match actions with
  | [] => s.proceed
  | a :: rest =>
    let r := run a s
    match r.outcome with
    | .proceed => (runAll rest r.scene).after r.events
    | _ => r
termination_by sizeOf actions

end

/-- Executes the effect of an action. -/
def perform (s : Scene) : Effect → Report
  | .stop outcome => ⟨outcome, s, []⟩
  | .reply line => ⟨.proceed, s, [.shown line]⟩
  | .assign var value => (s.assign var value).proceed
  | .write disk outcome => ⟨outcome, s.withDisk disk, []⟩
  | .ask var prompt => ask s var prompt
  | .execute body => runAll body s

theorem run_eq_perform (a : Action) (s : Scene) :
    run a s = perform s (a.effect s.ctx s.world.disk) := by
  rw [run]
  split <;> next heffect => rw [heffect]; rfl

/-- Executes further actions, if the ones before neither jumped nor failed. -/
def andThen (d : Report) (rest : List Action) : Report :=
  match d.outcome with
  | .proceed => (runAll rest d.scene).after d.events
  | _ => d

theorem runAll_cons (a : Action) (rest : List Action) (s : Scene) :
    runAll (a :: rest) s = andThen (run a s) rest := by
  rw [runAll]
  rfl

/-- Enters the present state, executes its actions and decides where to go. -/
def visit (e : Engine) (s : Scene) : Visit :=
  e.conclude (runAll (e.flow.actionsAt s.place) (Engine.enter s))

/-- What a run leaves behind, with the entries of each state apart. -/
structure Transcript where
  fault : Option RunFault
  scene : Scene
  states : List (List Entry)

/-- Runs on for a number of states. -/
def runFor (e : Engine) : Nat → Scene → Transcript
  | 0, s => ⟨some .endless, s, []⟩
  | n + 1, s =>
    let v := visit e s
    let entries := v.events.map (Entry.mk s.place)
    match v.ending with
    | .finished => ⟨none, v.scene, [entries]⟩
    | .failed f => ⟨some f, v.scene, [entries]⟩
    | .moved =>
      let rest := runFor e n v.scene
      { rest with states := entries :: rest.states }

/-- Runs from where a conversation stands, with the answers that the user will give. -/
def resume (e : Engine) (standing : EngineState) (answers : List Value) (world : World) :
    Transcript :=
  runFor e Engine.visitLimit { standing with buffer := [], answers := answers, world := world }

/-! ## Emitted and buffered replies -/

/-- The second report is that of the same actions executed at once.  What was kept before and what
is emitted at once is what is emitted and what is kept at the end.  What is emitted ends with a
question, and at a question nothing is kept. -/
structure Matches (s : Scene) (r d : Report) : Prop where
  outcome : d.outcome = r.outcome
  scene : d.scene = r.scene.emptied
  events : s.buffer.map Event.shown ++ d.events =
    r.events.map Event.merged ++ r.scene.buffer.map Event.shown
  closed : ∀ event ∈ r.events.getLast?, event.isAsked = true
  waiting : ∀ q, r.outcome.question? = some q → r.scene.buffer = []

/-- Nothing is replied and nothing is emitted. -/
theorem matches_of_quiet {s : Scene} {r d : Report} (houtcome : d.outcome = r.outcome)
    (hscene : d.scene = r.scene.emptied) (hbuffer : r.scene.buffer = s.buffer)
    (hr : r.events = []) (hd : d.events = []) (hown : r.outcome.isOwn = true) : Matches s r d where
  outcome := houtcome
  scene := hscene
  events := by rw [hr, hd, hbuffer, List.append_nil]; rfl
  closed := by
    intro event hevent
    rw [hr] at hevent
    cases hevent
  waiting := by
    intro q hq
    rw [Outcome.question?_eq_none_of_isOwn hown] at hq
    cases hq

theorem map_merged_flushed (lines : List Text) :
    (lines.map Event.flushed).map Event.merged = lines.map Event.shown := by
  rw [List.map_map]
  rfl

theorem matches_ask (s : Scene) (var prompt : Text) :
    Matches s (s.ask var prompt) (ask s.emptied var prompt) := by
  have hanswers : s.emptied.answers = s.answers := rfl
  rw [Scene.ask, ask, hanswers]
  cases h : s.answers with
  | nil =>
    refine ⟨rfl, by simp only [Scene.emptied, h], ?_, by simp [Event.isAsked], fun _ _ => rfl⟩
    rw [List.map_append, map_merged_flushed]
    exact (List.append_nil _).symm
  | cons v rest =>
    refine ⟨rfl, rfl, ?_, by simp [Event.isAsked], fun _ _ => rfl⟩
    rw [List.map_append, map_merged_flushed]
    exact (List.append_nil _).symm

theorem matches_run {a : Action} (hbodies : ∀ body ∈ a.bodies, ∀ s,
    Matches s (Action.runAll body s) (runAll body s.emptied)) (s : Scene) :
    Matches s (a.run s) (run a s.emptied) := by
  have howns := Action.owns_effect a s.ctx s.world.disk
  rw [Action.run_eq_apply, run_eq_perform]
  show Matches s _ (perform s.emptied (a.effect s.ctx s.world.disk))
  cases he : a.effect s.ctx s.world.disk with
  | stop o =>
    rw [he] at howns
    exact matches_of_quiet rfl rfl rfl rfl rfl howns
  | assign var v => exact matches_of_quiet rfl rfl rfl rfl rfl rfl
  | write d o =>
    rw [he] at howns
    exact matches_of_quiet rfl rfl rfl rfl rfl howns
  | reply line =>
    refine ⟨rfl, rfl, ?_, nofun, nofun⟩
    show s.buffer.map Event.shown ++ [.shown line] = (s.buffer ++ [line]).map Event.shown
    rw [List.map_append]
    rfl
  | ask var prompt => exact matches_ask s var prompt
  | execute body =>
    rw [he] at howns
    exact hbodies body howns s

theorem Matches.andThen {s : Scene} {r d : Report} {rest : List Action} (h : Matches s r d)
    (hrest : Matches r.scene (Action.runAll rest r.scene) (runAll rest r.scene.emptied)) :
    Matches s (r.andThen rest) (Immediate.andThen d rest) := by
  rw [Report.andThen, Immediate.andThen, h.outcome, h.scene]
  cases ho : r.outcome with
  | proceed =>
    refine ⟨hrest.outcome, hrest.scene, ?_, ?_, hrest.waiting⟩
    · show s.buffer.map Event.shown ++ (d.events ++ (runAll rest r.scene.emptied).events) =
        (r.events ++ (Action.runAll rest r.scene).events).map Event.merged ++ _
      rw [← List.append_assoc, h.events, List.append_assoc, hrest.events, List.map_append,
        List.append_assoc]
      rfl
    · intro event hevent
      have hlast : event ∈ (r.events ++ (Action.runAll rest r.scene).events).getLast? := hevent
      rw [List.getLast?_append] at hlast
      cases hlater : (Action.runAll rest r.scene).events.getLast? with
      | none =>
        rw [hlater, Option.none_or] at hlast
        exact h.closed event hlast
      | some last =>
        rw [hlater, Option.some_or] at hlast
        exact hrest.closed event (hlater ▸ hlast)
  | jump target => exact h
  | fail f => exact h

theorem matches_runAll (actions : List Action) (s : Scene) :
    Matches s (Action.runAll actions s) (runAll actions s.emptied) := by
  induction actions using Action.list_induct generalizing s with
  | nil =>
    rw [runAll]
    exact matches_of_quiet rfl rfl rfl rfl rfl rfl
  | cons a rest hbodies hrest =>
    rw [Action.runAll_cons_eq_andThen, runAll_cons]
    exact (matches_run (fun body hbody s => hbodies body hbody s) s).andThen (hrest _)

/-! ## Visits -/

theorem map_merged_of_quiet {events : List Event} (h : Event.Quiet events) :
    events.map Event.merged = events := by
  have hsame : ∀ event ∈ events, event.merged = id event := by
    intro event hmem
    have hquiet := h event hmem
    cases event with
    | flushed line => cases hquiet
    | _ => rfl
  rw [List.map_congr_left hsame, List.map_id]

/-- The second visit is that of the same state at once.  It emits the same, but for replies that
the first has lost because an action failed. -/
structure VisitMatches (v w : Visit) : Prop where
  ending : w.ending = v.ending
  scene : w.scene = v.scene.emptied
  events : ∃ lost : List Text, w.events = v.events.map Event.merged ++ lost.map Event.shown ∧
    (v.ending.isInternal = false → lost = []) ∧
    (v.ending.isInternal = true → ∀ event ∈ v.events.getLast?, event.isAsked = true)

/-- To find the next state is not an action. -/
theorem isInternal_of_endsAt {e : Engine} {origin place : Text} {ending : VisitEnd}
    (h : e.EndsAt origin ending place) : ending.isInternal = false := by
  cases ending with
  | failed f =>
    cases f with
    | missingState target => rfl
    | intent fault => rfl
    | _ => exact Bool.noConfusion h.2
  | _ => rfl

/-- The replies that are kept at the end of a state are emitted there. -/
theorem conclude_of_not_fail (e : Engine) {r : Report} (h : ∀ f, r.outcome ≠ .fail f) :
    e.conclude r =
      e.conclude ⟨r.outcome, r.scene.emptied, r.events ++ r.scene.buffer.map Event.shown⟩ := by
  unfold Engine.conclude
  cases ho : r.outcome with
  | fail f => exact absurd ho (h f)
  | jump target => simp [Scene.emptied]
  | proceed => simp [Scene.emptied]

theorem visitMatches_conclude (e : Engine) {s : Scene} (hs : s.buffer = []) {r d : Report}
    (h : Matches s r d)
    (hfailing : ∀ f, r.outcome = .fail f → f.isInternal = true ∨ ∃ q, f.question? = some q) :
    VisitMatches (e.conclude r) (e.conclude d) := by
  have hevents : d.events = r.events.map Event.merged ++ r.scene.buffer.map Event.shown := by
    have hall := h.events
    rw [hs] at hall
    exact hall
  by_cases hfail : ∃ f, r.outcome = .fail f
  · obtain ⟨f, hf⟩ := hfail
    rw [Engine.conclude_of_fail e hf, Engine.conclude_of_fail e (h.outcome.trans hf)]
    refine ⟨rfl, h.scene, r.scene.buffer, hevents, fun hnot => ?_, fun _ => h.closed⟩
    rcases hfailing f hf with hinternal | ⟨q, hq⟩
    · cases hinternal.symm.trans hnot
    · refine h.waiting q ?_
      rw [hf]
      exact hq
  · have hnot : ∀ f, r.outcome ≠ .fail f := fun f hf => hfail ⟨f, hf⟩
    -- both decisions are made about the same scene, in which nothing is kept
    obtain ⟨ending, place, world, more, hends, hmore, hall⟩ := Engine.concludes_of_not_fail e
      (r := ⟨r.outcome, r.scene.emptied, r.events ++ r.scene.buffer.map Event.shown⟩) hnot
    have hr := hall [] _ rfl (.refl _)
    have hd : e.conclude d = _ := hall [] d h.outcome (by rw [h.scene]; exact .refl _)
    rw [conclude_of_not_fail e hnot, hr, hd, h.scene]
    refine ⟨rfl, rfl, [], ?_, fun _ => rfl, fun hinternal => ?_⟩
    · show d.events ++ more =
        (r.events ++ r.scene.buffer.map Event.shown ++ more).map Event.merged ++ []
      have hshown : (r.scene.buffer.map Event.shown).map Event.merged =
          r.scene.buffer.map Event.shown := map_merged_of_quiet (Event.quiet_map (fun _ => rfl) _)
      rw [List.append_nil, List.map_append, List.map_append, map_merged_of_quiet hmore, hshown,
        hevents]
    · cases (isInternal_of_endsAt hends).symm.trans hinternal

theorem visitMatches_visit (e : Engine) (s : Scene) :
    VisitMatches (e.visit s) (visit e s.emptied) :=
  visitMatches_conclude e rfl (matches_runAll (e.flow.actionsAt s.place) (Engine.enter s))
    fun _ hf => (Action.runAll_consumesAnswers _ _).failing hf

/-! ## Runs -/

section runFor

variable (e : Engine) (n : Nat) {s : Scene}

theorem runFor_of_finished (h : (visit e s).ending = .finished) :
    runFor e (n + 1) s =
      ⟨none, (visit e s).scene, [(visit e s).events.map (Entry.mk s.place)]⟩ := by
  rw [runFor]
  simp only [h]

theorem runFor_of_failed {f : RunFault} (h : (visit e s).ending = .failed f) :
    runFor e (n + 1) s =
      ⟨some f, (visit e s).scene, [(visit e s).events.map (Entry.mk s.place)]⟩ := by
  rw [runFor]
  simp only [h]

theorem runFor_of_moved (h : (visit e s).ending = .moved) :
    runFor e (n + 1) s =
      { runFor e n (visit e s).scene with
        states := (visit e s).events.map (Entry.mk s.place) ::
          (runFor e n (visit e s).scene).states } := by
  rw [runFor]
  simp only [h]

end runFor

/-- The run emits and asks what the transcript of the run at once holds, in the same order and in
the same states. -/
structure RunMatches (r : Run) (d : Transcript) : Prop where
  fault : d.fault = r.fault
  scene : d.scene = r.scene.emptied
  /-- Unless an action fails that is not a question, the run emits all. -/
  complete : (∀ f, r.fault = some f → f.isInternal = false) →
    r.trace.map Entry.merged = d.states.flatten
  /-- If such an action fails, the replies of its state are missing that came after the last
  question of the state, or all of them if it had not asked. -/
  broken : ∀ f, r.fault = some f → f.isInternal = true →
    ∃ (before : List (List Entry)) (kept : List Entry) (lost : List Text),
      d.states = before ++ [kept ++ lost.map fun line => ⟨r.scene.place, .shown line⟩] ∧
      r.trace.map Entry.merged = before.flatten ++ kept ∧
      ∀ x ∈ kept.getLast?, x.event.isAsked = true

/-- The entries of a visit at once are those of the visit and those of the replies that it lost. -/
theorem map_merged_entries {events emitted : List Event} {lost : List Text}
    (h : emitted = events.map Event.merged ++ lost.map Event.shown) (place : Text) :
    emitted.map (Entry.mk place) = (events.map (Entry.mk place)).map Entry.merged ++
      lost.map fun line => ⟨place, .shown line⟩ := by
  rw [h, List.map_append, List.map_map, List.map_map, List.map_map]
  rfl

theorem isAsked_getLast? {events : List Event}
    (h : ∀ event ∈ events.getLast?, event.isAsked = true) (place : Text) :
    ∀ x ∈ ((events.map (Entry.mk place)).map Entry.merged).getLast?, x.event.isAsked = true := by
  intro x hx
  rw [List.map_map, List.getLast?_map] at hx
  obtain ⟨event, hevent, rfl⟩ := Option.map_eq_some_iff.1 hx
  have hasked := h event hevent
  cases event with
  | asked var prompt answer => rfl
  | _ => cases hasked

theorem runMatches_runFor (e : Engine) (n : Nat) (s : Scene) :
    RunMatches (e.runFor n s) (runFor e n s.emptied) := by
  induction n generalizing s with
  | zero => exact ⟨rfl, rfl, fun _ => rfl, fun f hf hinternal => by cases hf; cases hinternal⟩
  | succ n ih =>
    obtain ⟨hending, hscene, lost, hevents, hnone, hclosed⟩ := visitMatches_visit e s
    have hentries := map_merged_entries hevents s.place
    cases hv : (e.visit s).ending with
    | finished =>
      rw [hv] at hnone
      rw [hnone rfl, List.map_nil, List.append_nil] at hentries
      rw [Engine.runFor_of_finished e n hv, runFor_of_finished e n (hending.trans hv)]
      refine ⟨rfl, hscene, fun _ => ?_, nofun⟩
      rw [List.flatten_singleton]
      exact hentries.symm
    | failed f =>
      rw [hv] at hnone hclosed
      rw [Engine.runFor_of_failed e n hv, runFor_of_failed e n (hending.trans hv)]
      refine ⟨rfl, hscene, fun hnot => ?_, fun g hg hinternal => ?_⟩
      · rw [hnone (hnot f rfl), List.map_nil, List.append_nil] at hentries
        rw [List.flatten_singleton]
        exact hentries.symm
      · obtain rfl := Option.some.inj hg
        have hplace : (e.visit s).scene.place = s.place :=
          (Engine.place_visit e s).2 (by rw [hv]; exact nofun)
        refine ⟨[], _, lost, ?_, rfl, isAsked_getLast? (hclosed hinternal) s.place⟩
        rw [hplace]
        exact congrArg (fun entries => [entries]) hentries
    | moved =>
      rw [hv] at hnone
      rw [hnone rfl, List.map_nil, List.append_nil] at hentries
      rw [Engine.runFor_of_moved e n hv, runFor_of_moved e n (hending.trans hv), hscene]
      obtain ⟨hfault, hlast, hcomplete, hbroken⟩ := ih (e.visit s).scene
      refine ⟨hfault, hlast, fun hnot => ?_, fun g hg hinternal => ?_⟩
      · rw [List.map_append, hcomplete hnot, List.flatten_cons]
        exact congrArg (· ++ _) hentries.symm
      · obtain ⟨before, kept, lost, hstates, htrace, hkept⟩ := hbroken g hg hinternal
        refine ⟨_ :: before, kept, lost, congrArg (_ :: ·) hstates, ?_, hkept⟩
        rw [List.map_append, htrace, List.flatten_cons, List.append_assoc]
        exact congrArg (· ++ _) hentries.symm

end Immediate

/-- For every flow, from wherever a conversation stands, with whatever answers, files and replies of
the service: a run emits and asks the same, in the same order and in the same states, as if every
reply were emitted at once.  Only if an action fails that is not a question, the replies that came
after the last question of its state, or since the state was entered, are missing at the end. -/
theorem Engine.trace_resume (e : Engine) (standing : EngineState) (answers : List Value)
    (world : World) :
    Immediate.RunMatches (e.resume standing answers world)
      (Immediate.resume e standing answers world) :=
  Immediate.runMatches_runFor e visitLimit _

end Dialogue
