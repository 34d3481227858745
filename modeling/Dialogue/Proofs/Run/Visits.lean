import Dialogue.Proofs.Run.Answers
set_option autoImplicit false

/-!
# Visits and runs

What lists of actions do with the answers of the user, visits to states and whole runs do.  Where a
visit leads is decided by the place, the variables and the world, so it does not depend on answers
that have not been given.
-/

namespace Dialogue

/-- The question at which a visit stopped. -/
def VisitEnd.question? : VisitEnd → Option Question
  | failed f => f.question?
  | _ => none

namespace Run

/-- The question at which a run stopped. -/
def question? (r : Run) : Option Question := r.fault.bind RunFault.question?

/-- The questions that a run answered, with their answers. -/
def answered (r : Run) : List (Question × Value) := Event.answered (r.trace.map Entry.event)

end Run

namespace Event

/-- The event is neither a question nor a reply that was emitted because of one. -/
def isQuiet : Event → Bool
  | flushed _ => false
  | asked _ _ _ => false
  | _ => true

/-- Nothing is asked. -/
def Quiet (events : List Event) : Prop := ∀ event ∈ events, event.isQuiet = true

theorem quiet_append {xs ys : List Event} : Quiet (xs ++ ys) ↔ Quiet xs ∧ Quiet ys :=
  List.forall_mem_append

theorem quiet_map {α : Type} {f : α → Event} (h : ∀ x, (f x).isQuiet = true) (xs : List α) :
    Quiet (xs.map f) := by
  intro event hmem
  obtain ⟨x, -, rfl⟩ := List.mem_map.1 hmem
  exact h x

theorem Quiet.answered_eq_nil {events : List Event} (h : Quiet events) : answered events = [] := by
  rw [answered, List.filterMap_eq_nil_iff]
  intro event hmem
  have hquiet := h event hmem
  cases event with
  | asked var prompt answer => cases hquiet
  | _ => rfl

theorem Quiet.settled {events : List Event} (h : Quiet events) : Settled events := by
  intro event hmem
  have hquiet := h event hmem
  cases event with
  | asked var prompt answer => cases hquiet
  | _ => rfl

end Event

/-- The next state was not found. -/
def RunFault.isOfRouting : RunFault → Bool
  | missingState _ => true
  | intent _ => true
  | _ => false

namespace Engine

/-! ## Routing of a visit -/

/-- How a visit can end after the actions of its state, and where: it moves to a state of the flow,
or it stays where it was. -/
def EndsAt (e : Engine) (origin : Text) (ending : VisitEnd) (place : Text) : Prop :=
  match ending with
  | .moved => e.flow.has place = true
  | .finished => place = origin
  | .failed f => place = origin ∧ f.isOfRouting = true

theorem EndsAt.question?_eq_none {e : Engine} {origin place : Text} {ending : VisitEnd}
    (h : e.EndsAt origin ending place) : ending.question? = none := by
  cases ending with
  | failed f =>
    cases f with
    | unanswered var prompt => exact Bool.noConfusion h.2
    | _ => rfl
  | _ => rfl

/-- The decision depends on the place, the variables and the world of the scene only.  It can change
the place and the world, and it asks nothing. -/
def Decides (e : Engine) (s : Scene) (decide : Scene → List Event → Visit) : Prop :=
  ∃ (ending : VisitEnd) (place : Text) (world : World) (more : List Event),
    e.EndsAt s.place ending place ∧ Event.Quiet more ∧
      ∀ t : Scene, t.place = s.place → t.ctx = s.ctx → t.world = s.world → ∀ events,
        decide t events = ⟨ending, { t with place := place, world := world }, events ++ more⟩

theorem decides_finished (e : Engine) (s : Scene) :
    e.Decides s fun t events => ⟨.finished, t, events⟩ := by
  refine ⟨.finished, s.place, s.world, [], rfl, List.forall_mem_nil _,
    fun t hplace _ hworld events => ?_⟩
  rw [← hplace, ← hworld, List.append_nil]

theorem decides_move (e : Engine) (target : Text) (s : Scene) : e.Decides s (e.move target) := by
  cases h : e.flow.has target with
  | true =>
    refine ⟨.moved, target, s.world, [], h, List.forall_mem_nil _, fun t _ _ hworld events => ?_⟩
    rw [move, if_pos h, ← hworld, List.append_nil]
  | false =>
    refine ⟨.failed (.missingState target), s.place, s.world, [], ⟨rfl, rfl⟩,
      List.forall_mem_nil _, fun t hplace _ hworld events => ?_⟩
    rw [move, h, if_neg Bool.false_ne_true, ← hplace, ← hworld, List.append_nil]

theorem decides_fallBack (e : Engine) (s : Scene) : e.Decides s e.fallBack := by
  cases h : e.flow.fallback? with
  | none =>
    have heq : e.fallBack = fun t events => ⟨.finished, t, events⟩ := by
      funext t events
      rw [fallBack, h]
    rw [heq]
    exact decides_finished e s
  | some target =>
    have heq : e.fallBack = e.move target := by
      funext t events
      rw [fallBack, h]
    rw [heq]
    exact decides_move e target s

/-- A decision that is made in another world, after events that ask nothing. -/
theorem Decides.after {e : Engine} {s : Scene} {world : World} {events : List Event}
    {decide decide' : Scene → List Event → Visit} (h : e.Decides { s with world := world } decide)
    (hevents : Event.Quiet events)
    (heq : ∀ t : Scene, t.place = s.place → t.ctx = s.ctx → t.world = s.world → ∀ before,
      decide' t before = decide { t with world := world } (before ++ events)) :
    e.Decides s decide' := by
  obtain ⟨ending, place, world', more, hends, hmore, h⟩ := h
  refine ⟨ending, place, world', events ++ more, hends, Event.quiet_append.2 ⟨hevents, hmore⟩,
    fun t hplace hctx hworld before => ?_⟩
  rw [heq t hplace hctx hworld before, h { t with world := world } hplace hctx rfl,
    List.append_assoc]

theorem decides_routeBy (e : Engine) (inquiry : Inquiry) (s : Scene) :
    e.Decides s (e.routeBy inquiry) := by
  have hquiet : Event.Quiet (inquiry.requests.map Event.requested ++
      inquiry.notices.map Event.notice) :=
    Event.quiet_append.2 ⟨Event.quiet_map (fun _ => rfl) _, Event.quiet_map (fun _ => rfl) _⟩
  have hback := decides_fallBack e { s with world := { s.world with service := inquiry.service } }
  cases hresult : inquiry.result with
  | error f =>
    refine ⟨.failed (.intent f), s.place, { s.world with service := inquiry.service }, _,
      ⟨rfl, rfl⟩, hquiet, fun t hplace _ hworld events => ?_⟩
    rw [routeBy, hresult, ← hplace, ← hworld, List.append_assoc]
  | ok suggestion =>
    cases suggestion with
    | none =>
      refine hback.after hquiet fun t _ _ hworld before => ?_
      rw [routeBy, hresult, ← hworld, List.append_assoc]
    | some target =>
      cases husable : e.isUsable s.place target with
      | false =>
        refine hback.after hquiet fun t hplace _ hworld before => ?_
        rw [routeBy, hresult]
        simp only [hplace, husable, ← hworld, List.append_assoc, Bool.false_eq_true, if_false]
      | true =>
        have hmove := decides_move e target
          { s with world := { s.world with service := inquiry.service } }
        have hshown : Event.Quiet (inquiry.requests.map Event.requested ++
            inquiry.notices.map Event.notice ++ [.shown (suggestionLine target)]) :=
          Event.quiet_append.2 ⟨hquiet, List.forall_mem_singleton.2 rfl⟩
        refine hmove.after hshown fun t hplace _ hworld before => ?_
        rw [routeBy, hresult]
        simp only [hplace, husable, ← hworld, List.append_assoc, if_true]

theorem decides_follow (e : Engine) (c : Classifier) (var : Text) (s : Scene) :
    e.Decides s (e.follow c var) := by
  obtain ⟨ending, place, world, more, hends, hmore, h⟩ := decides_routeBy e
    (c.classify s.world.service (s.value var) e.flow.names [s.place]) s
  refine ⟨ending, place, world, more, hends, hmore, fun t hplace hctx hworld events => ?_⟩
  have hvalue : t.value var = s.value var := by rw [Scene.value, hctx, Scene.value]
  rw [follow, hvalue, hplace, hworld]
  exact h t hplace hctx hworld events

theorem decides_route (e : Engine) (var : Text) (s : Scene) : e.Decides s (e.route var) := by
  cases h : e.classifier with
  | none =>
    have heq : e.route var = e.fallBack := by
      funext t events
      rw [route, h]
    rw [heq]
    exact decides_fallBack e s
  | some c =>
    cases hvar : var.isEmpty with
    | true =>
      have heq : e.route var = e.fallBack := by
        funext t events
        rw [route, h]
        simp only [hvar, if_true]
      rw [heq]
      exact decides_fallBack e s
    | false =>
      have heq : e.route var = e.follow c var := by
        funext t events
        rw [route, h]
        simp only [hvar, Bool.false_eq_true, if_false]
      rw [heq]
      exact decides_follow e c var s

/-! ## Visits -/

/-- The end of a visit whose actions are done. -/
def conclude (e : Engine) (r : Report) : Visit :=
  let put := r.events ++ r.scene.buffer.map Event.shown
  let s := { r.scene with buffer := [] }
  match r.outcome with
  | .fail f => ⟨.failed f, r.scene, r.events⟩
  | .jump target => e.move target s put
  | .proceed =>
    match s.asked with
    | none => ⟨.finished, s, put⟩
    | some var => e.route var s put

theorem visit_eq_conclude (e : Engine) (s : Scene) :
    e.visit s = e.conclude (Action.runAll (e.flow.actionsAt s.place) (enter s)) := rfl

theorem conclude_of_fail (e : Engine) {r : Report} {f : RunFault} (h : r.outcome = .fail f) :
    e.conclude r = ⟨.failed f, r.scene, r.events⟩ := by
  rw [conclude, h]

/-- The end of a visit is the same for every report that agrees with the one at hand but for further
answers, and nothing is asked in it. -/
def Concludes (e : Engine) (r : Report) : Prop :=
  ∃ (ending : VisitEnd) (place : Text) (world : World) (more : List Event),
    e.EndsAt r.scene.place ending place ∧ Event.Quiet more ∧
      ∀ (further : List Value) (r' : Report), r'.outcome = r.outcome →
        r.scene.AgreesWithin further r'.scene → e.conclude r' =
          ⟨ending, { r'.scene with buffer := [], place := place, world := world },
            r'.events ++ more⟩

theorem Decides.concludes {e : Engine} {r : Report} {decide : Scene → List Event → Visit}
    (h : e.Decides { r.scene with buffer := [] } decide)
    (heq : ∀ (further : List Value) (r' : Report), r'.outcome = r.outcome →
      r.scene.AgreesWithin further r'.scene → e.conclude r' =
        decide { r'.scene with buffer := [] } (r'.events ++ r'.scene.buffer.map Event.shown)) :
    e.Concludes r := by
  obtain ⟨ending, place, world, more, hends, hmore, hall⟩ := h
  refine ⟨ending, place, world, r.scene.buffer.map Event.shown ++ more, hends,
    Event.quiet_append.2 ⟨Event.quiet_map (fun _ => rfl) _, hmore⟩, fun further r' ho hs => ?_⟩
  rw [heq further r' ho hs, hall { r'.scene with buffer := [] } hs.place hs.ctx hs.world,
    hs.buffer, List.append_assoc]

theorem concludes_of_not_fail (e : Engine) {r : Report} (h : ∀ f, r.outcome ≠ .fail f) :
    e.Concludes r := by
  cases hout : r.outcome with
  | fail f => exact absurd hout (h f)
  | jump target =>
    refine (decides_move e target _).concludes fun further r' ho _ => ?_
    rw [conclude, ho, hout]
  | proceed =>
    cases hasked : r.scene.asked with
    | none =>
      refine (decides_finished e _).concludes fun further r' ho hs => ?_
      rw [conclude, ho, hout]
      simp only [hs.asked, hasked]
    | some var =>
      refine (decides_route e var _).concludes fun further r' ho hs => ?_
      rw [conclude, ho, hout]
      simp only [hs.asked, hasked]

end Engine

theorem Scene.AgreesWithin.refl (s : Scene) : s.AgreesWithin [] s :=
  ⟨⟨rfl, rfl, rfl, (List.append_nil _).symm⟩, rfl, rfl⟩

theorem Scene.Agrees.trans {further more : List Value} {s t u : Scene} (h : s.Agrees further t)
    (h' : t.Agrees more u) : s.Agrees (further ++ more) u where
  place := h'.place.trans h.place
  ctx := h'.ctx.trans h.ctx
  world := h'.world.trans h.world
  answers := by rw [h'.answers, h.answers, List.append_assoc]

/-- Scenes with the same further answers are alike. -/
theorem Scene.Agrees.of_both {further : List Value} {s t u : Scene} (h : s.Agrees further t)
    (h' : s.Agrees further u) : t.Agrees [] u where
  place := h'.place.trans h.place.symm
  ctx := h'.ctx.trans h.ctx.symm
  world := h'.world.trans h.world.symm
  answers := by rw [h'.answers, h.answers, List.append_nil]

/-- On entering a state the replies and the last question are forgotten. -/
theorem Scene.Agrees.enter {further : List Value} {s t : Scene} (h : s.Agrees further t) :
    (Engine.enter s).AgreesWithin further (Engine.enter t) :=
  ⟨⟨h.place, h.ctx, h.world, h.answers⟩, rfl, rfl⟩

/-- Two visits did the same, or the second has overtaken the first. -/
def Visit.Follows (further : List Value) (v v' : Visit) : Prop :=
  (v'.ending = v.ending ∧ v'.events = v.events ∧ v.scene.Agrees further v'.scene) ∨
    ContinuesPast further v.ending.question? v.events v'.events v'.scene.answers

namespace Engine

/-- A failure of the actions ends the visit as it is.  Otherwise the visit moves to a state of the
flow or stays, and asks nothing more. -/
theorem conclude_cases (e : Engine) (r : Report) :
    (∃ f, r.outcome = .fail f ∧ e.conclude r = ⟨.failed f, r.scene, r.events⟩) ∨
      (∀ f, r.outcome ≠ .fail f) ∧ ∃ (ending : VisitEnd) (place : Text) (world : World)
        (more : List Event), e.EndsAt r.scene.place ending place ∧ Event.Quiet more ∧
          e.conclude r = ⟨ending, { r.scene with buffer := [], place := place, world := world },
            r.events ++ more⟩ := by
  by_cases h : ∃ f, r.outcome = .fail f
  · obtain ⟨f, hf⟩ := h
    exact .inl ⟨f, hf, conclude_of_fail e hf⟩
  · have hnot : ∀ f, r.outcome ≠ .fail f := fun f hf => h ⟨f, hf⟩
    obtain ⟨ending, place, world, more, hends, hmore, hall⟩ := concludes_of_not_fail e hnot
    exact .inr ⟨hnot, ending, place, world, more, hends, hmore, hall [] r rfl (.refl _)⟩

/-- What comes after the actions gives no answers and enters no state. -/
theorem conclude_keeps (e : Engine) (r : Report) :
    Event.answered (e.conclude r).events = Event.answered r.events ∧
      (e.conclude r).scene.answers = r.scene.answers ∧
      (e.conclude r).scene.visits = r.scene.visits ∧
      (e.conclude r).ending.question? = r.outcome.question? := by
  rcases conclude_cases e r with
    ⟨f, hf, heq⟩ | ⟨hnot, ending, place, world, more, hends, hmore, heq⟩
  · rw [heq, hf]
    exact ⟨rfl, rfl, rfl, rfl⟩
  · rw [heq, Event.answered_append, hmore.answered_eq_nil, List.append_nil]
    refine ⟨rfl, rfl, rfl, ?_⟩
    cases hout : r.outcome with
    | fail f => exact absurd hout (hnot f)
    | _ => exact hends.question?_eq_none

theorem conclude_follows (e : Engine) {further : List Value} {r r' : Report}
    (h : r.Follows further r') : (e.conclude r).Follows further (e.conclude r') := by
  rcases h with ⟨ho, hevents, hs⟩ | h
  · left
    by_cases hfail : ∃ f, r.outcome = .fail f
    · obtain ⟨f, hf⟩ := hfail
      rw [conclude_of_fail e hf, conclude_of_fail e (ho.trans hf)]
      exact ⟨rfl, hevents, hs.toAgrees⟩
    · obtain ⟨ending, place, world, more, -, -, hall⟩ :=
        concludes_of_not_fail e (r := r) fun f hf => hfail ⟨f, hf⟩
      rw [hall [] r rfl (.refl _), hall further r' ho hs, hevents]
      exact ⟨rfl, rfl, rfl, hs.ctx, rfl, hs.answers⟩
  · right
    have hstopped : (e.conclude r).events = r.events := by
      obtain ⟨q, -, -, -, -, -, hq, -⟩ := h
      cases hout : r.outcome with
      | fail f => rw [conclude_of_fail e hout]
      | _ => rw [hout] at hq; cases hq
    rw [hstopped, (conclude_keeps e r).2.2.2]
    rcases conclude_cases e r' with
      ⟨f, -, heq⟩ | ⟨-, ending, place, world, more, -, hmore, heq⟩
    · rw [heq]
      exact h
    · rw [heq]
      refine h.append ?_
      rw [hmore.answered_eq_nil]
      rfl

theorem visit_follows (e : Engine) {further : List Value} {s t : Scene} (h : s.Agrees further t) :
    (e.visit s).Follows further (e.visit t) := by
  rw [visit_eq_conclude, visit_eq_conclude, h.place]
  exact conclude_follows e (Action.runAll_follows _ h.enter)

/-- A visit gives and leaves the answers that there were. -/
theorem visit_given (e : Engine) (s : Scene) :
    (Event.answered (e.visit s).events).map Prod.snd ++ (e.visit s).scene.answers = s.answers := by
  obtain ⟨hgiven, hanswers, -⟩ :=
    conclude_keeps e (Action.runAll (e.flow.actionsAt s.place) (enter s))
  rw [visit_eq_conclude, hgiven, hanswers]
  exact (Action.runAll_consumesAnswers _ (enter s)).given

/-- A visit that waits at a question has no answers left, has not moved, and the question is one of
its state. -/
theorem visit_waiting (e : Engine) {s : Scene} {q : Question}
    (h : (e.visit s).ending.question? = some q) :
    (e.visit s).scene.answers = [] ∧ (e.visit s).scene.place = s.place ∧
      q ∈ Action.questionsOfAll (e.flow.actionsAt s.place) := by
  have hconsumes := Action.runAll_consumesAnswers (e.flow.actionsAt s.place) (enter s)
  rw [visit_eq_conclude] at h ⊢
  generalize Action.runAll (e.flow.actionsAt s.place) (enter s) = r at h hconsumes ⊢
  rw [(conclude_keeps e r).2.2.2] at h
  cases hout : r.outcome with
  | fail f =>
    obtain ⟨hanswers, hq⟩ := hconsumes.waiting h
    rw [conclude_of_fail e hout]
    exact ⟨hanswers, hconsumes.place, hq⟩
  | _ => rw [hout] at h; cases h

/-- A visit that moves does so to a state of the flow.  Any other visit stays. -/
theorem place_visit (e : Engine) (s : Scene) :
    ((e.visit s).ending = .moved → e.flow.has (e.visit s).scene.place = true) ∧
      ((e.visit s).ending ≠ .moved → (e.visit s).scene.place = s.place) := by
  have hplace := (Action.runAll_consumesAnswers (e.flow.actionsAt s.place) (enter s)).place
  rw [visit_eq_conclude]
  rcases conclude_cases e (Action.runAll (e.flow.actionsAt s.place) (enter s)) with
    ⟨f, -, heq⟩ | ⟨-, ending, place, world, more, hends, -, heq⟩
  · rw [heq]
    exact ⟨nofun, fun _ => hplace⟩
  · rw [heq]
    cases ending with
    | moved => exact ⟨fun _ => hends, fun h => absurd rfl h⟩
    | finished => exact ⟨nofun, fun _ => hends.trans hplace⟩
    | failed f => exact ⟨nofun, fun _ => hends.1.trans hplace⟩

/-- The question at which a visit waits is the last thing that it does, and every question before it
has its answer. -/
theorem visit_closing (e : Engine) (s : Scene) :
    ∃ before, Event.Settled before ∧
      (e.visit s).events =
        before ++ (e.visit s).ending.question?.toList.map Question.unanswered := by
  obtain ⟨before, hbefore, hevents⟩ :=
    (Action.runAll_consumesAnswers (e.flow.actionsAt s.place) (enter s)).closing
  rw [visit_eq_conclude]
  generalize Action.runAll (e.flow.actionsAt s.place) (enter s) = r at hevents ⊢
  rw [(conclude_keeps e r).2.2.2]
  rcases conclude_cases e r with
    ⟨f, -, heq⟩ | ⟨hnot, ending, place, world, more, -, hmore, heq⟩
  · exact ⟨before, hbefore, by rw [heq]; exact hevents⟩
  · -- the actions have not stopped at a question
    have hquestion : r.outcome.question? = none := by
      cases hout : r.outcome with
      | fail f => exact absurd hout (hnot f)
      | _ => rfl
    rw [hquestion] at hevents ⊢
    refine ⟨r.events ++ more, Event.settled_append.2 ⟨?_, hmore.settled⟩, ?_⟩
    · rw [hevents]
      exact Event.settled_append.2 ⟨hbefore, List.forall_mem_nil _⟩
    · rw [heq]
      exact (List.append_nil _).symm

/-! ## Runs -/

section runFor

variable (e : Engine) (n : Nat) {s : Scene}

theorem runFor_of_finished (h : (e.visit s).ending = .finished) :
    e.runFor (n + 1) s =
      ⟨none, (e.visit s).scene, (e.visit s).events.map (Entry.mk s.place)⟩ := by
  rw [runFor]
  simp only [h]

theorem runFor_of_failed {f : RunFault} (h : (e.visit s).ending = .failed f) :
    e.runFor (n + 1) s =
      ⟨some f, (e.visit s).scene, (e.visit s).events.map (Entry.mk s.place)⟩ := by
  rw [runFor]
  simp only [h]

theorem runFor_of_moved (h : (e.visit s).ending = .moved) :
    e.runFor (n + 1) s =
      { e.runFor n (e.visit s).scene with
        trace := (e.visit s).events.map (Entry.mk s.place) ++
          (e.runFor n (e.visit s).scene).trace } := by
  rw [runFor]
  simp only [h]

end runFor

end Engine

/-- What a run did, without the places. -/
def Run.events (r : Run) : List Event := r.trace.map Entry.event

theorem Run.events_mk (fault : Option RunFault) (scene : Scene) (events : List Event)
    (place : Text) : (Run.mk fault scene (events.map (Entry.mk place))).events = events := by
  rw [Run.events, List.map_map]
  exact List.map_id events

theorem Run.events_after (r : Run) (events : List Event) (place : Text) :
    ({ r with trace := events.map (Entry.mk place) ++ r.trace } : Run).events =
      events ++ r.events := by
  rw [Run.events, List.map_append, List.map_map]
  exact congrArg (· ++ r.events) (List.map_id events)

theorem Run.answered_mk (fault : Option RunFault) (scene : Scene) (events : List Event)
    (place : Text) :
    (Run.mk fault scene (events.map (Entry.mk place))).answered = Event.answered events :=
  congrArg Event.answered (Run.events_mk fault scene events place)

theorem Run.answered_after (r : Run) (events : List Event) (place : Text) :
    ({ r with trace := events.map (Entry.mk place) ++ r.trace } : Run).answered =
      Event.answered events ++ r.answered :=
  (congrArg Event.answered (Run.events_after r events place)).trans (Event.answered_append _ _)

/-- Two runs did the same, or the second has overtaken the first. -/
def Run.Follows (further : List Value) (r r' : Run) : Prop :=
  (r'.fault = r.fault ∧ r'.trace = r.trace ∧ r.scene.Agrees further r'.scene) ∨
    ContinuesPast further r.question? r.events r'.events r'.scene.answers

namespace Engine

/-- A run gives and leaves the answers that there were. -/
theorem runFor_given (e : Engine) (n : Nat) (s : Scene) :
    (e.runFor n s).answered.map Prod.snd ++ (e.runFor n s).scene.answers = s.answers := by
  induction n generalizing s with
  | zero => rfl
  | succ n ih =>
    have hvisit := visit_given e s
    cases hending : (e.visit s).ending with
    | finished => rw [runFor_of_finished e n hending, Run.answered_mk, hvisit]
    | failed f => rw [runFor_of_failed e n hending, Run.answered_mk, hvisit]
    | moved =>
      rw [runFor_of_moved e n hending, Run.answered_after, List.map_append, List.append_assoc, ih]
      exact hvisit

/-- A run that waits at a question has no answers left, and the question is one of the state at
which it waits. -/
theorem runFor_waiting (e : Engine) {n : Nat} {s : Scene} {q : Question}
    (h : (e.runFor n s).question? = some q) :
    (e.runFor n s).scene.answers = [] ∧
      q ∈ Action.questionsOfAll (e.flow.actionsAt (e.runFor n s).scene.place) := by
  induction n generalizing s with
  | zero => cases h
  | succ n ih =>
    cases hending : (e.visit s).ending with
    | finished => rw [runFor_of_finished e n hending] at h; cases h
    | failed f =>
      rw [runFor_of_failed e n hending] at h ⊢
      obtain ⟨hanswers, hplace, hq⟩ := visit_waiting e (s := s) (q := q) (by rw [hending]; exact h)
      rw [hplace]
      exact ⟨hanswers, hq⟩
    | moved =>
      rw [runFor_of_moved e n hending] at h ⊢
      exact ih h

/-- The question at which a run waits is the last thing that it does, and every question before it
has its answer. -/
theorem runFor_closing (e : Engine) (n : Nat) (s : Scene) :
    ∃ before, Event.Settled before ∧
      (e.runFor n s).events =
        before ++ (e.runFor n s).question?.toList.map Question.unanswered := by
  induction n generalizing s with
  | zero => exact ⟨[], List.forall_mem_nil _, rfl⟩
  | succ n ih =>
    obtain ⟨before, hbefore, hevents⟩ := visit_closing e s
    cases hending : (e.visit s).ending with
    | finished =>
      rw [hending] at hevents
      rw [runFor_of_finished e n hending, Run.events_mk]
      exact ⟨before, hbefore, hevents⟩
    | failed f =>
      rw [hending] at hevents
      rw [runFor_of_failed e n hending, Run.events_mk]
      exact ⟨before, hbefore, hevents⟩
    | moved =>
      rw [hending] at hevents
      obtain ⟨later, hlater, hevents'⟩ := ih (e.visit s).scene
      rw [runFor_of_moved e n hending, Run.events_after, hevents']
      refine ⟨(e.visit s).events ++ later, Event.settled_append.2 ⟨?_, hlater⟩, ?_⟩
      · rw [hevents]
        exact Event.settled_append.2 ⟨hbefore, List.forall_mem_nil _⟩
      · rw [List.append_assoc]
        rfl

/-- Of two runs that differ in further answers only, both do the same, or the first waits at a
question to which the second gives the first of the further answers. -/
theorem runFor_follows (e : Engine) {further : List Value} (n : Nat) {s t : Scene}
    (h : s.Agrees further t) : (e.runFor n s).Follows further (e.runFor n t) := by
  induction n generalizing s t with
  | zero => exact .inl ⟨rfl, rfl, h⟩
  | succ n ih =>
    rcases visit_follows e h with ⟨hending, hevents, hscene⟩ | hover
    · cases hv : (e.visit s).ending with
      | finished =>
        rw [runFor_of_finished e n hv, runFor_of_finished e n (hending.trans hv), hevents, h.place]
        exact .inl ⟨rfl, rfl, hscene⟩
      | failed f =>
        rw [runFor_of_failed e n hv, runFor_of_failed e n (hending.trans hv), hevents, h.place]
        exact .inl ⟨rfl, rfl, hscene⟩
      | moved =>
        rw [runFor_of_moved e n hv, runFor_of_moved e n (hending.trans hv), hevents, h.place]
        rcases ih hscene with ⟨hfault, htrace, hs⟩ | hover
        · exact .inl ⟨hfault, congrArg (_ ++ ·) htrace, hs⟩
        · refine .inr ?_
          rw [Run.events_after, Run.events_after]
          exact hover.prepend _
    · obtain ⟨q, -, -, -, -, -, hq, -⟩ := id hover
      cases hv : (e.visit s).ending with
      | finished => rw [hv] at hq; cases hq
      | moved => rw [hv] at hq; cases hq
      | failed f =>
        rw [hv] at hover
        right
        rw [runFor_of_failed e n hv, Run.events_mk]
        -- the first run is over, and the second goes on with the answers that are left
        cases hv' : (e.visit t).ending with
        | finished => rw [runFor_of_finished e n hv', Run.events_mk]; exact hover
        | failed f' => rw [runFor_of_failed e n hv', Run.events_mk]; exact hover
        | moved =>
          rw [runFor_of_moved e n hv', Run.events_after]
          exact hover.append (runFor_given e n _)

/-- A run that ended does not change if it may enter more states. -/
theorem runFor_eq_of_le (e : Engine) {m n : Nat} (h : m ≤ n) {s : Scene}
    (hend : (e.runFor m s).fault ≠ some .endless) : e.runFor n s = e.runFor m s := by
  induction m generalizing n s with
  | zero => exact absurd rfl hend
  | succ m ih =>
    obtain ⟨n, rfl⟩ : ∃ k, n = k + 1 := ⟨n - 1, by omega⟩
    cases hending : (e.visit s).ending with
    | finished => rw [runFor_of_finished e n hending, runFor_of_finished e m hending]
    | failed f => rw [runFor_of_failed e n hending, runFor_of_failed e m hending]
    | moved =>
      rw [runFor_of_moved e m hending] at hend
      rw [runFor_of_moved e n hending, runFor_of_moved e m hending, ih (by omega) hend]

/-- A run that waits at a question goes past it with an answer, and gives no other answer. -/
theorem exists_continuesPast (e : Engine) {s t : Scene} {q : Question} {v : Value}
    (hq : (e.run s).question? = some q) (h : s.Agrees [v] t) :
    ∃ common more, (e.run s).events = common ++ [q.unanswered] ∧
      (e.run t).events = common ++ q.answeredBy v :: more ∧ Event.answered more = [] := by
  rcases runFor_follows e visitLimit h with
    ⟨hfault, -, hscene⟩ | ⟨q', v', rest, common, more, hfurther, hq', hbefore, hafter, hgiven⟩
  · -- the second run would wait too, although it has an answer left
    have hwaiting : (e.runFor visitLimit t).question? = some q :=
      (congrArg (Option.bind · RunFault.question?) hfault).trans hq
    have hleft := hscene.answers
    rw [(runFor_waiting e hwaiting).1] at hleft
    exact absurd hleft.symm (by simp)
  · obtain ⟨rfl, rfl⟩ := List.cons.inj hfurther
    obtain rfl : q = q' := Option.some.inj (hq.symm.trans hq')
    exact ⟨common, more, hbefore, hafter,
      List.map_eq_nil_iff.1 (List.append_eq_nil_iff.1 hgiven).1⟩

/-! ## Resumed runs -/

section resume

variable (e : Engine) (standing : EngineState) (world : World)

theorem resume_given (answers : List Value) :
    (e.resume standing answers world).answered.map Prod.snd ++
      (e.resume standing answers world).scene.answers = answers :=
  runFor_given e visitLimit _

theorem resume_waiting {answers : List Value} {q : Question}
    (h : (e.resume standing answers world).question? = some q) :
    (e.resume standing answers world).scene.answers = [] ∧
      q ∈ Action.questionsOfAll
        (e.flow.actionsAt (e.resume standing answers world).scene.place) :=
  runFor_waiting e h

theorem resume_follows (answers further : List Value) :
    (e.resume standing answers world).Follows further
      (e.resume standing (answers ++ further) world) :=
  runFor_follows e visitLimit ⟨rfl, rfl, rfl, rfl⟩

theorem answered_resume_nil : (e.resume standing [] world).answered = [] :=
  List.map_eq_nil_iff.1 (List.append_eq_nil_iff.1 (resume_given e standing world [])).1

/-- A single answer is given to the question at which the run without answers stops, and to no
other. -/
theorem answered_resume_singleton (v : Value) :
    (e.resume standing [v] world).answered =
      (e.resume standing [] world).question?.toList.map fun q => (q, v) := by
  have hnil := answered_resume_nil e standing world
  cases hq : (e.resume standing [] world).question? with
  | none =>
    rcases resume_follows e standing world [] [v] with ⟨-, htrace, -⟩ | ⟨_, _, _, _, _, -, hq', -⟩
    · rw [List.nil_append] at htrace
      rw [Run.answered, htrace]
      exact hnil
    · cases hq.symm.trans hq'
  | some q =>
    obtain ⟨common, more, hbefore, hafter, hmore⟩ := exists_continuesPast e hq
      (t := { standing with buffer := [], answers := [v], world := world }) ⟨rfl, rfl, rfl, rfl⟩
    have hcommon : Event.answered common = [] := by
      have hevents : Event.answered (e.resume standing [] world).events = [] := hnil
      rw [resume, hbefore, Event.answered_append] at hevents
      exact (List.append_eq_nil_iff.1 hevents).1
    have hevents : (e.resume standing [v] world).events = common ++ q.answeredBy v :: more := hafter
    rw [Run.answered, ← Run.events, hevents, Event.answered_append, hcommon]
    exact congrArg ((q, v) :: ·) hmore

end resume

end Engine
end Dialogue
