import Dialogue.Proofs.Run.Effect
set_option autoImplicit false

/-!
# Consumption of answers

A run gives the answers of the user to its questions in order, and keeps those that are left.  Of
two runs that differ in further answers only, both do the same until the first waits at a question,
to which the second gives the first of the further answers (`Action.runAll_follows`).
-/

namespace Dialogue

namespace Event

/-- A question with its answer. -/
def answered? : Event → Option (Question × Value)
  | asked var prompt (some v) => some (⟨var, prompt⟩, v)
  | _ => none

/-- The questions that were answered, with their answers. -/
def answered (events : List Event) : List (Question × Value) := events.filterMap answered?

@[simp] theorem answered_append (xs ys : List Event) :
    answered (xs ++ ys) = answered xs ++ answered ys :=
  List.filterMap_append

/-- Lines and requests answer nothing. -/
theorem answered_map_eq_nil {α : Type} {f : α → Event} (h : ∀ x, (f x).answered? = none)
    (xs : List α) : answered (xs.map f) = [] := by
  rw [answered, List.filterMap_eq_nil_iff]
  intro event hmem
  obtain ⟨x, -, rfl⟩ := List.mem_map.1 hmem
  exact h x

/-- A question without an answer. -/
def isOpen : Event → Bool
  | asked _ _ none => true
  | _ => false

/-- Every question has its answer. -/
def Settled (events : List Event) : Prop := ∀ event ∈ events, event.isOpen = false

theorem settled_append {xs ys : List Event} : Settled (xs ++ ys) ↔ Settled xs ∧ Settled ys :=
  List.forall_mem_append

theorem settled_map {α : Type} {f : α → Event} (h : ∀ x, (f x).isOpen = false) (xs : List α) :
    Settled (xs.map f) := by
  intro event hmem
  obtain ⟨x, -, rfl⟩ := List.mem_map.1 hmem
  exact h x

end Event

/-- The question while it waits for its answer. -/
def Question.unanswered (q : Question) : Event := .asked q.var q.prompt none

/-- The question with its answer. -/
def Question.answeredBy (q : Question) (v : Value) : Event := .asked q.var q.prompt (some v)

/-! ## Answers that are given -/

/-- Actions stay in their state, the answers that they give and leave are those that there were, and
they wait at a question only if no answer is left.  That question is the last thing they do, and
every question before it has its answer.  They fail at a question or by themselves. -/
structure Report.ConsumesAnswers (asks : Question → Prop) (s : Scene) (r : Report) : Prop where
  place : r.scene.place = s.place
  visits : r.scene.visits = s.visits
  given : (Event.answered r.events).map Prod.snd ++ r.scene.answers = s.answers
  waiting : ∀ {q}, r.outcome.question? = some q → r.scene.answers = [] ∧ asks q
  closing : ∃ before, Event.Settled before ∧
    r.events = before ++ r.outcome.question?.toList.map Question.unanswered
  failing : ∀ {f}, r.outcome = .fail f → f.isInternal = true ∨ ∃ q, f.question? = some q

namespace Report

variable {asks : Question → Prop}

/-- Nothing is asked and nothing is answered. -/
theorem consumesAnswers_of_quiet {s : Scene} {r : Report} (hplace : r.scene.place = s.place)
    (hvisits : r.scene.visits = s.visits) (hanswers : r.scene.answers = s.answers)
    (hevents : r.events = []) (hown : r.outcome.isOwn = true) : r.ConsumesAnswers asks s where
  place := hplace
  visits := hvisits
  given := by rw [hevents, hanswers]; rfl
  waiting h := by rw [Outcome.question?_eq_none_of_isOwn hown] at h; cases h
  closing := by
    refine ⟨[], List.forall_mem_nil _, ?_⟩
    rw [hevents, Outcome.question?_eq_none_of_isOwn hown]
    rfl
  failing h := by
    rw [h] at hown
    exact .inl hown

theorem consumesAnswers_ask {s : Scene} {var prompt : Text} (h : asks ⟨var, prompt⟩) :
    (s.ask var prompt).ConsumesAnswers asks s := by
  have hflushed : Event.answered (s.buffer.map Event.flushed) = [] :=
    Event.answered_map_eq_nil (fun _ => rfl) _
  have hsettled : Event.Settled (s.buffer.map Event.flushed) := Event.settled_map (fun _ => rfl) _
  rw [Scene.ask]
  cases hanswers : s.answers with
  | nil =>
    refine ⟨rfl, rfl, ?_, fun hq => ⟨rfl, ?_⟩, ⟨_, hsettled, rfl⟩, fun hf => .inr ?_⟩
    · simp only [Event.answered_append, hflushed, hanswers]
      rfl
    · obtain rfl := Option.some.inj hq
      exact h
    · obtain rfl := Outcome.fail.inj hf
      exact ⟨_, rfl⟩
  | cons v rest =>
    refine ⟨rfl, rfl, ?_, (fun hq => by cases hq), ⟨_, ?_, (List.append_nil _).symm⟩,
      fun hf => by cases hf⟩
    · simp only [Event.answered_append, hflushed, hanswers]
      rfl
    · exact Event.settled_append.2 ⟨hsettled, by simp [Event.Settled, Event.isOpen]⟩

theorem ConsumesAnswers.andThen {s : Scene} {r : Report} {rest : List Action}
    (h : r.ConsumesAnswers asks s)
    (hrest : (Action.runAll rest r.scene).ConsumesAnswers asks r.scene) :
    (r.andThen rest).ConsumesAnswers asks s := by
  rw [Report.andThen]
  cases ho : r.outcome with
  | proceed =>
    refine ⟨hrest.place.trans h.place, hrest.visits.trans h.visits, ?_, hrest.waiting, ?_,
      hrest.failing⟩
    · show (Event.answered (r.events ++ (Action.runAll rest r.scene).events)).map Prod.snd ++ _ = _
      rw [Event.answered_append, List.map_append, List.append_assoc]
      exact (congrArg _ hrest.given).trans h.given
    · obtain ⟨before, hbefore, hevents⟩ := h.closing
      obtain ⟨after, hafter, hevents'⟩ := hrest.closing
      rw [ho] at hevents
      refine ⟨r.events ++ after, Event.settled_append.2 ⟨?_, hafter⟩, ?_⟩
      · rw [hevents]
        exact Event.settled_append.2 ⟨hbefore, List.forall_mem_nil _⟩
      · show r.events ++ (Action.runAll rest r.scene).events = _
        rw [hevents', List.append_assoc]
        rfl
  | jump target => exact h
  | fail f => exact h

theorem related_consumesAnswers (asks : Question → Prop) :
    Action.Related asks (fun s t => t = s) (fun s _ r _ => r.ConsumesAnswers asks s) where
  ctx h := by rw [h]
  disk h := by rw [h]
  stop _ ho := consumesAnswers_of_quiet rfl rfl rfl rfl ho
  reply _ _ := consumesAnswers_of_quiet rfl rfl rfl rfl rfl
  assign _ _ _ := consumesAnswers_of_quiet rfl rfl rfl rfl rfl
  write _ _ _ ho := consumesAnswers_of_quiet rfl rfl rfl rfl ho
  ask _ h := consumesAnswers_ask h
  andThen _ h hrest := h.andThen (hrest _ _ rfl)

end Report

theorem Action.runAll_consumesAnswers (actions : List Action) (s : Scene) :
    (runAll actions s).ConsumesAnswers (· ∈ questionsOfAll actions) s :=
  (Report.related_consumesAnswers _).runAll (fun _ h => h) rfl

/-! ## Further answers -/

/-- The second scene is where the first is, with further answers. -/
structure Scene.Agrees (further : List Value) (s t : Scene) : Prop where
  place : t.place = s.place
  ctx : t.ctx = s.ctx
  world : t.world = s.world
  answers : t.answers = s.answers ++ further

/-- Within a state also the replies that are kept and the last question are the same. -/
structure Scene.AgreesWithin (further : List Value) (s t : Scene) : Prop
    extends Scene.Agrees further s t where
  asked : t.asked = s.asked
  buffer : t.buffer = s.buffer

/-- The first of two runs waits at a question, to which the second has given the first of the
further answers.  Up to the question both did the same. -/
def ContinuesPast (further : List Value) (waiting : Option Question) (before after : List Event)
    (left : List Value) : Prop :=
  ∃ q v rest common more, further = v :: rest ∧ waiting = some q ∧
    before = common ++ [q.unanswered] ∧ after = common ++ q.answeredBy v :: more ∧
    (Event.answered more).map Prod.snd ++ left = rest

theorem ContinuesPast.append {further : List Value} {waiting : Option Question}
    {before after more : List Event} {left left' : List Value}
    (h : ContinuesPast further waiting before after left)
    (hmore : (Event.answered more).map Prod.snd ++ left' = left) :
    ContinuesPast further waiting before (after ++ more) left' := by
  obtain ⟨q, v, rest, common, given, hfurther, hwaiting, hbefore, rfl, rfl⟩ := h
  refine ⟨q, v, _, common, given ++ more, hfurther, hwaiting, hbefore, by simp, ?_⟩
  rw [Event.answered_append, List.map_append, List.append_assoc, hmore]

theorem ContinuesPast.prepend {further : List Value} {waiting : Option Question}
    {before after : List Event} {left : List Value}
    (h : ContinuesPast further waiting before after left) (events : List Event) :
    ContinuesPast further waiting (events ++ before) (events ++ after) left := by
  obtain ⟨q, v, rest, common, more, hfurther, hwaiting, rfl, rfl, hleft⟩ := h
  exact ⟨q, v, rest, events ++ common, more, hfurther, hwaiting, by simp, by simp, hleft⟩

/-- Two lists of actions did the same, or the second has overtaken the first. -/
def Report.Follows (further : List Value) (r r' : Report) : Prop :=
  (r'.outcome = r.outcome ∧ r'.events = r.events ∧ r.scene.AgreesWithin further r'.scene) ∨
    ContinuesPast further r.outcome.question? r.events r'.events r'.scene.answers

namespace Report

variable {further : List Value}

theorem follows_ask {s t : Scene} (h : s.AgreesWithin further t) (var prompt : Text) :
    Follows further (s.ask var prompt) (t.ask var prompt) := by
  have hanswers := h.answers
  rw [Scene.ask, Scene.ask, h.buffer, h.ctx]
  cases hs : s.answers with
  | cons v rest =>
    rw [hs, List.cons_append] at hanswers
    rw [hanswers]
    exact .inl ⟨rfl, rfl, ⟨h.place, rfl, h.world, rfl⟩, rfl, rfl⟩
  | nil =>
    rw [hs, List.nil_append] at hanswers
    rw [hanswers]
    cases further with
    | nil => exact .inl ⟨rfl, rfl, ⟨h.place, h.ctx, h.world, rfl⟩, h.asked, rfl⟩
    | cons v rest => exact .inr ⟨⟨var, prompt⟩, v, rest, _, [], rfl, rfl, rfl, rfl, rfl⟩

theorem Follows.after {r r' : Report} (h : Follows further r r') (events : List Event) :
    Follows further (r.after events) (r'.after events) := by
  rcases h with ⟨ho, he, hs⟩ | h
  · exact .inl ⟨ho, congrArg (events ++ ·) he, hs⟩
  · exact .inr (h.prepend events)

theorem Follows.andThen {r r' : Report} {rest : List Action} (h : Follows further r r')
    (hrest : ∀ s t, s.AgreesWithin further t →
      Follows further (Action.runAll rest s) (Action.runAll rest t)) :
    Follows further (r.andThen rest) (r'.andThen rest) := by
  rcases h with ⟨ho, he, hs⟩ | h
  · rw [Report.andThen, Report.andThen, ho, he]
    cases hout : r.outcome with
    | proceed => exact (hrest _ _ hs).after r.events
    | jump target => exact .inl ⟨ho, he, hs⟩
    | fail f => exact .inl ⟨ho, he, hs⟩
  · -- the first has stopped at its question, so only the second goes on
    have hstopped : r.andThen rest = r := by
      obtain ⟨q, -, -, -, -, -, hq, -⟩ := h
      rw [Report.andThen]
      cases hout : r.outcome with
      | proceed => rw [hout] at hq; cases hq
      | jump target => rfl
      | fail f => rfl
    rw [hstopped]
    right
    rw [Report.andThen]
    cases hout : r'.outcome with
    | proceed => exact h.append (Action.runAll_consumesAnswers rest r'.scene).given
    | jump target => exact h
    | fail f => exact h

theorem related_follows (further : List Value) :
    Action.Related (fun _ => True) (Scene.AgreesWithin further) (fun _ _ => Follows further) where
  ctx h := h.ctx
  disk h := by rw [h.world]
  stop h _ := .inl ⟨rfl, rfl, h⟩
  reply line h := .inl ⟨rfl, rfl, ⟨h.place, h.ctx, h.world, h.answers⟩, h.asked,
    congrArg (· ++ [line]) h.buffer⟩
  assign var v h := .inl ⟨rfl, rfl, ⟨h.place, congrArg (Assoc.put var v) h.ctx, h.world, h.answers⟩,
    h.asked, h.buffer⟩
  write d _ h _ := .inl ⟨rfl, rfl, ⟨h.place, h.ctx, by simp [Scene.withDisk, h.world], h.answers⟩,
    h.asked, h.buffer⟩
  ask h _ := follows_ask h _ _
  andThen _ h hrest := h.andThen hrest

end Report

theorem Action.runAll_follows {further : List Value} (actions : List Action) {s t : Scene}
    (h : s.AgreesWithin further t) : (runAll actions s).Follows further (runAll actions t) :=
  (Report.related_follows further).runAll (fun _ _ => trivial) h

end Dialogue
