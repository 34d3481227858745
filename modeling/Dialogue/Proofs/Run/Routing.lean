import Dialogue.Proofs.Classifier.Choice
import Dialogue.Proofs.Run.Preservation
import Dialogue.Proofs.Script.Contents
set_option autoImplicit false

/-!
# Routing

After the actions of a state a run goes where they jump, or else, if they asked, where the
classifier suggests or to the fallback state.  The decision is made by the flow, by what the actions
did and by the answer to at most one inquiry (`Engine.visit_eq_settle`), so the classifier is asked
only after a question without a jump.  Main statement: this law holds along every run of a script
that was read from a text (`Engine.run_routed`).
-/

namespace Dialogue

/-! ## The last question -/

namespace Action

/-- The question of a simple action. -/
def question? : Action → Option Question
  | ask var prompt => some ⟨var, prompt⟩
  | _ => none

mutual

/-- The questions of an action are those of its simple actions. -/
theorem questions_eq : ∀ a : Action, a.questions = a.leaves.filterMap question?
  | chain branches otherwise => by
    rw [questions, leaves, List.filterMap_append, questionsOfBranches_eq, questionsOfOtherwise_eq]
  | compare _ _ _ body otherwise => by
    rw [questions, leaves, List.filterMap_append, questionsOfAll_eq, questionsOfAll_eq]
  | ask var prompt => rfl
  | reply _ => rfl
  | goto _ => rfl
  | set _ _ => rfl
  | setExpr _ _ => rfl
  | ifGoto _ _ _ => rfl
  | save _ _ => rfl
  | load _ _ => rfl
  | unknown _ => rfl

theorem questionsOfAll_eq : ∀ actions : List Action,
    questionsOfAll actions = (leavesOfAll actions).filterMap question?
  | [] => rfl
  | a :: rest => by
    rw [questionsOfAll, leavesOfAll, List.filterMap_append, questions_eq, questionsOfAll_eq]

theorem questionsOfBranches_eq : ∀ branches : List (Text × List Action),
    questionsOfBranches branches = (leavesOfBranches branches).filterMap question?
  | [] => rfl
  | b :: rest => by
    rw [questionsOfBranches, leavesOfBranches, List.filterMap_append, questionsOfBranch_eq,
      questionsOfBranches_eq]

theorem questionsOfBranch_eq : ∀ b : Text × List Action,
    questionsOfBranch b = (leavesOfBranch b).filterMap question?
  | (_, actions) => questionsOfAll_eq actions

theorem questionsOfOtherwise_eq : ∀ otherwise : Option (List Action),
    questionsOfOtherwise otherwise = (leavesOfOtherwise otherwise).filterMap question?
  | none => rfl
  | some actions => questionsOfAll_eq actions

end

theorem ask_mem_leavesOfAll {actions : List Action} {q : Question}
    (h : q ∈ questionsOfAll actions) : .ask q.var q.prompt ∈ leavesOfAll actions := by
  rw [questionsOfAll_eq] at h
  obtain ⟨a, ha, hq⟩ := List.mem_filterMap.1 h
  cases a with
  | ask var prompt =>
    cases hq
    exact ha
  | _ => cases hq

end Action

namespace Report

/-- The variable that was asked for last is that of the last question with an answer, and only
questions of the actions were asked. -/
structure AsksLast (asks : Question → Prop) (s : Scene) (r : Report) : Prop where
  last : r.scene.asked = ((Event.answered r.events).getLast?.map fun p => p.1.var).or s.asked
  own : ∀ p ∈ Event.answered r.events, asks p.1

variable {asks : Question → Prop}

theorem asksLast_of_quiet {s : Scene} {r : Report} (hasked : r.scene.asked = s.asked)
    (hevents : r.events = []) : r.AsksLast asks s := by
  constructor
  · rw [hasked, hevents]
    rfl
  · rw [hevents]
    exact List.forall_mem_nil _

theorem asksLast_ask {s : Scene} {var prompt : Text} (h : asks ⟨var, prompt⟩) :
    (s.ask var prompt).AsksLast asks s := by
  have hflushed : Event.answered (s.buffer.map Event.flushed) = [] :=
    Event.answered_map_eq_nil (fun _ => rfl) _
  unfold Scene.ask
  cases s.answers with
  | nil =>
    have hnone : Event.answered (s.buffer.map Event.flushed ++ [.asked var prompt none]) = [] := by
      rw [Event.answered_append, hflushed]
      rfl
    refine ⟨?_, ?_⟩
    · dsimp only
      rw [hnone]
      rfl
    · dsimp only
      rw [hnone]
      exact List.forall_mem_nil _
  | cons v rest =>
    have hone : Event.answered (s.buffer.map Event.flushed ++ [.asked var prompt (some v)]) =
        [(⟨var, prompt⟩, v)] := by
      rw [Event.answered_append, hflushed]
      rfl
    refine ⟨?_, ?_⟩
    · dsimp only
      rw [hone]
      rfl
    · dsimp only
      rw [hone]
      exact List.forall_mem_singleton.2 h

theorem AsksLast.andThen {s : Scene} {r : Report} {rest : List Action} (h : r.AsksLast asks s)
    (hrest : (Action.runAll rest r.scene).AsksLast asks r.scene) :
    (r.andThen rest).AsksLast asks s := by
  unfold Report.andThen
  cases r.outcome with
  | proceed =>
    have hevents : Event.answered ((Action.runAll rest r.scene).after r.events).events =
        Event.answered r.events ++ Event.answered (Action.runAll rest r.scene).events :=
      Event.answered_append _ _
    constructor
    · rw [hevents, List.getLast?_append, Option.map_or, Option.or_assoc, ← h.last]
      exact hrest.last
    · rw [hevents]
      exact List.forall_mem_append.2 ⟨h.own, hrest.own⟩
  | jump target => exact h
  | fail f => exact h

theorem related_asksLast (asks : Question → Prop) :
    Action.Related asks (fun s t => t = s) (fun s _ r _ => r.AsksLast asks s) where
  ctx h := by rw [h]
  disk h := by rw [h]
  stop _ _ := asksLast_of_quiet rfl rfl
  reply _ _ := asksLast_of_quiet rfl rfl
  assign _ _ _ := asksLast_of_quiet rfl rfl
  write _ _ _ _ := asksLast_of_quiet rfl rfl
  ask _ h := asksLast_ask h
  andThen _ h hrest := h.andThen (hrest _ _ rfl)

end Report

theorem Action.runAll_asksLast (actions : List Action) (s : Scene) :
    (runAll actions s).AsksLast (· ∈ questionsOfAll actions) s :=
  (Report.related_asksLast _).runAll (fun _ h => h) rfl

/-! ## The last answer -/

/-- Some of the answers have been taken; and if the last of these is a text, so is the value of the
variable that was asked for last. -/
def Scene.AnswersConsumed (answers : List Value) (s : Scene) : Prop :=
  ∃ taken, answers = taken ++ s.answers ∧
    ∀ v, taken.getLast? = some v → v.IsText → ∀ var, s.asked = some var → (s.value var).IsText

namespace Scene.AnswersConsumed

variable {answers : List Value} {s : Scene}

theorem assign (h : s.AnswersConsumed answers) (var t : Text) :
    (s.assign var (.text t)).AnswersConsumed answers := by
  obtain ⟨taken, htaken, hlast⟩ := h
  refine ⟨taken, htaken, ?_⟩
  intro v hv htext asked hasked
  show ((Assoc.get? asked (Assoc.put var (.text t) s.ctx)).getD (.text [])).IsText
  by_cases hvar : asked = var
  · rw [hvar, Assoc.get?_put_self]
    exact ⟨t, rfl⟩
  · rw [Assoc.get?_put_of_ne hvar]
    exact hlast v hv htext asked hasked

theorem ask (h : s.AnswersConsumed answers) (var prompt : Text) :
    (s.ask var prompt).scene.AnswersConsumed answers := by
  unfold Scene.ask
  split
  · exact h
  · next v rest heq =>
    obtain ⟨taken, htaken, -⟩ := h
    rw [heq] at htaken
    refine ⟨taken ++ [v], by simp [htaken], ?_⟩
    intro last hlast htext asked hasked
    obtain rfl := Option.some.inj hasked
    obtain rfl : v = last := by simpa using hlast
    show ((Assoc.get? var (Assoc.put var v s.ctx)).getD (.text [])).IsText
    rw [Assoc.get?_put_self]
    exact htext

end Scene.AnswersConsumed

namespace Action

theorem answersConsumed_run {answers : List Value} {a : Action} (hsimple : a.bodies = [])
    {s : Scene}
    (h : s.AnswersConsumed answers) : (a.run s).scene.AnswersConsumed answers := by
  refine keeps_run (P := Scene.AnswersConsumed answers) ?_ ?_ ?_ ?_ hsimple h
  · intro t _ ht
    exact ht
  · intro t var text ht
    exact ht.assign var text
  · intro t var prompt ht
    exact ht.ask var prompt
  · intro t _ ht
    exact ht

theorem answersConsumed_runAll {answers : List Value} (actions : List Action) {s : Scene}
    (h : s.AnswersConsumed answers) : (runAll actions s).scene.AnswersConsumed answers := by
  refine @history_runAll (fun _ t => t.AnswersConsumed answers) actions ?_ [] s h
  intro _ a t hsimple _ ht
  exact answersConsumed_run hsimple ht

end Action

/-! ## The end of a visit -/

/-- A call of a classifier, with all that it is given. -/
structure Consultation where
  classifier : Classifier
  service : Service
  words : Value
  targets : List Text
  exclude : List Text

/-- What the call comes to. -/
def Consultation.inquiry (k : Consultation) : Inquiry :=
  k.classifier.classify k.service k.words k.targets k.exclude

/-- What the actions did, with the replies that they kept emitted. -/
def Report.put (r : Report) : List Event := r.events ++ r.scene.buffer.map Event.shown

/-- The scene that the actions leave, without the replies that they kept. -/
def Report.cleared (r : Report) : Scene := { r.scene with buffer := [] }

/-- How a visit ends, decided by the flow, by what the actions of its state did, and by what an
inquiry came to, if one was made.  No classifier takes part in it. -/
def Flow.settle (f : Flow) (r : Report) (inquiry : Option Inquiry) : Visit :=
  let e : Engine := ⟨f, none⟩
  match r.outcome with
  | .fail fault => ⟨.failed fault, r.scene, r.events⟩
  | .jump target => e.move target r.cleared r.put
  | .proceed =>
    if (Event.answered r.events).isEmpty then ⟨.finished, r.cleared, r.put⟩
    else inquiry.elim (e.fallBack r.cleared r.put) fun i => e.routeBy i r.cleared r.put

/-- Every question of the flow is for a variable with a name, and every state has a name. -/
structure Flow.Named (f : Flow) : Prop where
  vars : ∀ var prompt, .ask var prompt ∈ f.leaves → var ≠ []
  states : ∀ name ∈ f.names, name ≠ []

theorem Flow.Named.var_ne_nil {f : Flow} (h : f.Named) {place : Text} {q : Question}
    (hq : q ∈ Action.questionsOfAll (f.actionsAt place)) : q.var ≠ [] :=
  h.vars q.var q.prompt (f.leavesOfAll_actionsAt place (Action.ask_mem_leavesOfAll hq))

theorem Flow.has_of_mem_names {f : Flow} {name : Text} (h : name ∈ f.names) :
    f.has name = true := by
  obtain ⟨state, hstate, rfl⟩ := List.mem_map.1 h
  rw [Flow.has, Flow.state?, List.find?_isSome]
  exact ⟨state, hstate, decide_eq_true rfl⟩

/-- A parsed flow has names for its variables and its states. -/
theorem Engine.named_of_start {text : Text} {script : Script} {name : Text} {ctx : Context}
    {source : Classifier.Source} {wanted : Bool} {opening : Opening}
    (hscript : Script.parse text = .ok script)
    (hopening : start script name ctx source wanted = .ok opening) : opening.engine.flow.Named := by
  obtain ⟨flow, first, rest, hflow, -, rfl⟩ := exists_of_start hopening
  have hmem : flow ∈ script.flows := List.mem_of_find?_eq_some hflow
  refine ⟨?_, ?_⟩
  · intro var prompt hask
    exact Script.var_ne_nil_of_parse hscript hmem hask
  · intro name hname
    obtain ⟨state, hstate, rfl⟩ := List.mem_map.1 hname
    exact Script.name_ne_nil_of_parse hscript hmem hstate

namespace Engine

/-- What the actions of the present state do when it is entered. -/
def performed (e : Engine) (t : Scene) : Report :=
  Action.runAll (e.flow.actionsAt t.place) (enter t)

/-- The actions of the present state asked a question that was answered, and did not jump. -/
def asksOnly (e : Engine) (t : Scene) : Bool :=
  match (e.performed t).outcome with
  | .proceed => !(Event.answered (e.performed t).events).isEmpty
  | _ => false

/-- The call of the classifier in a visit: if the actions asked and did not jump, it is given the
value of the variable of the last question, and all states but the present one. -/
def consultation? (e : Engine) (t : Scene) : Option Consultation :=
  if e.asksOnly t then do
    let c ← e.classifier
    let last ← (Event.answered (e.performed t).events).getLast?
    return ⟨c, (e.performed t).scene.world.service, (e.performed t).scene.value last.1.var,
      e.flow.names, [t.place]⟩
  else none

theorem asksOnly_iff {e : Engine} {t : Scene} :
    e.asksOnly t = true ↔
      (e.performed t).outcome = .proceed ∧ Event.answered (e.performed t).events ≠ [] := by
  unfold asksOnly
  cases (e.performed t).outcome with
  | proceed => simp
  | jump target => simp
  | fail f => simp

theorem asksOnly_of_consultation? {e : Engine} {t : Scene} {k : Consultation}
    (h : e.consultation? t = some k) : e.asksOnly t = true := by
  by_contra hnot
  rw [consultation?, if_neg hnot] at h
  cases h

theorem consultation?_eq_none {e : Engine} {t : Scene} (h : ¬e.asksOnly t = true) :
    e.consultation? t = none := by
  rw [consultation?, if_neg h]

/-- The variable that was asked for last is that of the last question with an answer. -/
theorem asked_performed (e : Engine) (t : Scene) :
    (e.performed t).scene.asked =
      (Event.answered (e.performed t).events).getLast?.map fun p => p.1.var := by
  rw [performed, (Action.runAll_asksLast (e.flow.actionsAt t.place) (enter t)).last]
  exact Option.or_none

/-- Where the actions jump or fail, no inquiry takes part. -/
theorem visit_of_not_proceed {e : Engine} {t : Scene} (h : (e.performed t).outcome ≠ .proceed)
    (inquiry : Option Inquiry) : e.visit t = e.flow.settle (e.performed t) inquiry := by
  show e.conclude (e.performed t) = _
  unfold conclude Flow.settle
  cases hout : (e.performed t).outcome with
  | fail fault => rfl
  | jump target => rfl
  | proceed => exact absurd hout h

/-- After a question without a jump, a visit goes where the last question leads. -/
theorem visit_eq_route {e : Engine} {t : Scene} {last : Question × Value}
    (hout : (e.performed t).outcome = .proceed)
    (hlast : (Event.answered (e.performed t).events).getLast? = some last) :
    e.visit t = e.route last.1.var (e.performed t).cleared (e.performed t).put := by
  have hasked := asked_performed e t
  rw [hlast] at hasked
  show e.conclude (e.performed t) = _
  unfold conclude
  rw [hout]
  simp only [hasked, Option.map_some]
  rfl

/-- A visit whose last question is for a variable with a name is decided by the flow, by what the
actions of its state did, and by what one call of the classifier came to. -/
theorem visit_eq_settle_of_named {e : Engine} {t : Scene}
    (h : ∀ last, (Event.answered (e.performed t).events).getLast? = some last → last.1.var ≠ []) :
    e.visit t =
      e.flow.settle (e.performed t) ((e.consultation? t).map Consultation.inquiry) := by
  by_cases hout : (e.performed t).outcome = .proceed
  · cases hlast : (Event.answered (e.performed t).events).getLast? with
    | none =>
      have hasked := asked_performed e t
      rw [hlast] at hasked
      show e.conclude (e.performed t) = _
      simp only [conclude, Flow.settle, hout, hasked, List.getLast?_eq_none_iff.1 hlast,
        Option.map_none, List.isEmpty_nil, if_true]
      rfl
    | some last =>
      have hplace : (e.performed t).scene.place = t.place :=
        (Action.runAll_consumesAnswers (e.flow.actionsAt t.place) (enter t)).place
      have hvar : last.1.var.isEmpty = false := List.isEmpty_eq_false_iff.2 (h last hlast)
      have hne : Event.answered (e.performed t).events ≠ [] :=
        List.ne_nil_of_mem (List.mem_of_getLast? hlast)
      have hasks : e.asksOnly t = true := asksOnly_iff.2 ⟨hout, hne⟩
      rw [visit_eq_route hout hlast, Flow.settle, hout]
      simp only [List.isEmpty_eq_false_iff.2 hne, Bool.false_eq_true, if_false]
      rw [route, consultation?, if_pos hasks, hlast]
      cases e.classifier with
      | none => rfl
      | some c =>
        simp only [hvar, Bool.false_eq_true, if_false]
        rw [follow]
        show e.routeBy (c.classify _ _ _ [(e.performed t).scene.place]) _ _ = _
        rw [hplace]
        rfl
  · exact visit_of_not_proceed hout _

/-- A visit is decided by the flow, by what the actions of its state did, and by what one call of
the classifier came to. -/
theorem visit_eq_settle {e : Engine} (h : e.flow.Named) (t : Scene) :
    e.visit t =
      e.flow.settle (e.performed t) ((e.consultation? t).map Consultation.inquiry) := by
  apply visit_eq_settle_of_named
  intro last hlast
  exact h.var_ne_nil ((Action.runAll_asksLast (e.flow.actionsAt t.place) (enter t)).own last
    (List.mem_of_getLast? hlast))

/-- In any flow, a visit is decided so with the call of the classifier or without one. -/
theorem exists_visit_eq_settle (e : Engine) (t : Scene) :
    ∃ call : Option Consultation, (∀ k ∈ call, e.consultation? t = some k) ∧
      e.visit t = e.flow.settle (e.performed t) (call.map Consultation.inquiry) := by
  by_cases h : ∀ last, (Event.answered (e.performed t).events).getLast? = some last →
      last.1.var ≠ []
  · exact ⟨e.consultation? t, fun _ hk => hk, visit_eq_settle_of_named h⟩
  -- A variable without a name is asked for and yet keeps the classifier out.
  · refine ⟨none, by simp, ?_⟩
    by_cases hout : (e.performed t).outcome = .proceed
    · simp only [not_forall, not_not] at h
      obtain ⟨last, hlast, hvar⟩ := h
      have hne := List.ne_nil_of_mem (List.mem_of_getLast? hlast)
      rw [visit_eq_route hout hlast, Flow.settle, hout, hvar, route]
      simp only [List.isEmpty_eq_false_iff.2 hne, Bool.false_eq_true, if_false]
      cases e.classifier with
      | none => rfl
      | some c => rfl
    · exact visit_of_not_proceed hout _

/-! ## Routing of a visit -/

/-- The visit leads to a state. -/
def LeadsTo (e : Engine) (t : Scene) (target : Text) : Prop :=
  (e.visit t).ending = .moved ∧ (e.visit t).scene.place = target

/-- How a visit is decided.  A jump wins, and without an answered question the run ends; neither
consults the classifier.  After a question without a jump the classifier is consulted if there is
one, and its suggestion is followed, or else the fallback state is entered, or else the run ends. -/
structure Decided (e : Engine) (t : Scene) : Prop where
  settled : e.visit t =
    e.flow.settle (e.performed t) ((e.consultation? t).map Consultation.inquiry)
  fails : ∀ f, (e.performed t).outcome = .fail f →
    e.consultation? t = none ∧ (e.visit t).ending = .failed f
  jumps : ∀ target, (e.performed t).outcome = .jump target →
    e.consultation? t = none ∧ (e.flow.has target = true → e.LeadsTo t target) ∧
      (e.flow.has target = false → (e.visit t).ending = .failed (.missingState target))
  quiet : (e.performed t).outcome = .proceed → Event.answered (e.performed t).events = [] →
    e.consultation? t = none ∧ (e.visit t).ending = .finished
  consults : e.asksOnly t = true → (e.consultation? t).isSome = e.classifier.isSome
  broken : ∀ k ∈ e.consultation? t, ∀ f, k.inquiry.result = .error f →
    (e.visit t).ending = .failed (.intent f)
  suggested : ∀ k ∈ e.consultation? t, ∀ target, k.inquiry.result = .ok (some target) →
    target ≠ t.place ∧ e.LeadsTo t target
  unsuggested : e.asksOnly t = true → (∀ k ∈ e.consultation? t, k.inquiry.result = .ok none) →
    (∀ target, e.flow.fallback? = some target → e.LeadsTo t target) ∧
      (e.flow.fallback? = none → (e.visit t).ending = .finished)

theorem fallBack_of_some {e : Engine} {target : Text} (h : e.flow.fallback? = some target)
    (s : Scene) (events : List Event) :
    e.fallBack s events = ⟨.moved, { s with place := target }, events⟩ := by
  have hhas : e.flow.has target = true := List.find?_some h
  rw [fallBack, h]
  exact if_pos hhas

theorem fallBack_of_none {e : Engine} (h : e.flow.fallback? = none) (s : Scene)
    (events : List Event) : e.fallBack s events = ⟨.finished, s, events⟩ := by
  rw [fallBack, h]

theorem consultation?_spec {e : Engine} {t : Scene} {k : Consultation}
    (h : e.consultation? t = some k) :
    e.classifier = some k.classifier ∧ k.targets = e.flow.names ∧ k.exclude = [t.place] ∧
      ∃ var, (e.performed t).scene.asked = some var ∧
        k.words = (e.performed t).scene.value var := by
  rw [consultation?, if_pos (asksOnly_of_consultation? h)] at h
  obtain ⟨c, hc, h⟩ := Option.bind_eq_some_iff.1 h
  obtain ⟨last, hlast, h⟩ := Option.bind_eq_some_iff.1 h
  cases h
  refine ⟨hc, rfl, rfl, last.1.var, ?_, rfl⟩
  rw [asked_performed, hlast]
  rfl

theorem isSome_consultation? {e : Engine} {t : Scene} (h : e.asksOnly t = true) :
    (e.consultation? t).isSome = e.classifier.isSome := by
  obtain ⟨last, hlast⟩ := Option.ne_none_iff_exists'.1
    fun hnone => (asksOnly_iff.1 h).2 (List.getLast?_eq_none_iff.1 hnone)
  rw [consultation?, if_pos h, hlast]
  cases e.classifier with
  | none => rfl
  | some c => rfl

section decided

variable {e : Engine} (h : e.flow.Named) {t : Scene}

include h

theorem visit_of_fail {f : RunFault} (hout : (e.performed t).outcome = .fail f) :
    (e.visit t).ending = .failed f := by
  rw [visit_eq_settle h, Flow.settle, hout]

theorem visit_of_jump {target : Text} (hout : (e.performed t).outcome = .jump target) :
    (e.flow.has target = true → e.LeadsTo t target) ∧
      (e.flow.has target = false → (e.visit t).ending = .failed (.missingState target)) := by
  unfold LeadsTo
  rw [visit_eq_settle h, Flow.settle, hout]
  unfold move
  refine ⟨?_, ?_⟩
  · intro hhas
    simp only [hhas, if_true, and_self]
  · intro hhas
    simp only [hhas, Bool.false_eq_true, if_false]

theorem visit_of_quiet (hout : (e.performed t).outcome = .proceed)
    (hnil : Event.answered (e.performed t).events = []) : (e.visit t).ending = .finished := by
  rw [visit_eq_settle h, Flow.settle, hout, hnil]
  rfl

/-- After a question without a jump, what the call of the classifier came to decides. -/
theorem visit_of_asksOnly (hasks : e.asksOnly t = true) :
    e.visit t = (e.consultation? t).elim (e.fallBack (e.performed t).cleared (e.performed t).put)
      fun k => e.routeBy k.inquiry (e.performed t).cleared (e.performed t).put := by
  obtain ⟨hout, hne⟩ := asksOnly_iff.1 hasks
  rw [visit_eq_settle h, Flow.settle, hout]
  simp only [List.isEmpty_eq_false_iff.2 hne, Bool.false_eq_true, if_false]
  cases e.consultation? t with
  | none => rfl
  | some k => rfl

theorem visit_of_consultation? {k : Consultation} (hk : e.consultation? t = some k) :
    e.visit t = e.routeBy k.inquiry (e.performed t).cleared (e.performed t).put := by
  rw [visit_of_asksOnly h (asksOnly_of_consultation? hk), hk]
  rfl

/-- What the classifier suggests is another state of the flow, so it is followed. -/
theorem visit_of_suggested {k : Consultation} (hk : e.consultation? t = some k) {target : Text}
    (hresult : k.inquiry.result = .ok (some target)) :
    target ≠ t.place ∧ e.LeadsTo t target := by
  obtain ⟨-, htargets, hexclude, -⟩ := consultation?_spec hk
  obtain ⟨hmem, hnot⟩ := Classifier.mem_of_classify hresult
  rw [htargets] at hmem
  rw [hexclude, List.mem_singleton] at hnot
  have hplace : (e.performed t).cleared.place = t.place :=
    (Action.runAll_consumesAnswers (e.flow.actionsAt t.place) (enter t)).place
  have hhas := Flow.has_of_mem_names hmem
  have husable : e.isUsable t.place target = true := by
    simp [isUsable, hhas, h.states target hmem, hnot]
  refine ⟨hnot, ?_⟩
  unfold LeadsTo
  rw [visit_of_consultation? h hk, routeBy, hresult]
  simp only [hplace, husable, if_true]
  rw [move, if_pos hhas]
  exact ⟨rfl, rfl⟩

theorem visit_of_broken {k : Consultation} (hk : e.consultation? t = some k) {f : IntentFault}
    (hresult : k.inquiry.result = .error f) : (e.visit t).ending = .failed (.intent f) := by
  rw [visit_of_consultation? h hk, routeBy, hresult]

theorem visit_of_unsuggested (hasks : e.asksOnly t = true)
    (hnone : ∀ k ∈ e.consultation? t, k.inquiry.result = .ok none) :
    ∃ s events, e.visit t = e.fallBack s events := by
  cases hk : e.consultation? t with
  | none =>
    refine ⟨(e.performed t).cleared, (e.performed t).put, ?_⟩
    rw [visit_of_asksOnly h hasks, hk]
    rfl
  | some k =>
    rw [visit_of_consultation? h hk, routeBy, hnone k hk]
    exact ⟨_, _, rfl⟩

theorem decided_visit : e.Decided t where
  settled := visit_eq_settle h t
  fails f hout := by
    have hnot : ¬e.asksOnly t = true := fun hasks => by
      cases hout.symm.trans (asksOnly_iff.1 hasks).1
    exact ⟨consultation?_eq_none hnot, visit_of_fail h hout⟩
  jumps target hout := by
    have hnot : ¬e.asksOnly t = true := fun hasks => by
      cases hout.symm.trans (asksOnly_iff.1 hasks).1
    exact ⟨consultation?_eq_none hnot, visit_of_jump h hout⟩
  quiet hout hnil :=
    ⟨consultation?_eq_none fun hasks => (asksOnly_iff.1 hasks).2 hnil, visit_of_quiet h hout hnil⟩
  consults := isSome_consultation?
  broken _ hk _ hresult := visit_of_broken h hk hresult
  suggested _ hk _ hresult := visit_of_suggested h hk hresult
  unsuggested hasks hnone := by
    obtain ⟨s, events, hvisit⟩ := visit_of_unsuggested h hasks hnone
    unfold LeadsTo
    rw [hvisit]
    refine ⟨?_, ?_⟩
    · intro target htarget
      rw [fallBack_of_some htarget]
      exact ⟨rfl, rfl⟩
    · intro hlost
      rw [fallBack_of_none hlost]

end decided

/-! ## The requests of a visit -/

theorem events_move (e : Engine) (target : Text) (s : Scene) (events : List Event) :
    (e.move target s events).events = events := by
  unfold move
  split
  · rfl
  · rfl

theorem events_fallBack (e : Engine) (s : Scene) (events : List Event) :
    (e.fallBack s events).events = events := by
  unfold fallBack
  split
  · exact events_move e _ s events
  · rfl

/-- Routing by an inquiry adds its requests to the events, and then events that
request nothing. -/
theorem requests_routeBy (e : Engine) (inquiry : Inquiry) (s : Scene) {events : List Event}
    (h : events.filterMap Event.request? = []) :
    (e.routeBy inquiry s events).events.filterMap Event.request? = inquiry.requests := by
  have htold : (events ++ inquiry.requests.map Event.requested ++
      inquiry.notices.map Event.notice).filterMap Event.request? = inquiry.requests := by
    simp [h, List.filterMap_map, Function.comp_def, Event.request?]
  unfold routeBy
  split
  · exact htold
  · dsimp only
    split
    · rw [events_move, List.filterMap_append, htold]
      exact List.append_nil _
    · rw [events_fallBack, htold]
  · rw [events_fallBack, htold]

end Engine

/-- Actions only ask and emit replies, so they make no request. -/
theorem Report.related_unrequesting :
    Action.Related (fun _ => True) (fun s t => t = s)
      (fun _ _ r _ => r.events.filterMap Event.request? = []) where
  ctx h := by rw [h]
  disk h := by rw [h]
  stop _ _ := rfl
  reply _ _ := rfl
  assign _ _ _ := rfl
  write _ _ _ _ := rfl
  ask {s t var prompt} _ _ := by
    unfold Scene.ask
    split
    · simp [List.filterMap_map, Function.comp_def, Event.request?]
    · simp [List.filterMap_map, Function.comp_def, Event.request?]
  andThen {s t r r' rest} _ h hrest := by
    unfold Report.andThen
    cases r.outcome with
    | proceed =>
      show (r.events ++ (Action.runAll rest r.scene).events).filterMap Event.request? = []
      rw [List.filterMap_append, h, hrest _ _ rfl]
      rfl
    | jump target => exact h
    | fail f => exact h

namespace Engine

theorem requests_performed (e : Engine) (t : Scene) :
    (e.performed t).events.filterMap Event.request? = [] :=
  Report.related_unrequesting.runAll (fun _ _ => trivial) rfl

theorem requests_put (e : Engine) (t : Scene) :
    (e.performed t).put.filterMap Event.request? = [] := by
  rw [Report.put, List.filterMap_append, requests_performed]
  simp [List.filterMap_map, Function.comp_def, Event.request?]

/-- A visit makes the requests of its call of the classifier, and no others. -/
theorem requests_visit {e : Engine} (h : e.flow.Named) (t : Scene) :
    (e.visit t).events.filterMap Event.request? =
      (e.consultation? t).toList.flatMap fun k => k.inquiry.requests := by
  cases hk : e.consultation? t with
  | some k =>
    rw [visit_of_consultation? h hk, requests_routeBy e _ _ (requests_put e t)]
    simp
  | none =>
    rw [visit_eq_settle h, hk, Flow.settle]
    cases hout : (e.performed t).outcome with
    | fail f => exact requests_performed e t
    | jump target =>
      dsimp only
      rw [events_move]
      exact requests_put e t
    | proceed =>
      dsimp only
      split
      · exact requests_put e t
      · show (fallBack _ _ _).events.filterMap Event.request? = []
        rw [events_fallBack]
        exact requests_put e t

/-! ## The path of a run -/

theorem exists_entered (e : Engine) (n : Nat) (s : Scene) :
    ∃ rest, e.entered (n + 1) s = s :: rest := ⟨_, rfl⟩

/-- Each state that is entered is the one to which the visit before it leads. -/
theorem isChain_entered (e : Engine) (n : Nat) (s : Scene) :
    (e.entered n s).IsChain fun t u => (e.visit t).ending = .moved ∧ u = (e.visit t).scene := by
  induction n generalizing s with
  | zero => exact .nil
  | succ n ih =>
    cases hending : (e.visit s).ending with
    | finished =>
      rw [entered_of_finished e n hending]
      exact .singleton s
    | failed f =>
      rw [entered_of_failed e n hending]
      exact .singleton s
    | moved =>
      rw [entered_of_moved e n hending]
      cases n with
      | zero => exact .singleton s
      | succ n =>
        have hrest := ih (e.visit s).scene
        obtain ⟨rest, heq⟩ := exists_entered e n (e.visit s).scene
        rw [heq] at hrest ⊢
        exact List.isChain_cons_cons.2 ⟨⟨hending, rfl⟩, hrest⟩

/-- If the last answer is a text, the classifier is given a text, and it does not fail. -/
theorem exists_choice_of_last {e : Engine} {t : Scene} {k : Consultation}
    (hk : e.consultation? t = some k) {q : Question} {v : Value}
    (hlast : (Event.answered (e.performed t).events).getLast? = some (q, v)) (hv : v.IsText) :
    ∃ choice, k.inquiry.result = .ok choice := by
  have hentered : (enter t).AnswersConsumed t.answers := ⟨[], rfl, by simp⟩
  obtain ⟨taken, htaken, hconsumed⟩ :=
    Action.answersConsumed_runAll (e.flow.actionsAt t.place) hentered
  have hgiven := (Action.runAll_consumesAnswers (e.flow.actionsAt t.place) (enter t)).given
  obtain rfl : (Event.answered (e.performed t).events).map Prod.snd = taken :=
    List.append_cancel_right (hgiven.trans htaken)
  obtain ⟨-, -, -, var, hasked, hwords⟩ := consultation?_spec hk
  have hmap : ((Event.answered (e.performed t).events).map Prod.snd).getLast? = some v := by
    rw [List.getLast?_map, hlast]
    rfl
  obtain ⟨words, htext⟩ := hconsumed v hmap hv var hasked
  unfold Consultation.inquiry
  rw [hwords, performed, htext]
  exact Classifier.exists_of_classify_text words

/-- If the answers are texts, the classifier does not fail. -/
theorem exists_choice {e : Engine} {t : Scene} (h : ∀ v ∈ t.answers, v.IsText) {k : Consultation}
    (hk : e.consultation? t = some k) : ∃ choice, k.inquiry.result = .ok choice := by
  have hne := (asksOnly_iff.1 (asksOnly_of_consultation? hk)).2
  obtain ⟨⟨q, v⟩, hlast⟩ := Option.ne_none_iff_exists'.1 fun hnone =>
    hne (List.getLast?_eq_none_iff.1 hnone)
  have hgiven := (Action.runAll_consumesAnswers (e.flow.actionsAt t.place) (enter t)).given
  refine exists_choice_of_last hk hlast (h v ?_)
  rw [show t.answers = _ from hgiven.symm]
  exact List.mem_append_left _ (List.mem_map_of_mem (List.mem_of_getLast? hlast))

theorem texts_entered {e : Engine} {n : Nat} {s : Scene} (h : ∀ v ∈ s.answers, v.IsText) :
    ∀ t ∈ e.entered n s, ∀ v ∈ t.answers, v.IsText := by
  refine forall_entered (P := fun t => ∀ v ∈ t.answers, v.IsText) ?_ n h
  intro t ht v hv
  apply ht
  rw [← visit_given e t]
  exact List.mem_append_right _ hv

/-- A run makes the requests of its calls of the classifier, and no others. -/
theorem requests_runFor {e : Engine} (h : e.flow.Named) (n : Nat) (s : Scene) :
    (e.runFor n s).requests =
      ((e.entered n s).filterMap e.consultation?).flatMap fun k => k.inquiry.requests := by
  rw [Run.requests, trace_runFor, List.filterMap_flatMap]
  induction e.entered n s with
  | nil => rfl
  | cons t rest ih =>
    rw [List.flatMap_cons, ih, List.filterMap_map]
    show (e.visit t).events.filterMap Event.request? ++ _ = _
    rw [requests_visit h, List.filterMap_cons]
    cases e.consultation? t with
    | none => rfl
    | some k => simp

theorem length_requests_inquiry_le (k : Consultation) : k.inquiry.requests.length ≤ 1 := by
  unfold Consultation.inquiry
  rcases Classifier.classify_cases k.classifier k.service k.targets k.exclude k.words with
    ⟨fault, heq⟩ | ⟨choice, notices, requests, service, heq, -, hlength⟩
  · rw [heq]
    exact Nat.zero_le 1
  · rw [heq]
    exact hlength

theorem length_requests_le (calls : List Consultation) :
    (calls.flatMap fun k => k.inquiry.requests).length ≤ calls.length := by
  induction calls with
  | nil => exact Nat.le_refl 0
  | cons k rest ih =>
    have hfirst := length_requests_inquiry_le k
    rw [List.flatMap_cons, List.length_append, List.length_cons]
    omega

theorem length_consultations_le (e : Engine) (scenes : List Scene) :
    (scenes.filterMap e.consultation?).length ≤ (scenes.filter e.asksOnly).length := by
  rw [List.length_filterMap_eq_countP, ← List.countP_eq_length_filter]
  apply List.countP_mono_left
  intro t _ hsome
  obtain ⟨k, hk⟩ := Option.isSome_iff_exists.1 hsome
  exact asksOnly_of_consultation? hk

theorem Decided.quiet_of_finished {e : Engine} {t : Scene} (h : e.Decided t)
    (hfallback : e.flow.fallback?.isSome = true) (hend : (e.visit t).ending = .finished) :
    (e.performed t).outcome = .proceed ∧ Event.answered (e.performed t).events = [] := by
  cases hout : (e.performed t).outcome with
  | fail f => cases hend.symm.trans (h.fails f hout).2
  | jump target =>
    obtain ⟨-, hhas, hmissing⟩ := h.jumps target hout
    cases hflow : e.flow.has target with
    | true => cases hend.symm.trans (hhas hflow).1
    | false => cases hend.symm.trans (hmissing hflow)
  | proceed =>
    refine ⟨rfl, ?_⟩
    -- An answered question always leads on: to the suggestion, or else to the fallback state.
    by_contra hne
    obtain ⟨target, htarget⟩ := Option.isSome_iff_exists.1 hfallback
    have hunsuggested : ∀ k ∈ e.consultation? t, k.inquiry.result = .ok none := by
      intro k hk
      cases hresult : k.inquiry.result with
      | error f => cases hend.symm.trans (h.broken k hk f hresult)
      | ok choice =>
        cases choice with
        | none => rfl
        | some target => cases hend.symm.trans (h.suggested k hk target hresult).2.1
    have hleads := (h.unsuggested (asksOnly_iff.2 ⟨hout, hne⟩) hunsuggested).1 target htarget
    cases hend.symm.trans hleads.1

/-- The law of a run: the states that it enters form a path, on which every step is decided by what
the actions did and by the classifier; the classifier is consulted at most once after each state
that asked and did not jump; and where the flow has a fallback state, only a state that neither
asked nor jumped ends the run. -/
structure Routed (e : Engine) (s : Scene) : Prop where
  first : (e.entered visitLimit s).head? = some s
  path : (e.entered visitLimit s).IsChain fun t u =>
    (e.visit t).ending = .moved ∧ u = (e.visit t).scene
  last : ∃ t, (e.entered visitLimit s).getLast? = some t ∧
    (e.run s).fault = (e.visit t).ending.fault? ∧ (e.run s).scene = (e.visit t).scene
  decided : ∀ t ∈ e.entered visitLimit s, e.Decided t
  classified : (∀ v ∈ s.answers, v.IsText) → ∀ t ∈ e.entered visitLimit s,
    ∀ k ∈ e.consultation? t, ∃ choice, k.inquiry.result = .ok choice
  requests : (e.run s).requests =
    ((e.entered visitLimit s).filterMap e.consultation?).flatMap fun k => k.inquiry.requests
  posts : (e.run s).requests.length ≤ ((e.entered visitLimit s).filterMap e.consultation?).length
  calls : ((e.entered visitLimit s).filterMap e.consultation?).length ≤
    ((e.entered visitLimit s).filter e.asksOnly).length
  ends : e.flow.fallback?.isSome = true → (e.run s).fault = none →
    ∃ t, (e.entered visitLimit s).getLast? = some t ∧
      (e.performed t).outcome = .proceed ∧ Event.answered (e.performed t).events = []

/-- Every run of a flow of a script that was read from a text obeys the law of routing, from
wherever it is begun and with any answers and any service. -/
theorem run_routed {text : Text} {script : Script} {name : Text} {ctx : Context}
    {source : Classifier.Source} {wanted : Bool} {opening : Opening}
    (hscript : Script.parse text = .ok script)
    (hopening : start script name ctx source wanted = .ok opening) (s : Scene) :
    opening.engine.Routed s := by
  have hnamed := named_of_start hscript hopening
  have hrequests := requests_runFor hnamed visitLimit s
  obtain ⟨last, hlast, hfault, hscene⟩ :=
    exists_last_entered opening.engine (n := visitLimit) (by decide) s
  refine ⟨rfl, isChain_entered _ _ s, ⟨last, hlast, hfault, hscene⟩, ?_, ?_,
    hrequests, ?_, length_consultations_le _ _, ?_⟩
  · intro t _
    exact decided_visit hnamed
  · intro htexts t ht k hk
    exact exists_choice (texts_entered htexts t ht) hk
  · rw [run, hrequests]
    exact length_requests_le _
  · intro hfallback hnone
    refine ⟨last, hlast, (decided_visit hnamed).quiet_of_finished hfallback ?_⟩
    have hend := hfault.symm.trans hnone
    cases hending : (opening.engine.visit last).ending with
    | finished => rfl
    | moved =>
      rw [hending] at hend
      cases hend
    | failed f =>
      rw [hending] at hend
      cases hend

/-- A text whose question is followed by no jump. -/
def openText : Text :=
  "flow main\nstate start\nask topic \"Topic?\"\nstate news\nreply \"News\"\nstate end".toList

/-- The script that the text stands for. -/
def openScript : Script :=
  ⟨[⟨"main".toList, [⟨"start".toList, [.ask "topic".toList "Topic?".toList]⟩,
    ⟨"news".toList, [.reply "News".toList]⟩, ⟨"end".toList, []⟩]⟩]⟩

/-- The beginning of a conversation with its flow and a classifier that has no key. -/
def openOpening : Opening where
  engine := ⟨⟨"main".toList, [⟨"start".toList, [.ask "topic".toList "Topic?".toList]⟩,
    ⟨"news".toList, [.reply "News".toList]⟩, ⟨"end".toList, []⟩]⟩,
    some ⟨Classifier.defaultModel, .text Classifier.demoKey⟩⟩
  standing := ⟨"start".toList, [], [], none⟩
  notices := [Classifier.keyless]

/-- The question is answered with the name of a state. -/
def openScene : Scene := (callWith [.text "News!".toList]).scene openOpening.standing

/-- The classifier suggests the state, which is entered, and there the run ends although the flow
has a fallback state. -/
theorem run_routed_suggested :
    Script.parse openText = .ok openScript ∧
      start openScript "main".toList [] ⟨true, none⟩ true = .ok openOpening ∧
      openOpening.engine.flow.fallback? = some "end".toList ∧
      openOpening.engine.LeadsTo openScene "news".toList ∧
      ∃ t, (openOpening.engine.entered visitLimit openScene).getLast? = some t ∧
        Event.answered (openOpening.engine.performed t).events = [] := by
  have hscript : Script.parse openText = .ok openScript := rfl
  have hopening : start openScript "main".toList [] ⟨true, none⟩ true = .ok openOpening := rfl
  have hrouted := run_routed hscript hopening openScene
  refine ⟨hscript, hopening, rfl, ?_, ?_⟩
  · have hdecided := hrouted.decided openScene List.mem_cons_self
    exact (hdecided.suggested _ rfl "news".toList rfl).2
  · have hfault : (openOpening.engine.run openScene).fault = none :=
      Option.isNone_iff_eq_none.1 (by decide +kernel)
    obtain ⟨t, hlast, -, hnil⟩ := hrouted.ends rfl hfault
    exact ⟨t, hlast, hnil⟩

end Engine
end Dialogue
