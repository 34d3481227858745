import Dialogue.Proofs.Assoc
import Dialogue.Proofs.Run.Visits
set_option autoImplicit false

/-!
# Reachable states and bounds of a run

A run enters states of its flow only, at most two thousand of them, and counts each.  What one visit
keeps, a run keeps, and so do any runs one after another, also those that fail or are broken off.
Main statement: `Engine.run_bounded`.
-/

namespace Dialogue

namespace Assoc

/-- The sum of all counts. -/
def total : Assoc Nat → Nat
  | [] => 0
  | (_, count) :: rest => count + total rest

/-- To count a name once more adds one to the sum. -/
theorem total_put_succ (name : Text) (counts : Assoc Nat) :
    total (put name ((get? name counts).getD 0 + 1) counts) = total counts + 1 := by
  induction counts with
  | nil => rfl
  | cons p rest ih =>
    obtain ⟨k, n⟩ := p
    by_cases h : k = name
    · simp only [put, get?, h, if_true, Option.getD_some, total]
      omega
    · simp only [put, get?, h, if_false, total, ih]
      omega

end Assoc

/-- The failure of a run whose last visit ends so: a visit that leads on is the last only if too
many states were entered. -/
def VisitEnd.fault? : VisitEnd → Option RunFault
  | finished => none
  | moved => some .endless
  | failed f => some f

/-- The present state, and every state that was ever entered, is a state of the flow. -/
structure EngineState.Within (f : Flow) (s : EngineState) : Prop where
  place : f.has s.place = true
  visits : ∀ name ∈ s.visits.keys, f.has name = true

namespace Engine

/-! ## One visit -/

theorem visits_visit (e : Engine) (s : Scene) : (e.visit s).scene.visits = (enter s).visits := by
  rw [visit_eq_conclude, (conclude_keeps e _).2.2.1]
  exact (Action.runAll_consumesAnswers _ (enter s)).visits

theorem total_visits_visit (e : Engine) (s : Scene) :
    (e.visit s).scene.visits.total = s.visits.total + 1 := by
  rw [visits_visit]
  exact Assoc.total_put_succ s.place s.visits

/-- Entering a state counts the state and stays within the flow. -/
theorem within_enter {f : Flow} {s : Scene} (h : s.toEngineState.Within f) :
    (enter s).toEngineState.Within f where
  place := h.place
  visits := by
    intro name hname
    rcases Assoc.mem_keys_put_iff.1 hname with rfl | hold
    · exact h.place
    · exact h.visits name hold

theorem within_visit {e : Engine} {s : Scene} (h : s.toEngineState.Within e.flow) :
    (e.visit s).scene.toEngineState.Within e.flow where
  place := by
    by_cases hmoved : (e.visit s).ending = .moved
    · exact (place_visit e s).1 hmoved
    · show e.flow.has (e.visit s).scene.place = true
      rw [(place_visit e s).2 hmoved]
      exact h.place
  visits := by
    rw [visits_visit]
    exact (within_enter h).visits

/-- A visit does not fail because too many states were entered. -/
theorem not_endless_visit (e : Engine) (s : Scene) : (e.visit s).ending ≠ .failed .endless := by
  intro hendless
  have hconsumes := Action.runAll_consumesAnswers (e.flow.actionsAt s.place) (enter s)
  rw [visit_eq_conclude] at hendless
  rcases conclude_cases e (Action.runAll (e.flow.actionsAt s.place) (enter s)) with
    ⟨f, hf, heq⟩ | ⟨-, ending, place, world, more, hends, -, heq⟩
  · rw [heq] at hendless
    obtain rfl := VisitEnd.failed.inj hendless
    rcases hconsumes.failing hf with hinternal | ⟨q, hq⟩
    · cases hinternal
    · cases hq
  · rw [heq] at hendless
    obtain rfl : ending = .failed .endless := hendless
    cases hends.2

/-- A jump to a state that the flow does not have fails, and the state stays the same. -/
theorem visit_of_missing {e : Engine} {s : Scene} {target : Text}
    (hjump : (Action.runAll (e.flow.actionsAt s.place) (enter s)).outcome = .jump target)
    (hmissing : e.flow.has target = false) :
    (e.visit s).ending = .failed (.missingState target) ∧ (e.visit s).scene.place = s.place := by
  have hplace := (Action.runAll_consumesAnswers (e.flow.actionsAt s.place) (enter s)).place
  rw [visit_eq_conclude, conclude, hjump]
  simp only [move, hmissing, Bool.false_eq_true, if_false]
  exact ⟨trivial, hplace⟩

/-! ## The visits of a run -/

/-- The scenes with which a run enters its states, one for each state that it begins to carry
out. -/
def entered (e : Engine) : Nat → Scene → List Scene
  | 0, _ => []
  | n + 1, s =>
    s ::
      match (e.visit s).ending with
      | .moved => e.entered n (e.visit s).scene
      | _ => []

section entered

variable (e : Engine) (n : Nat) {s : Scene}

theorem entered_of_moved (h : (e.visit s).ending = .moved) :
    e.entered (n + 1) s = s :: e.entered n (e.visit s).scene := by
  rw [entered, h]

theorem entered_of_finished (h : (e.visit s).ending = .finished) : e.entered (n + 1) s = [s] := by
  rw [entered, h]

theorem entered_of_failed {f : RunFault} (h : (e.visit s).ending = .failed f) :
    e.entered (n + 1) s = [s] := by
  rw [entered, h]

end entered

theorem length_entered_le (e : Engine) (n : Nat) (s : Scene) : (e.entered n s).length ≤ n := by
  induction n generalizing s with
  | zero => exact Nat.le_refl 0
  | succ n ih =>
    cases hending : (e.visit s).ending with
    | finished => simp [entered_of_finished e n hending]
    | failed f => simp [entered_of_failed e n hending]
    | moved =>
      rw [entered_of_moved e n hending, List.length_cons]
      exact Nat.succ_le_succ (ih _)

/-- A run does what its visits do, one after another. -/
theorem trace_runFor (e : Engine) (n : Nat) (s : Scene) :
    (e.runFor n s).trace =
      (e.entered n s).flatMap fun t => (e.visit t).events.map (Entry.mk t.place) := by
  induction n generalizing s with
  | zero => rfl
  | succ n ih =>
    cases hending : (e.visit s).ending with
    | finished => rw [runFor_of_finished e n hending, entered_of_finished e n hending]; simp
    | failed f => rw [runFor_of_failed e n hending, entered_of_failed e n hending]; simp
    | moved =>
      rw [runFor_of_moved e n hending, entered_of_moved e n hending, List.flatMap_cons, ← ih]

/-- What a visit keeps holds whenever a run enters a state. -/
theorem forall_entered {e : Engine} {P : Scene → Prop} (hvisit : ∀ t, P t → P (e.visit t).scene)
    (n : Nat) {s : Scene} (h : P s) : ∀ t ∈ e.entered n s, P t := by
  induction n generalizing s with
  | zero => exact List.forall_mem_nil _
  | succ n ih =>
    cases hending : (e.visit s).ending with
    | finished =>
      rw [entered_of_finished e n hending]
      exact List.forall_mem_singleton.2 h
    | failed f =>
      rw [entered_of_failed e n hending]
      exact List.forall_mem_singleton.2 h
    | moved =>
      rw [entered_of_moved e n hending]
      exact List.forall_mem_cons.2 ⟨h, ih (hvisit s h)⟩

/-- A run ends as its last visit does. -/
theorem exists_last_entered (e : Engine) {n : Nat} (hn : n ≠ 0) (s : Scene) :
    ∃ t, (e.entered n s).getLast? = some t ∧
      (e.runFor n s).fault = (e.visit t).ending.fault? ∧
      (e.runFor n s).scene = (e.visit t).scene := by
  induction n generalizing s with
  | zero => exact absurd rfl hn
  | succ n ih =>
    cases hending : (e.visit s).ending with
    | finished =>
      rw [entered_of_finished e n hending, runFor_of_finished e n hending]
      exact ⟨s, rfl, congrArg VisitEnd.fault? hending.symm, rfl⟩
    | failed f =>
      rw [entered_of_failed e n hending, runFor_of_failed e n hending]
      exact ⟨s, rfl, congrArg VisitEnd.fault? hending.symm, rfl⟩
    | moved =>
      rw [entered_of_moved e n hending, runFor_of_moved e n hending]
      cases n with
      | zero => exact ⟨s, rfl, congrArg VisitEnd.fault? hending.symm, rfl⟩
      | succ n =>
        obtain ⟨t, hlast, hrun⟩ := ih (Nat.succ_ne_zero n) (e.visit s).scene
        refine ⟨t, ?_, hrun⟩
        rw [List.getLast?_cons, hlast]
        rfl

theorem within_runFor {e : Engine} {s : Scene} (h : s.toEngineState.Within e.flow) (n : Nat) :
    (e.runFor n s).scene.toEngineState.Within e.flow ∧
      ∀ t ∈ e.entered n s, t.toEngineState.Within e.flow := by
  have hall :=
    forall_entered (P := fun t => t.toEngineState.Within e.flow) (fun _ => within_visit) n h
  refine ⟨?_, hall⟩
  cases n with
  | zero => exact h
  | succ n =>
    obtain ⟨t, hlast, -, hscene⟩ := exists_last_entered e (Nat.succ_ne_zero n) s
    rw [hscene]
    exact within_visit (hall t (List.mem_of_getLast? hlast))

/-- When a run enters a state, the sum of the counts has grown by the number of states before it. -/
theorem total_visits_entered {e : Engine} {n : Nat} {s t : Scene} {earlier later : List Scene}
    (h : e.entered n s = earlier ++ t :: later) :
    t.visits.total = s.visits.total + earlier.length := by
  induction n generalizing s earlier with
  | zero => simp [entered] at h
  | succ n ih =>
    cases earlier with
    | nil =>
      rw [entered, List.nil_append] at h
      obtain rfl := (List.cons.inj h).1
      rfl
    | cons first earlier =>
      cases hending : (e.visit s).ending with
      | moved =>
        rw [entered_of_moved e n hending, List.cons_append] at h
        rw [ih (List.cons.inj h).2, total_visits_visit, List.length_cons]
        omega
      | finished => simp [entered_of_finished e n hending] at h
      | failed f => simp [entered_of_failed e n hending] at h

theorem total_visits_runFor (e : Engine) (n : Nat) (s : Scene) :
    (e.runFor n s).scene.visits.total = s.visits.total + (e.entered n s).length := by
  induction n generalizing s with
  | zero => rfl
  | succ n ih =>
    have hvisit := total_visits_visit e s
    cases hending : (e.visit s).ending with
    | finished =>
      rw [runFor_of_finished e n hending, entered_of_finished e n hending]
      exact hvisit
    | failed f =>
      rw [runFor_of_failed e n hending, entered_of_failed e n hending]
      exact hvisit
    | moved =>
      have hrest := ih (e.visit s).scene
      rw [runFor_of_moved e n hending, entered_of_moved e n hending, List.length_cons]
      show (e.runFor n (e.visit s).scene).scene.visits.total = _
      omega

/-- A run is endless exactly if it entered as many states as it may, and all of them led on. -/
theorem runFor_endless_iff (e : Engine) (n : Nat) (s : Scene) :
    (e.runFor n s).fault = some .endless ↔
      (e.entered n s).length = n ∧ ∀ t ∈ e.entered n s, (e.visit t).ending = .moved := by
  induction n generalizing s with
  | zero => exact ⟨fun _ => ⟨rfl, List.forall_mem_nil _⟩, fun _ => rfl⟩
  | succ n ih =>
    cases hending : (e.visit s).ending with
    | finished =>
      rw [runFor_of_finished e n hending, entered_of_finished e n hending,
        List.forall_mem_singleton, hending]
      exact ⟨nofun, nofun⟩
    | failed f =>
      rw [runFor_of_failed e n hending, entered_of_failed e n hending,
        List.forall_mem_singleton, hending]
      refine ⟨fun h => ?_, nofun⟩
      obtain rfl := Option.some.inj h
      exact absurd hending (not_endless_visit e s)
    | moved =>
      rw [runFor_of_moved e n hending, entered_of_moved e n hending, List.length_cons,
        List.forall_mem_cons]
      show (e.runFor n (e.visit s).scene).fault = some .endless ↔ _
      rw [ih, Nat.add_right_cancel_iff]
      exact ⟨fun h => ⟨h.1, hending, h.2⟩, fun h => ⟨h.1, h.2.2⟩⟩

/-- A state that is entered and fails is the last, and the run fails as it does. -/
theorem runFor_of_mem_entered {e : Engine} {n : Nat} {s t : Scene} {f : RunFault}
    (ht : t ∈ e.entered n s) (hfailed : (e.visit t).ending = .failed f) :
    (e.runFor n s).fault = some f ∧ (e.runFor n s).scene = (e.visit t).scene := by
  induction n generalizing s with
  | zero => cases ht
  | succ n ih =>
    cases hending : (e.visit s).ending with
    | finished =>
      rw [entered_of_finished e n hending] at ht
      obtain rfl := List.mem_singleton.1 ht
      cases hending.symm.trans hfailed
    | failed g =>
      rw [entered_of_failed e n hending] at ht
      obtain rfl := List.mem_singleton.1 ht
      rw [runFor_of_failed e n hfailed]
      exact ⟨rfl, rfl⟩
    | moved =>
      rw [entered_of_moved e n hending] at ht
      rw [runFor_of_moved e n hending]
      rcases List.mem_cons.1 ht with rfl | hlater
      · cases hending.symm.trans hfailed
      · exact ih hlater

end Engine

/-! ## Runs one after another -/

/-- A run to be made: the answers that the user will give, and what surrounds the run. -/
structure Call where
  answers : List Value
  world : World

/-- The scene with which the run begins. -/
def Call.scene (c : Call) (standing : EngineState) : Scene :=
  { standing with buffer := [], answers := c.answers, world := c.world }

namespace Engine

/-- Where a conversation can stand after runs one after another.  A run may have been broken off in
any state that it had entered, whatever the variables were at that moment. -/
inductive Reached (e : Engine) (first : EngineState) : EngineState → Prop
  | start : Reached e first first
  | run {standing : EngineState} (call : Call) (earlier : Reached e first standing) :
    Reached e first (e.run (call.scene standing)).scene.toEngineState
  | brokenOff {standing moment : EngineState} {t : Scene} (call : Call)
    (earlier : Reached e first standing) (ht : t ∈ e.entered visitLimit (call.scene standing))
    (hplace : moment.place = t.place) (hvisits : moment.visits = (enter t).visits) :
    Reached e first moment

section start

variable {script : Script} {name : Text} {ctx : Context} {source : Classifier.Source}
  {wanted : Bool} {opening : Opening}

/-- A conversation begins with the first state of a flow of the script. -/
theorem exists_of_start (h : start script name ctx source wanted = .ok opening) :
    ∃ flow first rest, script.flow? name = some flow ∧ flow.states = first :: rest ∧
      opening = ⟨⟨flow, (source.make? wanted).1⟩, ⟨first.name, [], ctx, none⟩,
        (source.make? wanted).2⟩ := by
  unfold start at h
  split at h
  · cases h
  · next flow hflow =>
    split at h
    · cases h
    · next first rest hstates =>
      exact ⟨flow, first, rest, hflow, hstates, (Except.ok.inj h).symm⟩

theorem within_start (h : start script name ctx source wanted = .ok opening) :
    opening.standing.Within opening.engine.flow := by
  obtain ⟨flow, first, rest, -, hstates, rfl⟩ := exists_of_start h
  refine ⟨?_, List.forall_mem_nil _⟩
  simp [Flow.has, Flow.state?, hstates]

end start

theorem within_of_reached {e : Engine} {first standing : EngineState} (hfirst : first.Within e.flow)
    (h : e.Reached first standing) : standing.Within e.flow := by
  induction h with
  | start => exact hfirst
  | @run standing call _ ih => exact (within_runFor (s := call.scene standing) ih visitLimit).1
  | @brokenOff standing moment t call _ ht hplace hvisits ih =>
    have hentered := within_enter
      ((within_runFor (s := call.scene standing) ih visitLimit).2 t ht)
    refine ⟨?_, ?_⟩
    · rw [hplace]
      exact hentered.place
    · rw [hvisits]
      exact hentered.visits

/-- What holds of a run, and of the states that it enters. -/
structure Bounded (e : Engine) (s : Scene) : Prop where
  /-- Whenever the run enters a state, it stands within the flow. -/
  entering : ∀ t ∈ e.entered visitLimit s, t.toEngineState.Within e.flow
  /-- It does so at its end, however it ends. -/
  ending : (e.run s).scene.toEngineState.Within e.flow
  /-- The run does what the visits to these states do, one after another. -/
  trace : (e.run s).trace =
    (e.entered visitLimit s).flatMap fun t => (e.visit t).events.map (Entry.mk t.place)
  /-- A jump to a state that the flow does not have fails, and the state stays the same. -/
  missing : ∀ t ∈ e.entered visitLimit s, ∀ target,
    (Action.runAll (e.flow.actionsAt t.place) (enter t)).outcome = .jump target →
      e.flow.has target = false →
        (e.run s).fault = some (.missingState target) ∧ (e.run s).scene.place = t.place
  /-- The number of states is limited. -/
  length_le : (e.entered visitLimit s).length ≤ 2000
  /-- When the run enters a state, the sum of the counts has grown by the states before. -/
  counted : ∀ earlier t later, e.entered visitLimit s = earlier ++ t :: later →
    t.visits.total = s.visits.total + earlier.length
  /-- At its end the sum has grown by the number of states. -/
  total : (e.run s).scene.visits.total = s.visits.total + (e.entered visitLimit s).length
  /-- Too many states were entered exactly if the limit was reached and every state led to another
  state of the flow. -/
  endless_iff : (e.run s).fault = some .endless ↔
    (e.entered visitLimit s).length = 2000 ∧
      ∀ t ∈ e.entered visitLimit s,
        (e.visit t).ending = .moved ∧ e.flow.has (e.visit t).scene.place = true

theorem bounded_of_within {e : Engine} {s : Scene} (h : s.toEngineState.Within e.flow) :
    e.Bounded s where
  entering := (within_runFor h visitLimit).2
  ending := (within_runFor h visitLimit).1
  trace := trace_runFor e visitLimit s
  missing := by
    intro t ht target hjump hmissing
    obtain ⟨hfailed, hplace⟩ := visit_of_missing hjump hmissing
    obtain ⟨hfault, hscene⟩ := runFor_of_mem_entered ht hfailed
    refine ⟨hfault, ?_⟩
    rw [run, hscene, hplace]
  length_le := length_entered_le e visitLimit s
  counted _ _ _ h := total_visits_entered h
  total := total_visits_runFor e visitLimit s
  endless_iff := by
    rw [run, runFor_endless_iff]
    refine and_congr_right fun _ => forall₂_congr fun t _ => ?_
    exact ⟨fun hmoved => ⟨hmoved, (place_visit e t).1 hmoved⟩, fun hmoved => hmoved.1⟩

/-- However often a flow that could be started has been run, with whatever answers, files and
replies of the service, and however these runs have ended: the present state and all states that
were counted are states of the flow, and the next run is bounded. -/
theorem run_bounded {script : Script} {name : Text} {ctx : Context} {source : Classifier.Source}
    {wanted : Bool} {opening : Opening} {standing : EngineState}
    (h : start script name ctx source wanted = .ok opening)
    (hreached : opening.engine.Reached opening.standing standing) (call : Call) :
    standing.Within opening.engine.flow ∧ opening.engine.Bounded (call.scene standing) := by
  have hstanding := within_of_reached (within_start h) hreached
  exact ⟨hstanding, bounded_of_within hstanding⟩

/-- A flow that leads to a state that it does not have. -/
def missingTarget : Script :=
  ⟨[⟨"main".toList, [
      ⟨"start".toList, [.ask "name".toList "Name?".toList, .goto "nowhere".toList]⟩]⟩]⟩

/-- The beginning of a conversation with the flow. -/
def missingTargetOpening : Opening :=
  ⟨⟨⟨"main".toList, [
      ⟨"start".toList, [.ask "name".toList "Name?".toList, .goto "nowhere".toList]⟩]⟩, none⟩,
    ⟨"start".toList, [], [], none⟩, []⟩

/-- A run with these answers, without files, whose service never replies. -/
def callWith (answers : List Value) : Call := ⟨answers, [], [], .failed []⟩

/-- A run that waits, and a second that has the answer and fails. -/
theorem run_bounded_missingTarget :
    start missingTarget "main".toList [] ⟨false, none⟩ false = .ok missingTargetOpening ∧
      ∃ standing, missingTargetOpening.engine.Reached missingTargetOpening.standing standing ∧
        standing.visits.total = 1 ∧
        ∃ r : Run,
          r = missingTargetOpening.engine.run ((callWith [.text "Bob".toList]).scene standing) ∧
          r.fault = some (.missingState "nowhere".toList) ∧ r.scene.place = "start".toList ∧
          r.scene.visits.total = 2 := by
  have hstart :
      start missingTarget "main".toList [] ⟨false, none⟩ false = .ok missingTargetOpening := rfl
  have hfirst : missingTargetOpening.engine.Reached missingTargetOpening.standing
      missingTargetOpening.standing := .start
  have hreached := Reached.run (callWith []) hfirst
  obtain ⟨-, hbounded⟩ := run_bounded hstart hreached (callWith [.text "Bob".toList])
  refine ⟨hstart, _, hreached, rfl, _, rfl, ?_⟩
  obtain ⟨hfault, hplace⟩ := hbounded.missing _ List.mem_cons_self "nowhere".toList rfl rfl
  exact ⟨hfault, hplace, hbounded.total⟩

end Engine
end Dialogue
