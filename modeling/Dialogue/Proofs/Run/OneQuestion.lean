import Dialogue.Proofs.Run.Visits
set_option autoImplicit false

/-!
# Flows that ask once per state

If nothing but replies comes before the question of a state, a run that waits there has changed
nothing since it entered the state.  It waits there again if it enters the state once more, and with
an answer it goes on as if it had had the answer at once.
-/

namespace Dialogue

/-- The actions ask at most once, not within a chain, and after nothing but replies. -/
def Action.asksOnce : List Action → Bool
  | [] => true
  | .reply _ :: rest => asksOnce rest
  | .ask _ _ :: rest => (questionsOfAll rest).isEmpty
  | a :: rest => (questionsOfAll (a :: rest)).isEmpty

/-- Every state of the flow asks at most once. -/
def Flow.asksOnce (f : Flow) : Bool := f.states.all fun state => Action.asksOnce state.actions

theorem Flow.asksOnce_actionsAt {f : Flow} (h : f.asksOnce = true) (name : Text) :
    Action.asksOnce (f.actionsAt name) = true := by
  rw [actionsAt]
  cases hstate : f.state? name with
  | none => rfl
  | some state =>
    have hmem : state ∈ f.states := List.mem_of_find?_eq_some hstate
    exact List.all_eq_true.1 h state hmem

/-- Actions without questions do not wait. -/
theorem Action.question?_runAll_of_isEmpty {actions : List Action}
    (h : (questionsOfAll actions).isEmpty = true) (s : Scene) :
    (runAll actions s).outcome.question? = none := by
  cases hq : (runAll actions s).outcome.question? with
  | none => rfl
  | some q =>
    have hmem := ((runAll_consumesAnswers actions s).waiting hq).2
    rw [List.isEmpty_iff.1 h] at hmem
    cases hmem

/-- Actions that ask at most once wait only if there were no answers, and have done nothing then. -/
theorem Action.runAll_waiting_of_asksOnce {actions : List Action} (h : asksOnce actions = true)
    {s : Scene} {q : Question} (hq : (runAll actions s).outcome.question? = some q) :
    s.answers = [] ∧ (runAll actions s).scene.ctx = s.ctx ∧
      (runAll actions s).scene.world = s.world := by
  fun_induction asksOnce actions generalizing s with
  | case1 => cases hq
  | case2 text rest ih =>
    rw [runAll_cons_eq_andThen, run_eq_apply, effect, Effect.apply_evaluated] at hq ⊢
    cases hline : text.interpolate s.ctx with
    | error f => rw [hline] at hq; cases hq
    | ok line =>
      rw [hline] at hq
      exact ih h hq
  | case3 var prompt rest =>
    have hrun : run (.ask var prompt) s = s.ask var prompt := rfl
    rw [runAll_cons_eq_andThen, hrun, Scene.ask] at hq ⊢
    cases hanswers : s.answers with
    | nil => exact ⟨rfl, rfl, rfl⟩
    | cons v answers =>
      -- the answer is given, and nothing is asked after it
      rw [hanswers] at hq
      have hnone := question?_runAll_of_isEmpty h
        { s with buffer := [], answers := answers, ctx := Assoc.put var v s.ctx, asked := some var }
      cases hnone.symm.trans hq
  | case4 a rest =>
    rw [question?_runAll_of_isEmpty h s] at hq
    cases hq

namespace Engine

/-- A visit that waits has left the scene as it was when the state was entered. -/
theorem visit_waiting_of_asksOnce {e : Engine} (h : e.flow.asksOnce = true) {s : Scene}
    {q : Question} (hq : (e.visit s).ending.question? = some q) :
    s.Agrees [] (e.visit s).scene := by
  obtain ⟨hleft, hplace, -⟩ := visit_waiting e hq
  rw [visit_eq_conclude, (conclude_keeps e _).2.2.2] at hq
  obtain ⟨hanswers, hctx, hworld⟩ :=
    Action.runAll_waiting_of_asksOnce (Flow.asksOnce_actionsAt h s.place) hq
  have hscene : (e.visit s).scene = (Action.runAll (e.flow.actionsAt s.place) (enter s)).scene := by
    rw [visit_eq_conclude]
    cases hout : (Action.runAll (e.flow.actionsAt s.place) (enter s)).outcome with
    | fail f => rw [conclude_of_fail e hout]
    | _ => rw [hout] at hq; cases hq
  refine ⟨hplace, ?_, ?_, ?_⟩
  · rw [hscene]
    exact hctx
  · rw [hscene]
    exact hworld
  · rw [hleft, List.append_nil]
    exact hanswers.symm

/-- After earlier entries, the run goes on from the second scene, with its own bound. -/
def Continues (e : Engine) (earlier : List Entry) (n : Nat) (s : Scene) (m : Nat) (t : Scene) :
    Prop :=
  e.runFor n s = { e.runFor m t with trace := earlier ++ (e.runFor m t).trace }

theorem Continues.of_moved {e : Engine} {earlier : List Entry} {n m : Nat} {s t : Scene}
    (hmoved : (e.visit s).ending = .moved) (h : e.Continues earlier n (e.visit s).scene m t) :
    e.Continues ((e.visit s).events.map (Entry.mk s.place) ++ earlier) (n + 1) s m t := by
  rw [Continues] at h ⊢
  rw [runFor_of_moved e n hmoved, h, List.append_assoc]

/-- A run that waits does so in a state that it has entered.  With one answer more it goes on from
the same state, which it enters after the same entries. -/
theorem exists_entry {e : Engine} {n : Nat} {s : Scene} {q : Question}
    (hq : (e.runFor n s).question? = some q) :
    ∃ (m : Nat) (entry : Scene) (earlier : List Entry) (f : RunFault), m < n ∧
      (e.visit entry).ending = .failed f ∧ f.question? = some q ∧
      e.Continues earlier n s (m + 1) entry ∧
      ∀ (v : Value) (t : Scene), s.Agrees [v] t →
        ∃ entry', entry.Agrees [v] entry' ∧ e.Continues earlier n t (m + 1) entry' := by
  induction n generalizing s with
  | zero => cases hq
  | succ n ih =>
    cases hending : (e.visit s).ending with
    | finished => rw [runFor_of_finished e n hending] at hq; cases hq
    | failed f =>
      rw [runFor_of_failed e n hending] at hq
      exact ⟨n, s, [], f, Nat.lt_succ_self n, hending, hq, rfl, fun v t ht => ⟨t, ht, rfl⟩⟩
    | moved =>
      rw [runFor_of_moved e n hending] at hq
      obtain ⟨m, entry, earlier, f, hm, hfailed, hf, hself, hon⟩ := ih hq
      refine ⟨m, entry, _, f, Nat.lt_succ_of_lt hm, hfailed, hf, hself.of_moved hending,
        fun v t ht => ?_⟩
      rcases visit_follows e ht with ⟨hending', hevents, hscene⟩ | ⟨q', -, -, -, -, -, hq', -⟩
      · obtain ⟨entry', hagrees, hgoes⟩ := hon v _ hscene
        refine ⟨entry', hagrees, ?_⟩
        rw [← hevents, ← ht.place]
        exact hgoes.of_moved (hending'.trans hending)
      · rw [hending] at hq'
        cases hq'

/-- Alike scenes lead to the same run. -/
theorem run_of_agrees (e : Engine) {s t : Scene} (h : s.Agrees [] t) :
    (e.run t).fault = (e.run s).fault ∧ (e.run t).trace = (e.run s).trace ∧
      (e.run s).scene.Agrees [] (e.run t).scene := by
  rcases runFor_follows e visitLimit h with hsame | ⟨_, _, _, _, _, hfurther, _⟩
  · exact hsame
  · cases hfurther

/-- A run that waits has not changed anything since it entered the state.  If it begins anew where
it waits, it enters the same state: it waits there again, and with an answer it goes on as a run
that had the answer at once. -/
theorem exists_resumption {e : Engine} (h : e.flow.asksOnce = true) {s : Scene} {q : Question}
    (hq : (e.run s).question? = some q) :
    ∃ earlier : List Entry,
      (∀ t, (e.run s).scene.Agrees [] t →
        (e.run t).question? = some q ∧ (e.run s).trace = earlier ++ (e.run t).trace) ∧
      ∀ (v : Value) (s' t : Scene), s.Agrees [v] s' → (e.run s).scene.Agrees [v] t →
        (e.run s').fault ≠ some .endless →
        (e.run t).fault = (e.run s').fault ∧ (e.run s').scene.Agrees [] (e.run t).scene ∧
          (e.run s').trace = earlier ++ (e.run t).trace := by
  obtain ⟨m, entry, earlier, f, hm, hfailed, hf, hself, hon⟩ := exists_entry hq
  have hrun : e.run s = { e.run entry with trace := earlier ++ (e.run entry).trace } := by
    have hentry : e.run entry = e.runFor (m + 1) entry :=
      (runFor_of_failed e (visitLimit - 1) hfailed).trans (runFor_of_failed e m hfailed).symm
    rw [hentry]
    exact hself
  have hscene : (e.run entry).scene = (e.visit entry).scene :=
    congrArg Run.scene (runFor_of_failed e (visitLimit - 1) hfailed)
  have hagrees : entry.Agrees [] (e.run s).scene := by
    rw [hrun]
    show entry.Agrees [] (e.run entry).scene
    rw [hscene]
    exact visit_waiting_of_asksOnce h (q := q) (by rw [hfailed]; exact hf)
  refine ⟨earlier, fun t ht => ?_, fun v s' t hs' ht hend => ?_⟩
  · obtain ⟨hfault, htrace, -⟩ := run_of_agrees e (hagrees.trans ht)
    refine ⟨?_, ?_⟩
    · rw [Run.question?, hfault]
      rw [hrun] at hq
      exact hq
    · rw [htrace, hrun]
  · obtain ⟨entry', hagrees', hgoes⟩ := hon v s' hs'
    -- the bound that is left for the rest of the longer run does not restrict it
    have hrest : e.run entry' = e.runFor (m + 1) entry' := by
      refine runFor_eq_of_le e hm fun hendless => hend ?_
      rw [run, hgoes]
      exact hendless
    obtain ⟨hfault, htrace, hscene'⟩ := run_of_agrees e (hagrees'.of_both (hagrees.trans ht))
    have hrun' : e.run s' = { e.run entry' with trace := earlier ++ (e.run entry').trace } := by
      rw [hrest]
      exact hgoes
    rw [hrun', hfault, htrace]
    exact ⟨rfl, hscene', rfl⟩

/-- A run that waits does so again if it begins anew where it waits. -/
theorem run_waiting_again {e : Engine} (h : e.flow.asksOnce = true) {s t : Scene} {q : Question}
    (hq : (e.run s).question? = some q) (ht : (e.run s).scene.Agrees [] t) :
    (e.run t).question? = some q := by
  obtain ⟨earlier, hagain, -⟩ := exists_resumption h hq
  exact (hagain t ht).1

/-- A run that waits goes on, with a further answer, from where it waits. -/
theorem resume_concat_of_waiting {e : Engine} (h : e.flow.asksOnce = true) {standing : EngineState}
    {world : World} {answers : List Value} {q : Question} {v : Value} {t : Scene}
    (hq : (e.resume standing answers world).question? = some q)
    (ht : (e.resume standing answers world).scene.Agrees [v] t)
    (hend : (e.resume standing (answers ++ [v]) world).fault ≠ some .endless) :
    (e.run t).fault = (e.resume standing (answers ++ [v]) world).fault ∧
      (e.resume standing (answers ++ [v]) world).scene.Agrees [] (e.run t).scene := by
  obtain ⟨earlier, -, hon⟩ := exists_resumption h hq
  obtain ⟨hfault, hscene, -⟩ := hon v
    { standing with buffer := [], answers := answers ++ [v], world := world } t
    ⟨rfl, rfl, rfl, rfl⟩ ht hend
  exact ⟨hfault, hscene⟩

/-- A run that has become endless stays endless with further answers. -/
theorem not_endless_of_append (e : Engine) (standing : EngineState) (world : World)
    {answers further : List Value}
    (h : (e.resume standing (answers ++ further) world).fault ≠ some .endless) :
    (e.resume standing answers world).fault ≠ some .endless := by
  intro hendless
  rcases resume_follows e standing world answers further with
    ⟨hfault, -, -⟩ | ⟨q, -, -, -, -, -, hq, -⟩
  · exact h (hfault.trans hendless)
  · rw [Run.question?, hendless] at hq
    cases hq

end Engine
end Dialogue
