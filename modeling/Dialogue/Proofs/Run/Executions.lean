import Dialogue.Proofs.Run.Bounds
set_option autoImplicit false

/-!
# Executions of simple actions

Whatever a run does to the variables and the files, it does by simple actions, those that hold no
other actions.  An execution is a simple action that a run executes, with the scene that it meets.
What every single execution keeps, given the executions before it, lists of actions keep
(`Action.history_runAll`) and runs keep (`Engine.history_runFor`).  The executions of a run account
for all that it does to the variables and the files (`Engine.linked_executions`).
-/

namespace Dialogue

/-- A simple action that is executed, and the scene that it meets. -/
structure Execution where
  action : Action
  scene : Scene

/-- What the execution leaves behind. -/
def Execution.report (d : Execution) : Report := d.action.run d.scene

namespace Action

/-! ## Simple actions -/

mutual

/-- The simple actions in an action, at any depth. -/
def leaves : Action → List Action
  | chain branches otherwise => leavesOfBranches branches ++ leavesOfOtherwise otherwise
  | compare _ _ _ body otherwise => leavesOfAll body ++ leavesOfAll otherwise
  | a => [a]

/-- The simple actions in actions. -/
def leavesOfAll : List Action → List Action
  | [] => []
  | a :: rest => leaves a ++ leavesOfAll rest

/-- The simple actions in branches. -/
def leavesOfBranches : List (Text × List Action) → List Action
  | [] => []
  | b :: rest => leavesOfBranch b ++ leavesOfBranches rest

/-- The simple actions in a branch. -/
def leavesOfBranch : Text × List Action → List Action
  | (_, actions) => leavesOfAll actions

/-- The simple actions in the other actions of a chain. -/
def leavesOfOtherwise : Option (List Action) → List Action
  | none => []
  | some actions => leavesOfAll actions

end

theorem leavesOfBranch_subset {b : Branch} {branches : List Branch} (h : b ∈ branches) :
    leavesOfAll b.2 ⊆ leavesOfBranches branches := by
  induction branches with
  | nil => cases h
  | cons b' rest ih =>
    obtain ⟨condition, actions⟩ := b'
    rw [leavesOfBranches, leavesOfBranch]
    rcases List.mem_cons.1 h with rfl | hmem
    · exact List.subset_append_left _ _
    · exact List.Subset.trans (ih hmem) (List.subset_append_right _ _)

/-- The simple actions in the lists within an action are in the action. -/
theorem leavesOfAll_subset {a : Action} {body : List Action} (h : body ∈ a.bodies) :
    leavesOfAll body ⊆ leaves a := by
  cases a with
  | chain branches otherwise =>
    rw [leaves]
    rcases List.mem_cons.1 h with rfl | hmem
    · cases otherwise with
      | none => exact List.nil_subset _
      | some actions => exact List.subset_append_right _ _
    · obtain ⟨b, hb, rfl⟩ := List.mem_map.1 hmem
      exact List.Subset.trans (leavesOfBranch_subset hb) (List.subset_append_left _ _)
  | compare left sign right yes no =>
    rw [leaves]
    obtain rfl | rfl : body = yes ∨ body = no := by simpa [bodies] using h
    · exact List.subset_append_left _ _
    · exact List.subset_append_right _ _
  | _ => cases h

/-! ## What actions do one by one -/

mutual

/-- The executions of an action. -/
def executions : Action → Scene → List Execution
  | chain branches otherwise, s =>
    (executionsOfBranches branches s).getD (executionsOfOtherwise otherwise s)
  | compare left sign right body otherwise, s =>
    match do (← Expr.evalText s.ctx left).compareBy sign (← Expr.evalText s.ctx right) with
    | .ok true => executionsOfAll body s
    | .ok false => executionsOfAll otherwise s
    | .error _ => []
  | a, s => [⟨a, s⟩]

/-- The executions of actions, until one of them jumps or fails. -/
def executionsOfAll : List Action → Scene → List Execution
  | [], _ => []
  | a :: rest, s =>
    match (run a s).outcome with
    | .proceed => executions a s ++ executionsOfAll rest (run a s).scene
    | _ => executions a s

/-- The executions of the first branch whose condition holds; none if no condition does. -/
def executionsOfBranches : List (Text × List Action) → Scene → Option (List Execution)
  | [], _ => none
  | b :: rest, s =>
    match executionsOfBranch b s with
    | some ds => some ds
    | none => executionsOfBranches rest s

/-- The executions of a branch, if its condition holds. -/
def executionsOfBranch : Text × List Action → Scene → Option (List Execution)
  | (condition, actions), s =>
    match Expr.holdsText s.ctx condition with
    | .ok true => some (executionsOfAll actions s)
    | .ok false => none
    | .error _ => some []

/-- The executions for the case that no condition holds. -/
def executionsOfOtherwise : Option (List Action) → Scene → List Execution
  | none, _ => []
  | some actions, s => executionsOfAll actions s

end

theorem executions_chain (branches : List Branch) (otherwise : Option (List Action)) (s : Scene) :
    executions (chain branches otherwise) s =
      match selected s.ctx otherwise branches with
      | .ok actions => executionsOfAll actions s
      | .error _ => [] := by
  rw [executions]
  induction branches with
  | nil => cases otherwise <;> rfl
  | cons b rest ih =>
    obtain ⟨condition, actions⟩ := b
    rw [executionsOfBranches, executionsOfBranch, selected]
    cases h : Expr.holdsText s.ctx condition with
    | error f => rfl
    | ok holds =>
      cases holds with
      | true => rfl
      | false => exact ih

/-- An action is simple, or it executes one of the lists that it holds, or an evaluation fails
before it has done anything. -/
theorem executions_cases (a : Action) (s : Scene) :
    (a.bodies = [] ∧ a.leaves = [a] ∧ a.executions s = [⟨a, s⟩]) ∨
      (∃ body ∈ a.bodies, a.run s = runAll body s ∧ a.executions s = executionsOfAll body s) ∨
      ∃ f, a.run s = s.fail (.eval f) ∧ a.executions s = [] := by
  cases a with
  | chain branches otherwise =>
    rw [run_chain, executions_chain]
    cases h : selected s.ctx otherwise branches with
    | error f => exact .inr (.inr ⟨_, rfl, rfl⟩)
    | ok actions => exact .inr (.inl ⟨actions, selected_mem_bodies h, rfl, rfl⟩)
  | compare left sign right body otherwise =>
    rw [run, executions]
    cases Expr.evalText s.ctx left with
    | error f => exact .inr (.inr ⟨_, rfl, rfl⟩)
    | ok l =>
      cases Expr.evalText s.ctx right with
      | error f => exact .inr (.inr ⟨_, rfl, rfl⟩)
      | ok r =>
        simp only [Scene.evaluated, bind, Except.bind]
        cases l.compareBy sign r with
        | error f => exact .inr (.inr ⟨_, rfl, rfl⟩)
        | ok holds =>
          cases holds with
          | true => exact .inr (.inl ⟨body, by simp [bodies], rfl, rfl⟩)
          | false => exact .inr (.inl ⟨otherwise, by simp [bodies], rfl, rfl⟩)
  | _ => exact .inl ⟨rfl, rfl, rfl⟩

/-- What every execution keeps, given the executions before it, a list of actions keeps. -/
theorem history_runAll {H : List Execution → Scene → Prop} {actions : List Action}
    (hstep : ∀ past a s, a.bodies = [] → a ∈ leavesOfAll actions → H past s →
      H (past ++ [⟨a, s⟩]) (a.run s).scene)
    {past : List Execution} {s : Scene} (h : H past s) :
    H (past ++ executionsOfAll actions s) (runAll actions s).scene := by
  induction actions using list_induct generalizing past s with
  | nil =>
    rw [executionsOfAll, List.append_nil]
    exact h
  | cons a rest hbodies hrest =>
    have hfirst : H (past ++ a.executions s) (a.run s).scene := by
      rcases executions_cases a s with
        ⟨hsimple, hleaves, hexecutions⟩ | ⟨body, hbody, hrun, hexecutions⟩ | ⟨f, hrun, hexecutions⟩
      · rw [hexecutions]
        refine hstep past a s hsimple ?_ h
        rw [leavesOfAll, hleaves]
        exact List.mem_cons_self
      · rw [hexecutions, hrun]
        refine hbodies body hbody (fun past b t hsimple hb => ?_) h
        exact hstep past b t hsimple (List.mem_append_left _ (leavesOfAll_subset hbody hb))
      · rw [hexecutions, hrun, List.append_nil]
        exact h
    rw [executionsOfAll, runAll_cons]
    cases hout : (a.run s).outcome with
    | proceed =>
      rw [← List.append_assoc]
      refine hrest (fun past b t hsimple hb => ?_) hfirst
      exact hstep past b t hsimple (List.mem_append_right _ hb)
    | jump target => exact hfirst
    | fail f => exact hfirst

/-- Every execution is that of a simple action in the list. -/
theorem simple_of_mem_executionsOfAll {actions : List Action} {s : Scene} {d : Execution}
    (h : d ∈ executionsOfAll actions s) :
    d.action.bodies = [] ∧ d.action ∈ leavesOfAll actions := by
  have hall : ∀ d ∈ [] ++ executionsOfAll actions s,
      d.action.bodies = [] ∧ d.action ∈ leavesOfAll actions := by
    refine history_runAll
      (H := fun past _ => ∀ d ∈ past, d.action.bodies = [] ∧ d.action ∈ leavesOfAll actions)
      ?_ (List.forall_mem_nil _)
    intro past a t hsimple ha hpast d hd
    rcases List.mem_append.1 hd with hd | hd
    · exact hpast d hd
    · rw [List.mem_singleton.1 hd]
      exact ⟨hsimple, ha⟩
  exact hall d h

end Action

/-! ## What a simple action changes -/

/-- What holds of a failure and of every way to go on holds of the report. -/
theorem Scene.evaluated_induct {α : Type} {P : Report → Prop} {s : Scene}
    {r : Except EvalFault α} {k : α → Report} (hfail : ∀ f, P (s.fail f)) (hk : ∀ a, P (k a)) :
    P (s.evaluated r k) := by
  cases r with
  | error f => exact hfail _
  | ok a => exact hk a

theorem Scene.world_ask (s : Scene) (var prompt : Text) :
    (s.ask var prompt).scene.world = s.world := by
  unfold Scene.ask
  split <;> rfl

namespace Action

/-- Only saving changes what surrounds a conversation. -/
theorem world_run {a : Action} (hsimple : a.bodies = []) (hsave : ∀ var path, a ≠ save var path)
    (s : Scene) : (a.run s).scene.world = s.world := by
  have hevaluated {α : Type} (r : Except EvalFault α) (k : α → Report)
      (hk : ∀ x, (k x).scene.world = s.world) : (s.evaluated r k).scene.world = s.world :=
    Scene.evaluated_induct (P := fun r => r.scene.world = s.world) (fun _ => rfl) hk
  cases a with
  | reply text => exact hevaluated _ _ fun _ => rfl
  | goto target => rfl
  | ask var prompt => exact s.world_ask var prompt
  | set var value => rfl
  | setExpr var expr => exact hevaluated _ _ fun _ => rfl
  | ifGoto left right target =>
    refine hevaluated _ _ fun t => ?_
    split <;> rfl
  | save var path => exact absurd rfl (hsave var path)
  | load var path =>
    rw [run, Scene.load]
    split <;> rfl
  | chain branches otherwise => cases hsimple
  | compare left sign right body otherwise => cases hsimple
  | unknown kind => rfl

end Action

/-! ## The executions of a run -/

/-- The simple actions in the states of a flow. -/
def Flow.leaves (f : Flow) : List Action := f.states.flatMap fun s => Action.leavesOfAll s.actions

theorem Flow.leavesOfAll_actionsAt (f : Flow) (name : Text) :
    Action.leavesOfAll (f.actionsAt name) ⊆ f.leaves := by
  intro a ha
  unfold Flow.actionsAt at ha
  cases hstate : f.state? name with
  | none =>
    rw [hstate] at ha
    cases ha
  | some state =>
    rw [hstate] at ha
    exact List.mem_flatMap.2 ⟨state, List.mem_of_find?_eq_some hstate, ha⟩

namespace Engine

/-- The second scene has the variables, the answers and the files of the first, and without a
classifier also its service. -/
structure Carries (e : Engine) (s t : Scene) : Prop where
  ctx : t.ctx = s.ctx
  answers : t.answers = s.answers
  disk : t.world.disk = s.world.disk
  service : e.classifier = none → t.world.service = s.world.service

theorem carries_move (e : Engine) (target : Text) (s : Scene) (events : List Event) :
    e.Carries s (e.move target s events).scene := by
  unfold move
  split
  · exact ⟨rfl, rfl, rfl, fun _ => rfl⟩
  · exact ⟨rfl, rfl, rfl, fun _ => rfl⟩

theorem carries_fallBack (e : Engine) (s : Scene) (events : List Event) :
    e.Carries s (e.fallBack s events).scene := by
  unfold fallBack
  split
  · exact carries_move e _ s events
  · exact ⟨rfl, rfl, rfl, fun _ => rfl⟩

theorem Carries.trans {e : Engine} {s t u : Scene} (h : e.Carries s t) (h' : e.Carries t u) :
    e.Carries s u where
  ctx := h'.ctx.trans h.ctx
  answers := h'.answers.trans h.answers
  disk := h'.disk.trans h.disk
  service hnone := (h'.service hnone).trans (h.service hnone)

theorem carries_follow {e : Engine} {c : Classifier} (hc : e.classifier = some c) (var : Text)
    (s : Scene) (events : List Event) : e.Carries s (e.follow c var s events).scene := by
  rw [follow]
  generalize c.classify s.world.service (s.value var) e.flow.names [s.place] = inquiry
  have hserved : e.Carries s { s with world := { s.world with service := inquiry.service } } :=
    ⟨rfl, rfl, rfl, fun hnone => by cases hc.symm.trans hnone⟩
  unfold routeBy
  split
  · exact hserved
  · dsimp only
    split
    · exact hserved.trans (carries_move e _ _ _)
    · exact hserved.trans (carries_fallBack e _ _)
  · exact hserved.trans (carries_fallBack e _ _)

theorem carries_route (e : Engine) (var : Text) (s : Scene) (events : List Event) :
    e.Carries s (e.route var s events).scene := by
  unfold route
  split
  · next c hc =>
    split
    · exact carries_fallBack e s events
    · exact carries_follow hc var s events
  · exact carries_fallBack e s events

/-- What comes after the actions of a state changes neither variables nor files. -/
theorem carries_conclude (e : Engine) (r : Report) : e.Carries r.scene (e.conclude r).scene := by
  have hflushed : e.Carries r.scene { r.scene with buffer := [] } :=
    ⟨rfl, rfl, rfl, fun _ => rfl⟩
  unfold conclude
  split
  · exact ⟨rfl, rfl, rfl, fun _ => rfl⟩
  · exact hflushed.trans (carries_move e _ _ _)
  · dsimp only
    split
    · exact hflushed
    · exact hflushed.trans (carries_route e _ _ _)

/-- The executions of a run: those of the states that it enters, one after another. -/
def executions (e : Engine) (n : Nat) (s : Scene) : List Execution :=
  (e.entered n s).flatMap fun t => Action.executionsOfAll (e.flow.actionsAt t.place) (enter t)

theorem simple_of_mem_executions {e : Engine} {n : Nat} {s : Scene} {d : Execution}
    (h : d ∈ e.executions n s) :
    d.action.bodies = [] ∧ d.action ∈ e.flow.leaves := by
  obtain ⟨t, -, hd⟩ := List.mem_flatMap.1 h
  obtain ⟨hsimple, hleaf⟩ := Action.simple_of_mem_executionsOfAll hd
  exact ⟨hsimple, e.flow.leavesOfAll_actionsAt t.place hleaf⟩

section history

variable {e : Engine} {H : List Execution → Scene → Prop}

theorem history_visit
    (hstep : ∀ past a s, a.bodies = [] → a ∈ e.flow.leaves → H past s →
      H (past ++ [⟨a, s⟩]) (a.run s).scene)
    (hcarry : ∀ past s t, e.Carries s t → H past s → H past t) {past : List Execution} {s : Scene}
    (h : H past s) :
    H (past ++ Action.executionsOfAll (e.flow.actionsAt s.place) (enter s)) (e.visit s).scene := by
  rw [visit_eq_conclude]
  refine hcarry _ _ _ (carries_conclude e _) (Action.history_runAll ?_ ?_)
  · intro past a t hsimple ha
    exact hstep past a t hsimple (e.flow.leavesOfAll_actionsAt s.place ha)
  · exact hcarry past s (enter s) ⟨rfl, rfl, rfl, fun _ => rfl⟩ h

/-- What every execution of a simple action of the flow keeps, given the executions before it, a run
keeps. -/
theorem history_runFor
    (hstep : ∀ past a s, a.bodies = [] → a ∈ e.flow.leaves → H past s →
      H (past ++ [⟨a, s⟩]) (a.run s).scene)
    (hcarry : ∀ past s t, e.Carries s t → H past s → H past t) (n : Nat) (past : List Execution)
    {s : Scene} (h : H past s) : H (past ++ e.executions n s) (e.runFor n s).scene := by
  induction n generalizing past s with
  | zero =>
    rw [executions, entered, List.flatMap_nil, List.append_nil]
    exact h
  | succ n ih =>
    have hvisit := history_visit hstep hcarry h
    cases hending : (e.visit s).ending with
    | finished =>
      rw [runFor_of_finished e n hending, executions, entered_of_finished e n hending,
        List.flatMap_singleton]
      exact hvisit
    | failed f =>
      rw [runFor_of_failed e n hending, executions, entered_of_failed e n hending,
        List.flatMap_singleton]
      exact hvisit
    | moved =>
      rw [runFor_of_moved e n hending, executions, entered_of_moved e n hending, List.flatMap_cons,
        ← List.append_assoc]
      exact ih _ hvisit

/-- What every execution keeps, a run keeps. -/
theorem invariant_runFor {P : Scene → Prop}
    (hstep : ∀ a s, a.bodies = [] → a ∈ e.flow.leaves → P s → P (a.run s).scene)
    (hcarry : ∀ s t, e.Carries s t → P s → P t) (n : Nat) {s : Scene} (h : P s) :
    P (e.runFor n s).scene :=
  history_runFor (H := fun _ s => P s) (fun _ => hstep) (fun _ => hcarry) n [] h

end history

/-- The executions lead from one scene to another: each meets the variables, the answers and the
files that the one before it has left. -/
def Linked (e : Engine) : Scene → List Execution → Scene → Prop
  | s, [], t => e.Carries s t
  | s, d :: rest, t => e.Carries s d.scene ∧ e.Linked d.report.scene rest t

theorem Linked.carry {e : Engine} {s t u : Scene} {executions : List Execution}
    (h : e.Linked s executions t)
    (hcarries : e.Carries t u) : e.Linked s executions u := by
  induction executions generalizing s with
  | nil => exact h.trans hcarries
  | cons d rest ih => exact ⟨h.1, ih h.2⟩

theorem Linked.concat {e : Engine} {s t : Scene} {executions : List Execution}
    (h : e.Linked s executions t)
    (a : Action) : e.Linked s (executions ++ [⟨a, t⟩]) (a.run t).scene := by
  induction executions generalizing s with
  | nil => exact ⟨h, rfl, rfl, rfl, fun _ => rfl⟩
  | cons d rest ih => exact ⟨h.1, ih h.2⟩

/-- The executions account for all that a run does to the variables and the files. -/
theorem linked_executions (e : Engine) (n : Nat) (s : Scene) :
    e.Linked s (e.executions n s) (e.runFor n s).scene := by
  have hstart : e.Linked s [] s := ⟨rfl, rfl, rfl, fun _ => rfl⟩
  refine history_runFor (H := e.Linked s) ?_ ?_ n [] hstart
  · intro past a t _ _ h
    exact h.concat a
  · intro past t u hcarries h
    exact h.carry hcarries

end Engine
end Dialogue
