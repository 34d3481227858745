import Dialogue.Proofs.Run.Executions
set_option autoImplicit false

/-!
# Conditionals as inlined actions

A chain does what the actions do that it selects, put in its place.  What is selected depends on the
variables at this point only, and a list of actions is followed by another exactly if it neither
jumps nor fails, so chains can be replaced at every depth until only simple actions are left.  Main
statement: `Action.runAll_inline`.
-/

namespace Dialogue.Action

/-! ## What a chain selects -/

/-- Every condition of the branches has a truth, and none of them holds. -/
def NoneHolds (ctx : Context) (branches : List Branch) : Prop :=
  ∀ b ∈ branches, Expr.holdsText ctx b.1 = .ok false

/-- The actions are those of the first branch whose condition holds, or the other actions, if there
are any, when no condition does. -/
inductive Chooses (ctx : Context) (branches : List Branch) (others : Option (List Action)) :
    List Action → Prop
  | branch {before after : List Branch} {condition : Text} {body : List Action}
      (hbranches : branches = before ++ (condition, body) :: after)
      (hbefore : NoneHolds ctx before) (hholds : Expr.holdsText ctx condition = .ok true) :
      Chooses ctx branches others body
  | others (hnone : NoneHolds ctx branches) : Chooses ctx branches others (others.getD [])

/-- The first condition that is not simply false has no truth. -/
inductive Raises (ctx : Context) (branches : List Branch) (f : EvalFault) : Prop
  | branch {before after : List Branch} {condition : Text} {body : List Action}
      (hbranches : branches = before ++ (condition, body) :: after)
      (hbefore : NoneHolds ctx before) (hfails : Expr.holdsText ctx condition = .error f)

section selected

variable {ctx : Context} {branches : List Branch} {others : Option (List Action)}

theorem selected_of_noneHolds {before : List Branch} (h : NoneHolds ctx before)
    (rest : List Branch) :
    selected ctx others (before ++ rest) = selected ctx others rest := by
  induction before with
  | nil => rfl
  | cons b before ih =>
    obtain ⟨hb, hbefore⟩ := List.forall_mem_cons.1 h
    rw [List.cons_append, selected, hb]
    exact ih hbefore

theorem Chooses.selected {body : List Action} (h : Chooses ctx branches others body) :
    selected ctx others branches = .ok body := by
  cases h with
  | branch hbranches hbefore hholds =>
    rw [hbranches, selected_of_noneHolds hbefore, Action.selected, hholds]
    rfl
  | others hnone =>
    rw [← List.append_nil branches, selected_of_noneHolds hnone]
    rfl

theorem Raises.selected {f : EvalFault} (h : Raises ctx branches f) :
    selected ctx others branches = .error f := by
  obtain ⟨hbranches, hbefore, hfails⟩ := h
  rw [hbranches, selected_of_noneHolds hbefore, Action.selected, hfails]
  rfl

/-- A chain selects actions, or one of its conditions fails before any of them holds. -/
theorem chooses_or_raises (ctx : Context) (branches : List Branch)
    (others : Option (List Action)) :
    (∃ body, Chooses ctx branches others body) ∨ ∃ f, Raises ctx branches f := by
  -- the conditions before the present one do not hold
  suffices hfrom : ∀ before rest, branches = before ++ rest → NoneHolds ctx before →
      (∃ body, Chooses ctx branches others body) ∨ ∃ f, Raises ctx branches f from
    hfrom [] branches rfl (List.forall_mem_nil _)
  intro before rest
  induction rest generalizing before with
  | nil =>
    intro hbranches hbefore
    rw [List.append_nil] at hbranches
    exact .inl ⟨_, .others (hbranches ▸ hbefore)⟩
  | cons b rest ih =>
    obtain ⟨condition, body⟩ := b
    intro hbranches hbefore
    cases hcond : Expr.holdsText ctx condition with
    | error f => exact .inr ⟨f, .branch hbranches hbefore hcond⟩
    | ok holds =>
      cases holds with
      | true => exact .inl ⟨body, .branch hbranches hbefore hcond⟩
      | false =>
        refine ih (before ++ [(condition, body)]) ?_ ?_
        · rw [hbranches, List.append_assoc]
          rfl
        · intro b hb
          rcases List.mem_append.1 hb with hb | hb
          · exact hbefore b hb
          · rw [List.mem_singleton.1 hb]
            exact hcond

end selected

/-! ## Simple actions only -/

theorem runAll_singleton (a : Action) (s : Scene) : runAll [a] s = run a s := by
  rw [runAll_cons]
  cases h : (run a s).outcome with
  | proceed =>
    show Report.after (run a s).events ⟨.proceed, (run a s).scene, []⟩ = run a s
    rw [Report.after, List.append_nil, ← h]
  | jump target => rfl
  | fail f => rfl

theorem runAll_append_of_proceed {xs : List Action} {s : Scene}
    (h : (runAll xs s).outcome = .proceed) (ys : List Action) :
    runAll (xs ++ ys) s = (runAll ys (runAll xs s).scene).after (runAll xs s).events := by
  rw [runAll_append, h]

theorem runAll_append_of_ne {xs : List Action} {s : Scene}
    (h : (runAll xs s).outcome ≠ .proceed) (ys : List Action) :
    runAll (xs ++ ys) s = runAll xs s := by
  rw [runAll_append]
  cases hout : (runAll xs s).outcome with
  | proceed => exact absurd hout h
  | jump target => rfl
  | fail f => rfl

/-- The simple actions that are left when every conditional, at any depth, is replaced by what it
selects when its turn comes. -/
def inlined (actions : List Action) (s : Scene) : List Action :=
  (executionsOfAll actions s).map Execution.action

theorem simple_of_mem_inlined {actions : List Action} {s : Scene} {a : Action}
    (h : a ∈ inlined actions s) : a.bodies = [] ∧ a ∈ leavesOfAll actions := by
  obtain ⟨d, hd, rfl⟩ := List.mem_map.1 h
  exact simple_of_mem_executionsOfAll hd

/-- The second report is the first, or it is the first with a failed evaluation at its end. -/
def Completes (r r' : Report) : Prop :=
  r' = r ∨ r.outcome = .proceed ∧ ∃ f, r' = { r with outcome := .fail (.eval f) }

namespace Completes

variable {r r' : Report}

theorem eq_of_proceed (h : Completes r r') (hout : r'.outcome = .proceed) : r' = r := by
  rcases h with heq | ⟨-, f, rfl⟩
  · exact heq
  · cases hout

theorem after (h : Completes r r') (events : List Event) :
    Completes (r.after events) (r'.after events) := by
  rcases h with rfl | ⟨hout, f, rfl⟩
  · exact .inl rfl
  · exact .inr ⟨hout, f, rfl⟩

end Completes

theorem completes_executions {a : Action} {s : Scene}
    (hbodies : ∀ body ∈ a.bodies, Completes (runAll (inlined body s) s) (runAll body s)) :
    Completes (runAll ((a.executions s).map Execution.action) s) (run a s) := by
  rcases executions_cases a s with
    ⟨-, -, hexecutions⟩ | ⟨body, hbody, hrun, hexecutions⟩ | ⟨f, hrun, hexecutions⟩
  · rw [hexecutions, List.map_singleton, runAll_singleton]
    exact .inl rfl
  · rw [hexecutions, hrun]
    exact hbodies body hbody
  · rw [hexecutions, hrun]
    exact .inr ⟨rfl, f, rfl⟩

/-- Actions do what the simple actions do that they come down to, up to the first evaluation of a
condition that fails. -/
theorem completes_inlined (actions : List Action) (s : Scene) :
    Completes (runAll (inlined actions s) s) (runAll actions s) := by
  induction actions using list_induct generalizing s with
  | nil => exact .inl rfl
  | cons a rest hbodies hrest =>
    have hfirst := completes_executions fun body hbody => hbodies body hbody s
    rw [inlined, executionsOfAll, runAll_cons]
    cases hout : (run a s).outcome with
    | proceed =>
      -- the first action has gone on, so its simple actions have
      have heq := hfirst.eq_of_proceed hout
      rw [List.map_append, runAll_append_of_proceed (heq ▸ hout), ← heq]
      exact (hrest (run a s).scene).after _
    | jump target => exact hfirst
    | fail f => exact hfirst

/-! ## Inlining -/

/-- Conditionals are inlining.  A chain before other actions does what the actions do that it
selects, put before them; if one of its conditions fails before any holds, nothing is done but to
fail.  Of two lists one after the other the second is executed exactly if the first neither jumps
nor fails.  So any list, however deep it is nested, does what a list of simple actions of it does,
up to the first evaluation that fails. -/
theorem runAll_inline (s : Scene) :
    (∀ branches others rest,
      (∀ body, Chooses s.ctx branches others body →
        runAll (chain branches others :: rest) s = runAll (body ++ rest) s) ∧
      (∀ f, Raises s.ctx branches f →
        runAll (chain branches others :: rest) s = s.fail (.eval f)) ∧
      ((∃ body, Chooses s.ctx branches others body) ∨ ∃ f, Raises s.ctx branches f)) ∧
    (∀ xs ys,
      ((runAll xs s).outcome = .proceed →
        runAll (xs ++ ys) s = (runAll ys (runAll xs s).scene).after (runAll xs s).events) ∧
      ((runAll xs s).outcome ≠ .proceed → runAll (xs ++ ys) s = runAll xs s)) ∧
    ∀ xs, (∀ a ∈ inlined xs s, a.bodies = [] ∧ a ∈ leavesOfAll xs) ∧
      Completes (runAll (inlined xs s) s) (runAll xs s) := by
  refine ⟨fun branches others rest => ⟨?_, ?_, ?_⟩, fun xs ys => ⟨?_, ?_⟩, fun xs => ⟨?_, ?_⟩⟩
  · intro body hbody
    rw [runAll_cons, run_chain, hbody.selected, runAll_append]
    rfl
  · intro f hf
    rw [runAll_cons, run_chain, hf.selected]
    rfl
  · exact chooses_or_raises s.ctx branches others
  · intro hout
    exact runAll_append_of_proceed hout ys
  · intro hout
    exact runAll_append_of_ne hout ys
  · intro a ha
    exact simple_of_mem_inlined ha
  · exact completes_inlined xs s

/-- What a branch has stored is seen by the conditions after it, and a jump out of a branch leaves
out all that follows. -/
example (s : Scene) (h : s.ctx = []) :
    inlined [chain [("1".toList, [.set "v".toList "x".toList])] none,
      chain [("w".toList, [.reply []]), ("v".toList, [.goto "end".toList])] none, .reply []] s =
    [.set "v".toList "x".toList, .goto "end".toList] := by
  obtain ⟨⟨place, visits, ctx, asked⟩, buffer, answers, world⟩ := s
  cases h
  rfl

end Dialogue.Action
