import Dialogue.Session
set_option autoImplicit false

/-!
# Effects of actions

An action reads the variables and the files, and does one of a few things.  Everything that a list
of actions keeps, or keeps in step with a second run, follows from what these few things keep
(`Action.Related.runAll`).
-/

namespace Dialogue

/-- The question that a fault leaves open. -/
def RunFault.question? : RunFault → Option Question
  | unanswered var prompt => some ⟨var, prompt⟩
  | _ => none

/-- The fault is one of an action that is not a question. -/
def RunFault.isInternal : RunFault → Bool
  | eval _ => true
  | store _ => true
  | unknownAction _ => true
  | _ => false

namespace Outcome

/-- The question at which actions stopped. -/
def question? : Outcome → Option Question
  | fail f => f.question?
  | _ => none

/-- A failure is not one of a question. -/
def isOwn : Outcome → Bool
  | fail f => f.isInternal
  | _ => true

theorem question?_eq_none_of_isOwn {o : Outcome} (h : o.isOwn = true) : o.question? = none := by
  cases o with
  | fail f =>
    cases f with
    | unanswered var prompt => exact Bool.noConfusion h
    | _ => rfl
  | _ => rfl

end Outcome

namespace Action

/-! ## Actions within actions -/

/-- The lists of actions that an action may execute. -/
def bodies : Action → List (List Action)
  | chain branches otherwise => otherwise.getD [] :: branches.map Prod.snd
  | compare _ _ _ body otherwise => [body, otherwise]
  | _ => []

theorem sizeOf_lt_of_mem_bodies {a : Action} {body : List Action} (h : body ∈ a.bodies) :
    sizeOf body < sizeOf a := by
  cases a with
  | chain branches otherwise =>
    rcases List.mem_cons.1 h with rfl | hmem
    · cases otherwise with
      | none => simp [Nat.pos_iff_ne_zero]
      | some actions =>
        simp only [Option.getD_some, Option.some.sizeOf_spec, chain.sizeOf_spec]
        omega
    · obtain ⟨⟨condition, actions⟩, hp, rfl⟩ := List.mem_map.1 hmem
      have hlt := List.sizeOf_lt_of_mem hp
      simp only [Prod.mk.sizeOf_spec, chain.sizeOf_spec] at hlt ⊢
      omega
  | compare left sign right yes no =>
    obtain rfl | rfl : body = yes ∨ body = no := by simpa [bodies] using h
    · simp only [compare.sizeOf_spec]
      omega
    · simp only [compare.sizeOf_spec]
      omega
  | _ => cases h

/-- What holds of the empty list, and of a list if it holds of its rest and of the lists within its
first action, holds of all lists of actions. -/
@[elab_as_elim]
theorem list_induct {motive : List Action → Prop} (nil : motive [])
    (cons : ∀ a rest, (∀ body ∈ a.bodies, motive body) → motive rest → motive (a :: rest)) :
    ∀ actions, motive actions
  | [] => nil
  | a :: rest =>
    cons a rest (fun body _ => list_induct nil cons body) (list_induct nil cons rest)
termination_by actions => sizeOf actions
decreasing_by
  · have hlt := sizeOf_lt_of_mem_bodies ‹body ∈ a.bodies›
    simp only [List.cons.sizeOf_spec]
    omega
  · simp only [List.cons.sizeOf_spec]
    omega

/-! ## Questions -/

mutual

/-- The questions that an action may ask. -/
def questions : Action → List Question
  | ask var prompt => [⟨var, prompt⟩]
  | chain branches otherwise => questionsOfBranches branches ++ questionsOfOtherwise otherwise
  | compare _ _ _ body otherwise => questionsOfAll body ++ questionsOfAll otherwise
  | _ => []

/-- The questions that actions may ask. -/
def questionsOfAll : List Action → List Question
  | [] => []
  | a :: rest => questions a ++ questionsOfAll rest

/-- The questions that branches may ask. -/
def questionsOfBranches : List (Text × List Action) → List Question
  | [] => []
  | b :: rest => questionsOfBranch b ++ questionsOfBranches rest

/-- The questions that a branch may ask. -/
def questionsOfBranch : Text × List Action → List Question
  | (_, actions) => questionsOfAll actions

/-- The questions that the other actions of a chain may ask. -/
def questionsOfOtherwise : Option (List Action) → List Question
  | none => []
  | some actions => questionsOfAll actions

end

theorem questionsOfBranch_subset {b : Branch} {branches : List Branch} (h : b ∈ branches) :
    questionsOfAll b.2 ⊆ questionsOfBranches branches := by
  induction branches with
  | nil => cases h
  | cons b' rest ih =>
    obtain ⟨condition, actions⟩ := b'
    rw [questionsOfBranches, questionsOfBranch]
    rcases List.mem_cons.1 h with rfl | hmem
    · exact List.subset_append_left _ _
    · exact List.Subset.trans (ih hmem) (List.subset_append_right _ _)

/-- What the lists within an action may ask, the action may. -/
theorem questionsOfAll_subset {a : Action} {body : List Action} (h : body ∈ a.bodies) :
    questionsOfAll body ⊆ questions a := by
  cases a with
  | chain branches otherwise =>
    rw [questions]
    rcases List.mem_cons.1 h with rfl | hmem
    · cases otherwise with
      | none => exact List.nil_subset _
      | some actions => exact List.subset_append_right _ _
    · obtain ⟨b, hb, rfl⟩ := List.mem_map.1 hmem
      exact List.Subset.trans (questionsOfBranch_subset hb) (List.subset_append_left _ _)
  | compare left sign right yes no =>
    rw [questions]
    obtain rfl | rfl : body = yes ∨ body = no := by simpa [bodies] using h
    · exact List.subset_append_left _ _
    · exact List.subset_append_right _ _
  | _ => cases h

end Action

/-! ## Effects -/

/-- What an action does. -/
inductive Effect where
  /-- Nothing, and the actions go on or end as the outcome says. -/
  | stop (outcome : Outcome)
  | reply (line : Text)
  | assign (var : Text) (value : Value)
  /-- The files are replaced. -/
  | write (disk : Disk) (outcome : Outcome)
  | ask (var prompt : Text)
  | execute (actions : List Action)

namespace Effect

/-- The report of an effect on a scene. -/
def apply (s : Scene) : Effect → Report
  | stop outcome => ⟨outcome, s, []⟩
  | reply line => (s.reply line).proceed
  | assign var value => (s.assign var value).proceed
  | write disk outcome => ⟨outcome, s.withDisk disk, []⟩
  | ask var prompt => s.ask var prompt
  | execute actions => Action.runAll actions s

/-- An effect that depends on a value whose evaluation may fail. -/
def evaluated {α : Type} (r : Except EvalFault α) (k : α → Effect) : Effect :=
  match r with
  | .ok a => k a
  | .error f => stop (.fail (.eval f))

/-- The files after an attempt to write one, which may have failed. -/
def saved : Disk × Option Store.Fault → Effect
  | (disk, none) => write disk .proceed
  | (disk, some f) => write disk (.fail (.store f))

theorem apply_evaluated {α : Type} (s : Scene) (r : Except EvalFault α) (k : α → Effect) :
    (evaluated r k).apply s = s.evaluated r fun a => (k a).apply s := by
  cases r <;> rfl

end Effect

namespace Action

/-- The effect of an action, which depends on the variables and the files. -/
def effect (ctx : Context) (d : Disk) : Action → Effect
  | reply text => .evaluated (text.interpolate ctx) .reply
  | goto target => .stop (.jump target)
  | ask var prompt => .ask var prompt
  | set var value => .assign var (.text value)
  | setExpr var expr =>
    .evaluated (Expr.evalText ctx expr >>= Scene.kept) fun t => .assign var (.text t)
  | ifGoto left right target =>
    .evaluated ((Assoc.get? left ctx).getD (.text [])).shown fun t =>
      .stop (if Text.sameAs t right then .jump target else .proceed)
  | save var path =>
    let p := Path.ofText path
    match d.makeDirectory p.parent with
    | .error f => .stop (.fail (.store (.disk f)))
    | .ok d =>
      match ((Assoc.get? var ctx).getD (.text [])).shown with
      | .error f => .write d (.fail (.eval f))
      | .ok t => .saved (Store.save d p var t)
  | load var path =>
    match Store.load? d (Path.ofText path) var with
    | some t => .assign var (.text t)
    | none => .stop .proceed
  | chain branches otherwise => .evaluated (selected ctx otherwise branches) .execute
  | compare left sign right body otherwise =>
    .evaluated (Expr.evalText ctx left) fun l =>
      .evaluated (Expr.evalText ctx right) fun r =>
        .evaluated (l.compareBy sign r) fun holds => .execute (if holds then body else otherwise)
  | unknown kind => .stop (.fail (.unknownAction kind))

/-- Executing an action is its effect. -/
theorem run_eq_apply (a : Action) (s : Scene) :
    run a s = (a.effect s.ctx s.world.disk).apply s := by
  cases a with
  | reply text => rw [effect, Effect.apply_evaluated]; rfl
  | setExpr var expr => rw [effect, Effect.apply_evaluated]; rfl
  | ifGoto left right target =>
    rw [effect, Effect.apply_evaluated, run]
    congr 1
    funext t
    cases h : Text.sameAs t right <;> rfl
  | save var path =>
    rw [effect, run, Scene.save]
    cases hd : s.world.disk.makeDirectory (Path.ofText path).parent with
    | error f => rfl
    | ok d =>
      show (s.withDisk d).evaluated (s.value var).shown _ = _
      simp only
      rw [show (Assoc.get? var s.ctx).getD (.text []) = s.value var from rfl]
      cases ht : (s.value var).shown with
      | error f => rfl
      | ok t =>
        simp only [Scene.evaluated]
        obtain ⟨d', fault⟩ := Store.save d (Path.ofText path) var t
        cases fault with
        | none => rfl
        | some f => rfl
  | load var path =>
    rw [effect, run, Scene.load]
    cases h : Store.load? s.world.disk (Path.ofText path) var <;> rfl
  | chain branches otherwise => rw [effect, Effect.apply_evaluated, run_chain]; rfl
  | compare left sign right body otherwise =>
    rw [effect, run, Effect.apply_evaluated]
    congr 1
    funext l
    rw [Effect.apply_evaluated]
    congr 1
    funext r
    rw [Effect.apply_evaluated]
    congr 1
    funext holds
    cases holds <;> rfl
  | _ => rfl

theorem selected_mem_bodies {ctx : Context} {otherwise : Option (List Action)}
    {branches : List Branch} {actions : List Action}
    (h : selected ctx otherwise branches = .ok actions) :
    actions ∈ (chain branches otherwise).bodies := by
  induction branches with
  | nil =>
    obtain rfl : otherwise.getD [] = actions := Except.ok.inj h
    exact List.mem_cons_self
  | cons b rest ih =>
    obtain ⟨condition, body⟩ := b
    simp only [selected, bind, Except.bind] at h
    split at h
    · cases h
    · next holds _ =>
      cases holds with
      | true =>
        obtain rfl : body = actions := Except.ok.inj h
        simp [bodies]
      | false =>
        have hmem := ih h
        simp only [bodies, List.map_cons, List.mem_cons] at hmem ⊢
        exact hmem.imp_right .inr

/-- An action asks only its own question, and executes only lists that it holds. -/
def Owns (a : Action) : Effect → Prop
  | .stop outcome => outcome.isOwn = true
  | .write _ outcome => outcome.isOwn = true
  | .ask var prompt => a = .ask var prompt
  | .execute actions => actions ∈ a.bodies
  | .reply _ => True
  | .assign _ _ => True

theorem owns_evaluated {α : Type} {a : Action} {r : Except EvalFault α} {k : α → Effect}
    (h : ∀ x, r = .ok x → a.Owns (k x)) : a.Owns (.evaluated r k) := by
  cases r with
  | ok x => exact h x rfl
  | error f => exact rfl

theorem owns_saved (a : Action) (result : Disk × Option Store.Fault) : a.Owns (.saved result) := by
  obtain ⟨disk, fault⟩ := result
  cases fault with
  | none => exact rfl
  | some f => exact rfl

theorem owns_effect (a : Action) (ctx : Context) (d : Disk) : a.Owns (a.effect ctx d) := by
  cases a with
  | reply text => exact owns_evaluated fun _ _ => trivial
  | setExpr var expr => exact owns_evaluated fun _ _ => trivial
  | ifGoto left right target =>
    refine owns_evaluated fun t _ => ?_
    cases h : Text.sameAs t right <;> simp [Owns, Outcome.isOwn]
  | save var path =>
    rw [effect]
    cases d.makeDirectory (Path.ofText path).parent with
    | error f => exact rfl
    | ok d =>
      cases ((Assoc.get? var ctx).getD (.text [])).shown with
      | error f => exact rfl
      | ok t => exact owns_saved _ _
  | load var path =>
    rw [effect]
    cases Store.load? d (Path.ofText path) var with
    | none => exact rfl
    | some t => trivial
  | chain branches otherwise => exact owns_evaluated fun _ h => selected_mem_bodies h
  | compare left sign right body otherwise =>
    refine owns_evaluated fun l _ => owns_evaluated fun r _ => owns_evaluated fun holds _ => ?_
    cases holds <;> simp [Owns, bodies]
  | set var value => trivial
  | _ => exact rfl

end Action

/-! ## Two runs of the same actions -/

/-- Executes further actions, if the ones before neither jumped nor failed. -/
def Report.andThen (r : Report) (rest : List Action) : Report :=
  match r.outcome with
  | .proceed => (Action.runAll rest r.scene).after r.events
  | _ => r

namespace Action

theorem runAll_cons_eq_andThen (a : Action) (rest : List Action) (s : Scene) :
    runAll (a :: rest) s = (run a s).andThen rest := rfl

/-- A relation between scenes, and a relation between what actions do with them, that every single
effect respects and that goes on from actions to further actions. -/
structure Related (asks : Question → Prop) (R : Scene → Scene → Prop)
    (Q : Scene → Scene → Report → Report → Prop) : Prop where
  ctx : ∀ {s t}, R s t → t.ctx = s.ctx
  disk : ∀ {s t}, R s t → t.world.disk = s.world.disk
  stop : ∀ {s t} {o : Outcome}, R s t → o.isOwn = true → Q s t ⟨o, s, []⟩ ⟨o, t, []⟩
  reply : ∀ {s t} (line : Text), R s t → Q s t (s.reply line).proceed (t.reply line).proceed
  assign : ∀ {s t} (var : Text) (v : Value), R s t →
    Q s t (s.assign var v).proceed (t.assign var v).proceed
  write : ∀ {s t} (d : Disk) {o : Outcome}, R s t → o.isOwn = true →
    Q s t ⟨o, s.withDisk d, []⟩ ⟨o, t.withDisk d, []⟩
  ask : ∀ {s t} {var prompt : Text}, R s t → asks ⟨var, prompt⟩ →
    Q s t (s.ask var prompt) (t.ask var prompt)
  andThen : ∀ {s t} {r r' : Report} {rest : List Action}, R s t → Q s t r r' →
    (∀ s t, R s t → Q s t (runAll rest s) (runAll rest t)) →
      Q s t (r.andThen rest) (r'.andThen rest)

variable {asks : Question → Prop} {R : Scene → Scene → Prop}
  {Q : Scene → Scene → Report → Report → Prop}

theorem Related.run (h : Related asks R Q) {a : Action} (hasks : ∀ q ∈ a.questions, asks q)
    (hbodies : ∀ body ∈ a.bodies, ∀ s t, R s t → Q s t (runAll body s) (runAll body t))
    {s t : Scene} (hst : R s t) : Q s t (a.run s) (a.run t) := by
  rw [run_eq_apply, run_eq_apply, h.ctx hst, h.disk hst]
  have howns := owns_effect a s.ctx s.world.disk
  cases he : a.effect s.ctx s.world.disk with
  | stop o =>
    rw [he] at howns
    exact h.stop hst howns
  | reply line => exact h.reply line hst
  | assign var v => exact h.assign var v hst
  | write d o =>
    rw [he] at howns
    exact h.write d hst howns
  | ask var prompt =>
    rw [he] at howns
    obtain rfl : a = .ask var prompt := howns
    exact h.ask hst (hasks ⟨var, prompt⟩ (by simp [questions]))
  | execute actions =>
    rw [he] at howns
    exact hbodies actions howns s t hst

/-- What every single effect respects, lists of actions respect. -/
theorem Related.runAll (h : Related asks R Q) {actions : List Action}
    (hasks : ∀ q ∈ questionsOfAll actions, asks q) {s t : Scene} (hst : R s t) :
    Q s t (Action.runAll actions s) (Action.runAll actions t) := by
  induction actions using list_induct generalizing s t with
  | nil => exact h.stop hst rfl
  | cons a rest hbodies hrest =>
    rw [questionsOfAll] at hasks
    have ha : ∀ q ∈ a.questions, asks q := fun q hq => hasks q (List.mem_append_left _ hq)
    rw [runAll_cons_eq_andThen, runAll_cons_eq_andThen]
    refine h.andThen hst (h.run ha (fun body hbody s t hst => ?_) hst) fun s t hst => ?_
    · exact hbodies body hbody (fun q hq => ha q (questionsOfAll_subset hbody hq)) hst
    · exact hrest (fun q hq => hasks q (List.mem_append_right _ hq)) hst

end Action
end Dialogue
