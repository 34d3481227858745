import Dialogue.Expr.Condition
import Dialogue.Run.Scene
import Dialogue.Template.Interpolation
set_option autoImplicit false

/-!
# Executing actions

Actions are executed in order until one jumps or fails.  Main statements: executing two lists
one after the other is executing their concatenation (`runAll_append`), and a chain is executed
as the actions that it selects (`run_chain`).

Normative source: `runtime`, `Engine._exec_actions`.
-/

namespace Dialogue

namespace Scene

/-- Emits the replies that were kept, asks a question and stores its answer. -/
def ask (s : Scene) (var prompt : Text) : Report :=
  let flushed := s.buffer.map Event.flushed
  match s.answers with
  | [] =>
    ⟨.fail (.unanswered var prompt), { s with buffer := [] }, flushed ++ [.asked var prompt none]⟩
  | v :: rest =>
    ⟨.proceed,
      { s with
        buffer := []
        answers := rest
        ctx := Assoc.put var v s.ctx
        asked := some var },
      flushed ++ [.asked var prompt (some v)]⟩

/-- The text of a value as a variable keeps it: nothing is kept as the empty text. -/
def kept (v : Value) : Except EvalFault Text :=
  match v with
  | .none => .ok []
  | v => v.shown

/-- Writes a variable into a file, whose directory is made if need be. -/
def save (s : Scene) (var path : Text) : Report :=
  let p := Path.ofText path
  match s.world.disk.makeDirectory p.parent with
  | .error f => s.fail (.store (.disk f))
  | .ok d =>
    let s := s.withDisk d
    s.evaluated (s.value var).shown fun t =>
      match Store.save d p var t with
      | (d, none) => (s.withDisk d).proceed
      | (d, some f) => (s.withDisk d).fail (.store f)

/-- Reads a variable from a file, if the file has it. -/
def load (s : Scene) (var path : Text) : Report :=
  match Store.load? s.world.disk (Path.ofText path) var with
  | some t => (s.assign var (.text t)).proceed
  | none => s.proceed

end Scene

namespace Action

mutual

/-- Executes an action. -/
def run : Action → Scene → Report
  | reply text, s => s.evaluated (text.interpolate s.ctx) fun line => (s.reply line).proceed
  | goto target, s => ⟨.jump target, s, []⟩
  | ask var prompt, s => s.ask var prompt
  | set var value, s => (s.assign var (.text value)).proceed
  | setExpr var expr, s =>
    s.evaluated (Expr.evalText s.ctx expr >>= Scene.kept) fun t => (s.assign var (.text t)).proceed
  | ifGoto left right target, s =>
    s.evaluated (s.value left).shown fun t =>
      if Text.sameAs t right then ⟨.jump target, s, []⟩ else s.proceed
  | save var path, s => s.save var path
  | load var path, s => s.load var path
  | chain branches otherwise, s => (runBranches branches s).getD (runOtherwise otherwise s)
  | compare left sign right body otherwise, s =>
    s.evaluated (Expr.evalText s.ctx left) fun l =>
      s.evaluated (Expr.evalText s.ctx right) fun r =>
        s.evaluated (l.compareBy sign r) fun holds =>
          if holds then runAll body s else runAll otherwise s
  | unknown kind, s => s.fail (.unknownAction kind)

/-- Executes actions in order, until one jumps or fails. -/
def runAll : List Action → Scene → Report
  | [], s => s.proceed
  | a :: rest, s =>
    let r := run a s
    match r.outcome with
    | .proceed => (runAll rest r.scene).after r.events
    | _ => r

/-- Executes the first branch whose condition holds; none if no condition does. -/
def runBranches : List (Text × List Action) → Scene → Option Report
  | [], _ => none
  | b :: rest, s =>
    match runBranch b s with
    | some r => some r
    | none => runBranches rest s

/-- Executes a branch if its condition holds. -/
def runBranch : Text × List Action → Scene → Option Report
  | (condition, actions), s =>
    match Expr.holdsText s.ctx condition with
    | .ok true => some (runAll actions s)
    | .ok false => none
    | .error f => some (s.fail (.eval f))

/-- Executes the actions for the case that no condition holds. -/
def runOtherwise : Option (List Action) → Scene → Report
  | none, s => s.proceed
  | some actions, s => runAll actions s

end

/-! ## Lists of actions -/

@[simp] theorem runAll_nil (s : Scene) : runAll [] s = s.proceed := rfl

theorem runAll_cons (a : Action) (rest : List Action) (s : Scene) :
    runAll (a :: rest) s =
      match (run a s).outcome with
      | .proceed => (runAll rest (run a s).scene).after (run a s).events
      | _ => run a s := rfl

/-- The second list is executed exactly if the first neither jumps nor fails. -/
theorem runAll_append (xs ys : List Action) (s : Scene) :
    runAll (xs ++ ys) s =
      match (runAll xs s).outcome with
      | .proceed => (runAll ys (runAll xs s).scene).after (runAll xs s).events
      | _ => runAll xs s := by
  induction xs generalizing s with
  | nil => simp [Scene.proceed]
  | cons a rest ih =>
    simp only [List.cons_append, runAll_cons]
    cases h : (run a s).outcome with
    | proceed =>
      simp only [ih, Report.outcome_after, Report.scene_after]
      cases (runAll rest (run a s).scene).outcome <;> simp [Report.after]
    | jump target => simp [h]
    | fail f => simp [h]

/-! ## Chains -/

/-- The actions that a chain selects: those of the first branch whose condition holds, or else the
other actions. -/
def selected (ctx : Context) (otherwise : Option (List Action)) :
    List Branch → Except EvalFault (List Action)
  | [] => .ok (otherwise.getD [])
  | (condition, actions) :: rest => do
    if ← Expr.holdsText ctx condition then return actions else selected ctx otherwise rest

/-- A chain is executed as the actions that it selects. -/
theorem run_chain (branches : List Branch) (otherwise : Option (List Action)) (s : Scene) :
    run (chain branches otherwise) s =
      s.evaluated (selected s.ctx otherwise branches) fun actions => runAll actions s := by
  show (runBranches branches s).getD (runOtherwise otherwise s) = _
  induction branches with
  | nil => cases otherwise <;> rfl
  | cons b rest ih =>
    obtain ⟨condition, actions⟩ := b
    simp only [runBranches, runBranch, selected, bind, Except.bind]
    cases h : Expr.holdsText s.ctx condition with
    | error f => rfl
    | ok holds =>
      cases holds with
      | true => rfl
      | false => simpa using ih

end Action
end Dialogue
