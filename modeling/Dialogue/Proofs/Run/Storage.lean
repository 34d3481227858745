import Dialogue.Proofs.Disk.Store
import Dialogue.Proofs.Run.Executions
set_option autoImplicit false

/-!
# Stored variables

Runs whose saving and loading all uses one file.  After every execution the file holds exactly the
variables saved so far, and loading gives back the text of the last save.  Main statement:
`Storage.holds_history`.
-/

namespace Dialogue

/-- The path of the file that an action reads or writes. -/
def Action.file? : Action → Option Path
  | save _ path => some (Path.ofText path)
  | load _ path => some (Path.ofText path)
  | _ => none

/-- All saving and loading of the flow uses the file at the path. -/
def Flow.UsesOnly (f : Flow) (p : Path) : Prop := ∀ a ∈ f.leaves, ∀ q ∈ a.file?, q = p

namespace Execution

/-- The variable that the execution saves, with its text; a value without a text is not saved. -/
def saved (d : Execution) : Assoc Text :=
  match d.action with
  | .save var _ =>
    match (d.scene.value var).shown with
    | .ok t => [(var, t)]
    | .error _ => []
  | _ => []

/-- The execution deals with the file as with a store that holds the variables saved before. -/
structure Faithful (p : Path) (saves : Assoc Text) (d : Execution) : Prop where
  before : Store.Holds p saves d.scene.world.disk
  after : Store.Holds p (saves ++ d.saved) d.report.scene.world.disk
  /-- A variable whose value has a text is saved; all other variables stay, in the conversation and
  in the file. -/
  save : ∀ var path t, d.action = .save var path → (d.scene.value var).shown = .ok t →
    d.saved = [(var, t)] ∧ d.report.outcome = .proceed ∧ d.report.scene.ctx = d.scene.ctx ∧
      ∀ other, other ≠ var →
        Store.load? d.report.scene.world.disk p other = Store.load? d.scene.world.disk p other
  /-- A variable that was saved is set to its last text; otherwise nothing changes. -/
  load : ∀ var path, d.action = .load var path →
    d.report =
      ((Store.latest? saves var).elim d.scene fun t => d.scene.assign var (.text t)).proceed

end Execution

namespace Storage

/-- The variables that executions save, one after another. -/
def saved (executions : List Execution) : Assoc Text := executions.flatMap Execution.saved

/-- Runs one after another, from a disk on: what they did, and the disk that they leave.  Every run
uses only the one file and finds the disk that the run before has left; all else may change between
two runs. -/
inductive History (p : Path) (first : Disk) : List Execution → Disk → Prop where
  | start : History p first [] first
  | run {executions : List Execution} {s : Scene} (e : Engine)
      (earlier : History p first executions s.world.disk)
      (uses : e.flow.UsesOnly p) :
      History p first (executions ++ e.executions Engine.visitLimit s) (e.run s).scene.world.disk

/-! ## One execution -/

section execution

variable {p : Path} {saves : Assoc Text} {s : Scene}

/-- What saving does to a file that represents the variables saved before. -/
theorem save_cases (h : Store.Represents p saves s.world.disk) (var : Text) {path : Text}
    (hpath : Path.ofText path = p) :
    (∃ t d, (s.value var).shown = .ok t ∧ s.save var path = (s.withDisk d).proceed ∧
        Store.Represents p (saves ++ [(var, t)]) d) ∨
      ∃ f d, (s.value var).shown = .error f ∧ s.save var path = (s.withDisk d).fail (.eval f) ∧
        Store.Represents p saves d := by
  obtain ⟨d, hmake, hw, hd⟩ := h.makeDirectory
  simp only [Scene.save, hpath, hmake]
  cases hshown : (s.value var).shown with
  | error f =>
    have hvalue : ((s.withDisk d).value var).shown = .error f := hshown
    exact .inr ⟨f, d, rfl, by rw [hvalue]; rfl, hd⟩
  | ok t =>
    obtain ⟨d', hsave, hd'⟩ := hd.save hw var t
    have hvalue : ((s.withDisk d).value var).shown = .ok t := hshown
    refine .inl ⟨t, d', rfl, ?_, hd'⟩
    rw [hvalue, Scene.evaluated, hsave]
    rfl

/-- The file represents the variables saved before and after the execution. -/
theorem represents_run {a : Action} (hsimple : a.bodies = []) (hfile : ∀ q ∈ a.file?, q = p)
    (h : Store.Represents p saves s.world.disk) :
    Store.Represents p (saves ++ Execution.saved ⟨a, s⟩) (a.run s).scene.world.disk := by
  by_cases hsave : ∃ var path, a = .save var path
  · obtain ⟨var, path, rfl⟩ := hsave
    rw [Execution.saved, Action.run]
    dsimp only
    rcases save_cases h var (hfile _ rfl) with ⟨t, d, hshown, hrun, hd⟩ | ⟨f, d, hshown, hrun, hd⟩
    · rw [hshown, hrun]
      exact hd
    · rw [hshown, hrun, List.append_nil]
      exact hd
  · have hsaved : Execution.saved ⟨a, s⟩ = [] := by
      unfold Execution.saved
      split
      · next var path heq => exact absurd ⟨var, path, heq⟩ hsave
      · rfl
    have hworld := Action.world_run hsimple (fun var path heq => hsave ⟨var, path, heq⟩) s
    rw [hsaved, List.append_nil, hworld]
    exact h

theorem faithful {a : Action} (hsimple : a.bodies = []) (hfile : ∀ q ∈ a.file?, q = p)
    (h : Store.Represents p saves s.world.disk) : Execution.Faithful p saves ⟨a, s⟩ where
  before := h.holds
  after := (represents_run hsimple hfile h).holds
  save := by
    rintro var path t rfl ht
    rcases save_cases h var (hfile _ rfl) with ⟨t', d, hshown, hrun, hd⟩ | ⟨f, d, hshown, -, -⟩
    · obtain rfl := Except.ok.inj (ht.symm.trans hshown)
      have hreport : Execution.report ⟨.save var path, s⟩ = (s.withDisk d).proceed := hrun
      rw [hreport]
      refine ⟨by simp only [Execution.saved, ht], rfl, rfl, ?_⟩
      intro other hother
      refine (hd.load? other).trans (Eq.trans ?_ (h.load? other).symm)
      simp only [Store.latest?, List.reverse_append, List.reverse_singleton, List.singleton_append,
        Assoc.get?, if_neg (Ne.symm hother)]
    · cases ht.symm.trans hshown
  load := by
    rintro var path rfl
    show s.load var path = _
    rw [Scene.load, hfile _ rfl, h.load?]
    cases Store.latest? saves var with
    | none => rfl
    | some t => rfl

end execution

/-! ## Many executions -/

theorem saved_concat (executions : List Execution) (d : Execution) :
    saved (executions ++ [d]) = saved executions ++ d.saved := by
  simp [saved]

/-- The file represents what the executions saved, and every one of them was faithful. -/
def Persisted (p : Path) (executions : List Execution) (d : Disk) : Prop :=
  Store.Represents p (saved executions) d ∧
    ∀ earlier execution later, executions = earlier ++ execution :: later →
      execution.Faithful p (saved earlier)

theorem persisted_concat {p : Path} {executions : List Execution} {s : Scene}
    (h : Persisted p executions s.world.disk)
    {a : Action} (hsimple : a.bodies = []) (hfile : ∀ q ∈ a.file?, q = p) :
    Persisted p (executions ++ [⟨a, s⟩]) (a.run s).scene.world.disk := by
  refine ⟨?_, ?_⟩
  · rw [saved_concat]
    exact represents_run hsimple hfile h.1
  · intro earlier execution later heq
    rcases List.eq_nil_or_concat later with rfl | ⟨between, last, rfl⟩
    · obtain ⟨rfl, hexecution⟩ := List.append_inj' heq rfl
      obtain rfl := List.singleton_inj.1 hexecution
      exact faithful hsimple hfile h.1
    · rw [List.concat_eq_append, ← List.cons_append, ← List.append_assoc] at heq
      exact h.2 earlier execution between (List.append_inj' heq rfl).1

theorem persisted_history {p : Path} {first : Disk} (hfree : first.node? (Disk.placeOf p) = none)
    (hcreatable : first.Creatable p) {executions : List Execution} {d : Disk}
    (h : History p first executions d) :
    Persisted p executions d := by
  induction h with
  | start =>
    refine ⟨⟨fun _ => ⟨hfree, hcreatable⟩, fun hne => absurd rfl hne⟩, ?_⟩
    intro earlier execution later heq
    simp at heq
  | run e earlier uses ih =>
    refine Engine.history_runFor (H := fun executions s => Persisted p executions s.world.disk)
      ?_ ?_ _ _ ih
    · intro past a s hsimple ha hkept
      exact persisted_concat hkept hsimple (uses a ha)
    · intro past s t hcarries hkept
      rw [hcarries.disk]
      exact hkept

/-- Where no file stands and one can be made, saving and loading is a faithful store, whatever else
the runs do: before and after every execution the file holds exactly the variables saved so far, in
the order of their first saves, each with the text of its last save.  The executions leave nothing
out: each execution of a run meets the variables and the files that the one before it has left, up
to the end of the run. -/
theorem holds_history {p : Path} {first : Disk} (hfree : first.node? (Disk.placeOf p) = none)
    (hcreatable : first.Creatable p) {executions : List Execution} {d : Disk}
    (h : History p first executions d) :
    Store.Holds p (saved executions) d ∧
      (∀ earlier execution later, executions = earlier ++ execution :: later →
        execution.Faithful p (saved earlier)) ∧
      ∀ (e : Engine) (s : Scene),
        e.Linked s (e.executions Engine.visitLimit s) (e.run s).scene := by
  obtain ⟨hrepresents, hfaithful⟩ := persisted_history hfree hcreatable h
  exact ⟨hrepresents.holds, hfaithful, fun e s => e.linked_executions Engine.visitLimit s⟩

/-- A flow that saves a name, forgets it and loads it again. -/
def saveAndLoad : Engine :=
  ⟨⟨"main".toList, [
      ⟨"start".toList, [
        .set "name".toList "Ann".toList,
        .save "name".toList "kept/names.json".toList,
        .set "name".toList [],
        .load "name".toList "kept/names.json".toList]⟩]⟩, none⟩

/-- The beginning of the flow, without variables and without files. -/
def saveAndLoadScene : Scene := ⟨⟨"start".toList, [], [], none⟩, [], [], ⟨[], ⟨[], .failed []⟩⟩⟩

theorem holds_history_saveAndLoad :
    saved (saveAndLoad.executions Engine.visitLimit saveAndLoadScene) =
        [("name".toList, "Ann".toList)] ∧
      Store.Holds (Path.ofText "kept/names.json".toList) [("name".toList, "Ann".toList)]
        (saveAndLoad.run saveAndLoadScene).scene.world.disk := by
  have hsaved : saved (saveAndLoad.executions Engine.visitLimit saveAndLoadScene) =
      [("name".toList, "Ann".toList)] := by
    decide +kernel
  have huses : saveAndLoad.flow.UsesOnly (Path.ofText "kept/names.json".toList) := by
    unfold Flow.UsesOnly
    decide
  have hcreatable : Disk.Creatable [] (Path.ofText "kept/names.json".toList) :=
    ⟨_, _, rfl, rfl⟩
  have hholds :=
    (holds_history rfl hcreatable (.run (s := saveAndLoadScene) saveAndLoad .start huses)).1
  exact ⟨hsaved, hsaved ▸ hholds⟩

end Storage
end Dialogue
