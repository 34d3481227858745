import Dialogue.Proofs.Assoc
import Dialogue.Proofs.Disk.Store
import Dialogue.Proofs.Run.Executions
set_option autoImplicit false

/-!
# Invariants of runs

Variables that are texts stay texts if the answers are, and a file that no action writes stays as it
is.
-/

namespace Dialogue

/-- The value is a text. -/
def Value.IsText (v : Value) : Prop := ∃ t, v = .text t

namespace Context

/-- Every variable has one value, which is a text. -/
structure Textual (ctx : Context) : Prop where
  values : ∀ named ∈ ctx, named.2.IsText
  names : (Assoc.keys ctx).Nodup

theorem textual_nil : Textual [] := ⟨List.forall_mem_nil _, List.nodup_nil⟩

namespace Textual

variable {ctx : Context}

theorem put (h : ctx.Textual) {v : Value} (hv : v.IsText) (var : Text) :
    Textual (Assoc.put var v ctx) :=
  ⟨Assoc.forall_mem_put h.values hv, Assoc.nodup_keys_put h.names var v⟩

theorem putAll (h : ctx.Textual) {news : Context} (hnews : ∀ named ∈ news, named.2.IsText) :
    Textual (Assoc.putAll news ctx) := by
  induction news generalizing ctx with
  | nil => exact h
  | cons named rest ih =>
    obtain ⟨hnamed, hrest⟩ := List.forall_mem_cons.1 hnews
    exact ih (h.put hnamed named.1) hrest

end Textual
end Context

namespace Scene

/-- Every variable and every answer is a text. -/
structure Textual (s : Scene) : Prop where
  ctx : s.ctx.Textual
  answers : ∀ v ∈ s.answers, v.IsText

namespace Textual

variable {s : Scene}

theorem assign (h : s.Textual) (var t : Text) : (s.assign var (.text t)).Textual :=
  ⟨h.ctx.put ⟨t, rfl⟩ var, h.answers⟩

theorem withDisk (h : s.Textual) (d : Disk) : (s.withDisk d).Textual := ⟨h.ctx, h.answers⟩

theorem ask (h : s.Textual) (var prompt : Text) : (s.ask var prompt).scene.Textual := by
  unfold Scene.ask
  split
  · exact ⟨h.ctx, h.answers⟩
  · next v rest heq =>
    have hanswers := h.answers
    rw [heq] at hanswers
    obtain ⟨hv, hrest⟩ := List.forall_mem_cons.1 hanswers
    exact ⟨h.ctx.put hv var, hrest⟩

end Textual

/-- Saving makes directories, and then writes the file of the path or nothing. -/
theorem disk_save (s : Scene) (var path : Text) :
    ∃ d, Disk.Grows s.world.disk d ∧
      ((s.save var path).scene.world.disk = d ∨
        ∃ t, d.write (Path.ofText path) t = .ok (s.save var path).scene.world.disk) := by
  unfold Scene.save
  dsimp only
  split
  · exact ⟨_, .refl _, .inl rfl⟩
  · next d hmake =>
    refine ⟨d, Disk.grows_makeDirectory hmake, ?_⟩
    refine Scene.evaluated_induct (P := fun r => r.scene.world.disk = d ∨
      ∃ t, d.write (Path.ofText path) t = .ok r.scene.world.disk) (fun _ => .inl rfl) fun t => ?_
    have hstored := Store.disk_save d (Path.ofText path) var t
    cases hsave : Store.save d (Path.ofText path) var t with
    | mk d' fault? =>
      rw [hsave] at hstored
      cases fault? <;> exact hstored

end Scene

namespace Action

/-- The action writes the file at the path. -/
def writes (p : Path) : Action → Bool
  | save _ path => Disk.key (Disk.placeOf (Path.ofText path)) = Disk.key (Disk.placeOf p)
  | _ => false

/-- What replies, texts stored in variables, questions and changes of the files keep, a simple
action keeps. -/
theorem keeps_run {P : Scene → Prop} (hreply : ∀ s line, P s → P (s.reply line))
    (hassign : ∀ s var t, P s → P (s.assign var (.text t)))
    (hask : ∀ s var prompt, P s → P (s.ask var prompt).scene)
    (hdisk : ∀ s d, P s → P (s.withDisk d)) {a : Action} (hsimple : a.bodies = []) {s : Scene}
    (h : P s) : P (a.run s).scene := by
  have hevaluated {α : Type} {t : Scene} (ht : P t) (r : Except EvalFault α) (k : α → Report)
      (hk : ∀ x, P (k x).scene) : P (t.evaluated r k).scene :=
    Scene.evaluated_induct (P := fun r => P r.scene) (fun _ => ht) hk
  cases a with
  | reply text => exact hevaluated h _ _ fun line => hreply s line h
  | goto target => exact h
  | ask var prompt => exact hask s var prompt h
  | set var value => exact hassign s var value h
  | setExpr var expr => exact hevaluated h _ _ fun t => hassign s var t h
  | ifGoto left right target =>
    refine hevaluated h _ _ fun t => ?_
    split <;> exact h
  | save var path =>
    rw [run, Scene.save]
    dsimp only
    split
    · exact h
    · next d _ =>
      have hmade := hdisk s d h
      refine hevaluated hmade _ _ fun t => ?_
      split
      · exact hdisk _ _ hmade
      · exact hdisk _ _ hmade
  | load var path =>
    rw [run, Scene.load]
    split
    · exact hassign s var _ h
    · exact h
  | chain branches otherwise => cases hsimple
  | compare left sign right body otherwise => cases hsimple
  | unknown kind => exact h

/-- A simple action keeps variables and answers texts. -/
theorem textual_run {a : Action} (hsimple : a.bodies = []) {s : Scene} (h : s.Textual) :
    (a.run s).scene.Textual := by
  refine keeps_run (P := Scene.Textual) ?_ ?_ ?_ ?_ hsimple h
  · intro t _ ht
    exact ⟨ht.ctx, ht.answers⟩
  · intro t var text ht
    exact ht.assign var text
  · intro t var prompt ht
    exact ht.ask var prompt
  · intro t d ht
    exact ht.withDisk d

/-- A simple action that does not write a file preserves it. -/
theorem preserves_run {a : Action} (hsimple : a.bodies = []) {p : Path}
    (hwrites : a.writes p = false)
    (s : Scene) : Disk.Preserves p s.world.disk (a.run s).scene.world.disk := by
  by_cases hsave : ∃ var path, a = .save var path
  · obtain ⟨var, path, rfl⟩ := hsave
    have hother := of_decide_eq_false hwrites
    obtain ⟨d, hgrows, hdisk | ⟨t, hwrite⟩⟩ := s.disk_save var path
    · rw [run, hdisk]
      exact .of_grows hgrows
    · exact (Disk.Preserves.of_grows hgrows).trans (.of_write hother hwrite)
  · rw [world_run hsimple fun var path heq => hsave ⟨var, path, heq⟩]
    exact .refl p _

end Action

namespace Engine

/-- A run keeps variables and answers texts. -/
theorem textual_run (e : Engine) {s : Scene} (h : s.Textual) : (e.run s).scene.Textual := by
  refine invariant_runFor (P := Scene.Textual) ?_ ?_ visitLimit h
  · intro a t hsimple _ ht
    exact Action.textual_run hsimple ht
  · intro t u hcarries ht
    refine ⟨?_, ?_⟩
    · rw [hcarries.ctx]
      exact ht.ctx
    · rw [hcarries.answers]
      exact ht.answers

/-- A run whose flow does not write a file preserves it. -/
theorem preserves_run {e : Engine} {p : Path} (hwrites : ∀ a ∈ e.flow.leaves, a.writes p = false)
    (s : Scene) : Disk.Preserves p s.world.disk (e.run s).scene.world.disk := by
  refine invariant_runFor (P := fun t => Disk.Preserves p s.world.disk t.world.disk) ?_ ?_
    visitLimit
    (.refl p _)
  · intro a t hsimple ha ht
    exact ht.trans (Action.preserves_run hsimple (hwrites a ha) t)
  · intro t u hcarries ht
    rw [hcarries.disk]
    exact ht

end Engine
end Dialogue
