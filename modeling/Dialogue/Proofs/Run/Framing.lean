import Dialogue.Proofs.Run.Preservation
set_option autoImplicit false

/-!
# Frame conditions of runs

An action stores into the variable that it names and writes the file that it names, and nothing
else.  So between any two moments of a run, however long it is and however it ends, no variable has
disappeared, and only variables and files that the flow names have changed.  Main statement:
`Engine.framed_moments`.
-/

namespace Dialogue

namespace Action

/-- The variable that an action names to store into it. -/
def stores? : Action → Option Text
  | set var _ => some var
  | setExpr var _ => some var
  | ask var _ => some var
  | load var _ => some var
  | _ => none

/-- The variables are as they were, or one that the action names has another value. -/
def StoresOnly (a : Action) (s t : Scene) : Prop :=
  t.ctx = s.ctx ∨ ∃ var v, a.stores? = some var ∧ t.ctx = Assoc.put var v s.ctx

theorem storesOnly_evaluated {α : Type} {a : Action} {s t : Scene} (ht : t.ctx = s.ctx)
    {r : Except EvalFault α} {k : α → Report} (hk : ∀ x, a.StoresOnly s (k x).scene) :
    a.StoresOnly s (t.evaluated r k).scene :=
  Scene.evaluated_induct (P := fun r => a.StoresOnly s r.scene) (fun _ => .inl ht) hk

/-- A simple action stores into no variable but the one that it names. -/
theorem storesOnly_run {a : Action} (hsimple : a.bodies = []) (s : Scene) :
    a.StoresOnly s (a.run s).scene := by
  cases a with
  | reply text => exact storesOnly_evaluated rfl fun line => .inl rfl
  | goto target => exact .inl rfl
  | ask var prompt =>
    rw [run, Scene.ask]
    split
    · exact .inl rfl
    · next v rest _ => exact .inr ⟨var, v, rfl, rfl⟩
  | set var value => exact .inr ⟨var, .text value, rfl, rfl⟩
  | setExpr var expr =>
    exact storesOnly_evaluated rfl fun t => .inr ⟨var, .text t, rfl, rfl⟩
  | ifGoto left right target =>
    refine storesOnly_evaluated rfl fun t => ?_
    split <;> exact .inl rfl
  | save var path =>
    rw [run, Scene.save]
    dsimp only
    split
    · exact .inl rfl
    · refine storesOnly_evaluated rfl fun t => ?_
      split <;> exact .inl rfl
  | load var path =>
    rw [run, Scene.load]
    split
    · next t _ => exact .inr ⟨var, .text t, rfl, rfl⟩
    · exact .inl rfl
  | chain branches otherwise => cases hsimple
  | compare left sign right body otherwise => cases hsimple
  | unknown kind => exact .inl rfl

namespace StoresOnly

variable {a : Action} {s t : Scene} {var : Text}

theorem has (h : a.StoresOnly s t) (hvar : Assoc.has var s.ctx = true) :
    Assoc.has var t.ctx = true := by
  rcases h with hctx | ⟨stored, v, -, hctx⟩
  · rw [hctx]
    exact hvar
  · by_cases hsame : var = stored
    · rw [hctx, hsame, Assoc.has, Assoc.get?_put_self]
      rfl
    · rw [hctx, Assoc.has, Assoc.get?_put_of_ne hsame]
      exact hvar

theorem get? (h : a.StoresOnly s t) (hvar : a.stores? ≠ some var) :
    Assoc.get? var t.ctx = Assoc.get? var s.ctx := by
  rcases h with hctx | ⟨stored, v, hstored, hctx⟩
  · rw [hctx]
  · rw [hctx]
    refine Assoc.get?_put_of_ne ?_ v s.ctx
    rintro rfl
    exact hvar hstored

end StoresOnly
end Action

/-! ## Two moments -/

namespace Flow

/-- What a later moment of a run has in common with an earlier one. -/
structure Frames (f : Flow) (s t : Scene) : Prop where
  /-- Variables and answers that are texts stay texts. -/
  texts : s.Textual → t.Textual
  /-- No variable disappears. -/
  names : ∀ var, Assoc.has var s.ctx = true → Assoc.has var t.ctx = true
  /-- A variable into which no action of the flow stores keeps its value. -/
  values : ∀ var, (∀ a ∈ f.leaves, a.stores? ≠ some var) →
    Assoc.get? var t.ctx = Assoc.get? var s.ctx
  /-- A file that no action of the flow writes stays as it is. -/
  files : ∀ p, (∀ a ∈ f.leaves, a.writes p = false) →
    t.world.disk.content? (Disk.placeOf p) = s.world.disk.content? (Disk.placeOf p)

namespace Frames

variable {f : Flow} {s t u : Scene}

theorem trans (h : f.Frames s t) (h' : f.Frames t u) : f.Frames s u where
  texts hs := h'.texts (h.texts hs)
  names var hvar := h'.names var (h.names var hvar)
  values var hvar := (h'.values var hvar).trans (h.values var hvar)
  files p hp := (h'.files p hp).trans (h.files p hp)

theorem of_carries {e : Engine} (h : e.Carries s t) : f.Frames s t where
  texts hs := ⟨by rw [h.ctx]; exact hs.ctx, by rw [h.answers]; exact hs.answers⟩
  names var hvar := by rw [h.ctx]; exact hvar
  values var _ := by rw [h.ctx]
  files p _ := by rw [h.disk]

theorem of_run {a : Action} (hsimple : a.bodies = []) (ha : a ∈ f.leaves) (s : Scene) :
    f.Frames s (a.run s).scene where
  texts hs := Action.textual_run hsimple hs
  names _ hvar := (Action.storesOnly_run hsimple s).has hvar
  values _ hvar := (Action.storesOnly_run hsimple s).get? (hvar a ha)
  files _ hp := (Action.preserves_run hsimple (hp a ha) s).content

end Frames
end Flow

/-! ## All moments -/

namespace Engine

/-- The moments of a run: its beginning, what every execution leaves behind, and its end. -/
def moments (e : Engine) (n : Nat) (s : Scene) : List Scene :=
  s :: ((e.executions n s).map (fun d => d.report.scene) ++ [(e.runFor n s).scene])

/-- What goes on from moment to moment holds between any two moments. -/
theorem Linked.pairwise {e : Engine} {R : Scene → Scene → Prop}
    (htrans : ∀ {s t u}, R s t → R t u → R s u) (hcarry : ∀ {s t}, e.Carries s t → R s t)
    {s t : Scene} {executions : List Execution} (hstep : ∀ d ∈ executions, R d.scene d.report.scene)
    (h : e.Linked s executions t) :
    (s :: (executions.map (fun d => d.report.scene) ++ [t])).Pairwise R := by
  induction executions generalizing s with
  | nil =>
    refine List.pairwise_cons.2 ⟨List.forall_mem_singleton.2 (hcarry h), ?_⟩
    exact List.pairwise_singleton R t
  | cons d executions ih =>
    obtain ⟨hd, hexecutions⟩ := List.forall_mem_cons.1 hstep
    obtain ⟨hcarries, hlinked⟩ := h
    have hrest := ih hexecutions hlinked
    have hfirst : R s d.report.scene := htrans (hcarry hcarries) hd
    refine List.pairwise_cons.2 ⟨?_, hrest⟩
    refine List.forall_mem_cons.2 ⟨hfirst, ?_⟩
    intro u hu
    exact htrans hfirst ((List.pairwise_cons.1 hrest).1 u hu)

theorem pairwise_moments (e : Engine) (n : Nat) (s : Scene) :
    (e.moments n s).Pairwise e.flow.Frames := by
  refine (e.linked_executions n s).pairwise (R := e.flow.Frames) .trans .of_carries ?_
  intro d hd
  obtain ⟨hsimple, hleaf⟩ := simple_of_mem_executions hd
  exact Flow.Frames.of_run hsimple hleaf d.scene

/-- If the variables and the answers are texts, then at every moment of a run of any length, also of
one that fails, all variables are texts.  Between any two moments no variable has disappeared, a
variable into which no action of the flow stores has kept its value, and a file that no action of
the flow writes is as it was.  The moments leave nothing out: each execution meets the variables,
the answers and the files that the one before it has left. -/
theorem framed_moments {e : Engine} {s : Scene} (hs : s.Textual) (n : Nat) :
    (∀ t ∈ e.moments n s, t.ctx.Textual) ∧ (e.moments n s).Pairwise e.flow.Frames ∧
      e.Linked s (e.executions n s) (e.runFor n s).scene := by
  have hpairwise := e.pairwise_moments n s
  refine ⟨?_, hpairwise, e.linked_executions n s⟩
  intro t ht
  rcases List.mem_cons.1 ht with rfl | hlater
  · exact hs.ctx
  · exact (((List.pairwise_cons.1 hpairwise).1 t hlater).texts hs).ctx

/-- A flow that asks, loads, saves, and then goes to a state that it does not have. -/
def visitor : Engine :=
  ⟨⟨"main".toList, [
      ⟨"start".toList, [
        .ask "name".toList "Name?".toList,
        .chain [("name".toList, [
          .load "seen".toList "book.json".toList,
          .save "name".toList "book.json".toList])] none,
        .goto "nowhere".toList]⟩]⟩, none⟩

/-- The beginning of the flow, with a variable and a file that it does not name.  The value to be
loaded is not a text. -/
def visitorScene : Scene :=
  ⟨⟨"start".toList, [], [("greeting".toList, .text "Hi".toList)], none⟩, [],
    [.text "Ann".toList],
    ⟨[("book.json".toList, .file (.text "\x7b\"seen\": [1, null]\x7d".toList)),
      ("other.txt".toList, .file (.text "kept".toList))], ⟨[], .failed []⟩⟩⟩

theorem framed_moments_visitor :
    ((visitor.run visitorScene).fault.isSome = true ∧
      (Assoc.get? "seen".toList (visitor.run visitorScene).scene.ctx).bind Value.text? =
        some "[1, None]".toList) ∧
      ∀ t ∈ visitor.moments visitLimit visitorScene, t.ctx.Textual ∧
        Assoc.get? "greeting".toList t.ctx = some (.text "Hi".toList) ∧
        t.world.disk.content? (Disk.placeOf (Path.ofText "other.txt".toList)) =
          some (.text "kept".toList) := by
  refine ⟨by decide +kernel, ?_⟩
  have htext (t : Text) : (Value.text t).IsText := ⟨t, rfl⟩
  have htextual : visitorScene.Textual :=
    ⟨⟨List.forall_mem_singleton.2 (htext _), List.pairwise_singleton _ _⟩,
      List.forall_mem_singleton.2 (htext _)⟩
  obtain ⟨htexts, hpairwise, -⟩ := framed_moments (e := visitor) htextual visitLimit
  intro t ht
  refine ⟨htexts t ht, ?_⟩
  rcases List.mem_cons.1 ht with rfl | hlater
  · exact ⟨rfl, rfl⟩
  · have hframes := (List.pairwise_cons.1 hpairwise).1 t hlater
    exact ⟨hframes.values _ (by decide), hframes.files _ (by decide)⟩

end Engine
end Dialogue
