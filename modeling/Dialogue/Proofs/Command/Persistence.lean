import Dialogue.Command.Basic
import Dialogue.Proofs.Disk.Store
import Dialogue.Proofs.Run.Preservation
import Dialogue.Proofs.Script.RoundTrip
set_option autoImplicit false

/-!
# Persistence of variables between runs

A run of the command with a data file that ends well leaves its variables in the file, and the next
run with the file begins with exactly these, besides those that are given to it.  A run that does
not end well leaves the file alone.  The statement is about the command for all parameters and
answers, however these were given.  Main statement: `Command.variables_persist`.
-/

namespace Dialogue

/-- Some flow of the script has an action that writes the file at the path. -/
def Script.writes (p : Path) (s : Script) : Bool :=
  s.flows.any fun flow => flow.leaves.any (Action.writes p)

namespace Command

/-! ## Given variables -/

/-- The name and the text that an item gives: what stands before and after its first equals sign. -/
def itemParts (item : Text) : Text × Text :=
  (item.takeWhile (· != '='), (item.dropWhile (· != '=')).tail)

/-- The text that items give a variable: that of the last item for it. -/
def given? (items : List Text) (name : Text) : Option Text :=
  Assoc.get? name (items.map itemParts).reverse

theorem variableOf_eq_ok {item : Text} (h : '=' ∈ item) :
    variableOf item = .ok ((itemParts item).1, .text (itemParts item).2) := by
  have hbefore : '=' ∉ item.takeWhile (· != '=') := by
    intro hmem
    have := List.mem_takeWhile_imp hmem
    simp at this
  have hafter : ∃ rest, item.dropWhile (· != '=') = '=' :: rest := by
    cases hdrop : item.dropWhile (· != '=') with
    | nil =>
      have := List.dropWhile_eq_nil_iff.1 hdrop '=' h
      simp at this
    | cons c rest =>
      have hc := List.head?_dropWhile_not (· != '=') item
      rw [hdrop] at hc
      obtain rfl : c = '=' := by simpa using hc
      exact ⟨rest, rfl⟩
  obtain ⟨rest, hrest⟩ := hafter
  have hcut := Text.cutAt?_append hbefore [] rest
  have hitem : item.takeWhile (· != '=') ++ '=' :: rest = item := by
    rw [← hrest, List.takeWhile_append_dropWhile]
  rw [List.cons_append, List.nil_append, hitem] at hcut
  rw [variableOf, hcut, itemParts, hrest]
  rfl

/-- The variables that items give. -/
def givenBy (items : List Text) : Context := items.map fun item =>
  ((itemParts item).1, .text (itemParts item).2)

theorem assigned_eq_ok {items : List Text} (h : ∀ item ∈ items, '=' ∈ item) (ctx : Context) :
    assigned ctx items = .ok (Assoc.putAll (givenBy items) ctx) := by
  induction items generalizing ctx with
  | nil => rfl
  | cons item rest ih =>
    obtain ⟨hitem, hrest⟩ := List.forall_mem_cons.1 h
    rw [assigned, variableOf_eq_ok hitem]
    exact ih hrest _

theorem get?_givenBy (items : List Text) (name : Text) :
    Assoc.get? name (givenBy items).reverse = (given? items name).map Value.text := by
  have hmap : givenBy items = (items.map itemParts).map fun p => (p.1, .text p.2) := by
    rw [List.map_map]
    rfl
  rw [hmap, ← List.map_reverse, Assoc.get?_map, given?]

theorem textual_assigned {items : List Text} {ctx ctx' : Context} (hctx : ctx.Textual)
    (h : assigned ctx items = .ok ctx') : ctx'.Textual := by
  induction items generalizing ctx with
  | nil =>
    obtain rfl := Except.ok.inj h
    exact hctx
  | cons item rest ih =>
    rw [assigned] at h
    split at h
    · next name value hitem =>
      refine ih (hctx.put ?_ name) h
      unfold variableOf at hitem
      split at hitem
      · next before after _ =>
        obtain ⟨-, rfl⟩ := Prod.mk.inj (Except.ok.inj hitem)
        exact ⟨after, rfl⟩
      · cases hitem
    · cases h

/-! ## Kept variables -/

theorem isText_of_mem_keptIn (d : Disk) (p : Path) : ∀ named ∈ keptIn d p, named.2.IsText := by
  unfold keptIn
  intro named hnamed
  split at hnamed
  · obtain ⟨member, -, rfl⟩ := List.mem_map.1 hnamed
    exact ⟨_, rfl⟩
  · cases hnamed

theorem textual_beginning {d : Disk} {p : Parameters} {ctx : Context}
    (h : beginning d p = .ok ctx) : ctx.Textual := by
  obtain ⟨first, hfirst, h⟩ := bind_eq_ok_iff.1 h
  have hgiven := textual_assigned Context.textual_nil hfirst
  split at h
  · next file _ =>
    obtain rfl := Except.ok.inj h
    exact hgiven.putAll (isText_of_mem_keptIn d file)
  · obtain rfl := Except.ok.inj h
    exact hgiven

/-- Variables as the members of an object. -/
def keptMembers (ctx : Context) : Assoc Json := ctx.map fun named => (named.1, keptValue named.2)

/-- Variables are written into a file after its directory was made, or nothing has changed but that
directories were made. -/
theorem keep_cases (d : Disk) (p : Path) (ctx : Context) :
    (∃ between d' : Disk, between.write p (keptText ctx) = .ok d' ∧ keep d p ctx = (d', none)) ∨
      ∃ d' f, Disk.Grows d d' ∧ keep d p ctx = (d', some f) := by
  unfold keep
  cases hmake : d.makeDirectory p.parent with
  | error f => exact .inr ⟨d, f, .refl d, rfl⟩
  | ok between =>
    cases hwrite : between.write p (keptText ctx) with
    | error f =>
      refine .inr ⟨between, f, Disk.grows_makeDirectory hmake, ?_⟩
      simp only [hwrite]
    | ok d' =>
      refine .inl ⟨between, d', hwrite, ?_⟩
      simp only [hwrite]

/-- Variables that were written into a file are what the file keeps. -/
theorem keptIn_of_write {d d' : Disk} {p : Path} {ctx : Context} (hctx : ctx.Textual)
    (hwrite : d.write p (keptText ctx) = .ok d') : keptIn d' p = ctx := by
  have hnull := (Disk.write_eq_ok_iff.1 hwrite).1.noNull
  have hfind : d'.find p = .ok (.file (.text (Json.object (keptMembers ctx)).indented)) :=
    Disk.find_of_write hwrite
  have hrestores : ∀ member ∈ keptMembers ctx, Json.Restores member.2 := by
    intro member hmember
    obtain ⟨named, -, rfl⟩ := List.mem_map.1 hmember
    exact Json.restores_text _
  have hnames : (Assoc.keys (keptMembers ctx)).Nodup := by
    rw [keptMembers, Assoc.keys_map]
    exact hctx.names
  rw [keptIn, if_pos (Disk.has_eq_true hnull hfind),
    Store.value?_of_find hnull hnames hrestores hfind]
  show (keptMembers ctx).map _ = ctx
  rw [keptMembers, List.map_map]
  refine (List.map_congr_left fun named hnamed => ?_).trans (List.map_id ctx)
  obtain ⟨k, v⟩ := named
  obtain ⟨t, rfl⟩ := hctx.values _ hnamed
  rfl

/-- Whatever conversation is begun with the file, it begins with the variables, each with its value,
and with those variables besides that are given to it. -/
def BeginsWith (d : Disk) (file : Path) (ctx : Context) : Prop :=
  ∀ (p : Parameters) (source : Classifier.Source) (script : Script), p.data = some file →
    scriptAt d p.script = .ok script → (∀ item ∈ p.vars, '=' ∈ item) →
      ∃ first : Context,
        opening d source p =
          (Engine.start script p.flow first source p.classifies).mapError
            (fun f => .fault (.start f)) ∧
        ∀ name, Assoc.get? name first =
          (Assoc.get? name ctx).or ((given? p.vars name).map Value.text)

theorem beginsWith_of_write {d d' : Disk} {file : Path} {ctx : Context} (hctx : ctx.Textual)
    (hwrite : d.write file (keptText ctx) = .ok d') : BeginsWith d' file ctx := by
  intro p source script hdata hscript hitems
  refine ⟨Assoc.putAll ctx (Assoc.putAll (givenBy p.vars) []), ?_, ?_⟩
  · have hbeginning :
        beginning d' p = .ok (Assoc.putAll ctx (Assoc.putAll (givenBy p.vars) [])) := by
      rw [beginning, assigned_eq_ok hitems, hdata]
      show Except.ok (Assoc.putAll (keptIn d' file) _) = _
      rw [keptIn_of_write hctx hwrite]
    rw [opening, hscript, hbeginning]
    rfl
  · intro name
    have hlast : Assoc.get? name ctx.reverse = Assoc.get? name ctx := by
      have hself := Assoc.get?_putAll name ctx []
      rwa [Assoc.putAll_eq_self hctx.names, Assoc.get?_nil, Option.or_none, eq_comm] at hself
    rw [Assoc.get?_putAll, Assoc.get?_putAll, hlast, get?_givenBy, Assoc.get?_nil, Option.or_none]

/-! ## One run of the command -/

/-- A conversation that is begun runs a flow of the script, from texts on. -/
theorem opening_eq_ok {d : Disk} {source : Classifier.Source} {p : Parameters} {o : Opening}
    (h : opening d source p = .ok o) :
    ∃ script, scriptAt d p.script = .ok script ∧ o.engine.flow ∈ script.flows ∧
      o.standing.ctx.Textual := by
  obtain ⟨script, hscript, h⟩ := bind_eq_ok_iff.1 h
  obtain ⟨ctx, hctx, h⟩ := bind_eq_ok_iff.1 h
  obtain ⟨flow, first, rest, hflow, -, rfl⟩ := Engine.exists_of_start (mapError_eq_ok_iff.1 h)
  refine ⟨script, mapError_eq_ok_iff.1 hscript, List.mem_of_find?_eq_some hflow, ?_⟩
  exact textual_beginning (mapError_eq_ok_iff.1 hctx)

/-- Where no conversation can be begun, the exit code is not 0. -/
theorem exitCode_of_opening {d : Disk} {source : Classifier.Source} {p : Parameters} {stop : Stop}
    (h : opening d source p = .error stop) : (Ending.stopped stop).exitCode ≠ 0 := by
  rcases bind_eq_error_iff.1 h with h | ⟨script, -, h⟩
  · obtain ⟨f, -, rfl⟩ := mapError_eq_error_iff.1 h
    exact Nat.one_ne_zero
  · rcases bind_eq_error_iff.1 h with h | ⟨ctx, -, h⟩
    · obtain ⟨f, -, rfl⟩ := mapError_eq_error_iff.1 h
      exact Nat.succ_ne_zero 1
    · obtain ⟨f, -, rfl⟩ := mapError_eq_error_iff.1 h
      exact Nat.one_ne_zero

section conversation

variable {world : World} {source : Classifier.Source} {p : Parameters} {file : Path}

/-- The variables at the end of a run are texts. -/
theorem textual_runOf {o : Opening} (h : o.standing.ctx.Textual) (answers : List Text) :
    (runOf world o answers).scene.ctx.Textual := by
  refine (Engine.textual_run o.engine ⟨h, ?_⟩).ctx
  intro v hv
  obtain ⟨line, -, rfl⟩ := List.mem_map.1 hv
  exact ⟨line, rfl⟩

/-- A run of a script that does not write a file preserves it. -/
theorem preserves_runOf {script : Script} {o : Opening} (hflow : o.engine.flow ∈ script.flows)
    (hwrites : script.writes file = false) (answers : List Text) :
    Disk.Preserves file world.disk (runOf world o answers).scene.world.disk := by
  have hleaves : ∀ a ∈ o.engine.flow.leaves, a.writes file = false := by
    intro a ha
    have hany := List.any_eq_false.1 hwrites _ hflow
    simpa using List.any_eq_false.1 (eq_false_of_ne_true hany) a ha
  exact Engine.preserves_run hleaves
    { o.standing with buffer := [], answers := answers.map Value.text, world := world }

/-- A run with a data file ends well and its variables are written into the file, or it does not end
well and leaves the file as the run has left it. -/
theorem conclude_cases (hdata : p.data = some file) (hsaves : p.saves = true) (r : Run) :
    ((conclude p r).1 = .finished ∧ r.fault = none ∧
        ∃ between : Disk, between.write file (keptText r.scene.ctx) = .ok (conclude p r).2.disk) ∨
      (conclude p r).1.exitCode = 1 ∧
        Disk.Preserves file r.scene.world.disk (conclude p r).2.disk := by
  have hkept : (if p.saves then p.data else none) = some file := by rw [hsaves, hdata, if_pos rfl]
  unfold conclude
  cases hfault : r.fault with
  | none =>
    rw [hkept]
    dsimp only
    rcases keep_cases r.scene.world.disk file r.scene.ctx with
      ⟨between, d', hwrite, hkeep⟩ | ⟨d', f, hgrows, hkeep⟩
    · rw [hkeep]
      exact .inl ⟨rfl, rfl, between, hwrite⟩
    · rw [hkeep]
      exact .inr ⟨rfl, .of_grows hgrows⟩
  | some f => cases f <;> exact .inr ⟨rfl, .refl file _⟩

/-- With a data file whose variables are to be kept, for every list of answers: if the command exits
with code 0, every conversation that is then begun with the file begins with exactly the variables
of the end, besides those given to it.  If it does not, be it because of the script or because of
the run, and no action of the script writes the file, the file is as it was. -/
theorem variables_persist (hdata : p.data = some file) (hsaves : p.saves = true)
    (answers : List Text) :
    ((execute world source p answers).exitCode = 0 →
      ∃ o, opening world.disk source p = .ok o ∧ (runOf world o answers).fault = none ∧
        BeginsWith (execute world source p answers).world.disk file
          (runOf world o answers).scene.ctx) ∧
    ((execute world source p answers).fault ≠ none →
      (execute world source p answers).exitCode ≠ 0) ∧
    ((execute world source p answers).exitCode ≠ 0 →
      (∀ script, scriptAt world.disk p.script = .ok script → script.writes file = false) →
        (execute world source p answers).world.disk.content? (Disk.placeOf file) =
            world.disk.content? (Disk.placeOf file) ∧
          ∀ c, world.disk.find file = .ok (.file c) →
            (execute world source p answers).world.disk.find file = .ok (.file c)) := by
  unfold execute Completion.exitCode Completion.fault
  cases hopening : opening world.disk source p with
  | error stop =>
    have hstopped := exitCode_of_opening hopening
    exact ⟨fun h => absurd h hstopped, fun _ => hstopped, fun _ _ => ⟨rfl, fun _ => id⟩⟩
  | ok o =>
    obtain ⟨script, hscript, hflow, hctx⟩ := opening_eq_ok hopening
    dsimp only
    rcases conclude_cases hdata hsaves (runOf world o answers) with
      ⟨hfinished, hnone, between, hwrite⟩ | ⟨hone, hkept⟩
    · rw [hfinished]
      refine ⟨fun _ => ⟨o, rfl, hnone, ?_⟩, fun h => absurd rfl h, fun h => absurd rfl h⟩
      exact beginsWith_of_write (textual_runOf hctx answers) hwrite
    · rw [hone]
      refine ⟨fun h => absurd h Nat.one_ne_zero, fun _ => Nat.one_ne_zero, fun _ hwrites => ?_⟩
      have hpreserves := (preserves_runOf hflow (hwrites script hscript) answers).trans hkept
      exact ⟨hpreserves.content, fun c => hpreserves.find⟩

end conversation

/-- A script that asks for a name. -/
def naming : Script :=
  ⟨[⟨"main".toList, [⟨"start".toList, [.ask "name".toList "Name?".toList]⟩]⟩]⟩

/-- An environment in which the script is the only file. -/
def namingWorld : World :=
  ⟨[("a.dsl".toList, .file (.text (naming.print .separate)))], ⟨[], .failed []⟩⟩

/-- The script is run with a variable and with a data file. -/
def namingParameters : Parameters where
  script := Path.ofName "a.dsl"
  flow := "main".toList
  vars := ["mood=a=b".toList]
  data := some (Path.ofName "f.json")
  saves := true
  classifies := false

/-- The conversation at its beginning. -/
def namingOpening : Opening :=
  ⟨⟨⟨"main".toList, [⟨"start".toList, [.ask "name".toList "Name?".toList]⟩]⟩, none⟩,
    ⟨"start".toList, [], [("mood".toList, .text "a=b".toList)], none⟩, []⟩

theorem variables_persist_naming :
    (execute namingWorld ⟨false, none⟩ namingParameters ["Ann\"".toList]).exitCode = 0 ∧
      BeginsWith
        (execute namingWorld ⟨false, none⟩ namingParameters ["Ann\"".toList]).world.disk
        (Path.ofName "f.json")
        [("mood".toList, .text "a=b".toList), ("name".toList, .text "Ann\"".toList)] := by
  have hread : namingWorld.disk.read (Path.ofName "a.dsl") = .ok (naming.print .separate) := rfl
  have hparse : Script.parse (naming.print .separate) = .ok naming :=
    Script.parse_print .separate (by decide) (.inl rfl)
  have hscript : scriptAt namingWorld.disk namingParameters.script = .ok naming := by
    show ((namingWorld.disk.read (Path.ofName "a.dsl")).mapError Fault.disk >>= fun text =>
      (Script.parse text).mapError Fault.script) = _
    rw [hread]
    show (Script.parse (naming.print .separate)).mapError Fault.script = _
    rw [hparse]
    rfl
  have hopening : opening namingWorld.disk ⟨false, none⟩ namingParameters = .ok namingOpening := by
    rw [opening, hscript]
    rfl
  have hzero :
      (execute namingWorld ⟨false, none⟩ namingParameters ["Ann\"".toList]).exitCode = 0 := by
    rw [execute, hopening]
    rfl
  refine ⟨hzero, ?_⟩
  obtain ⟨o, ho, -, hbegins⟩ := (variables_persist rfl rfl ["Ann\"".toList]).1 hzero
  obtain rfl := Except.ok.inj (hopening.symm.trans ho)
  exact hbegins

end Command
end Dialogue
