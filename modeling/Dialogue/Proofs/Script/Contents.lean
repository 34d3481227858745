import Dialogue.Proofs.Except
import Dialogue.Proofs.Run.Executions
import Dialogue.Proofs.Text.Strip
set_option autoImplicit false

/-!
# Provenance of parsed scripts

A text writes its script line by line: every simple action of the script, however deep it is nested,
is written by one of the lines, and so is the name of every state (`Script.written_of_parse`).
Since the lines have no blanks at their ends, no state has an empty name and no question has an
empty variable.
-/

namespace Dialogue

namespace Text

theorem strip_strip (t : Text) : strip (strip t) = strip t := by
  have hstart : stripStart (stripStart t) = stripStart t := List.dropWhile_idempotent isBlank t
  calc strip (strip t) = strip (stripStart t) := strip_stripEnd _
    _ = strip t := congrArg stripEnd hstart

theorem isBlank_of_strip_eq_nil {t : Text} (h : strip t = []) : ∀ c ∈ t, isBlank c = true := by
  induction t with
  | nil => exact List.forall_mem_nil _
  | cons c t ih =>
    cases hc : isBlank c with
    | true =>
      rw [strip_cons_of_blank hc] at h
      exact List.forall_mem_cons.2 ⟨hc, ih h⟩
    | false =>
      rw [strip, stripStart_cons_of_not_blank hc, stripEnd_cons_of_not_blank hc] at h
      cases h

end Text

namespace Statement

/-- What follows a word on a line without blanks at its ends is not empty. -/
theorem isSolid_of_after? {word : String} {line rest : Text} (hline : Text.strip line = line)
    (h : after? word line = some rest) : rest.isSolid = true := by
  obtain ⟨part, hpart, rfl⟩ := Option.map_eq_some_iff.1 h
  refine Text.isSolid_iff.2 ⟨fun hnil => ?_, Text.strip_strip part⟩
  have hblank := Text.isBlank_of_strip_eq_nil hnil
  -- otherwise the line would end with a blank
  obtain rfl := Text.eq_append_of_after? hpart
  have hsolid : Text.isSolid (word.toList ++ [' '] ++ part) = true :=
    Text.isSolid_iff.2 ⟨by simp, hline⟩
  obtain ⟨front, d, hend, hd⟩ := Text.exists_concat_of_isSolid hsolid
  have hlast : d ∈ (' ' :: part).getLast? := by
    have hlasts := congrArg List.getLast? hend
    rw [List.append_assoc, List.getLast?_append, List.getLast?_concat] at hlasts
    simpa using hlasts
  rcases List.mem_cons.1 (List.mem_of_getLast? hlast) with rfl | hmem
  · cases hd
  · cases hd.symm.trans (hblank d hmem)

/-- The actions that a single line writes: simple ones, and a question only after its word. -/
theorem cases_of_parse {line : Text} {a : Action} (h : parse line = .ok a) :
    a.leaves = [a] ∧ ∀ var prompt, a = .ask var prompt →
      ∃ rest, after? "ask" line = some rest ∧ ask rest = .ok (.ask var prompt) := by
  have hother {b : Action} (hleaves : b.leaves = [b]) (hnot : ∀ var prompt, b ≠ .ask var prompt) :
      b.leaves = [b] ∧ ∀ var prompt, b = .ask var prompt →
        ∃ rest, after? "ask" line = some rest ∧ ask rest = .ok (.ask var prompt) :=
    ⟨hleaves, fun var prompt heq => absurd heq (hnot var prompt)⟩
  unfold parse at h
  split at h
  · cases h
    exact hother rfl (by simp)
  split at h
  · cases h
    exact hother rfl (by simp)
  split at h
  · next rest hrest =>
    refine ⟨?_, fun var prompt heq => ⟨rest, hrest, heq ▸ h⟩⟩
    unfold ask at h
    split at h <;> cases h
    rfl
  split at h
  · unfold set at h
    split at h
    · cases h
    · dsimp only at h
      split at h <;> cases h <;> exact hother rfl (by simp)
  split at h
  · next action haction =>
    cases h
    unfold ifGoto? at haction
    split at haction
    · cases haction
    · obtain ⟨sides, -, rfl⟩ := Option.map_eq_some_iff.1 haction
      exact hother rfl (by simp)
  split at h
  · unfold save at h
    split at h <;> cases h
    exact hother rfl (by simp)
  split at h
  · unfold load at h
    split at h <;> cases h
    exact hother rfl (by simp)
  · cases h

/-- No line without blanks at its ends asks for a variable without a name. -/
theorem var_ne_nil_of_parse {line : Text} (hline : Text.strip line = line) {var prompt : Text}
    (h : parse line = .ok (.ask var prompt)) : var ≠ [] := by
  obtain ⟨rest, hrest, hask⟩ := (cases_of_parse h).2 var prompt rfl
  obtain ⟨c, front, rfl, hc⟩ := Text.exists_cons_of_isSolid (isSolid_of_after? hline hrest)
  unfold ask at hask
  split at hask
  · next var' prompt' hcut =>
    cases hask
    rintro rfl
    obtain rfl : c = ' ' := (List.cons.inj (Text.eq_append_of_cutAt? hcut)).1
    cases hc
  · cases hask

theorem startsWith_of_head? {word : String} {line cond : Text} (h : head? word line = some cond) :
    Text.startsWith word.toList line = true := by
  unfold head? at h
  split at h
  · cases h
  · next rest hrest =>
    unfold Text.startsWith
    rw [hrest]
    rfl

end Statement

namespace Action

theorem leavesOfAll_append (xs ys : List Action) :
    leavesOfAll (xs ++ ys) = leavesOfAll xs ++ leavesOfAll ys := by
  induction xs with
  | nil => rfl
  | cons a xs ih => rw [List.cons_append, leavesOfAll, ih, leavesOfAll, List.append_assoc]

theorem leavesOfBranches_append (xs ys : List Branch) :
    leavesOfBranches (xs ++ ys) = leavesOfBranches xs ++ leavesOfBranches ys := by
  induction xs with
  | nil => rfl
  | cons b xs ih =>
    rw [List.cons_append, leavesOfBranches, ih, leavesOfBranches, List.append_assoc]

end Action

/-! ## Blocks -/

/-- The action that a line adds to a body: none, if the line opens, continues or closes a block. -/
def LineKind.statement? (line : Text) : Option Action :=
  if LineKind.of line = .plain then (Statement.parse line).toOption else none

theorem LineKind.statement?_of_ne {line : Text} {kind : LineKind} (h : LineKind.of line = kind)
    (hne : kind ≠ .plain) : statement? line = none := by
  rw [statement?, h, if_neg hne]

theorem LineKind.statement?_of_parse {line : Text} {a : Action} (h : LineKind.of line = .plain)
    (hparse : Statement.parse line = .ok a) : statement? line = some a := by
  rw [statement?, if_pos h, hparse]
  rfl

theorem LineKind.parse_of_statement? {line : Text} {a : Action} (h : statement? line = some a) :
    Statement.parse line = .ok a := by
  unfold statement? at h
  split at h
  · cases hparse : Statement.parse line with
    | error f =>
      rw [hparse] at h
      cases h
    | ok b =>
      rw [hparse] at h
      exact congrArg Except.ok (Option.some.inj h)
  · cases h

/-- A line that goes on with a chain is no statement. -/
theorem LineKind.statement?_of_word {line : Text}
    (h : Text.startsWith "elif".toList line = true ∨ Text.startsWith "else".toList line = true) :
    statement? line = none := by
  have herror : ∃ f, Statement.parse line = .error f := by
    rcases h with h | h
    all_goals
      obtain ⟨rest, rfl⟩ := Text.startsWith_iff.1 h
      exact ⟨_, rfl⟩
  obtain ⟨f, hf⟩ := herror
  rw [statement?, hf]
  split <;> rfl

/-- The simple actions of an open block's chain and of what stands before it, in order. -/
def Frame.leaves : Frame → List Action
  | branch _ before done _ => Action.leavesOfAll before ++ Action.leavesOfBranches done
  | otherwise before done => Action.leavesOfAll before ++ Action.leavesOfBranches done

/-- The simple actions of a chain that may be continued. -/
def Mode.leaves : Mode → List Action
  | joint done => Action.leavesOfBranches done
  | elseAlone done => Action.leavesOfBranches done
  | _ => []

/-- The simple actions of all that has been read of a body, in order. -/
def Block.leaves (b : Block) : List Action :=
  b.stack.reverse.flatMap Frame.leaves ++ Action.leavesOfAll b.actions ++ b.mode.leaves

/-- The simple actions of a body after one more line. -/
def Progress.leaves : Progress → List Action
  | more b => b.leaves
  | stopped actions => Action.leavesOfAll actions

namespace Block

/-- The simple actions of all that has been read, with a chain that waits for its continuation. -/
theorem leaves_joint (b : Block) (done : List Branch) :
    Block.leaves { b with mode := .joint done } =
      b.stack.reverse.flatMap Frame.leaves ++ Action.leavesOfAll b.actions ++
        Action.leavesOfBranches done := rfl

theorem leaves_mode {b : Block} {mode : Mode} (h : b.mode.leaves = []) (hmode : mode.leaves = []) :
    Block.leaves { b with mode := mode } = b.leaves := by
  rw [leaves, leaves, h, hmode]

theorem leaves_of_mode {b : Block} (h : b.mode.leaves = []) :
    b.leaves = b.stack.reverse.flatMap Frame.leaves ++ Action.leavesOfAll b.actions := by
  rw [leaves, h, List.append_nil]

theorem leaves_openBranch (b : Block) (kind : BlockKind) (done : List Branch) (cond : Text) :
    (b.openBranch kind done cond).leaves = Block.leaves { b with mode := .joint done } := by
  rw [leaves_joint, leaves_of_mode rfl]
  simp [openBranch, Frame.leaves, Action.leavesOfAll]

theorem leaves_openElse (b : Block) (done : List Branch) :
    (b.openElse done).leaves = Block.leaves { b with mode := .joint done } := by
  rw [leaves_joint, leaves_of_mode rfl]
  simp [openElse, Frame.leaves, Action.leavesOfAll]

theorem leaves_add (b : Block) (a : Action) :
    (b.add a).leaves =
      b.stack.reverse.flatMap Frame.leaves ++ Action.leavesOfAll b.actions ++ a.leaves := by
  rw [leaves_of_mode rfl]
  simp [add, Action.leavesOfAll_append, Action.leavesOfAll]

theorem leaves_settle (b : Block) (done : List Branch) :
    (b.settle done).leaves = Block.leaves { b with mode := .joint done } := by
  rw [settle, leaves_add, leaves_joint, Action.leaves, Action.leavesOfOtherwise, List.append_nil]

theorem leaves_continueElif {b : Block} {done : List Branch} {rest : Text} {progress : Progress}
    (h : (b.continueElif done rest).map Progress.more = .ok progress) :
    progress.leaves = Block.leaves { b with mode := .joint done } := by
  unfold continueElif at h
  dsimp only at h
  split at h
  · cases h
    exact leaves_openBranch _ _ _ _
  · cases h

theorem leaves_closeBranch? {b outer : Block} {done : List Branch} (hmode : b.mode.leaves = [])
    (h : b.closeBranch? = some (outer, done)) :
    Block.leaves { outer with mode := .joint done } = b.leaves := by
  unfold closeBranch? at h
  split at h
  · next hstack =>
    cases h
    rw [leaves_joint, leaves_of_mode hmode, hstack]
    simp [Frame.leaves, Action.leavesOfBranches_append, Action.leavesOfBranches,
      Action.leavesOfBranch]
  · cases h

/-- A body without open blocks is complete. -/
theorem leaves_stopped {b : Block} (hmode : b.mode.leaves = []) (hstack : b.stack.isEmpty = true) :
    (Progress.stopped b.actions).leaves = b.leaves := by
  rw [leaves_of_mode hmode, List.isEmpty_iff.1 hstack]
  rfl

/-- A line that stands in a block adds its own statement and nothing else. -/
theorem leaves_stepWithin {b : Block} (hmode : b.mode.leaves = []) {line : Text}
    {progress : Progress} (h : b.stepWithin line = .ok progress) :
    progress.leaves = b.leaves ++ (LineKind.statement? line).toList := by
  have hsilent {kind : LineKind} (hkind : LineKind.of line = kind) (hne : kind ≠ .plain)
      (heq : progress.leaves = b.leaves) :
      progress.leaves = b.leaves ++ (LineKind.statement? line).toList := by
    rw [LineKind.statement?_of_ne hkind hne, heq]
    exact (List.append_nil _).symm
  have hleave (h : (if b.stack.isEmpty then Except.ok (Progress.stopped b.actions)
      else Except.error ScriptFault.endless) = .ok progress) : progress.leaves = b.leaves := by
    split at h
    · next hstack =>
      cases h
      exact leaves_stopped hmode hstack
    · cases h
  unfold stepWithin at h
  cases hkind : LineKind.of line with
  | blank =>
    rw [hkind] at h
    cases h
    exact hsilent hkind (by simp) (leaves_mode hmode rfl)
  | heading =>
    rw [hkind] at h
    exact hsilent hkind (by simp) (hleave h)
  | close =>
    rw [hkind] at h
    dsimp only at h
    refine hsilent hkind (by simp) ?_
    split at h
    · next hstack =>
      cases h
      exact leaves_stopped hmode (List.isEmpty_iff.2 hstack)
    · next hstack =>
      cases h
      rw [leaves_of_mode hmode, hstack]
      simp [Progress.leaves, leaves, Mode.leaves, Frame.leaves, Action.leavesOfBranches_append,
        Action.leavesOfBranches, Action.leavesOfBranch]
    · next hstack =>
      cases h
      rw [leaves_of_mode hmode, hstack]
      simp [Progress.leaves, leaves, Mode.leaves, Frame.leaves, Action.leavesOfAll_append,
        Action.leavesOfAll, Action.leaves, Action.leavesOfOtherwise]
  | closeElif rest =>
    rw [hkind] at h
    dsimp only at h
    refine hsilent hkind (by simp) ?_
    split at h
    · next outer done hclose =>
      rw [leaves_continueElif h, leaves_closeBranch? hmode hclose]
    · exact hleave h
  | closeElse =>
    rw [hkind] at h
    dsimp only at h
    refine hsilent hkind (by simp) ?_
    split at h
    · next outer done hclose =>
      cases h
      exact (leaves_openElse outer done).trans (leaves_closeBranch? hmode hclose)
    · exact hleave h
  | ifHead cond =>
    rw [hkind] at h
    cases h
    refine hsilent hkind (by simp) ?_
    exact (leaves_openBranch b _ _ _).trans (leaves_mode hmode rfl)
  | plain =>
    rw [hkind] at h
    dsimp only at h
    cases hparse : Statement.parse line with
    | error f =>
      rw [hparse] at h
      cases h
    | ok a =>
      rw [hparse] at h
      cases h
      rw [LineKind.statement?_of_parse hkind hparse, leaves_of_mode hmode]
      show (b.add a).leaves = _
      rw [leaves_add, (Statement.cases_of_parse hparse).1]
      rfl

/-- After a branch a line goes on with the chain, or the chain is complete before it. -/
theorem leaves_stepJoint {b : Block} {done : List Branch} {line : Text} {progress : Progress}
    (h : b.stepJoint done line = .ok progress) :
    progress.leaves =
      Block.leaves { b with mode := .joint done } ++ (LineKind.statement? line).toList := by
  have hsilent (hnone : LineKind.statement? line = none)
      (heq : progress.leaves = Block.leaves { b with mode := .joint done }) :
      progress.leaves =
        Block.leaves { b with mode := .joint done } ++ (LineKind.statement? line).toList := by
    rw [hnone, heq]
    exact (List.append_nil _).symm
  unfold stepJoint at h
  split at h
  · next rest hkind =>
    exact hsilent (LineKind.statement?_of_ne hkind (by simp)) (leaves_continueElif h)
  · next hkind =>
    cases h
    exact hsilent (LineKind.statement?_of_ne hkind (by simp)) (leaves_openElse b done)
  split at h
  · next cond hcond =>
    cases h
    have hword := Statement.startsWith_of_head? hcond
    exact hsilent (LineKind.statement?_of_word (.inl hword)) (leaves_openBranch b _ done cond)
  split at h
  · next hword =>
    refine hsilent (LineKind.statement?_of_word (.inr hword)) ?_
    split at h
    · cases h
      exact leaves_openElse b done
    split at h
    · cases h
      rfl
    · cases h
  · have hsettled := leaves_stepWithin (b := b.settle done) rfl h
    rwa [leaves_settle] at hsettled

/-- A line is read in a block, after a branch, or as the brace that an `else` waits for. -/
theorem step_cases {b : Block} {line : Text} {progress : Progress}
    (h : b.step line = .ok progress) :
    (b.mode.leaves = [] ∧ b.stepWithin line = .ok progress) ∨
      (∃ done, b.mode = .joint done ∧ b.stepJoint done line = .ok progress) ∨
      ∃ done, b.mode = .elseAlone done ∧ line = ['\x7b'] ∧ progress = .more (b.openElse done) := by
  obtain ⟨stack, actions, mode⟩ := b
  unfold step at h
  cases mode with
  | opening =>
    unfold stepOpening at h
    dsimp only at h
    split at h
    · split at h
      · cases h
      · exact .inl ⟨rfl, h⟩
    · exact .inl ⟨rfl, h⟩
  | within => exact .inl ⟨rfl, h⟩
  | joint done => exact .inr (.inl ⟨done, rfl, h⟩)
  | elseAlone done =>
    dsimp only at h
    split at h
    · next hline =>
      cases h
      exact .inr (.inr ⟨done, rfl, hline, rfl⟩)
    · cases h

/-- Whatever a line is read as, it adds its own statement and nothing else. -/
theorem leaves_step {b : Block} {line : Text} {progress : Progress}
    (h : b.step line = .ok progress) :
    progress.leaves = b.leaves ++ (LineKind.statement? line).toList := by
  rcases step_cases h with ⟨hmode, hwithin⟩ | ⟨done, hmode, hjoint⟩ | ⟨done, hmode, rfl, rfl⟩
  · exact leaves_stepWithin hmode hwithin
  · have hleaves := leaves_stepJoint hjoint
    rwa [← hmode] at hleaves
  · have hleaves : b.leaves = Block.leaves { b with mode := .joint done } := by
      rw [leaves, hmode]
      rfl
    rw [hleaves]
    exact (leaves_openElse b done).trans (List.append_nil _).symm

/-- The actions of a complete body are those that its lines have added. -/
theorem leaves_finish {b : Block} {actions : List Action} (h : b.finish = .ok actions) :
    Action.leavesOfAll actions = b.leaves := by
  obtain ⟨stack, others, mode⟩ := b
  unfold finish at h
  cases mode with
  | elseAlone done => cases h
  | joint done =>
    cases stack with
    | nil =>
      cases h
      exact (leaves_stopped rfl rfl).trans (leaves_settle _ done)
    | cons frame rest => cases h
  | _ =>
    cases stack with
    | nil =>
      cases h
      exact (List.append_nil _).symm
    | cons frame rest => cases h

end Block

/-! ## Scripts -/

theorem Flow.mem_put {s x : State} {states : List State} (h : x ∈ put s states) :
    x = s ∨ x ∈ states := by
  induction states with
  | nil => exact .inl (List.mem_singleton.1 h)
  | cons y rest ih =>
    rw [put] at h
    split at h
    · rcases List.mem_cons.1 h with rfl | hrest
      · exact .inl rfl
      · exact .inr (List.mem_cons_of_mem y hrest)
    · rcases List.mem_cons.1 h with rfl | hrest
      · exact .inr List.mem_cons_self
      · exact (ih hrest).imp_right (List.mem_cons_of_mem y)

theorem Script.mem_put {f x : Flow} {flows : List Flow} (h : x ∈ put f flows) :
    x = f ∨ x ∈ flows := by
  induction flows with
  | nil => exact .inl (List.mem_singleton.1 h)
  | cons y rest ih =>
    rw [put] at h
    split at h
    · rcases List.mem_cons.1 h with rfl | hrest
      · exact .inl rfl
      · exact .inr (List.mem_cons_of_mem y hrest)
    · rcases List.mem_cons.1 h with rfl | hrest
      · exact .inr List.mem_cons_self
      · exact (ih hrest).imp_right (List.mem_cons_of_mem y)

/-- One of the lines is the heading of a state of this name. -/
def HeadedIn (lines : List Text) (name : Text) : Prop :=
  ∃ line ∈ lines, Statement.after? "state" line = some name

/-- One of the lines writes the action. -/
def Action.WrittenIn (lines : List Text) (a : Action) : Prop :=
  ∃ line ∈ lines, LineKind.statement? line = some a

/-- The name of the state and all its simple actions are written by lines. -/
structure State.WrittenIn (lines : List Text) (s : State) : Prop where
  name : HeadedIn lines s.name
  actions : ∀ a ∈ Action.leavesOfAll s.actions, a.WrittenIn lines

/-- All states of the flow are written by lines. -/
def Flow.WrittenIn (lines : List Text) (f : Flow) : Prop := ∀ s ∈ f.states, s.WrittenIn lines

theorem Flow.WrittenIn.put {lines : List Text} {f : Flow} (h : f.WrittenIn lines) {s : State}
    (hs : s.WrittenIn lines) : Flow.WrittenIn lines { f with states := Flow.put s f.states } := by
  intro x hx
  rcases Flow.mem_put hx with rfl | hold
  · exact hs
  · exact h x hold

/-- What is read at a place is written by lines. -/
def Place.WrittenIn (lines : List Text) : Place → Prop
  | outside => True
  | flow f => f.WrittenIn lines
  | state f name body =>
    f.WrittenIn lines ∧ HeadedIn lines name ∧ ∀ a ∈ body.leaves, a.WrittenIn lines

/-- All that has been read is written by lines. -/
structure Reading.WrittenIn (lines : List Text) (r : Reading) : Prop where
  flows : ∀ f ∈ r.flows, f.WrittenIn lines
  place : r.place.WrittenIn lines

namespace Reading

variable {lines : List Text} {line : Text}

theorem writtenIn_stepFlow (hline : line ∈ lines) {flows : List Flow}
    (hflows : ∀ f ∈ flows, f.WrittenIn lines) {f : Flow} (hf : f.WrittenIn lines) :
    (stepFlow flows f line).WrittenIn lines := by
  unfold stepFlow
  split
  · next name hname => exact ⟨hflows, hf, ⟨line, hline, hname⟩, List.forall_mem_nil _⟩
  · split
    · refine ⟨fun x hx => ?_, List.forall_mem_nil _⟩
      rcases Script.mem_put hx with rfl | hold
      · exact hf
      · exact hflows x hold
    · exact ⟨hflows, hf⟩

/-- One more line adds no more than it writes. -/
theorem WrittenIn.step {r next : Reading} (h : r.WrittenIn lines) (hline : line ∈ lines)
    (hstep : r.step line = .ok next) : next.WrittenIn lines := by
  obtain ⟨flows, place⟩ := r
  obtain ⟨hflows, hplace⟩ := h
  unfold Reading.step at hstep
  cases place with
  | outside =>
    dsimp only at hstep
    split at hstep
    · cases hstep
      exact ⟨hflows, List.forall_mem_nil _⟩
    · split at hstep
      · cases hstep
      · cases hstep
        exact ⟨hflows, trivial⟩
  | flow f =>
    cases hstep
    exact writtenIn_stepFlow hline hflows hplace
  | state f name body =>
    obtain ⟨hf, hname, hbody⟩ := hplace
    obtain ⟨progress, hprogress, hnext⟩ := bind_eq_ok_iff.1 hstep
    have hleaves : ∀ a ∈ progress.leaves, a.WrittenIn lines := by
      intro a ha
      rw [Block.leaves_step hprogress] at ha
      rcases List.mem_append.1 ha with hold | hnew
      · exact hbody a hold
      · exact ⟨line, hline, Option.mem_toList.1 hnew⟩
    cases progress with
    | more body =>
      cases hnext
      exact ⟨hflows, hf, hname, hleaves⟩
    | stopped actions =>
      cases hnext
      exact writtenIn_stepFlow hline hflows (hf.put ⟨hname, hleaves⟩)

theorem WrittenIn.run {r next : Reading} (h : r.WrittenIn lines) {part : List Text}
    (hpart : part ⊆ lines) (hrun : r.run part = .ok next) : next.WrittenIn lines := by
  induction part generalizing r with
  | nil =>
    cases hrun
    exact h
  | cons line rest ih =>
    obtain ⟨hline, hrest⟩ := List.cons_subset.1 hpart
    obtain ⟨middle, hstep, hmiddle⟩ := bind_eq_ok_iff.1 hrun
    exact ih (h.step hline hstep) hrest hmiddle

theorem WrittenIn.finish {r : Reading} (h : r.WrittenIn lines) {script : Script}
    (hfinish : r.finish = .ok script) : ∀ f ∈ script.flows, f.WrittenIn lines := by
  obtain ⟨flows, place⟩ := r
  obtain ⟨hflows, hplace⟩ := h
  have hput {f : Flow} (hf : f.WrittenIn lines) :
      ∀ x ∈ Script.put f flows, x.WrittenIn lines := by
    intro x hx
    rcases Script.mem_put hx with rfl | hold
    · exact hf
    · exact hflows x hold
  cases place with
  | outside => cases hfinish
  | flow f =>
    cases hfinish
    exact hput hplace
  | state f name body =>
    obtain ⟨hf, hname, hbody⟩ := hplace
    obtain ⟨actions, hactions, hscript⟩ := bind_eq_ok_iff.1 hfinish
    cases hscript
    refine hput (hf.put ⟨hname, ?_⟩)
    rw [Block.leaves_finish hactions]
    exact hbody

end Reading

namespace Script

variable {text : Text} {script : Script}

/-- Every state of a script and every simple action in it is written by a line of its text. -/
theorem written_of_parse (h : parse text = .ok script) :
    ∀ f ∈ script.flows, f.WrittenIn (strippedLines text) := by
  obtain ⟨r, hrun, hfinish⟩ := bind_eq_ok_iff.1 h
  have hstart : Reading.WrittenIn (strippedLines text) {} := ⟨List.forall_mem_nil _, trivial⟩
  exact (hstart.run (List.Subset.refl _) hrun).finish hfinish

theorem strip_of_mem_strippedLines {line : Text} (h : line ∈ strippedLines text) :
    Text.strip line = line := by
  obtain ⟨raw, -, rfl⟩ := List.mem_map.1 h
  exact Text.strip_strip raw

/-- No state of a script has an empty name. -/
theorem name_ne_nil_of_parse (h : parse text = .ok script) {f : Flow} (hf : f ∈ script.flows)
    {s : State} (hs : s ∈ f.states) : s.name ≠ [] := by
  obtain ⟨line, hline, hname⟩ := (written_of_parse h f hf s hs).name
  have hsolid := Statement.isSolid_of_after? (strip_of_mem_strippedLines hline) hname
  exact (Text.isSolid_iff.1 hsolid).1

/-- No question of a script is for a variable with an empty name. -/
theorem var_ne_nil_of_parse (h : parse text = .ok script) {f : Flow} (hf : f ∈ script.flows)
    {var prompt : Text} (hask : .ask var prompt ∈ f.leaves) : var ≠ [] := by
  obtain ⟨s, hs, ha⟩ := List.mem_flatMap.1 hask
  obtain ⟨line, hline, hstatement⟩ := (written_of_parse h f hf s hs).actions _ ha
  exact Statement.var_ne_nil_of_parse (strip_of_mem_strippedLines hline)
    (LineKind.parse_of_statement? hstatement)

end Script

end Dialogue
