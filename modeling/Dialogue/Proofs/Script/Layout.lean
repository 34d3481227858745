import Dialogue.Proofs.Script.Contents
import Dialogue.Proofs.Script.Merge
import Dialogue.Proofs.Script.Termination
import Mathlib.Data.List.Forall2
set_option autoImplicit false

/-!
# Layout

Of a line only what is left without the blanks at its ends counts.  Empty lines and comments may
stand anywhere but at the joints of a chain: between a closing brace and a line that goes on with
the chain, and between a line `else` and its brace.  Elsewhere such a line at most changes which
fault is found: a branch that begins with a stray brace lacks its end, but below a comment the same
line is an unknown statement.
-/

namespace Dialogue

/-! ## Verdicts -/

/-- What reading comes to, where all faults are one except that reading may never end. -/
def verdict {α : Type} (x : Except ScriptFault α) : Except Bool α :=
  x.mapError fun f => decide (f = .endless)

section Verdict

variable {α β : Type} {x y : Except ScriptFault α}

theorem verdict_error {f g : ScriptFault} (hf : f ≠ .endless) (hg : g ≠ .endless) :
    verdict (.error f : Except ScriptFault α) = verdict (.error g) := by
  show Except.error (decide (f = .endless)) = Except.error (decide (g = .endless))
  rw [decide_eq_false hf, decide_eq_false hg]

theorem verdict_bind (h : verdict x = verdict y) (next : α → Except ScriptFault β) :
    verdict (x >>= next) = verdict (y >>= next) := by
  cases x with
  | error f =>
    cases y with
    | error g => exact congrArg Except.error (Except.error.inj h)
    | ok b => cases h
  | ok a =>
    cases y with
    | error g => cases h
    | ok b => rw [Except.ok.inj h]

theorem ok_iff_of_verdict (h : verdict x = verdict y) (a : α) : x = .ok a ↔ y = .ok a := by
  rw [← mapError_eq_ok_iff, ← mapError_eq_ok_iff (x := y)]
  exact Eq.congr_left h

theorem verdict_eq_fault_iff :
    verdict x = .error false ↔ ∃ f, x = .error f ∧ f ≠ .endless := by
  rw [verdict, mapError_eq_error_iff]
  simp only [decide_eq_false_iff_not, ne_eq]

end Verdict

/-! ## Joints -/

namespace LineKind

/-- The line begins as one that goes on with a chain. -/
def continuesChain (line : Text) : Bool :=
  Text.startsWith "elif".toList line || Text.startsWith "else".toList line ||
    Text.startsWith (brace ++ " elif".toList) line || Text.startsWith (brace ++ " else".toList) line

/-- Between the two lines nothing may stand: the second goes on with what the first has closed, or
it is the brace for which the first waits. -/
def isChainJoint (before after : Text) : Bool :=
  (before = brace && continuesChain after) || (before = "else".toList && after = ['\x7b'])

/-- A line without content: it is empty, or a comment. -/
def isFiller (line : Text) : Bool := line.isEmpty || line.head? = some '#'

theorem of_filler {line : Text} (h : isFiller line = true) : LineKind.of line = .blank := if_pos h

theorem continuesChain_of_brace {line : Text} (h : isChainJoint brace line = false) :
    continuesChain line = false := by
  simp only [isChainJoint, decide_true, Bool.true_and, Bool.or_eq_false_iff] at h
  exact h.1

theorem ne_of_else {line : Text} (h : isChainJoint "else".toList line = false) :
    line ≠ ['\x7b'] := by
  rintro rfl
  cases h

end LineKind

namespace Block

@[simp] theorem mode_ready (b : Block) : b.ready.mode = .within := by
  unfold ready
  split <;> rfl

theorem ready_step (b : Block) (line : Text) : b.ready.step line = b.ready.stepWithin line := by
  rw [step, mode_ready]

/-- A line without content completes a chain that waits, and leaves the body as it is otherwise. -/
theorem step_filler {b : Block} (hb : b.isReadable = true) {line : Text}
    (h : LineKind.isFiller line = true) : b.step line = .ok (.more b.ready) := by
  have hblank := LineKind.of_filler h
  rw [step_of_isOwn hb (LineKind.isOwn_of_blank hblank), stepWithin, hblank, ← mode_ready b]

/-- After a line `else` nothing but its brace is read. -/
theorem read_of_not_isReadable {b : Block} (hb : b.isReadable = false) {lines : List Text}
    (h : ∀ line ∈ lines.head?, line ≠ ['\x7b']) : b.read lines = .error .elseBrace := by
  obtain ⟨stack, actions, mode⟩ := b
  cases mode with
  | elseAlone done =>
    cases lines with
    | nil => rfl
    | cons line rest =>
      have hstep : step ⟨stack, actions, .elseAlone done⟩ line = .error .elseBrace :=
        if_neg (h line rfl)
      rw [read, hstep]
      rfl
  | _ => cases hb

/-- On the first line of a branch a stray brace is refused for a reason of its own. -/
theorem verdict_stepOpening (b : Block) (line : Text) :
    verdict (b.stepOpening line) = verdict (b.stepWithin line) := by
  unfold stepOpening
  split
  · next frame rest hplain hstack =>
    split
    · next hbrace =>
      obtain ⟨rest, rfl⟩ := List.head?_eq_some_iff.1 hbrace
      rw [stepWithin, hplain]
      exact verdict_error (by simp) (by simp)
    · rfl
  · rfl

/-- A line that does not go on with a chain completes it. -/
theorem stepJoint_of_not_continuesChain (b : Block) (done : List Branch) {line : Text}
    (h : LineKind.continuesChain line = false) :
    b.stepJoint done line = (b.settle done).stepWithin line := by
  simp only [LineKind.continuesChain, Bool.or_eq_false_iff] at h
  obtain ⟨⟨⟨helif, helse⟩, hcloseElif⟩, hcloseElse⟩ := h
  have hnone : Statement.head? "elif" line = none := by
    by_contra hsome
    obtain ⟨cond, hcond⟩ := Option.ne_none_iff_exists'.1 hsome
    rw [Statement.startsWith_of_head? hcond] at helif
    cases helif
  unfold stepJoint
  split
  · next rest hkind =>
    rw [LineKind.exists_of_eq_closeElif_iff.1 ⟨rest, hkind⟩] at hcloseElif
    cases hcloseElif
  · next hkind =>
    rw [LineKind.of_eq_closeElse_iff.1 hkind] at hcloseElse
    cases hcloseElse
  · rw [hnone, helse]
    rfl

/-- A line that does not go on with a chain is read alike if the chain was completed before it. -/
theorem verdict_ready_step {b : Block} (hb : b.isReadable = true) {line : Text}
    (h : b.isJoint = true → LineKind.continuesChain line = false) :
    verdict (b.ready.step line) = verdict (b.step line) := by
  rw [ready_step]
  obtain ⟨stack, actions, mode⟩ := b
  cases mode with
  | within => rfl
  | opening =>
    show verdict (stepWithin _ line) = verdict (stepOpening _ line)
    rw [verdict_stepOpening, ready, stepWithin_mode]
  | joint done =>
    show verdict (stepWithin _ line) = verdict (stepJoint _ done line)
    rw [stepJoint_of_not_continuesChain _ done (h rfl)]
    rfl
  | elseAlone done => cases hb

theorem ready_finish {b : Block} (hb : b.isReadable = true) : b.ready.finish = b.finish := by
  obtain ⟨stack, actions, mode⟩ := b
  cases mode with
  | elseAlone done => cases hb
  | _ => cases stack <;> rfl

/-- A chain that is completed one line early makes no difference, if no line goes on with it. -/
theorem verdict_ready_read {b : Block} (hb : b.isReadable = true) {lines : List Text}
    (h : ∀ line ∈ lines.head?, b.isJoint = true → LineKind.continuesChain line = false) :
    verdict (b.ready.read lines) = verdict (b.read lines) := by
  cases lines with
  | nil => rw [read, read, ready_finish hb]
  | cons line rest =>
    rw [read, read]
    exact verdict_bind (verdict_ready_step hb (h line rfl)) _

/-! ## The line before -/

/-- The line before a body that waits: a brace before a chain that may go on, `else` before the
brace that belongs to it. -/
structure Follows (b : Block) (prev : Option Text) : Prop where
  joint : b.isJoint = true → prev = some LineKind.brace
  elseAlone : b.isReadable = false → prev = some "else".toList

theorem follows_of_within {b : Block} (h : b.mode = .within) (prev : Option Text) :
    b.Follows prev := by
  obtain ⟨stack, actions, mode⟩ := b
  subst h
  exact ⟨fun h => Bool.noConfusion h, fun h => Bool.noConfusion h⟩

theorem follows_openBranch (b : Block) (kind : BlockKind) (done : List Branch) (cond : Text)
    (prev : Option Text) : (b.openBranch kind done cond).Follows prev :=
  ⟨fun h => Bool.noConfusion h, fun h => Bool.noConfusion h⟩

theorem follows_continueElif {b next : Block} {done : List Branch} {rest : Text}
    (h : (b.continueElif done rest).map Progress.more = .ok (.more next)) (prev : Option Text) :
    next.Follows prev := by
  unfold continueElif at h
  dsimp only at h
  split at h
  · cases h
    exact follows_openBranch ..
  · cases h

theorem follows_stepWithin {b next : Block} {line : Text}
    (h : b.stepWithin line = .ok (.more next)) : next.Follows (some line) := by
  unfold stepWithin at h
  split at h
  · cases h
    exact follows_of_within rfl _
  · split at h <;> cases h
  · next hclose =>
    split at h
    · cases h
    · cases h
      exact ⟨fun _ => congrArg some (LineKind.of_eq_close_iff.1 hclose),
        fun h => Bool.noConfusion h⟩
    · cases h
      exact follows_of_within rfl _
  · split at h
    · exact follows_continueElif h _
    · split at h <;> cases h
  · split at h
    · cases h
      exact follows_of_within rfl _
    · split at h <;> cases h
  · cases h
    exact follows_openBranch ..
  · cases hparse : Statement.parse line with
    | error f =>
      rw [hparse] at h
      cases h
    | ok a =>
      rw [hparse] at h
      cases h
      exact follows_of_within rfl _

theorem follows_stepJoint {b next : Block} {done : List Branch} {line : Text}
    (h : b.stepJoint done line = .ok (.more next)) : next.Follows (some line) := by
  unfold stepJoint at h
  split at h
  · exact follows_continueElif h _
  · cases h
    exact follows_of_within rfl _
  · split at h
    · cases h
      exact follows_openBranch ..
    · split at h
      · split at h
        · cases h
          exact follows_of_within rfl _
        · split at h
          · next helse =>
            cases h
            exact ⟨fun h => Bool.noConfusion h, fun _ => congrArg some helse⟩
          · cases h
      · exact follows_stepWithin h

/-- After a line, a body waits only for what the line announces. -/
theorem follows_step {b next : Block} {line : Text} (h : b.step line = .ok (.more next)) :
    next.Follows (some line) := by
  rcases step_cases h with ⟨-, hwithin⟩ | ⟨done, -, hjoint⟩ | ⟨done, -, -, hnext⟩
  · exact follows_stepWithin hwithin
  · exact follows_stepJoint hjoint
  · cases hnext
    exact follows_of_within rfl _

end Block

namespace Reading

/-- The line before the next one, as far as the body that is being read determines it. -/
def Follows (r : Reading) (prev : Option Text) : Prop :=
  ∀ f name body, r.place = .state f name body → body.Follows prev

theorem follows_stepFlow (flows : List Flow) (f : Flow) (line : Text) (prev : Option Text) :
    (stepFlow flows f line).Follows prev := by
  intro g name body hplace
  unfold stepFlow at hplace
  split at hplace
  · cases hplace
    exact Block.follows_of_within rfl prev
  · split at hplace <;> cases hplace

theorem follows_step {r next : Reading} {line : Text} (h : r.step line = .ok next) :
    next.Follows (some line) := by
  obtain ⟨flows, place⟩ := r
  unfold step at h
  cases place with
  | outside =>
    dsimp only at h
    split at h
    · cases h
      rintro _ _ _ ⟨⟩
    · split at h <;> cases h
      rintro _ _ _ ⟨⟩
  | flow f =>
    cases h
    exact follows_stepFlow _ f line _
  | state f name body =>
    obtain ⟨progress, hprogress, h⟩ := bind_eq_ok_iff.1 h
    cases progress with
    | more inner =>
      cases h
      rintro _ _ _ ⟨⟩
      exact Block.follows_step hprogress
    | stopped actions =>
      cases h
      exact follows_stepFlow _ _ line _

/-! ## Lines without content -/

/-- Outside of states a line without content is passed over. -/
theorem step_filler_of_ne {r : Reading} (h : ∀ f name body, r.place ≠ .state f name body)
    {line : Text} (hline : LineKind.isFiller line = true) : r.step line = .ok r := by
  obtain ⟨hstate, hflow, hstart⟩ := LineKind.after?_of_blank (LineKind.of_filler hline)
  obtain ⟨flows, place⟩ := r
  cases place with
  | outside =>
    rw [step, hflow, hstart]
    rfl
  | flow f =>
    show Except.ok (stepFlow flows f line) = _
    rw [stepFlow, hstate, hflow]
  | state f name body => exact absurd rfl (h f name body)

/-- After a line without content no body waits for anything. -/
theorem follows_filler {r next : Reading} {line : Text} (hline : LineKind.isFiller line = true)
    (h : r.step line = .ok next) (prev : Option Text) : next.Follows prev := by
  intro f name body hplace
  have hfollows := follows_step h f name body hplace
  refine ⟨fun hjoint => ?_, fun helse => ?_⟩
  · cases Option.some.inj (hfollows.joint hjoint)
    cases hline
  · cases Option.some.inj (hfollows.elseAlone helse)
    cases hline

/-- One line without content, not at a joint, makes no difference. -/
theorem complete_filler {r : Reading} {prev : Option Text} (hr : r.Follows prev) {filler : Text}
    (hfiller : LineKind.isFiller filler = true) {lines : List Text}
    (h : ∀ before ∈ prev, ∀ after ∈ lines.head?, LineKind.isChainJoint before after = false) :
    verdict (Descent.complete r (filler :: lines)) = verdict (Descent.complete r lines) := by
  by_cases hplace : ∃ f name body, r.place = .state f name body
  · obtain ⟨f, name, body, hplace⟩ := hplace
    obtain ⟨flows, place⟩ := r
    subst hplace
    have hbody := hr f name body rfl
    rw [Descent.complete_state, Descent.complete_state]
    refine verdict_bind ?_ _
    cases hreadable : body.isReadable with
    | true =>
      rw [Block.read, Block.step_filler hreadable hfiller]
      refine Block.verdict_ready_read hreadable fun line hline hjoint => ?_
      exact LineKind.continuesChain_of_brace (h _ (hbody.joint hjoint) line hline)
    | false =>
      have hfirst : ∀ line ∈ (filler :: lines).head?, line ≠ ['\x7b'] := by
        rintro _ ⟨⟩ rfl
        cases hfiller
      have hnext : ∀ line ∈ lines.head?, line ≠ ['\x7b'] := fun line hline =>
        LineKind.ne_of_else (h _ (hbody.elseAlone hreadable) line hline)
      rw [Block.read_of_not_isReadable hreadable hfirst,
        Block.read_of_not_isReadable hreadable hnext]
  · rw [Descent.complete_cons, step_filler_of_ne (fun f name body h => hplace ⟨f, name, body, h⟩)
      hfiller]
    rfl

end Reading

/-! ## Texts -/

namespace Script

/-- Between the line before, if there is one, and the lines after it there is no joint. -/
def admits : Option Text → List Text → Bool
  | some before, after :: _ => !LineKind.isChainJoint (Text.strip before) (Text.strip after)
  | _, _ => true

theorem not_isChainJoint_of_admits {prev : Option Text} {lines : List Text}
    (h : admits prev lines = true) :
    ∀ before ∈ prev.map Text.strip, ∀ after ∈ (lines.map Text.strip).head?,
      LineKind.isChainJoint before after = false := by
  intro before hbefore after hafter
  obtain ⟨first, rfl, rfl⟩ := Option.map_eq_some_iff.1 hbefore
  cases lines with
  | nil => cases hafter
  | cons line rest =>
    cases hafter
    rwa [admits, Bool.not_eq_true'] at h

/-- The second lines are the first, laid out anew after the line before: each line keeps its
content, and lines without content are added where there is no joint. -/
inductive Reformatted : Option Text → List Text → List Text → Prop where
  | nil (prev : Option Text) : Reformatted prev [] []
  | keep {prev : Option Text} {line line' : Text} {lines lines' : List Text} :
      Text.strip line' = Text.strip line → Reformatted (some line) lines lines' →
        Reformatted prev (line :: lines) (line' :: lines')
  | insert {prev : Option Text} {filler : Text} {lines lines' : List Text} :
      LineKind.isFiller (Text.strip filler) = true → admits prev lines = true →
        Reformatted prev lines lines' → Reformatted prev lines (filler :: lines')

/-- The text is not read as a script, and one gets to know it. -/
def IsRefused (t : Text) : Prop := ∃ f, parse t = .error f ∧ f ≠ .endless

theorem complete_reformatted {prev : Option Text} {lines lines' : List Text}
    (h : Reformatted prev lines lines') {r : Reading} (hr : r.Follows (prev.map Text.strip)) :
    verdict (Descent.complete r (lines'.map Text.strip)) =
      verdict (Descent.complete r (lines.map Text.strip)) := by
  induction h generalizing r with
  | nil => rfl
  | @keep prev line line' lines lines' hline _ ih =>
    rw [List.map_cons, List.map_cons, hline, Descent.complete_cons, Descent.complete_cons]
    cases hstep : r.step (Text.strip line) with
    | error f => rfl
    | ok next => exact ih (Reading.follows_step hstep)
  | @insert prev filler lines lines' hfiller hadmits _ ih =>
    have hsame : verdict (Descent.complete r (Text.strip filler :: lines'.map Text.strip)) =
        verdict (Descent.complete r (Text.strip filler :: lines.map Text.strip)) := by
      rw [Descent.complete_cons, Descent.complete_cons]
      cases hstep : r.step (Text.strip filler) with
      | error f => rfl
      | ok next => exact ih (Reading.follows_filler hfiller hstep _)
    exact hsame.trans (Reading.complete_filler hr hfiller (not_isChainJoint_of_admits hadmits))

theorem parse_eq_complete (t : Text) :
    parse t = Descent.complete {} ((Text.lines t).map Text.strip) := rfl

/-- Layout does not matter: a text whose lines have the same contents is read as the same script
or refused with the same fault; and if lines without content are added, but not at a joint, it is
read as the same script or refused as well. -/
theorem parse_layout (t t' : Text) :
    (List.Forall₂ (fun line line' => Text.strip line' = Text.strip line)
        (Text.lines t) (Text.lines t') → parse t' = parse t) ∧
      (Reformatted none (Text.lines t) (Text.lines t') →
        (∀ script, parse t' = .ok script ↔ parse t = .ok script) ∧
          (IsRefused t' ↔ IsRefused t)) := by
  constructor
  · intro h
    have hlines : (Text.lines t').map Text.strip = (Text.lines t).map Text.strip := by
      rw [← List.forall₂_eq_eq_eq, List.forall₂_map_left_iff, List.forall₂_map_right_iff]
      exact h.flip
    rw [parse_eq_complete, parse_eq_complete, hlines]
  · intro h
    have hverdict : verdict (parse t') = verdict (parse t) :=
      complete_reformatted h fun _ _ _ hplace => by cases hplace
    refine ⟨ok_iff_of_verdict hverdict, ?_⟩
    rw [IsRefused, IsRefused, ← verdict_eq_fault_iff, ← verdict_eq_fault_iff, hverdict]

-- At a joint an empty line does matter: the chain is complete, and nothing is left for `else`.
example : IsRefused "flow m\nstate s\nif a \x7b\n\x7d\n\nelse \x7b\n\x7d".toList :=
  ⟨.unknownStatement "else \x7b".toList, rfl, by simp⟩

/-- A chain with nothing between its lines. -/
def compactLines : List Text :=
  ["flow m", "state s", "if a \x7b", "reply b", "\x7d", "else", "\x7b", "\x7d"].map String.toList

/-- The same chain, with comments and empty lines. -/
def spacedLines : List Text :=
  ["# m", "flow m", "", "  state s", "\tif a \x7b ", "  # yes", "reply b", " ", "\x7d", "else",
    "\x7b", "# no", "\x7d", "#"].map String.toList

theorem reformatted_spacedLines : Reformatted none compactLines spacedLines :=
  .insert rfl rfl <| .keep rfl <| .insert rfl rfl <| .keep rfl <| .keep rfl <| .insert rfl rfl <|
    .keep rfl <| .insert rfl rfl <| .keep rfl <| .keep rfl <| .keep rfl <| .insert rfl rfl <|
    .keep rfl <| .insert rfl rfl <| .nil _

theorem parse_layout_spaced :
    ∃ t t' script, Text.lines t = compactLines ∧ Text.lines t' = spacedLines ∧
      parse t = .ok script ∧ parse t' = .ok script := by
  have hterse := @Text.lines_flatMap compactLines (List.all_eq_true.1 rfl)
  have hairy := @Text.lines_flatMap spacedLines (List.all_eq_true.1 rfl)
  obtain ⟨hok, -⟩ := (parse_layout _ _).2 (hterse.symm ▸ hairy.symm ▸ reformatted_spacedLines)
  exact ⟨_, _, _, hterse, hairy, rfl, (hok _).2 rfl⟩

end Script
end Dialogue
