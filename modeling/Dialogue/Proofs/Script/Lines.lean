import Dialogue.Proofs.Script.Block
import Dialogue.Script.Parser
set_option autoImplicit false

/-!
# Statements occupy one line each

No line of a well-formed script holds an end of a line, so its text is cut into the lines that were
written.  Main statement: `strippedLines_print`.
-/

namespace Dialogue

namespace Action

/-! ## Lines of actions -/

theorem isOneLine_word {word rest : Text} (hw : word.isOneLine = true)
    (hr : rest.isOneLine = true) : Text.isOneLine (word ++ rest) = true := by
  rw [Text.isOneLine_append, hw, hr]
  rfl

/-- A line with a name and a text after two fixed words. -/
theorem isOneLine_assignment {word sign var right : Text} (hw : word.isOneLine = true)
    (hs : sign.isOneLine = true) (hv : var.isName = true) (hr : right.isOneLine = true) :
    Text.isOneLine (word ++ var ++ sign ++ right) = true := by
  rw [List.append_assoc, List.append_assoc]
  exact isOneLine_word hw (isOneLine_word (Text.isOneLine_of_isName hv) (isOneLine_word hs hr))

theorem isOneLine_opening {word condition : Text} (hw : word.isOneLine = true)
    (hc : condition.isOneLine = true) : (Spelling.opening word condition).isOneLine = true := by
  have hspace : Text.isLineEnd ' ' = false := by decide
  have hbrace : Text.isLineEnd '\x7b' = false := by decide
  simp only [Spelling.opening, Text.isOneLine_append, Text.isOneLine_cons, hw, hc, hspace, hbrace]
  rfl

theorem isOneLine_joint {s : Spelling} {opening : Text} (h : opening.isOneLine = true) :
    ∀ line ∈ s.joint opening, line.isOneLine = true := by
  have hclosing : (Spelling.closing opening).isOneLine = true := by
    have hbrace : Text.isLineEnd '\x7d' = false := by decide
    have hspace : Text.isLineEnd ' ' = false := by decide
    simp only [Spelling.closing, Text.isOneLine_cons, hbrace, hspace, h]
    rfl
  have hbrace : Text.isOneLine ['\x7d'] = true := by decide
  intro line hline
  cases s with
  | attached =>
    obtain rfl : line = Spelling.closing opening := List.mem_singleton.1 hline
    exact hclosing
  | separate =>
    rcases List.mem_cons.1 hline with rfl | hlast
    · exact hbrace
    · obtain rfl : line = opening := List.mem_singleton.1 hlast
      exact h

theorem isOneLine_statement (s : Spelling) {a : Action} (h : a.wellFormed = true)
    (hchain : ∀ branches otherwise, a ≠ .chain branches otherwise) :
    ∀ line ∈ a.lines s, line.isOneLine = true := by
  have hspace {t : Text} (ht : t.isOneLine = true) : Text.isOneLine (' ' :: t) = true := by
    have hs : Text.isLineEnd ' ' = false := by decide
    simp [hs, ht]
  intro line hline
  cases a with
  | reply text =>
    obtain rfl := List.mem_singleton.1 hline
    exact isOneLine_word (by decide) (Statement.isOneLine_inQuotes h)
  | goto target =>
    obtain rfl := List.mem_singleton.1 hline
    exact isOneLine_word (by decide) (Text.isOneLine_of_isName h)
  | ask var prompt =>
    obtain rfl := List.mem_singleton.1 hline
    simp only [wellFormed, Bool.and_eq_true] at h
    rw [List.append_assoc]
    exact isOneLine_word (by decide) (isOneLine_word (Text.isOneLine_of_isName h.1)
      (hspace (Statement.isOneLine_inQuotes h.2)))
  | set var value =>
    obtain rfl := List.mem_singleton.1 hline
    simp only [wellFormed, Bool.and_eq_true] at h
    exact isOneLine_assignment (by decide) (by decide) h.1.1 (Statement.isOneLine_inQuotes h.2)
  | setExpr var expr =>
    obtain rfl := List.mem_singleton.1 hline
    simp only [wellFormed, Bool.and_eq_true] at h
    exact isOneLine_assignment (by decide) (by decide) h.1.1.1.1 h.1.2
  | ifGoto left right target =>
    obtain rfl := List.mem_singleton.1 hline
    simp only [wellFormed, Bool.and_eq_true] at h
    obtain ⟨⟨⟨⟨⟨⟨-, hl⟩, -⟩, hr⟩, -⟩, ht⟩, -⟩ := h
    simp only [List.append_assoc]
    have hjump : Text.isOneLine (" goto ".toList ++ target) = true :=
      isOneLine_word (by decide) (Text.isOneLine_of_isName ht)
    have hright := isOneLine_word (Statement.isOneLine_inQuotes hr) hjump
    exact isOneLine_word (by decide) (isOneLine_word hl (isOneLine_word (by decide) hright))
  | save var path =>
    obtain rfl := List.mem_singleton.1 hline
    simp only [wellFormed, Bool.and_eq_true] at h
    exact isOneLine_assignment (by decide) (by decide) h.1 (Statement.isOneLine_inQuotes h.2)
  | load var path =>
    obtain rfl := List.mem_singleton.1 hline
    simp only [wellFormed, Bool.and_eq_true] at h
    exact isOneLine_assignment (by decide) (by decide) h.1 (Statement.isOneLine_inQuotes h.2)
  | chain branches otherwise => exact absurd rfl (hchain branches otherwise)
  | compare left sign right body otherwise => exact Bool.noConfusion h
  | unknown kind => exact Bool.noConfusion h

mutual

/-- No line of an action holds an end of a line. -/
theorem isOneLine_lines (s : Spelling) : ∀ a : Action, a.wellFormed = true →
    ∀ line ∈ a.lines s, line.isOneLine = true
  | .chain branches otherwise, h, line, hline => by
    simp only [wellFormed, Bool.and_eq_true] at h
    simp only [lines, List.mem_append, List.mem_singleton] at hline
    rcases hline with (hbranch | hotherwise) | rfl
    · exact isOneLine_linesOfBranches s true branches h.1.2 line hbranch
    · exact isOneLine_linesOfOtherwise s otherwise h.2 line hotherwise
    · decide
  | .reply text, h, line, hline =>
    isOneLine_statement s h (fun _ _ => Action.noConfusion) line hline
  | .goto target, h, line, hline =>
    isOneLine_statement s h (fun _ _ => Action.noConfusion) line hline
  | .ask var prompt, h, line, hline =>
    isOneLine_statement s h (fun _ _ => Action.noConfusion) line hline
  | .set var value, h, line, hline =>
    isOneLine_statement s h (fun _ _ => Action.noConfusion) line hline
  | .setExpr var expr, h, line, hline =>
    isOneLine_statement s h (fun _ _ => Action.noConfusion) line hline
  | .ifGoto left right target, h, line, hline =>
    isOneLine_statement s h (fun _ _ => Action.noConfusion) line hline
  | .save var path, h, line, hline =>
    isOneLine_statement s h (fun _ _ => Action.noConfusion) line hline
  | .load var path, h, line, hline =>
    isOneLine_statement s h (fun _ _ => Action.noConfusion) line hline
  | .compare _ _ _ _ _, h, _, _ => Bool.noConfusion h
  | .unknown _, h, _, _ => Bool.noConfusion h

theorem isOneLine_linesOfAll (s : Spelling) : ∀ actions : List Action,
    wellFormedAll actions = true → ∀ line ∈ linesOfAll s actions, line.isOneLine = true
  | [], _, line, hline => by simp [linesOfAll] at hline
  | a :: rest, h, line, hline => by
    simp only [wellFormedAll, Bool.and_eq_true] at h
    simp only [linesOfAll, List.mem_append] at hline
    rcases hline with ha | hrest
    · exact isOneLine_lines s a h.1 line ha
    · exact isOneLine_linesOfAll s rest h.2 line hrest

theorem isOneLine_linesOfBranches (s : Spelling) (isFirst : Bool) :
    ∀ branches : List (Text × List Action), wellFormedBranches branches = true →
      ∀ line ∈ linesOfBranches s isFirst branches, line.isOneLine = true
  | [], _, line, hline => by simp [linesOfBranches] at hline
  | p :: rest, h, line, hline => by
    simp only [wellFormedBranches, Bool.and_eq_true] at h
    simp only [linesOfBranches, List.mem_append] at hline
    rcases hline with hp | hrest
    · exact isOneLine_linesOfBranch s isFirst p h.1 line hp
    · exact isOneLine_linesOfBranches s false rest h.2 line hrest

theorem isOneLine_linesOfBranch (s : Spelling) (isFirst : Bool) : ∀ p : Text × List Action,
    wellFormedBranch p = true → ∀ line ∈ linesOfBranch s isFirst p, line.isOneLine = true
  | (condition, actions), h, line, hline => by
    simp only [wellFormedBranch, Bool.and_eq_true] at h
    simp only [linesOfBranch, List.mem_append] at hline
    rcases hline with hhead | hbody
    · cases isFirst with
      | true =>
        rw [Spelling.heading_first, List.mem_singleton] at hhead
        rw [hhead]
        exact isOneLine_opening (by decide) h.1.2
      | false =>
        rw [Spelling.heading_later] at hhead
        exact isOneLine_joint (isOneLine_opening (by decide) h.1.2) line hhead
    · exact isOneLine_linesOfAll s actions h.2 line hbody

theorem isOneLine_linesOfOtherwise (s : Spelling) : ∀ otherwise : Option (List Action),
    wellFormedOtherwise otherwise = true →
      ∀ line ∈ linesOfOtherwise s otherwise, line.isOneLine = true
  | none, _, line, hline => by simp [linesOfOtherwise] at hline
  | some actions, h, line, hline => by
    simp only [linesOfOtherwise, List.mem_append] at hline
    rcases hline with hjoint | hbody
    · exact isOneLine_joint (by decide) line hjoint
    · exact isOneLine_linesOfAll s actions h line hbody

end

end Action

/-! ## Lines of scripts -/

theorem State.isOneLine_lines {s : Spelling} {state : State} (h : state.wellFormed = true) :
    ∀ line ∈ state.lines s, line.isOneLine = true := by
  obtain ⟨hname, hactions⟩ := Bool.and_eq_true_iff.1 h
  intro line hline
  rcases List.mem_cons.1 hline with rfl | hbody
  · exact Action.isOneLine_word (by decide) (Text.isOneLine_of_isName hname)
  · exact Action.isOneLine_linesOfAll s state.actions hactions line hbody

theorem Flow.isOneLine_lines {s : Spelling} {f : Flow} (h : f.wellFormed = true) :
    ∀ line ∈ f.lines s, line.isOneLine = true := by
  simp only [Flow.wellFormed, Bool.and_eq_true, List.all_eq_true] at h
  intro line hline
  rcases List.mem_cons.1 hline with rfl | hstates
  · exact Action.isOneLine_word (by decide) (Text.isOneLine_of_isName h.1.1)
  · obtain ⟨state, hstate, hline⟩ := List.mem_flatMap.1 hstates
    exact State.isOneLine_lines (h.1.2 state hstate) line hline

/-- The text of a script is cut into the lines of its statements. -/
theorem Script.strippedLines_print (s : Spelling) {script : Script}
    (h : script.wellFormed = true) :
    strippedLines (script.print s) = (script.lines s).map Text.strip := by
  simp only [Script.wellFormed, Bool.and_eq_true, List.all_eq_true] at h
  have hlines : ∀ line ∈ script.lines s, line.isOneLine = true := by
    intro line hline
    obtain ⟨f, hf, hline⟩ := List.mem_flatMap.1 hline
    exact Flow.isOneLine_lines (h.1.2 f hf) line hline
  rw [strippedLines, Script.print, Text.lines_flatMap hlines]

end Dialogue
