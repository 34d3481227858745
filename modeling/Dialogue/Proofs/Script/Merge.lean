import Dialogue.Proofs.Except
import Dialogue.Proofs.Script.RoundTrip
set_option autoImplicit false

/-!
# Concatenation of scripts

A text that is a script leaves no block open, so another script can follow it.  Its flows are then
read as if they had been written alone, and are put among the flows before them.  Main statement:
two texts one after the other write the first script, updated by the second
(`Script.parse_append_newline`).
-/

namespace Dialogue

/-! ## Lines of two texts -/

namespace Text

theorem lines_ne_nil {t : Text} (h : t ≠ []) : lines t ≠ [] := by
  fun_cases lines t with
  | case1 => exact absurd rfl h
  | case2 t => exact List.cons_ne_nil _ _
  | case3 c t => exact List.cons_ne_nil _ _
  | case4 c t =>
    unfold ontoFirst
    split <;> exact List.cons_ne_nil _ _

/-- Two characters that are no pair of ends of lines are read one after the other. -/
theorem lines_cons {c : Char} {t : Text} (h : c = '\r' → t.head? ≠ some '\n') :
    lines (c :: t) = if isLineEnd c then [] :: lines t else ontoFirst c (lines t) := by
  rw [lines]
  intro rest hc ht
  exact h hc (by rw [ht]; rfl)

theorem ontoFirst_append (c : Char) {ls : List Text} (h : ls ≠ []) (more : List Text) :
    ontoFirst c (ls ++ more) = ontoFirst c ls ++ more := by
  cases ls with
  | nil => exact absurd rfl h
  | cons l ls => rfl

/-- A newline between two texts ends the last line of the first, or else it adds an empty line. -/
theorem lines_append (s t : Text) :
    ∃ gap, (gap = [] ∨ gap = [[]]) ∧ lines (s ++ '\n' :: t) = lines s ++ gap ++ lines t := by
  fun_induction lines s with
  | case1 => exact ⟨[[]], .inr rfl, by simp [lines, isLineEnd]⟩
  | case2 s ih =>
    obtain ⟨gap, hgap, h⟩ := ih
    exact ⟨gap, hgap, by simp [lines, h]⟩
  | case3 c s hpair hend ih =>
    cases s with
    | nil =>
      by_cases hc : c = '\r'
      · -- the newline belongs to the carriage return before it
        subst hc
        exact ⟨[], .inl rfl, by simp [lines]⟩
      · refine ⟨[[]], .inr rfl, ?_⟩
        rw [List.singleton_append, lines_cons fun h => absurd h hc, if_pos hend]
        simp [lines, isLineEnd]
    | cons d s =>
      obtain ⟨gap, hgap, h⟩ := ih
      refine ⟨gap, hgap, ?_⟩
      rw [List.cons_append, lines_cons, if_pos hend, h]
      · rfl
      · intro hc hd
        obtain rfl : d = '\n' := by simpa using hd
        exact hpair s hc rfl
  | case4 c s hpair hend ih =>
    have hc : c ≠ '\r' := by
      rintro rfl
      exact hend rfl
    obtain ⟨gap, hgap, h⟩ := ih
    rw [List.cons_append, lines_cons fun h => absurd h hc, if_neg hend]
    cases s with
    | nil => exact ⟨[], .inl rfl, by simp [lines, isLineEnd, ontoFirst]⟩
    | cons d s =>
      refine ⟨gap, hgap, ?_⟩
      rw [h, List.append_assoc, ontoFirst_append c (lines_ne_nil (List.cons_ne_nil d s)),
        List.append_assoc]

end Text

/-! ## Flows under their names -/

namespace Script

/-- What a list of new flows has under the name of a flow, or else the flow itself. -/
def replacement (new : List Flow) (f : Flow) : Flow := (new.find? fun g => g.name = f.name).getD f

/-- The flows of a script, updated by those of another: a flow of a name that both have is replaced
in its place, and the other new flows follow in order. -/
def merge (old new : List Flow) : List Flow :=
  old.map (replacement new) ++ new.filter fun g => g.name ∉ old.map Flow.name

/-- The script updated by another. -/
def updatedBy (a b : Script) : Script := ⟨merge a.flows b.flows⟩

theorem name_replacement (new : List Flow) (f : Flow) : (replacement new f).name = f.name := by
  unfold replacement
  cases hfind : new.find? fun g => g.name = f.name with
  | none => rfl
  | some g => simpa using List.find?_some hfind

theorem names_map_replacement (new old : List Flow) :
    (old.map (replacement new)).map Flow.name = old.map Flow.name := by
  rw [List.map_map]
  exact List.map_congr_left fun f _ => name_replacement new f

section put

variable (f : Flow) (flows : List Flow)

theorem names_put :
    (put f flows).map Flow.name =
      if f.name ∈ flows.map Flow.name then flows.map Flow.name
      else flows.map Flow.name ++ [f.name] := by
  induction flows with
  | nil => rfl
  | cons x rest ih =>
    by_cases hx : x.name = f.name
    · simp [put, hx]
    · have hne : f.name ≠ x.name := fun h => hx h.symm
      rw [put, if_neg hx, List.map_cons, ih, List.map_cons]
      by_cases hf : f.name ∈ rest.map Flow.name
      · rw [if_pos hf, if_pos (List.mem_cons_of_mem _ hf)]
      · rw [if_neg hf, if_neg (List.not_mem_cons_of_ne_of_not_mem hne hf)]
        rfl

theorem nodup_names_put {flows : List Flow} (h : (flows.map Flow.name).Nodup) :
    ((put f flows).map Flow.name).Nodup := by
  rw [names_put]
  split
  · exact h
  · next hf =>
    refine List.nodup_append.2 ⟨h, by simp, ?_⟩
    intro old hold new hnew heq
    rw [heq, List.mem_singleton.1 hnew] at hold
    exact hf hold

theorem replacement_put (g : Flow) :
    replacement (put f flows) g = if g.name = f.name then f else replacement flows g := by
  unfold replacement
  induction flows with
  | nil => by_cases hf : f.name = g.name <;> simp [put, hf, eq_comm]
  | cons x rest ih =>
    rw [put]
    by_cases hx : x.name = f.name
    · by_cases hf : g.name = f.name
      · simp [hx, hf]
      · simp [hx, hf, Ne.symm hf]
    · rw [if_neg hx]
      by_cases hname : x.name = g.name
      · have hf : g.name ≠ f.name := fun h => hx (hname.trans h)
        simp [hname, hf]
      · simpa [hname] using ih

theorem filter_put (p : Text → Bool) :
    ((put f flows).filter fun g => p g.name) =
      if p f.name then put f (flows.filter fun g => p g.name)
      else flows.filter fun g => p g.name := by
  induction flows with
  | nil => by_cases hf : p f.name <;> simp [put, hf]
  | cons x rest ih =>
    rw [put]
    by_cases hx : x.name = f.name
    · by_cases hf : p f.name <;> simp [put, hx, hf]
    · rw [if_neg hx, List.filter_cons, List.filter_cons, ih]
      by_cases hname : p x.name
      · by_cases hf : p f.name
        · simp [hname, hf, put, hx]
        · simp [hname, hf]
      · simp [hname]

end put

theorem put_append_of_notMem {f : Flow} {xs : List Flow} (h : f.name ∉ xs.map Flow.name)
    (ys : List Flow) : put f (xs ++ ys) = xs ++ put f ys := by
  induction xs with
  | nil => rfl
  | cons x xs ih =>
    obtain ⟨hx, hxs⟩ : f.name ≠ x.name ∧ f.name ∉ xs.map Flow.name := by simpa using h
    rw [List.cons_append, put, if_neg (Ne.symm hx), ih hxs, List.cons_append]

/-- A flow whose name is known replaces the one flow of that name. -/
theorem put_append_of_mem {f : Flow} {xs : List Flow} (hnames : (xs.map Flow.name).Nodup)
    (h : f.name ∈ xs.map Flow.name) (ys : List Flow) :
    put f (xs ++ ys) = (xs.map fun x => if x.name = f.name then f else x) ++ ys := by
  induction xs with
  | nil => cases h
  | cons x xs ih =>
    obtain ⟨hx, hxs⟩ := List.nodup_cons.1 hnames
    rw [List.cons_append, put, List.map_cons]
    by_cases hname : x.name = f.name
    · have hothers : ∀ y ∈ xs, (if y.name = f.name then f else y) = id y := by
        intro y hy
        have hne : y.name ≠ f.name := by
          intro heq
          apply hx
          rw [hname, ← heq]
          exact List.mem_map_of_mem hy
        exact if_neg hne
      rw [if_pos hname, if_pos hname, List.map_congr_left hothers, List.map_id]
      rfl
    · have hmem : f.name ∈ xs.map Flow.name := by
        rcases List.mem_cons.1 h with heq | hmem
        · exact absurd heq.symm hname
        · exact hmem
      rw [if_neg hname, if_neg hname, ih hxs hmem]
      rfl

theorem merge_nil (old : List Flow) : merge old [] = old := by
  have hsame : ∀ f ∈ old, replacement [] f = id f := fun f _ => rfl
  rw [merge, List.map_congr_left hsame, List.map_id]
  exact List.append_nil old

/-- To put a flow among merged flows is to put it among the new ones. -/
theorem put_merge {old : List Flow} (h : (old.map Flow.name).Nodup) (f : Flow) (new : List Flow) :
    put f (merge old new) = merge old (put f new) := by
  have hnames := names_map_replacement new old
  have hfilter := filter_put f new fun name => name ∉ old.map Flow.name
  unfold merge
  rw [hfilter]
  by_cases hf : f.name ∈ old.map Flow.name
  · rw [put_append_of_mem (by rwa [hnames]) (by rwa [hnames]), if_neg (by simpa using hf),
      List.map_map]
    congr 1
    refine List.map_congr_left fun g _ => ?_
    rw [Function.comp_apply, name_replacement, replacement_put]
  · rw [put_append_of_notMem (by rwa [hnames]), if_pos (by simpa using hf)]
    congr 1
    refine List.map_congr_left fun g hg => ?_
    have hne : g.name ≠ f.name := by
      intro heq
      apply hf
      rw [← heq]
      exact List.mem_map_of_mem hg
    rw [replacement_put, if_neg hne]

end Script

/-! ## Blank lines -/

namespace LineKind

theorem isOwn_of_blank {line : Text} (h : LineKind.of line = .blank) : IsOwn line := by
  have hkind (kind : LineKind) (hne : kind ≠ .blank) : LineKind.of line ≠ kind := by
    rw [h]
    exact Ne.symm hne
  refine ⟨fun rest => hkind _ (by simp), hkind _ (by simp), ?_, ?_,
    fun hplain => absurd hplain (hkind _ (by simp))⟩
  all_goals rcases of_eq_blank_iff.1 h with rfl | ⟨rest, rfl⟩ <;> rfl

/-- A blank line begins neither a state nor a flow. -/
theorem after?_of_blank {line : Text} (h : LineKind.of line = .blank) :
    Statement.after? "state" line = none ∧ Statement.after? "flow" line = none ∧
      Text.startsWith "state ".toList line = false := by
  rcases of_eq_blank_iff.1 h with rfl | ⟨rest, rfl⟩ <;> exact ⟨rfl, rfl, rfl⟩

theorem exists_after?_flow {line : Text} (h : Text.startsWith "flow ".toList line = true) :
    ∃ name, Statement.after? "flow" line = some name := by
  obtain ⟨name, rfl⟩ := Text.startsWith_iff.1 h
  exact ⟨Text.strip name, rfl⟩

end LineKind

/-! ## The end of a script -/

/-- A body that is complete has no open block. -/
theorem Block.closed_of_finish {b : Block} {actions : List Action} (h : b.finish = .ok actions) :
    b.isReadable = true ∧ b.stack = [] := by
  obtain ⟨stack, earlier, mode⟩ := b
  cases stack with
  | nil =>
    cases mode with
    | elseAlone done => cases h
    | _ => exact ⟨rfl, rfl⟩
  | cons frame rest => cases mode <;> cases h

namespace Reading

theorem flows_of_completesTo {r : Reading} {flows : List Flow} {f : Flow}
    (h : r.CompletesTo flows f) :
    r.flows = flows := by
  rcases h with rfl | ⟨g, name, body, rfl, -⟩
  · rfl
  · rfl

/-- A script that is complete has no open block. -/
theorem completesTo_of_finish {r : Reading} {script : Script} (h : r.finish = .ok script) :
    ∃ flows f, r.CompletesTo flows f ∧ script = ⟨Script.put f flows⟩ := by
  obtain ⟨flows, place⟩ := r
  cases place with
  | outside => cases h
  | flow f => exact ⟨flows, f, .inl rfl, (Except.ok.inj h).symm⟩
  | state g name body =>
    obtain ⟨actions, hbody, -⟩ := bind_eq_ok_iff.1 h
    have hcompletes : CompletesTo ⟨flows, .state g name body⟩ flows
        { g with states := Flow.put ⟨name, body.ready.actions⟩ g.states } := by
      obtain ⟨hreadable, hstack⟩ := Block.closed_of_finish hbody
      exact .inr ⟨g, name, body, rfl, hreadable, hstack, rfl⟩
    exact ⟨flows, _, hcompletes, Except.ok.inj (h.symm.trans (finish_of_completesTo hcompletes))⟩

/-- A blank line after a script changes nothing. -/
theorem step_blank {r : Reading} {flows : List Flow} {f : Flow} (h : r.CompletesTo flows f)
    {line : Text} (hline : LineKind.of line = .blank) :
    ∃ next, r.step line = .ok next ∧ next.CompletesTo flows f := by
  obtain ⟨hstate, hflow, -⟩ := LineKind.after?_of_blank hline
  rcases h with rfl | ⟨g, name, body, rfl, hreadable, hstack, rfl⟩
  · refine ⟨⟨flows, .flow f⟩, ?_, .inl rfl⟩
    show Except.ok (stepFlow flows f line) = _
    rw [stepFlow, hstate, hflow]
  · have hmore : body.step line = .ok (.more { body.ready with mode := .within }) := by
      rw [Block.step_of_isOwn hreadable (LineKind.isOwn_of_blank hline), Block.stepWithin, hline]
    refine ⟨_, step_of_more hmore, .inr ⟨g, name, _, rfl, rfl, ?_, rfl⟩⟩
    exact (Block.stack_ready body).trans hstack

theorem run_blank {r : Reading} {flows : List Flow} {f : Flow} (h : r.CompletesTo flows f)
    {lines : List Text} (hlines : ∀ line ∈ lines, LineKind.of line = .blank) :
    ∃ next, r.run lines = .ok next ∧ next.CompletesTo flows f := by
  induction lines generalizing r with
  | nil => exact ⟨r, rfl, h⟩
  | cons line rest ih =>
    obtain ⟨hline, hrest⟩ := List.forall_mem_cons.1 hlines
    obtain ⟨middle, hstep, hmiddle⟩ := step_blank h hline
    rw [run_cons hstep]
    exact ih hmiddle hrest

/-- After a script a flow begins, whatever its name is. -/
theorem step_flowLine {r : Reading} {flows : List Flow} {f : Flow} (h : r.CompletesTo flows f)
    {line name : Text} (hline : Statement.after? "flow" line = some name) :
    r.step line = .ok (beginFlow (Script.put f flows) name) := by
  obtain ⟨rest, hrest, -⟩ := Option.map_eq_some_iff.1 hline
  obtain rfl : line = LineKind.headingLine "flow".toList rest := by
    simpa [LineKind.headingLine] using Text.eq_append_of_after? hrest
  rw [step_heading h (LineKind.isHeading_flow rest), stepFlow, hline]
  rfl

/-- Blank lines before the first flow change nothing. -/
theorem run_blank_outside {lines : List Text}
    (hlines : ∀ line ∈ lines, LineKind.of line = .blank) : run {} lines = .ok {} := by
  induction lines with
  | nil => rfl
  | cons line rest ih =>
    obtain ⟨hline, hrest⟩ := List.forall_mem_cons.1 hlines
    obtain ⟨-, hflow, hstate⟩ := LineKind.after?_of_blank hline
    have hstep : step {} line = .ok {} := by
      unfold step
      simp only [hflow, hstate]
      rfl
    rw [run_cons hstep]
    exact ih hrest

/-! ## Reading after another script -/

/-- What has been read, after the flows of another script. -/
def onto (old : List Flow) (r : Reading) : Reading := ⟨Script.merge old r.flows, r.place⟩

section onto

variable {old : List Flow} (h : (old.map Flow.name).Nodup)

include h

theorem stepFlow_onto (flows : List Flow) (f : Flow) (line : Text) :
    stepFlow (Script.merge old flows) f line = (stepFlow flows f line).onto old := by
  unfold stepFlow
  cases Statement.after? "state" line with
  | some name => rfl
  | none =>
    cases Statement.after? "flow" line with
    | some name =>
      show beginFlow (Script.put f (Script.merge old flows)) name = _
      rw [Script.put_merge h]
      rfl
    | none => rfl

theorem step_onto (r : Reading) (line : Text) :
    (r.onto old).step line = (r.step line).map (onto old) := by
  obtain ⟨flows, place⟩ := r
  unfold step onto
  cases place with
  | outside =>
    dsimp only
    cases Statement.after? "flow" line with
    | some name => rfl
    | none => cases Text.startsWith "state ".toList line <;> rfl
  | flow f =>
    show Except.ok _ = Except.ok _
    rw [stepFlow_onto h]
    rfl
  | state f name body =>
    dsimp only
    cases body.step line with
    | error fault => rfl
    | ok progress =>
      cases progress with
      | more body => rfl
      | stopped actions =>
        show Except.ok _ = Except.ok _
        rw [stepFlow_onto h]
        rfl

theorem run_onto (r : Reading) (lines : List Text) :
    (r.onto old).run lines = (r.run lines).map (onto old) := by
  induction lines generalizing r with
  | nil => rfl
  | cons line rest ih =>
    rw [run, run, step_onto h]
    cases r.step line with
    | error fault => rfl
    | ok next => exact ih next

theorem finish_onto (r : Reading) :
    (r.onto old).finish = r.finish.map fun s => ⟨Script.merge old s.flows⟩ := by
  obtain ⟨flows, place⟩ := r
  unfold finish onto
  cases place with
  | outside => rfl
  | flow f =>
    show Except.ok _ = Except.ok _
    rw [Script.put_merge h]
  | state f name body =>
    dsimp only
    cases body.finish with
    | error fault => rfl
    | ok actions =>
      show Except.ok _ = Except.ok _
      rw [Script.put_merge h]

end onto

/-! ## Distinct names -/

theorem nodup_stepFlow {flows : List Flow} (h : (flows.map Flow.name).Nodup) (f : Flow)
    (line : Text) : ((stepFlow flows f line).flows.map Flow.name).Nodup := by
  unfold stepFlow
  split
  · exact h
  · split
    · exact Script.nodup_names_put f h
    · exact h

theorem nodup_step {r next : Reading} (h : (r.flows.map Flow.name).Nodup) {line : Text}
    (hstep : r.step line = .ok next) : (next.flows.map Flow.name).Nodup := by
  obtain ⟨flows, place⟩ := r
  unfold step at hstep
  cases place with
  | outside =>
    dsimp only at hstep
    split at hstep
    · cases hstep
      exact h
    · split at hstep
      · cases hstep
      · cases hstep
        exact h
  | flow f =>
    cases hstep
    exact nodup_stepFlow h f line
  | state f name body =>
    obtain ⟨progress, -, hnext⟩ := bind_eq_ok_iff.1 hstep
    cases progress with
    | more body =>
      cases hnext
      exact h
    | stopped actions =>
      cases hnext
      exact nodup_stepFlow h _ line

theorem nodup_run {r next : Reading} (h : (r.flows.map Flow.name).Nodup) {lines : List Text}
    (hrun : r.run lines = .ok next) : (next.flows.map Flow.name).Nodup := by
  induction lines generalizing r with
  | nil =>
    cases hrun
    exact h
  | cons line rest ih =>
    obtain ⟨middle, hstep, hrest⟩ := bind_eq_ok_iff.1 hrun
    exact ih (nodup_step h hstep) hrest

end Reading

namespace Script

/-! ## Two texts -/

/-- The first line that is neither blank nor a comment begins a flow. -/
def opensWithFlow (t : Text) : Bool :=
  ((strippedLines t).find? fun line => LineKind.of line ≠ .blank).any
    (Text.startsWith "flow ".toList)

theorem exists_of_opensWithFlow {t : Text} (h : opensWithFlow t = true) :
    ∃ blanks line rest, strippedLines t = blanks ++ line :: rest ∧
      (∀ blank ∈ blanks, LineKind.of blank = .blank) ∧
      Text.startsWith "flow ".toList line = true := by
  obtain ⟨line, hfind, hline⟩ := (Option.any_eq_true _ _).1 h
  obtain ⟨-, blanks, rest, hlines, hblanks⟩ := List.find?_eq_some_iff_append.1 hfind
  refine ⟨blanks, line, rest, hlines, fun blank hblank => ?_, hline⟩
  simpa using hblanks blank hblank

theorem strippedLines_append (s t : Text) :
    ∃ gap, (∀ line ∈ gap, LineKind.of line = .blank) ∧
      strippedLines (s ++ '\n' :: t) = strippedLines s ++ (gap ++ strippedLines t) := by
  obtain ⟨gap, hgap, hlines⟩ := Text.lines_append s t
  refine ⟨gap, ?_, ?_⟩
  · rcases hgap with rfl | rfl
    · exact List.forall_mem_nil _
    · exact List.forall_mem_singleton.2 rfl
  · have hstrip : gap.map Text.strip = gap := by
      rcases hgap with rfl | rfl <;> rfl
    unfold strippedLines
    rw [hlines, List.map_append, List.map_append, hstrip, List.append_assoc]

/-- Two texts one after the other, each of which writes a script, the second beginning with a flow,
write the first script updated by the second: a flow of a name that both have keeps its place and is
the second's, every other flow is as it was, and the new flows follow in order. -/
theorem parse_append_newline {s t : Text} {a b : Script} (ha : parse s = .ok a)
    (hb : parse t = .ok b) (ht : opensWithFlow t = true) :
    parse (s ++ '\n' :: t) = .ok (a.updatedBy b) := by
  obtain ⟨gap, hgap, hlines⟩ := strippedLines_append s t
  obtain ⟨blanks, line, rest, hrest, hblanks, hflow⟩ := exists_of_opensWithFlow ht
  obtain ⟨first, hfirst, hafinish⟩ := bind_eq_ok_iff.1 ha
  obtain ⟨flows, f, hcompletes, rfl⟩ := Reading.completesTo_of_finish hafinish
  have hnames : ((put f flows).map Flow.name).Nodup := by
    apply nodup_names_put
    rw [← Reading.flows_of_completesTo hcompletes]
    exact Reading.nodup_run (r := {}) List.nodup_nil hfirst
  obtain ⟨name, hname⟩ := LineKind.exists_after?_flow hflow
  -- alone, the second script begins with a flow after no others
  have hsecond : Reading.run {} (strippedLines t) = (Reading.beginFlow [] name).run rest := by
    rw [hrest, Reading.run_append (Reading.run_blank_outside hblanks)]
    apply Reading.run_cons
    unfold Reading.step
    simp only [hname]
  -- after the first script, it begins with the same flow after those of that script
  have hboth : Reading.run {} (strippedLines (s ++ '\n' :: t)) =
      ((Reading.beginFlow [] name).onto (put f flows)).run rest := by
    obtain ⟨between, hbetween, hcompletes'⟩ :=
      Reading.run_blank hcompletes (List.forall_mem_append.2 ⟨hgap, hblanks⟩)
    rw [hlines, Reading.run_append hfirst, hrest, ← List.append_assoc, Reading.run_append hbetween]
    apply Reading.run_cons
    rw [Reading.step_flowLine hcompletes' hname, Reading.beginFlow, Reading.onto, Reading.beginFlow,
      merge_nil]
  obtain ⟨last, hlast, hbfinish⟩ := bind_eq_ok_iff.1 hb
  rw [hsecond] at hlast
  rw [parse, hboth, Reading.run_onto hnames, hlast]
  show (last.onto (put f flows)).finish = _
  rw [Reading.finish_onto hnames, hbfinish]
  rfl

/-- A script that ends right after a block. -/
def closedText : Text :=
  "flow main\nstate a\nreply \"hi\"\nflow other\nstate b\nif x \x7b\ngoto a\n\x7d".toList

/-- A script with a flow of the same name, after a comment. -/
def latterText : Text := "# anew\n\nflow main\nstate c\nstate d\nflow third\n".toList

/-- The script of the second text. -/
def latter : Script :=
  ⟨[⟨"main".toList, [⟨"c".toList, []⟩, ⟨"d".toList, []⟩]⟩, ⟨"third".toList, []⟩]⟩

theorem parse_append_newline_latter :
    parse latterText = .ok latter ∧ opensWithFlow latterText = true ∧
      parse (closedText ++ '\n' :: latterText) = .ok ⟨[
        ⟨"main".toList, [⟨"c".toList, []⟩, ⟨"d".toList, []⟩]⟩,
        ⟨"other".toList, [
          ⟨"b".toList, [.chain [("x".toList, [.goto "a".toList])] none]⟩]⟩,
        ⟨"third".toList, []⟩]⟩ := by
  have hclosed : parse closedText = .ok ⟨[
      ⟨"main".toList, [⟨"a".toList, [.reply "hi".toList]⟩]⟩,
      ⟨"other".toList, [
        ⟨"b".toList, [.chain [("x".toList, [.goto "a".toList])] none]⟩]⟩]⟩ := rfl
  have hlatter : parse latterText = .ok latter := rfl
  have hopens : opensWithFlow latterText = true := rfl
  exact ⟨hlatter, hopens, parse_append_newline hclosed hlatter hopens⟩

end Script
end Dialogue
