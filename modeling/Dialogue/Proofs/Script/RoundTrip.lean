import Dialogue.Proofs.Script.Lines
set_option autoImplicit false

/-!
# Round trip of scripts

A well-formed script that is written line by line, with closing braces on lines of their own, is
read as the same script.  With closing braces before `elif` and `else` this holds if every joint
attaches.
-/

namespace Dialogue

/-! ## Flows and states under their names -/

theorem Flow.put_of_notMem {s : State} {states : List State} (h : s.name ∉ states.map State.name) :
    put s states = states ++ [s] := by
  induction states with
  | nil => rfl
  | cons x states ih =>
    obtain ⟨hx, hstates⟩ : s.name ≠ x.name ∧ s.name ∉ states.map State.name := by simpa using h
    rw [put, if_neg (Ne.symm hx), ih hstates]
    rfl

theorem Script.put_of_notMem {f : Flow} {flows : List Flow} (h : f.name ∉ flows.map Flow.name) :
    put f flows = flows ++ [f] := by
  induction flows with
  | nil => rfl
  | cons x flows ih =>
    obtain ⟨hx, hflows⟩ : f.name ≠ x.name ∧ f.name ∉ flows.map Flow.name := by simpa using h
    rw [put, if_neg (Ne.symm hx), ih hflows]
    rfl

namespace LineKind

/-! ## Headings -/

/-- The line that begins a state or a flow. -/
def headingLine (word name : Text) : Text := word ++ ' ' :: name

theorem strip_headingLine {word name : Text} (hw : word.isSolid = true) (hn : name.isName = true) :
    Text.strip (headingLine word name) = headingLine word name := by
  have hsolid := Text.isSolid_append hw (Text.isSolid_of_isName hn) [' ']
  rw [List.append_assoc] at hsolid
  exact (Text.isSolid_iff.1 hsolid).2

theorem strip_stateLine {name : Text} (hn : name.isName = true) :
    Text.strip ("state ".toList ++ name) = headingLine "state".toList name := by
  show Text.strip (headingLine "state".toList name) = _
  exact strip_headingLine (by decide) hn

theorem strip_flowLine {name : Text} (hn : name.isName = true) :
    Text.strip ("flow ".toList ++ name) = headingLine "flow".toList name := by
  show Text.strip (headingLine "flow".toList name) = _
  exact strip_headingLine (by decide) hn

/-- The line is read as a heading, wherever it stands. -/
structure IsHeading (line : Text) : Prop where
  own : IsOwn line
  kind : LineKind.of line = .heading

theorem isHeading_state (name : Text) : IsHeading (headingLine "state".toList name) where
  own := ⟨fun _ => LineKind.noConfusion, LineKind.noConfusion, rfl, rfl, LineKind.noConfusion⟩
  kind := rfl

theorem isHeading_flow (name : Text) : IsHeading (headingLine "flow".toList name) where
  own := ⟨fun _ => LineKind.noConfusion, LineKind.noConfusion, rfl, rfl, LineKind.noConfusion⟩
  kind := rfl

end LineKind

namespace Reading

/-- All states before the next line are complete: `f` is the flow with them. -/
def CompletesTo (r : Reading) (flows : List Flow) (f : Flow) : Prop :=
  r = ⟨flows, .flow f⟩ ∨
    ∃ (g : Flow) (name : Text) (body : Block),
      r = ⟨flows, .state g name body⟩ ∧ body.isReadable = true ∧ body.stack = [] ∧
        f = { g with states := Flow.put ⟨name, body.ready.actions⟩ g.states }

theorem step_heading {r : Reading} {flows : List Flow} {f : Flow} (h : r.CompletesTo flows f)
    {line : Text} (hline : LineKind.IsHeading line) :
    r.step line = .ok (stepFlow flows f line) := by
  rcases h with rfl | ⟨g, name, body, rfl, hreadable, hstack, rfl⟩
  · rfl
  · have hstop : body.step line = .ok (.stopped body.ready.actions) := by
      rw [Block.step_of_isOwn hreadable hline.own, Block.stepWithin, hline.kind]
      simp only [Block.stack_ready, hstack]
      rfl
    rw [step]
    simp only [hstop, bind, Except.bind]
    rfl

theorem finish_of_completesTo {r : Reading} {flows : List Flow} {f : Flow}
    (h : r.CompletesTo flows f) :
    r.finish = .ok ⟨Script.put f flows⟩ := by
  rcases h with rfl | ⟨g, name, body, rfl, hreadable, hstack, rfl⟩
  · rfl
  · have hend : body.finish = .ok body.ready.actions := by
      obtain ⟨stack, actions, mode⟩ := body
      subst hstack
      cases mode with
      | elseAlone done => exact Bool.noConfusion hreadable
      | _ => rfl
    rw [finish]
    simp only [hend, bind, Except.bind]
    rfl

theorem run_append {r next : Reading} {xs : List Text} (h : r.run xs = .ok next)
    (ys : List Text) : r.run (xs ++ ys) = next.run ys := by
  induction xs generalizing r with
  | nil =>
    obtain rfl : r = next := Except.ok.inj h
    rfl
  | cons line xs ih =>
    rw [List.cons_append, run]
    rw [run] at h
    cases hstep : r.step line with
    | error f => simp [hstep, bind, Except.bind] at h
    | ok mid =>
      rw [hstep] at h
      exact ih h

theorem run_cons {r next : Reading} {line : Text} (h : r.step line = .ok next) (rest : List Text) :
    r.run (line :: rest) = next.run rest := by
  rw [run, h]
  rfl

/-- A line that belongs to the body of a state changes nothing else. -/
theorem step_of_more {flows : List Flow} {f : Flow} {name : Text} {body next : Block} {line : Text}
    (h : body.step line = .ok (.more next)) :
    step ⟨flows, .state f name body⟩ line = .ok ⟨flows, .state f name next⟩ := by
  simp only [step, h, bind, Except.bind]
  rfl

/-- Lines that belong to the body of a state change nothing else. -/
theorem run_of_feed {flows : List Flow} {f : Flow} {name : Text} {body next : Block}
    {lines : List Text} (h : body.feed lines = .ok (.more next)) :
    run ⟨flows, .state f name body⟩ lines = .ok ⟨flows, .state f name next⟩ := by
  induction lines generalizing body with
  | nil =>
    obtain rfl : body = next := by simpa using h
    rfl
  | cons line lines ih =>
    rw [Block.feed] at h
    split at h
    · next mid hmid =>
      rw [run_cons (step_of_more hmid)]
      exact ih h
    · next hr => exact absurd h (hr next)

/-! ## States -/

theorem step_state {r : Reading} {flows : List Flow} {f : Flow} (h : r.CompletesTo flows f)
    {name : Text} (hn : name.isName = true) :
    r.step (Text.strip ("state ".toList ++ name)) = .ok ⟨flows, .state f name {}⟩ := by
  have hafter : Statement.after? "state" (LineKind.headingLine "state".toList name) =
      some name := by
    show some (Text.strip name) = some name
    rw [(Text.isSolid_iff.1 (Text.isSolid_of_isName hn)).2]
  rw [LineKind.strip_stateLine hn, step_heading h (LineKind.isHeading_state name), stepFlow, hafter]

/-- The lines of a state add the state to its flow. -/
theorem run_state {s : Spelling} {r : Reading} {flows : List Flow} {f : Flow}
    (h : r.CompletesTo flows f) {state : State} (hw : state.wellFormed = true)
    (hs : s = .separate ∨ Action.attachesAll state.actions = true) :
    ∃ next : Reading, r.run ((state.lines s).map Text.strip) = .ok next ∧
      next.CompletesTo flows { f with states := Flow.put state f.states } := by
  obtain ⟨hname, hactions⟩ := Bool.and_eq_true_iff.1 hw
  have hfeed := Block.feed_linesOfAll s state.actions hactions hs {} rfl
  refine ⟨⟨flows, .state f state.name (Block.writeAll {} state.actions)⟩, ?_, .inr ?_⟩
  · rw [State.lines, List.map_cons, run_cons (step_state h hname)]
    exact run_of_feed hfeed
  · refine ⟨f, state.name, _, rfl, Block.isReadable_writeAll rfl _, Block.stack_writeAll _ _, ?_⟩
    rw [Block.actions_ready_writeAll]
    rfl

/-- The lines of states add the states to their flow, in order. -/
theorem run_states {s : Spelling} {r : Reading} {flows : List Flow} {f : Flow}
    (h : r.CompletesTo flows f) {states : List State}
    (hw : ∀ state ∈ states, state.wellFormed = true)
    (hs : s = .separate ∨ ∀ state ∈ states, Action.attachesAll state.actions = true)
    (hnames : (f.names ++ states.map State.name).Nodup) :
    ∃ next : Reading, r.run ((states.flatMap (State.lines s)).map Text.strip) = .ok next ∧
      next.CompletesTo flows { f with states := f.states ++ states } := by
  induction states generalizing r f with
  | nil => exact ⟨r, rfl, by simpa using h⟩
  | cons state states ih =>
    obtain ⟨mid, hrun, hmid⟩ := run_state h (hw state (by simp))
      (hs.imp_right fun h => h state (by simp))
    have hnot : state.name ∉ f.states.map State.name := by
      intro hmem
      exact (List.nodup_append.1 hnames).2.2 _ hmem _ (by simp) rfl
    rw [Flow.put_of_notMem hnot] at hmid
    obtain ⟨next, hrest, hnext⟩ := ih hmid (fun x hx => hw x (by simp [hx]))
      (hs.imp_right fun h x hx => h x (by simp [hx])) (by simpa [Flow.names] using hnames)
    refine ⟨next, ?_, by simpa using hnext⟩
    rw [List.flatMap_cons, List.map_append, run_append hrun, hrest]

/-! ## Flows -/

theorem after?_flow {name : Text} (hn : name.isName = true) :
    Statement.after? "flow" (LineKind.headingLine "flow".toList name) = some name := by
  show some (Text.strip name) = some name
  rw [(Text.isSolid_iff.1 (Text.isSolid_of_isName hn)).2]

theorem step_flow {r : Reading} {flows : List Flow} {f : Flow} (h : r.CompletesTo flows f)
    {name : Text} (hn : name.isName = true) :
    r.step (Text.strip ("flow ".toList ++ name)) = .ok (beginFlow (Script.put f flows) name) := by
  have hstate : Statement.after? "state" (LineKind.headingLine "flow".toList name) = none := rfl
  rw [LineKind.strip_flowLine hn, step_heading h (LineKind.isHeading_flow name), stepFlow, hstate,
    after?_flow hn]

theorem step_firstFlow {name : Text} (hn : name.isName = true) :
    step {} (Text.strip ("flow ".toList ++ name)) = .ok (beginFlow [] name) := by
  rw [LineKind.strip_flowLine hn, step]
  simp only [after?_flow hn]

/-- The lines of a flow after its heading. -/
theorem run_flow {s : Spelling} (flows : List Flow) {f : Flow} (hw : f.wellFormed = true)
    (hs : s = .separate ∨ ∀ state ∈ f.states, Action.attachesAll state.actions = true) :
    ∃ next : Reading,
      (beginFlow flows f.name).run ((f.states.flatMap (State.lines s)).map Text.strip) = .ok next ∧
      next.CompletesTo flows f :=
  run_states (.inl rfl) (Flow.states_wellFormed hw) hs
    (by simpa [Flow.names] using Flow.nodup_names_of_wellFormed hw)

/-- The lines of flows add the flows to the finished ones, in order. -/
theorem run_flows {s : Spelling} {r : Reading} {flows : List Flow} {f : Flow}
    (h : r.CompletesTo flows f) {later : List Flow} (hw : ∀ g ∈ later, g.wellFormed = true)
    (hs : s = .separate ∨
      ∀ g ∈ later, ∀ state ∈ g.states, Action.attachesAll state.actions = true)
    (hnames : ((flows ++ f :: later).map Flow.name).Nodup) :
    ∃ next : Reading, r.run ((later.flatMap (Flow.lines s)).map Text.strip) = .ok next ∧
      next.finish = .ok ⟨flows ++ f :: later⟩ := by
  have hnot : f.name ∉ flows.map Flow.name := by
    intro hmem
    rw [List.map_append] at hnames
    exact (List.nodup_append.1 hnames).2.2 _ hmem _ (by simp) rfl
  induction later generalizing r flows f with
  | nil => exact ⟨r, rfl, by rw [finish_of_completesTo h, Script.put_of_notMem hnot]⟩
  | cons g later ih =>
    have hname := Flow.isName_of_wellFormed (hw g (by simp))
    have hnames' : (((flows ++ [f]) ++ g :: later).map Flow.name).Nodup := by simpa using hnames
    obtain ⟨mid, hrun, hmid⟩ := run_flow (flows ++ [f]) (hw g (by simp))
      (hs.imp_right fun h => h g (by simp))
    have hnot' : g.name ∉ (flows ++ [f]).map Flow.name := by
      intro hmem
      rw [List.map_append] at hnames'
      exact (List.nodup_append.1 hnames').2.2 _ hmem _ (by simp) rfl
    obtain ⟨next, hrest, hfinish⟩ := ih hmid (fun x hx => hw x (by simp [hx]))
      (hs.imp_right fun h x hx => h x (by simp [hx])) hnames' hnot'
    refine ⟨next, ?_, by simpa using hfinish⟩
    rw [List.flatMap_cons, List.map_append, Flow.lines, List.map_cons, List.cons_append,
      run_cons (step_flow h hname), Script.put_of_notMem hnot, run_append hrun, hrest]

end Reading

namespace Script

/-! ## Whole scripts -/

/-- A well-formed script is read as it was written, if in the attached spelling every joint
attaches. -/
theorem parse_print (s : Spelling) {script : Script} (h : script.wellFormed = true)
    (hs : s = .separate ∨ script.attaches = true) : parse (script.print s) = .ok script := by
  have hlines := strippedLines_print s h
  simp only [wellFormed, Bool.and_eq_true, Bool.not_eq_true', List.all_eq_true,
    decide_eq_true_eq] at h
  obtain ⟨⟨hne, hw⟩, hnames⟩ := h
  have hattach : s = .separate ∨
      ∀ f ∈ script.flows, ∀ state ∈ f.states, Action.attachesAll state.actions = true := by
    simpa [attaches] using hs
  obtain ⟨flows⟩ := script
  cases flows with
  | nil => exact Bool.noConfusion hne
  | cons f later =>
    have hname := Flow.isName_of_wellFormed (hw f (by simp))
    obtain ⟨mid, hrun, hmid⟩ := Reading.run_flow [] (hw f (by simp))
      (hattach.imp_right fun h => h f (by simp))
    obtain ⟨next, hrest, hfinish⟩ := Reading.run_flows hmid (fun g hg => hw g (by simp [hg]))
      (hattach.imp_right fun h g hg => h g (by simp [hg])) hnames
    have hall : Reading.run {} (strippedLines (print s ⟨f :: later⟩)) = .ok next := by
      rw [hlines, Script.lines, List.flatMap_cons, List.map_append, Flow.lines, List.map_cons,
        List.cons_append, Reading.run_cons (Reading.step_firstFlow hname), Reading.run_append hrun,
        hrest]
    rw [parse, hall]
    exact hfinish

/-- A well-formed script that is written with closing braces on lines of their own is read as the
same script: the same flows with the same states in the same order, and in each state the same
actions, however deep they are nested. -/
theorem parse_print_separate {script : Script} (h : script.wellFormed = true) :
    parse (script.print .separate) = .ok script :=
  parse_print .separate h (.inl rfl)

/-- A script with nested chains whose texts hold quotes, braces, equals signs and keywords. -/
def delimiterScript : Script :=
  ⟨[⟨"main".toList, [
      ⟨"start".toList, [
        .reply "say \"hi\" \\ \x7d else \x7b".toList,
        .ask "name".toList "goto = \"".toList,
        .chain [
          ("a == \"x\"".toList, [.chain [("b".toList, [.setExpr "n".toList []])] none]),
          ("c \x7b".toList, [])]
          (some [.ifGoto "n".toList "== goto".toList "end".toList]),
        .save "n".toList "a to b".toList]⟩,
      ⟨"end".toList, []⟩]⟩,
    ⟨"other".toList, []⟩]⟩

theorem parse_print_separate_delimiters :
    delimiterScript.wellFormed = true ∧
      parse (delimiterScript.print .separate) = .ok delimiterScript := by
  have h : delimiterScript.wellFormed = true := by decide
  exact ⟨h, parse_print_separate h⟩

end Script
end Dialogue
