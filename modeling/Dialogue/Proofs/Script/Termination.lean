import Dialogue.Proofs.Except
import Dialogue.Proofs.Script.Descent
import Dialogue.Proofs.Script.RoundTrip
set_option autoImplicit false

/-!
# Termination of the parser

Reading by descent goes around in the body of a block for ever at a line that ends the statements
but not the block: a dead end.  Main statement: reading a text returns unless it gets to such a
line, and it then gives what reading with a stack of open blocks gives.
-/

namespace Dialogue

/-! ## States and flows -/

theorem Script.put_ne_nil (f : Flow) (flows : List Flow) : Script.put f flows ≠ [] := by
  cases flows with
  | nil => exact List.cons_ne_nil f []
  | cons x rest =>
    rw [Script.put]
    split <;> exact List.cons_ne_nil _ _

namespace Descent

theorem startsWith_flow (line : Text) :
    Text.startsWith "flow ".toList line = (Statement.after? "flow" line).isSome := by
  rw [Statement.after?, Option.isSome_map]
  rfl

/-- A heading of a flow is no heading of a state. -/
theorem after?_state_of_flow {line : Text} (h : Text.startsWith "flow ".toList line = true) :
    Statement.after? "state" line = none := by
  obtain ⟨rest, rfl⟩ := Text.startsWith_iff.1 h
  rfl

/-- The lines are at an end, or the next one is the heading of a flow. -/
def atFlow : List Text → Bool
  | [] => true
  | line :: _ => Text.startsWith "flow ".toList line

theorem suffix_of_states {n : Nat} {f : Flow} {lines : List Text} {x : Flow × List Text}
    (h : states n f lines = some (.ok x)) : x.2 <:+ lines ∧ atFlow x.2 = true := by
  induction n generalizing f lines with
  | zero => cases h
  | succ n ih =>
    cases lines with
    | nil =>
      cases h
      exact ⟨List.suffix_rfl, rfl⟩
    | cons line rest =>
      have hrest : rest <:+ line :: rest := List.suffix_cons line rest
      rw [states] at h
      split at h
      · obtain ⟨⟨actions, middle⟩, hblock, h⟩ := ok_of_andThen h
        obtain ⟨hleft, hflow⟩ := ih h
        have hmiddle : middle <:+ rest := ((leaves n).block hblock).1
        exact ⟨(hleft.trans hmiddle).trans hrest, hflow⟩
      · split at h
        · next hflow =>
          cases h
          exact ⟨List.suffix_rfl, hflow⟩
        · obtain ⟨hleft, hflow⟩ := ih h
          exact ⟨hleft.trans hrest, hflow⟩

/-- The rest of a script is read to its end. -/
def complete (r : Reading) (lines : List Text) : Except ScriptFault Script :=
  r.run lines >>= Reading.finish

theorem complete_cons (r : Reading) (line : Text) (rest : List Text) :
    complete r (line :: rest) = r.step line >>= fun r => complete r rest := by
  rw [complete, Reading.run]
  cases r.step line <;> rfl

theorem complete_state (done : List Flow) (f : Flow) (name : Text) (b : Block) (lines : List Text) :
    complete ⟨done, .state f name b⟩ lines = b.read lines >>= fun x =>
      complete ⟨done, .flow { f with states := Flow.put ⟨name, x.1⟩ f.states }⟩ x.2 := by
  induction lines generalizing b with
  | nil =>
    rw [Block.read]
    show (b.finish >>= _) = _
    cases b.finish <;> rfl
  | cons line rest ih =>
    rw [complete_cons, Block.read]
    show ((b.step line >>= _) >>= _) = _
    cases b.step line with
    | error f => rfl
    | ok progress =>
      cases progress with
      | more b' => exact ih b'
      | stopped actions => rfl

theorem complete_flow {done : List Flow} {f : Flow} {line : Text} {r : Reading}
    (h : Reading.stepFlow done f line = r) (rest : List Text) :
    complete ⟨done, .flow f⟩ (line :: rest) = complete r rest := by
  rw [complete_cons, ← h]
  rfl

theorem agrees_states (n : Nat) (done : List Flow) (f : Flow) (lines : List Text) :
    Agrees (n ≤ 4 * lines.length) (states n f lines) (complete ⟨done, .flow f⟩ lines)
      fun x => complete ⟨done, .flow x.1⟩ x.2 := by
  induction n generalizing f lines with
  | zero => exact .inl (Nat.zero_le _)
  | succ n ih =>
    cases lines with
    | nil => rfl
    | cons line rest =>
      rw [states, List.length_cons]
      cases hstate : Statement.after? "state" line with
      | some name =>
        have hstep : Reading.stepFlow done f line = ⟨done, .state f name {}⟩ := by
          rw [Reading.stepFlow, hstate]
        rw [complete_flow hstep, complete_state]
        refine ((agrees_block n rest).bind _).andThen (by omega) ?_
        rintro ⟨actions, left⟩ hblock
        have hleft : left.length ≤ rest.length := ((leaves n).block hblock).1.length_le
        exact (ih _ left).mono (by omega)
      | none =>
        dsimp only
        by_cases hflow : Text.startsWith "flow ".toList line = true
        · rw [if_pos hflow]
          rfl
        · have hnone : Statement.after? "flow" line = none := by
            rwa [startsWith_flow, Option.not_isSome_iff_eq_none] at hflow
          have hstep : Reading.stepFlow done f line = ⟨done, .flow f⟩ := by
            rw [Reading.stepFlow, hstate, hnone]
          rw [if_neg hflow, complete_flow hstep]
          exact (ih f rest).mono (by omega)

theorem agrees_flows (n : Nat) (done : List Flow) (f : Flow) (lines : List Text)
    (h : atFlow lines = true) :
    Agrees (n ≤ 4 * lines.length) (flows n (Script.put f done) lines)
      (complete ⟨done, .flow f⟩ lines) script := by
  induction n generalizing done f lines with
  | zero => exact .inl (Nat.zero_le _)
  | succ n ih =>
    cases lines with
    | nil =>
      show Except.ok _ = script (Script.put f done)
      rw [script, if_neg (by simp [Script.put_ne_nil])]
    | cons line rest =>
      obtain ⟨name, hname⟩ : ∃ name, Statement.after? "flow" line = some name :=
        Option.isSome_iff_exists.1 (startsWith_flow line ▸ h)
      have hstep : Reading.stepFlow done f line = Reading.beginFlow (Script.put f done) name := by
        rw [Reading.stepFlow, after?_state_of_flow h, hname]
      rw [flows, hname, complete_flow hstep, List.length_cons]
      refine (agrees_states n (Script.put f done) ⟨name, []⟩ rest).andThen (by omega) ?_
      rintro ⟨f', left⟩ hstates
      obtain ⟨hsuffix, hflow⟩ := suffix_of_states hstates
      have hleft : left.length ≤ rest.length := hsuffix.length_le
      exact (ih (Script.put f done) f' left hflow).mono (by omega)

theorem agrees_flows_outside (n : Nat) (lines : List Text) :
    Agrees (n ≤ 4 * lines.length) (flows n [] lines) (complete {} lines) script := by
  induction n generalizing lines with
  | zero => exact .inl (Nat.zero_le _)
  | succ n ih =>
    cases lines with
    | nil => rfl
    | cons line rest =>
      rw [flows, complete_cons, List.length_cons]
      show Agrees _ _ (Reading.step ⟨[], .outside⟩ line >>= _) _
      unfold Reading.step
      dsimp only
      cases hflow : Statement.after? "flow" line with
      | some name =>
        refine (agrees_states n [] ⟨name, []⟩ rest).andThen (by omega) ?_
        rintro ⟨f, left⟩ hstates
        obtain ⟨hsuffix, hflow⟩ := suffix_of_states hstates
        have hleft : left.length ≤ rest.length := hsuffix.length_le
        exact (agrees_flows n [] f left hflow).mono (by omega)
      | none =>
        dsimp only
        by_cases hstate : Text.startsWith "state ".toList line = true
        · rw [if_pos hstate, if_pos hstate]
          exact ⟨by decide, rfl⟩
        · rw [if_neg hstate, if_neg hstate]
          exact (ih rest).mono (by omega)

/-- Reading a text by descent agrees with reading it with a stack of open blocks. -/
theorem agrees_parse (n : Nat) (t : Text) :
    Agrees (n ≤ 4 * (Script.strippedLines t).length) (parse n t) (Script.parse t) .ok := by
  refine (agrees_flows_outside n (Script.strippedLines t)).andThen id ?_
  intro fs _
  show Agrees _ (some (script fs)) (script fs) .ok
  unfold script
  split
  · exact ⟨by decide, rfl⟩
  · rfl

/-! ## Dead ends -/

/-- The line begins a state or a flow, or, in a block after all branches of its chain, it closes a
block and goes on with a chain. -/
def isDeadEnd (inElse : Bool) (line : Text) : Bool :=
  Text.startsWith "state ".toList line || Text.startsWith "flow ".toList line ||
    (inElse && (Text.startsWith (LineKind.brace ++ " elif".toList) line ||
      Text.startsWith (LineKind.brace ++ " else".toList) line))

theorem isDeadEnd_eq (inElse : Bool) (line : Text) :
    isDeadEnd inElse line = (LineKind.of line).isDeadEnd inElse := by
  rw [Bool.eq_iff_iff, isDeadEnd, Bool.or_eq_true, ← LineKind.of_eq_heading_iff, Bool.and_eq_true,
    Bool.or_eq_true, ← LineKind.exists_of_eq_closeElif_iff, ← LineKind.of_eq_closeElse_iff]
  cases LineKind.of line <;> simp [LineKind.isDeadEnd]

end Descent

/-- A heading does not go on with a chain. -/
theorem LineKind.not_word_of_heading {line : Text} (h : LineKind.of line = .heading) :
    Statement.head? "elif" line = none ∧ Text.startsWith "else".toList line = false := by
  rcases Bool.or_eq_true _ _ ▸ LineKind.of_eq_heading_iff.1 h with h | h
  all_goals
    obtain ⟨rest, rfl⟩ := Text.startsWith_iff.1 h
    exact ⟨rfl, rfl⟩

namespace Block

/-- The next line is read in the body of the innermost open block: no `else` waits for its brace,
and no chain whose branch was closed goes on with the line. -/
def inBody (b : Block) (line : Text) : Bool :=
  match b.mode with
  | .elseAlone _ => false
  | .joint _ =>
    !(Text.startsWith (LineKind.brace ++ " elif".toList) line ||
      Text.startsWith (LineKind.brace ++ " else".toList) line)
  | _ => true

theorem continueElif_ne_endless (b : Block) (done : List Branch) (rest : Text) :
    (b.continueElif done rest).map Progress.more ≠ .error .endless := by
  unfold continueElif
  dsimp only
  split <;> exact nofun

theorem stepWithin_eq_endless_iff {b : Block} {line : Text} :
    b.stepWithin line = .error .endless ↔
      ∃ frame outer, b.stack = frame :: outer ∧ Descent.isDeadEnd frame.isElse line = true := by
  obtain ⟨stack, actions, mode⟩ := b
  simp only [Descent.isDeadEnd_eq]
  unfold stepWithin
  cases hkind : LineKind.of line with
  | blank | ifHead cond => simp [LineKind.isDeadEnd]
  | heading => cases stack <;> simp [LineKind.isDeadEnd]
  | close =>
    cases stack with
    | nil => simp
    | cons frame outer => cases frame <;> simp [LineKind.isDeadEnd]
  | closeElif part =>
    cases stack with
    | nil => simp [closeBranch?]
    | cons frame outer =>
      cases frame <;>
        simp [LineKind.isDeadEnd, closeBranch?, Frame.isElse, continueElif_ne_endless]
  | closeElse =>
    cases stack with
    | nil => simp [closeBranch?]
    | cons frame outer => cases frame <;> simp [LineKind.isDeadEnd, closeBranch?, Frame.isElse]
  | plain =>
    have hparse := Statement.parse_ne_endless line
    cases hresult : Statement.parse line with
    | error f =>
      rw [hresult] at hparse
      simpa [LineKind.isDeadEnd, Except.map] using hparse
    | ok action => simp [LineKind.isDeadEnd, Except.map]

theorem stepOpening_eq_endless_iff {b : Block} {line : Text} :
    b.stepOpening line = .error .endless ↔ b.stepWithin line = .error .endless := by
  unfold stepOpening
  split
  · next hplain _ =>
    split
    · refine ⟨nofun, fun h => ?_⟩
      obtain ⟨frame, outer, -, hdead⟩ := stepWithin_eq_endless_iff.1 h
      rw [Descent.isDeadEnd_eq, hplain] at hdead
      exact Bool.noConfusion hdead
    · rfl
  · rfl

/-- A line that begins with a brace and goes on with a chain. -/
theorem isJoint_iff {line : Text} :
    (Text.startsWith (LineKind.brace ++ " elif".toList) line ||
      Text.startsWith (LineKind.brace ++ " else".toList) line) = true ↔
      (∃ rest, LineKind.of line = .closeElif rest) ∨ LineKind.of line = .closeElse := by
  rw [Bool.or_eq_true, ← LineKind.exists_of_eq_closeElif_iff, ← LineKind.of_eq_closeElse_iff]

/-- A dead end that does not go on with a chain after a brace is a heading. -/
theorem heading_of_stepWithin {b : Block} {line : Text} (h : b.stepWithin line = .error .endless)
    (helif : ∀ rest, LineKind.of line ≠ .closeElif rest) (helse : LineKind.of line ≠ .closeElse) :
    LineKind.of line = .heading := by
  obtain ⟨frame, outer, -, hdead⟩ := stepWithin_eq_endless_iff.1 h
  rw [Descent.isDeadEnd_eq] at hdead
  cases hkind : LineKind.of line with
  | heading => rfl
  | closeElif rest => exact absurd hkind (helif rest)
  | closeElse => exact absurd hkind helse
  | _ =>
    rw [hkind] at hdead
    exact Bool.noConfusion hdead

theorem stepJoint_eq_endless_iff {b : Block} {done : List Branch} {line : Text} :
    b.stepJoint done line = .error .endless ↔
      (Text.startsWith (LineKind.brace ++ " elif".toList) line ||
        Text.startsWith (LineKind.brace ++ " else".toList) line) = false ∧
      b.stepWithin line = .error .endless := by
  rw [← Bool.not_eq_true, isJoint_iff]
  unfold stepJoint
  split
  · next rest hkind =>
    constructor
    · intro h
      exact absurd h (continueElif_ne_endless b done rest)
    · intro h
      exact absurd (.inl ⟨rest, hkind⟩) h.1
  · next hkind =>
    constructor
    · intro h
      cases h
    · intro h
      exact absurd (.inr hkind) h.1
  next helif helse =>
  have hnot : ¬((∃ rest, LineKind.of line = .closeElif rest) ∨ LineKind.of line = .closeElse) := by
    rintro (⟨rest, h⟩ | h)
    · exact helif rest h
    · exact helse h
  have hwords (h : b.stepWithin line = .error .endless) :=
    LineKind.not_word_of_heading (heading_of_stepWithin h helif helse)
  split
  · next cond hcond =>
    constructor
    · intro h
      cases h
    · intro h
      cases hcond.symm.trans (hwords h.2).1
  split
  · next hword =>
    constructor
    · intro h
      split at h
      · cases h
      · split at h <;> cases h
    · intro h
      cases hword.symm.trans (hwords h.2).2
  · rw [stepWithin_eq_endless_iff, stepWithin_eq_endless_iff]
    exact ⟨fun h => ⟨hnot, h⟩, fun h => h.2⟩

/-- A line is read without end exactly if it is a dead end in the body of the innermost block. -/
theorem step_eq_endless_iff {b : Block} {line : Text} :
    b.step line = .error .endless ↔
      ∃ frame outer, b.stack = frame :: outer ∧ b.inBody line = true ∧
        Descent.isDeadEnd frame.isElse line = true := by
  have hwithin : b.step line = .error .endless ↔
      b.inBody line = true ∧ b.stepWithin line = .error .endless := by
    unfold step inBody
    cases b.mode with
    | opening => simpa using stepOpening_eq_endless_iff
    | within => simp
    | joint done => simpa using stepJoint_eq_endless_iff
    | elseAlone done =>
      dsimp only
      split <;> simp
  rw [hwithin, stepWithin_eq_endless_iff]
  exact ⟨fun ⟨hbody, frame, outer, hstack, hdead⟩ => ⟨frame, outer, hstack, hbody, hdead⟩,
    fun ⟨frame, outer, hstack, hbody, hdead⟩ => ⟨hbody, frame, outer, hstack, hdead⟩⟩

theorem finish_ne_endless (b : Block) : b.finish ≠ .error .endless := by
  unfold finish
  repeat' split
  all_goals exact nofun

end Block

namespace Reading

theorem step_eq_endless_iff {r : Reading} {line : Text} :
    r.step line = .error .endless ↔
      ∃ f name body, r.place = .state f name body ∧ body.step line = .error .endless := by
  obtain ⟨flows, place⟩ := r
  unfold step
  cases place with
  | outside =>
    dsimp only
    split
    · simp
    · split <;> simp
  | flow f => simp
  | state f name body =>
    dsimp only
    rw [bind_eq_error_iff]
    constructor
    · rintro (h | ⟨progress, -, h⟩)
      · exact ⟨f, name, body, rfl, h⟩
      · cases progress <;> cases h
    · rintro ⟨_, _, _, ⟨⟩, h⟩
      exact .inl h

/-- Reading never ends exactly if it gets to a line which it never ends to read. -/
theorem run_eq_endless_iff {r : Reading} {lines : List Text} :
    r.run lines = .error .endless ↔
      ∃ before line after reached, lines = before ++ line :: after ∧ r.run before = .ok reached ∧
        reached.step line = .error .endless := by
  constructor
  · intro h
    induction lines generalizing r with
    | nil => cases h
    | cons line rest ih =>
      rw [run] at h
      cases hstep : r.step line with
      | error f =>
        rw [hstep] at h
        obtain rfl : f = .endless := Except.error.inj h
        exact ⟨[], line, rest, r, rfl, rfl, hstep⟩
      | ok next =>
        rw [hstep] at h
        obtain ⟨before, last, after, reached, rfl, hrun, hlast⟩ := ih h
        exact ⟨line :: before, last, after, reached, rfl, by rw [run_cons hstep, hrun], hlast⟩
  · rintro ⟨before, line, after, reached, rfl, hrun, hstep⟩
    rw [run_append hrun, run, hstep]
    rfl

theorem finish_ne_endless (r : Reading) : r.finish ≠ .error .endless := by
  unfold finish
  cases r.place with
  | outside | flow f => exact nofun
  | state f name body =>
    intro h
    rcases bind_eq_error_iff.1 h with h | ⟨actions, -, h⟩
    · exact body.finish_ne_endless h
    · cases h

end Reading

/-- Reading a text gets, without a fault, to a dead end in the body of an open block. -/
def Script.ReachesDeadEnd (t : Text) : Prop :=
  ∃ before line after flows f name body frame outer,
    Script.strippedLines t = before ++ line :: after ∧
      Reading.run {} before = .ok ⟨flows, .state f name body⟩ ∧ body.stack = frame :: outer ∧
      body.inBody line = true ∧ Descent.isDeadEnd frame.isElse line = true

theorem Script.parse_eq_endless_iff {t : Text} :
    Script.parse t = .error .endless ↔ Script.ReachesDeadEnd t := by
  constructor
  · intro h
    rcases bind_eq_error_iff.1 h with h | ⟨r, -, h⟩
    · obtain ⟨before, line, after, ⟨flows, place⟩, hlines, hrun, hstep⟩ :=
        Reading.run_eq_endless_iff.1 h
      obtain ⟨f, name, body, rfl, hline⟩ := Reading.step_eq_endless_iff.1 hstep
      obtain ⟨frame, outer, hstack, hbody, hdead⟩ := Block.step_eq_endless_iff.1 hline
      exact ⟨before, line, after, flows, f, name, body, frame, outer, hlines, hrun, hstack, hbody,
        hdead⟩
    · exact absurd h r.finish_ne_endless
  · rintro ⟨before, line, after, flows, f, name, body, frame, outer, hlines, hrun, hstack, hbody,
      hdead⟩
    have hstep : Reading.step ⟨flows, .state f name body⟩ line = .error .endless :=
      Reading.step_eq_endless_iff.2 ⟨f, name, body, rfl,
        Block.step_eq_endless_iff.2 ⟨frame, outer, hstack, hbody, hdead⟩⟩
    exact bind_eq_error_iff.2 (.inl (Reading.run_eq_endless_iff.2
      ⟨before, line, after, _, hlines, hrun, hstep⟩))

namespace Descent

/-- Every pass of a loop that does not leave it takes the line at which it begins away from the
lines that are left.  Only the loop over the body of a block has passes that do not: those which
begin at a dead end. -/
structure LoopsAdvance (n : Nat) : Prop where
  /-- A list of statements goes on after a chain. -/
  block : ∀ {cond : Text} {rest middle left : List Text} {body : List Action} {action : Action},
    branch n .if_ rest = some (.ok (body, middle)) →
      branches n [(cond, body)] middle = some (.ok (action, left)) → left <:+ rest
  /-- The body of a block goes on after a list of statements. -/
  body : ∀ {kind : BlockKind} {line : Text} {rest left : List Text} {more : List Action},
    endsAt kind (line :: rest) = false → isDeadEnd kind.isElse line = false →
      Descent.block n [] (line :: rest) = some (.ok (more, left)) → left <:+ rest
  /-- A chain goes on after a branch. -/
  branches : ∀ {lines rest left : List Text} {cond : Text} {body : List Action},
    joint lines = .ok (.elif cond rest) → branch n .elif rest = some (.ok (body, left)) →
      ∃ line, lines = line :: rest ∧ left <:+ rest
  /-- A flow goes on after a state. -/
  states : ∀ {rest left : List Text} {actions : List Action},
    Descent.block n [] rest = some (.ok (actions, left)) → left <:+ rest
  /-- A script goes on after a flow. -/
  flows : ∀ {f f' : Flow} {rest left : List Text},
    Descent.states n f rest = some (.ok (f', left)) → left <:+ rest

theorem suffix_of_block_cons {n : Nat} {line : Text} (h : (LineKind.of line).isEnd = false)
    {actions : List Action} {rest : List Text} {x : List Action × List Text}
    (hx : block n actions (line :: rest) = some (.ok x)) : x.2 <:+ rest := by
  cases n with
  | zero => cases hx
  | succ n =>
    rw [block] at hx
    cases hkind : LineKind.of line with
    | blank =>
      rw [hkind] at hx
      exact ((leaves n).block hx).1
    | ifHead cond =>
      rw [hkind] at hx
      obtain ⟨⟨body, middle⟩, hfirst, hx⟩ := ok_of_andThen hx
      obtain ⟨⟨action, left⟩, hothers, hx⟩ := ok_of_andThen hx
      have hmiddle : middle <:+ rest := (leaves n).branch hfirst
      have hleft : left <:+ middle := (leaves n).branches hothers
      exact (((leaves n).block hx).1.trans hleft).trans hmiddle
    | plain =>
      rw [hkind] at hx
      obtain ⟨action, -, hx⟩ := ok_of_andThen hx
      exact ((leaves n).block hx).1
    | _ =>
      rw [hkind] at h
      exact Bool.noConfusion h

theorem loopsAdvance (n : Nat) : LoopsAdvance n where
  block hfirst hothers := ((leaves n).branches hothers).trans ((leaves n).branch hfirst)
  body {kind line rest left more} hend hdead hblock := by
    have hnotEnd : (LineKind.of line).isEnd = false := by
      by_contra hline
      rw [Bool.not_eq_false] at hline
      rw [isDeadEnd_eq, isDeadEnd_eq_not_endsAt hline rest, hend] at hdead
      exact Bool.noConfusion hdead
    exact suffix_of_block_cons hnotEnd hblock
  branches hjoint hbranch := by
    obtain ⟨line, rfl⟩ := joint_elif hjoint
    exact ⟨line, rfl, (leaves n).branch hbranch⟩
  states hblock := ((leaves n).block hblock).1
  flows hstates := (suffix_of_states hstates).1

theorem eq_of_parse {n : Nat} {t : Text} {r : Except ScriptFault Script}
    (h : parse n t = some r) : Script.parse t = r ∧ r ≠ .error .endless := by
  have hagrees := agrees_parse n t
  rw [h] at hagrees
  cases r with
  | error f => exact ⟨hagrees.2, fun hf => hagrees.1 (Except.error.inj hf)⟩
  | ok script => exact ⟨hagrees, by simp⟩

theorem parse_of_lt {n : Nat} {t : Text} (hn : 4 * (Script.strippedLines t).length < n)
    (h : Script.parse t ≠ .error .endless) : parse n t = some (Script.parse t) := by
  cases hparse : parse n t with
  | none =>
    have hagrees := agrees_parse n t
    rw [hparse] at hagrees
    rcases hagrees with hfew | hendless
    · omega
    · exact absurd hendless h
  | some r => rw [(eq_of_parse hparse).1]

/-- Reading by descent returns unless it gets, without a fault, to a dead end in the body of an open
block.  If it does not get to one, four passes for every line suffice, and it gives what reading
with a stack of open blocks gives.  If it does, no number of passes suffices, and reading with a
stack fails as endless. -/
theorem parse_returns_iff (t : Text) :
    ((∃ n r, parse n t = some r) ↔ ¬Script.ReachesDeadEnd t) ∧
      (∀ n r, parse n t = some r → Script.parse t = r) ∧
      (¬Script.ReachesDeadEnd t →
        ∀ n, 4 * (Script.strippedLines t).length < n → parse n t = some (Script.parse t)) ∧
      (Script.parse t = .error .endless ↔ Script.ReachesDeadEnd t) ∧ ∀ n, LoopsAdvance n := by
  have hreturns (h : ¬Script.ReachesDeadEnd t) (n : Nat)
      (hn : 4 * (Script.strippedLines t).length < n) : parse n t = some (Script.parse t) :=
    parse_of_lt hn (mt Script.parse_eq_endless_iff.1 h)
  refine ⟨⟨?_, ?_⟩, fun n r h => (eq_of_parse h).1, hreturns, Script.parse_eq_endless_iff,
    loopsAdvance⟩
  · rintro ⟨n, r, h⟩ hdead
    obtain ⟨hparse, hnot⟩ := eq_of_parse h
    exact hnot (hparse.symm.trans (Script.parse_eq_endless_iff.2 hdead))
  · intro h
    exact ⟨_, _, hreturns h _ (Nat.lt_succ_self _)⟩

-- A heading in a branch is a dead end, and so is a joint after `else`; a joint in a branch is none.
example : Script.parse "flow f\nstate s\nif x \x7b\nstate t".toList = .error .endless := rfl

example : Script.parse "flow f\nstate s\nif x \x7b\n\x7d else \x7b\n\x7d else \x7b".toList =
    .error .endless := rfl

example : Script.parse "flow f\nstate s\nif x \x7b\n\x7d else \x7b".toList =
    .error (.missingBrace .else_) := rfl

end Descent
end Dialogue
