import Dialogue.Proofs.Script.RoundTrip
set_option autoImplicit false

/-!
# Attachment of joints

With closing braces before `elif` and `else`, a joint that follows the closing brace of an inner
chain is taken by the inner chain.  The block around it then stays open to the end of the state.
Main statement: the script is read as it was written exactly if every joint attaches.
-/

namespace Dialogue

namespace Block

/-! ## Blocks that stay open -/

/-- Reading lines never ended, or left at least `n` blocks open.  With an excess there is one more,
or a chain waits whose continuation will open it. -/
def Deepens (continued excess : Bool) (n : Nat) (r : Except ScriptFault Progress) : Prop :=
  r = .error .endless ∨
    ∃ b : Block, r = .ok (.more b) ∧ b.isReadable = true ∧ n ≤ b.stack.length ∧
      (excess = true → n < b.stack.length ∨ (continued = true ∧ b.isJoint = true))

theorem Deepens.mono {continued excess excess' : Bool} {n m : Nat}
    {r : Except ScriptFault Progress} (h : Deepens continued excess n r) (hm : m ≤ n)
    (he : excess' = true → m < n ∨ excess = true) : Deepens continued excess' m r := by
  rcases h with herror | ⟨b, hr, hb, hn, hexcess⟩
  · exact .inl herror
  · refine .inr ⟨b, hr, hb, hm.trans hn, fun h => ?_⟩
    rcases he h with hlt | hold
    · exact .inl (hlt.trans_le hn)
    · exact (hexcess hold).imp_left fun hlt => hm.trans_lt hlt

/-- A count that does not rely on a continuation holds before one too. -/
theorem Deepens.of_not_continued {continued excess : Bool} {n : Nat}
    {r : Except ScriptFault Progress} (h : Deepens false excess n r) :
    Deepens continued excess n r := by
  rcases h with herror | ⟨b, hr, hb, hn, hexcess⟩
  · exact .inl herror
  · refine .inr ⟨b, hr, hb, hn, fun he => .inl ?_⟩
    rcases hexcess he with hlt | ⟨hcontra, -⟩
    · exact hlt
    · exact Bool.noConfusion hcontra

theorem feed_append_error {b : Block} {xs : List Text} {f : ScriptFault}
    (h : b.feed xs = .error f) (ys : List Text) : b.feed (xs ++ ys) = .error f := by
  induction xs generalizing b with
  | nil => cases h
  | cons line xs ih =>
    rw [feed] at h
    rw [List.cons_append, feed]
    split at h
    · exact ih h
    · exact h

/-- What further lines do to every body that the first lines can leave, they do after them. -/
theorem Deepens.append {continued excess continued' excess' : Bool} {n m : Nat} {b : Block}
    {xs ys : List Text} (h : Deepens continued excess n (b.feed xs))
    (hnext : ∀ next : Block, next.isReadable = true → n ≤ next.stack.length →
      (excess = true → n < next.stack.length ∨ (continued = true ∧ next.isJoint = true)) →
      Deepens continued' excess' m (next.feed ys)) :
    Deepens continued' excess' m (b.feed (xs ++ ys)) := by
  rcases h with herror | ⟨next, hr, hb, hn, hexcess⟩
  · exact .inl (feed_append_error herror ys)
  · rw [feed_append hr]
    exact hnext next hb hn hexcess

/-- A joint never ended the reading, or left no fewer blocks open than before, and one more if it
was taken by a chain that waited. -/
def Reopens (b : Block) (r : Except ScriptFault Progress) : Prop :=
  r = .error .endless ∨
    ∃ next : Block, r = .ok (.more next) ∧ next.isReadable = true ∧ next.isJoint = false ∧
      b.stack.length ≤ next.stack.length ∧ (b.isJoint = true → b.stack.length < next.stack.length)

theorem Reopens.cons {continued excess : Bool} {m : Nat} {b : Block} {line : Text} {ys : List Text}
    (h : Reopens b (b.step line))
    (hnext : ∀ next : Block, next.isReadable = true → next.isJoint = false →
      b.stack.length ≤ next.stack.length → (b.isJoint = true → b.stack.length < next.stack.length) →
      Deepens continued excess m (next.feed ys)) :
    Deepens continued excess m (b.feed (line :: ys)) := by
  rcases h with herror | ⟨next, hr, hb, hj, hn, hlt⟩
  · exact .inl (by rw [feed, herror])
  · rw [feed_cons hr]
    exact hnext next hb hj hn hlt

theorem reopens_closeElif {b : Block} (hb : b.isReadable = true) (hne : b.stack ≠ [])
    {condition : Text} (hc : condition.isSolid = true) :
    Reopens b (b.step (Spelling.closing (Spelling.opening "elif".toList condition))) := by
  cases hj : b.isJoint with
  | true =>
    obtain ⟨stack, actions, mode⟩ := b
    cases mode with
    | joint done =>
      have hstep : (⟨stack, actions, .joint done⟩ : Block).step
          (Spelling.closing (Spelling.opening "elif".toList condition)) =
            .ok (.more ⟨.branch .elif actions done condition :: stack, [], .opening⟩) := by
        show stepJoint _ done (Spelling.closing (Spelling.opening "elif".toList condition)) = _
        rw [stepJoint, LineKind.of_closeElif]
        simp only [continueElif_condition _ _ hc]
        rfl
      exact .inr ⟨_, hstep, rfl, rfl, by simp, by simp⟩
    | _ => exact Bool.noConfusion hj
  | false =>
    cases hstack : b.stack with
    | nil => exact absurd hstack hne
    | cons frame rest =>
      cases frame with
      | branch kind before done last =>
        exact .inr ⟨_, step_closeElif hb hj hstack hc, rfl, rfl, by simp [hstack], by simp [hj]⟩
      | otherwise before done =>
        left
        have hkind : LineKind.of (Spelling.closing (Spelling.opening "elif".toList condition)) ≠
            .plain := by
          rw [LineKind.of_closeElif]
          exact LineKind.noConfusion
        rw [step_of_not_isJoint hb hj hkind, stepWithin, LineKind.of_closeElif]
        simp only [closeBranch?, hstack]
        rfl

theorem reopens_closeElse {b : Block} (hb : b.isReadable = true) (hne : b.stack ≠ []) :
    Reopens b (b.step (Spelling.closing Spelling.elseLine)) := by
  cases hj : b.isJoint with
  | true =>
    obtain ⟨stack, actions, mode⟩ := b
    cases mode with
    | joint done => exact .inr ⟨_, rfl, rfl, rfl, by simp [openElse], by simp [openElse]⟩
    | _ => exact Bool.noConfusion hj
  | false =>
    cases hstack : b.stack with
    | nil => exact absurd hstack hne
    | cons frame rest =>
      cases frame with
      | branch kind before done last =>
        exact .inr ⟨_, step_closeElse hb hj hstack, rfl, rfl, by simp [hstack], by simp [hj]⟩
      | otherwise before done =>
        left
        rw [step_of_not_isJoint hb hj (by simp [LineKind.of_closeElse]), stepWithin,
          LineKind.of_closeElse]
        simp only [closeBranch?, hstack]
        rfl

/-- A closing brace closes one block. -/
theorem deepens_brace {b : Block} (hb : b.isReadable = true) (hne : b.stack ≠ [])
    (excess : Bool) {n : Nat} (hn : n + 1 ≤ b.stack.length)
    (he : excess = true → n + 1 < b.stack.length) :
    Deepens false excess n (b.feed [Text.strip LineKind.brace]) := by
  rw [strip_brace]
  cases hstack : b.stack with
  | nil => exact absurd hstack hne
  | cons frame rest =>
    rw [hstack, List.length_cons] at hn he
    cases frame with
    | branch kind before done last =>
      rw [feed_cons (step_brace_branch hb hstack), feed_nil]
      exact .inr ⟨_, rfl, rfl, by simpa using hn, fun h => .inl (by simpa using he h)⟩
    | otherwise before done =>
      rw [feed_cons (step_brace_otherwise hb hstack), feed_nil]
      exact .inr ⟨_, rfl, rfl, by simpa using hn, fun h => .inl (by simpa using he h)⟩

/-- The body of a branch and the branches after it, given what each of them does. -/
theorem deepens_branch_append {p : Text × List Action} {rest : List (Text × List Action)}
    {continued : Bool} {b : Block} {xs ys : List Text}
    (hbody : Deepens (!rest.isEmpty || continued)
      (!Action.attachesBranch (!rest.isEmpty || continued) p) b.stack.length (b.feed xs))
    (hne : b.stack ≠ [])
    (hrest : ∀ next : Block, next.isReadable = true → next.stack ≠ [] →
      Deepens continued (((!rest.isEmpty || continued) && next.isJoint) ||
        !Action.attachesBranches continued rest) next.stack.length (next.feed ys)) :
    Deepens continued (!Action.attachesBranches continued (p :: rest)) b.stack.length
      (b.feed (xs ++ ys)) := by
  refine hbody.append fun next hnext hlen hexcess => ?_
  have hopen : 0 < next.stack.length := (List.length_pos_iff.2 hne).trans_le hlen
  refine (hrest next hnext (List.ne_nil_of_length_pos hopen)).mono hlen fun he => ?_
  cases hp : Action.attachesBranch (!rest.isEmpty || continued) p with
  | false =>
    rcases hexcess (by rw [hp]; rfl) with hlt | ⟨hcont, hjoint⟩
    · exact .inl hlt
    · exact .inr (by rw [hcont, hjoint]; rfl)
  | true =>
    have hlater : Action.attachesBranches continued rest = false := by
      simpa [Action.attachesBranches, hp] using he
    exact .inr (by simp [hlater])

/-- A later branch begins with a joint. -/
theorem map_strip_linesOfBranches (p : Branch) (rest : List Branch) :
    (Action.linesOfBranches .attached false (p :: rest)).map Text.strip =
      Spelling.closing (Spelling.opening "elif".toList p.1) ::
        ((Action.linesOfAll .attached p.2).map Text.strip ++
          (Action.linesOfBranches .attached false rest).map Text.strip) := by
  have hsolid : (Spelling.opening "elif".toList p.1).isSolid = true :=
    Spelling.isSolid_opening (by decide) p.1
  rw [Action.linesOfBranches, Action.linesOfBranch, Spelling.heading_later, List.map_append,
    List.map_append, List.append_assoc]
  show Text.strip (Spelling.closing (Spelling.opening "elif".toList p.1)) :: _ = _
  rw [Spelling.strip_closing hsolid]
  rfl

/-- The other actions begin with a joint. -/
theorem map_strip_linesOfOtherwise (actions : List Action) :
    (Action.linesOfOtherwise .attached (some actions)).map Text.strip =
      Spelling.closing Spelling.elseLine ::
        (Action.linesOfAll .attached actions).map Text.strip := by
  show Text.strip (Spelling.closing Spelling.elseLine) :: _ = _
  rw [Spelling.strip_closing (by decide)]
  rfl

theorem deepens_statement {a : Action} (h : a.wellFormed = true)
    (hchain : ∀ branches otherwise, a ≠ .chain branches otherwise) {b : Block}
    (hb : b.isReadable = true) :
    Deepens false (!a.attaches) b.stack.length (b.feed ((a.lines .attached).map Text.strip)) := by
  have hattach : a.attaches = true := by
    cases a with
    | chain branches otherwise => exact absurd rfl (hchain branches otherwise)
    | _ => rfl
  rw [feed_statement .attached h hchain hb, hattach]
  exact .inr ⟨_, rfl, isReadable_write b a, by simp, fun h => Bool.noConfusion h⟩

-- The induction is on the tree of actions again, but now for every body, also one that has gone
-- wrong: no action closes more blocks than it opens, and one in which a joint does not attach
-- closes fewer.
mutual

theorem deepens_lines : ∀ a : Action, a.wellFormed = true → ∀ b : Block, b.isReadable = true →
    Deepens false (!a.attaches) b.stack.length (b.feed ((a.lines .attached).map Text.strip))
  | .chain branches otherwise, h, b, hb => by
    simp only [Action.wellFormed, Bool.and_eq_true, Bool.not_eq_true'] at h
    obtain ⟨⟨hne, hbranches⟩, hotherwise⟩ := h
    rw [Action.lines, List.append_assoc, List.map_append, List.map_append]
    refine (deepens_linesOfBranches_first branches (by simpa using hne) hbranches otherwise.isSome b
      hb).append fun next hnext hlen hexcess => ?_
    refine (deepens_linesOfOtherwise otherwise hotherwise next hnext (by omega)).mono (by omega)
      fun hattach => ?_
    cases hbranch : Action.attachesBranches otherwise.isSome branches with
    | false =>
      rcases hexcess (by rw [hbranch]; rfl) with hlt | ⟨hsome, hjoint⟩
      · exact .inl (by omega)
      · exact .inr (by rw [hsome, hjoint]; rfl)
    | true =>
      have hlast : Action.attachesOtherwise otherwise = false := by
        simpa [Action.attaches, hbranch] using hattach
      exact .inr (by simp [hlast])
  | .reply text, h, b, hb => deepens_statement h (fun _ _ => Action.noConfusion) hb
  | .goto target, h, b, hb => deepens_statement h (fun _ _ => Action.noConfusion) hb
  | .ask var prompt, h, b, hb => deepens_statement h (fun _ _ => Action.noConfusion) hb
  | .set var value, h, b, hb => deepens_statement h (fun _ _ => Action.noConfusion) hb
  | .setExpr var expr, h, b, hb => deepens_statement h (fun _ _ => Action.noConfusion) hb
  | .ifGoto left right target, h, b, hb => deepens_statement h (fun _ _ => Action.noConfusion) hb
  | .save var path, h, b, hb => deepens_statement h (fun _ _ => Action.noConfusion) hb
  | .load var path, h, b, hb => deepens_statement h (fun _ _ => Action.noConfusion) hb
  | .compare _ _ _ _ _, h, _, _ => Bool.noConfusion h
  | .unknown _, h, _, _ => Bool.noConfusion h

theorem deepens_linesOfAll : ∀ actions : List Action, Action.wellFormedAll actions = true →
    ∀ b : Block, b.isReadable = true →
      Deepens false (!Action.attachesAll actions) b.stack.length
        (b.feed ((Action.linesOfAll .attached actions).map Text.strip))
  | [], _, b, hb => .inr ⟨b, rfl, hb, le_rfl, fun h => Bool.noConfusion h⟩
  | a :: rest, h, b, hb => by
    simp only [Action.wellFormedAll, Bool.and_eq_true] at h
    rw [Action.linesOfAll, List.map_append]
    refine (deepens_lines a h.1 b hb).append fun next hnext hlen hexcess => ?_
    refine (deepens_linesOfAll rest h.2 next hnext).mono hlen fun hattach => ?_
    cases ha : a.attaches with
    | false => exact .inl (by simpa [ha] using hexcess)
    | true => exact .inr (by simpa [Action.attachesAll, ha] using hattach)

theorem deepens_linesOfBranches_first : ∀ branches : List (Text × List Action), branches ≠ [] →
    Action.wellFormedBranches branches = true → ∀ continued : Bool,
    ∀ b : Block, b.isReadable = true →
      Deepens continued (!Action.attachesBranches continued branches) (b.stack.length + 1)
        (b.feed ((Action.linesOfBranches .attached true branches).map Text.strip))
  | [], hne, _, _, _, _ => absurd rfl hne
  | p :: rest, _, h, continued, b, hb => by
    simp only [Action.wellFormedBranches, Bool.and_eq_true] at h
    obtain ⟨hcond, hbody⟩ := deepens_linesOfBranch p h.1 (!rest.isEmpty || continued)
      ⟨.branch .if_ b.ready.actions [] p.1 :: b.stack, [], .opening⟩ rfl rfl
    rw [Action.linesOfBranches, Action.linesOfBranch, Spelling.heading_first]
    simp only [List.map_append, List.map_cons, List.cons_append, List.nil_append]
    rw [Spelling.strip_opening (by decide), feed_cons (step_ifLine hb hcond)]
    exact deepens_branch_append hbody (by simp) (deepens_linesOfBranches rest h.2 continued)

theorem deepens_linesOfBranches : ∀ branches : List (Text × List Action),
    Action.wellFormedBranches branches = true → ∀ continued : Bool,
    ∀ b : Block, b.isReadable = true → b.stack ≠ [] →
      Deepens continued (((!branches.isEmpty || continued) && b.isJoint) ||
          !Action.attachesBranches continued branches) b.stack.length
        (b.feed ((Action.linesOfBranches .attached false branches).map Text.strip))
  | [], _, continued, b, hb, _ => .inr ⟨b, rfl, hb, le_rfl, fun h => .inr (by
      simpa [Action.attachesBranches] using h)⟩
  | p :: rest, h, continued, b, hb, hne => by
    simp only [Action.wellFormedBranches, Bool.and_eq_true] at h
    have hcond := (deepens_linesOfBranch p h.1 continued {} rfl rfl).1
    rw [map_strip_linesOfBranches]
    refine (reopens_closeElif hb hne hcond).cons fun mid hmid hj hlen hlt => ?_
    have hopen : mid.stack ≠ [] := by
      intro hnil
      rw [hnil, List.length_nil, Nat.le_zero, List.length_eq_zero_iff] at hlen
      exact hne hlen
    have hbody := (deepens_linesOfBranch p h.1 (!rest.isEmpty || continued) mid hmid hj).2
    refine (deepens_branch_append hbody hopen
      (deepens_linesOfBranches rest h.2 continued)).mono hlen fun he => ?_
    cases hb' : b.isJoint with
    | true => exact .inl (hlt hb')
    | false => exact .inr (by simpa [hb'] using he)

theorem deepens_linesOfBranch : ∀ p : Text × List Action, Action.wellFormedBranch p = true →
    ∀ continued : Bool, ∀ b : Block, b.isReadable = true → b.isJoint = false →
      p.1.isSolid = true ∧
      Deepens continued (!Action.attachesBranch continued p) b.stack.length
        (b.feed ((Action.linesOfAll .attached p.2).map Text.strip))
  | (condition, actions), h, continued, b, hb, hj => by
    simp only [Action.wellFormedBranch, Bool.and_eq_true] at h
    refine ⟨h.1.1, ?_⟩
    cases hattach : Action.attachesAll actions with
    | false =>
      exact (deepens_linesOfAll actions h.2 b hb).of_not_continued.mono le_rfl
        fun _ => .inr (by rw [hattach]; rfl)
    | true =>
      -- the reading of the body is intact, so it is known what the joint after it meets
      rw [feed_linesOfAll .attached actions h.2 (.inr hattach) b hb]
      refine .inr ⟨_, rfl, isReadable_writeAll hb actions, by simp, fun he => .inr ?_⟩
      rw [isJoint_writeAll hj]
      simpa [Action.attachesBranch, hattach] using he

theorem deepens_linesOfOtherwise : ∀ otherwise : Option (List Action),
    Action.wellFormedOtherwise otherwise = true →
    ∀ b : Block, b.isReadable = true → 1 ≤ b.stack.length →
      Deepens false ((otherwise.isSome && b.isJoint) || !Action.attachesOtherwise otherwise)
        (b.stack.length - 1)
        (b.feed ((Action.linesOfOtherwise .attached otherwise).map Text.strip ++
          [LineKind.brace].map Text.strip))
  | none, _, b, hb, hlen => by
    have hne : b.stack ≠ [] := List.ne_nil_of_length_pos hlen
    exact deepens_brace hb hne _ (by omega) fun h => Bool.noConfusion h
  | some actions, h, b, hb, hlen => by
    have hne : b.stack ≠ [] := List.ne_nil_of_length_pos hlen
    rw [map_strip_linesOfOtherwise, List.cons_append]
    refine (reopens_closeElse hb hne).cons fun mid hmid _ hle hlt => ?_
    refine (deepens_linesOfAll actions h mid hmid).append fun next hnext hmidlen hexcess => ?_
    refine deepens_brace hnext (List.ne_nil_of_length_pos (by omega)) _ (by omega) fun he => ?_
    cases hattach : Action.attachesAll actions with
    | false =>
      have hdeeper : mid.stack.length < next.stack.length := by simpa [hattach] using hexcess
      omega
    | true =>
      have hjoint : b.isJoint = true := by
        simpa [Action.attachesOtherwise, hattach] using he
      have hdeeper := hlt hjoint
      omega

end

end Block

namespace Reading

/-! ## Readings that cannot succeed -/

/-- A state is being read whose body has blocks that are still open. -/
def Unclosed (r : Reading) : Prop :=
  ∃ (flows : List Flow) (f : Flow) (name : Text) (body : Block),
    r = ⟨flows, .state f name body⟩ ∧ body.isReadable = true ∧ body.stack ≠ []

theorem step_heading_of_unclosed {r : Reading} (h : r.Unclosed) {line : Text}
    (hline : LineKind.IsHeading line) : r.step line = .error .endless := by
  obtain ⟨flows, f, name, body, rfl, hreadable, hne⟩ := h
  obtain ⟨frame, rest, hstack⟩ := List.exists_cons_of_ne_nil hne
  have hstop : body.step line = .error .endless := by
    rw [Block.step_of_isOwn hreadable hline.own, Block.stepWithin, hline.kind]
    simp only [Block.stack_ready, hstack]
    rfl
  rw [step]
  simp only [hstop, bind, Except.bind]

theorem finish_of_unclosed {r : Reading} (h : r.Unclosed) :
    ∃ kind, r.finish = .error (.missingBrace kind) := by
  obtain ⟨flows, f, name, body, rfl, hreadable, hne⟩ := h
  obtain ⟨frame, rest, hstack⟩ := List.exists_cons_of_ne_nil hne
  have hend : body.finish = .error (.missingBrace frame.kind) := by
    obtain ⟨stack, actions, mode⟩ := body
    subst hstack
    cases mode with
    | elseAlone done => exact Bool.noConfusion hreadable
    | _ => rfl
  refine ⟨frame.kind, ?_⟩
  rw [finish]
  simp only [hend, bind, Except.bind]

/-- Reading never ended, or is lost. -/
def Fails (r : Except ScriptFault Reading) : Prop :=
  r = .error .endless ∨ ∃ next : Reading, r = .ok next ∧ next.Unclosed

/-- There are no lines, or the first of them is a heading. -/
def Headed (lines : List Text) : Prop := ∀ line ∈ lines.head?, LineKind.IsHeading line

theorem run_append_error {r : Reading} {xs : List Text} {f : ScriptFault} (h : r.run xs = .error f)
    (ys : List Text) : r.run (xs ++ ys) = .error f := by
  induction xs generalizing r with
  | nil => cases h
  | cons line xs ih =>
    rw [List.cons_append, run]
    rw [run] at h
    cases hstep : r.step line with
    | error g =>
      rw [hstep] at h
      exact h
    | ok mid =>
      rw [hstep] at h
      exact ih h

/-- What comes after a failure does not mend it. -/
theorem Fails.append {r : Reading} {xs ys : List Text} (h : Fails (r.run xs)) (hys : Headed ys) :
    Fails (r.run (xs ++ ys)) := by
  rcases h with herror | ⟨next, hrun, hunclosed⟩
  · exact .inl (run_append_error herror ys)
  · rw [run_append hrun]
    cases ys with
    | nil => exact .inr ⟨next, rfl, hunclosed⟩
    | cons line rest =>
      left
      rw [run, step_heading_of_unclosed hunclosed (hys line rfl)]
      rfl

/-- A fault in the body of a state is a fault of the reading. -/
theorem run_of_feed_error {flows : List Flow} {f : Flow} {name : Text} {body : Block}
    {lines : List Text} {fault : ScriptFault} (h : body.feed lines = .error fault) :
    run ⟨flows, .state f name body⟩ lines = .error fault := by
  induction lines generalizing body with
  | nil => cases h
  | cons line lines ih =>
    rw [Block.feed] at h
    split at h
    · next mid hmid =>
      rw [run_cons (step_of_more hmid)]
      exact ih h
    · rw [run, step]
      simp only [h, bind, Except.bind]

/-! ## States and flows with a joint that does not attach -/

theorem fails_run_state {r : Reading} {flows : List Flow} {f : Flow} (h : r.CompletesTo flows f)
    {state : State} (hw : state.wellFormed = true)
    (hattach : Action.attachesAll state.actions = false) :
    Fails (r.run ((state.lines .attached).map Text.strip)) := by
  obtain ⟨hname, hactions⟩ := Bool.and_eq_true_iff.1 hw
  rw [State.lines, List.map_cons, run_cons (step_state h hname)]
  rcases Block.deepens_linesOfAll state.actions hactions {} rfl with
    herror | ⟨body, hfeed, hreadable, -, hexcess⟩
  · exact .inl (run_of_feed_error herror)
  · have hopen : body.stack ≠ [] := by
      have hlen : 0 < body.stack.length := by simpa [hattach] using hexcess
      exact List.ne_nil_of_length_pos hlen
    exact .inr ⟨_, run_of_feed hfeed, flows, f, state.name, body, rfl, hreadable, hopen⟩

theorem headed_states {states : List State} (hw : ∀ state ∈ states, state.wellFormed = true) :
    Headed ((states.flatMap (State.lines .attached)).map Text.strip) := by
  cases states with
  | nil =>
    intro line hline
    cases hline
  | cons state states =>
    intro line hline
    have hname := (Bool.and_eq_true_iff.1 (hw state (by simp))).1
    obtain rfl : Text.strip ("state ".toList ++ state.name) = line := Option.some.inj hline
    rw [LineKind.strip_stateLine hname]
    exact LineKind.isHeading_state state.name

theorem fails_run_states {r : Reading} {flows : List Flow} {f : Flow} (h : r.CompletesTo flows f)
    {states : List State} (hw : ∀ state ∈ states, state.wellFormed = true)
    (hattach : ∃ state ∈ states, Action.attachesAll state.actions = false) :
    Fails (r.run ((states.flatMap (State.lines .attached)).map Text.strip)) := by
  induction states generalizing r f with
  | nil => simp at hattach
  | cons state states ih =>
    have hstate := hw state (by simp)
    have hstates : ∀ x ∈ states, x.wellFormed = true := fun x hx => hw x (by simp [hx])
    rw [List.flatMap_cons, List.map_append]
    cases hfirst : Action.attachesAll state.actions with
    | false => exact (fails_run_state h hstate hfirst).append (headed_states hstates)
    | true =>
      obtain ⟨mid, hrun, hmid⟩ := run_state h hstate (.inr hfirst)
      rw [run_append hrun]
      exact ih hmid hstates (by simpa [hfirst] using hattach)

/-- The heading of a flow can be read. -/
def AwaitsFlow (r : Reading) : Prop :=
  ∀ name : Text, name.isName = true →
    ∃ flows, r.step (Text.strip ("flow ".toList ++ name)) = .ok (beginFlow flows name)

theorem headed_flows {flows : List Flow} (hw : ∀ f ∈ flows, f.wellFormed = true) :
    Headed ((flows.flatMap (Flow.lines .attached)).map Text.strip) := by
  cases flows with
  | nil =>
    intro line hline
    cases hline
  | cons f flows =>
    intro line hline
    obtain rfl : Text.strip ("flow ".toList ++ f.name) = line := Option.some.inj hline
    rw [LineKind.strip_flowLine (Flow.isName_of_wellFormed (hw f (by simp)))]
    exact LineKind.isHeading_flow f.name

theorem fails_run_flows {r : Reading} (h : r.AwaitsFlow) {flows : List Flow}
    (hw : ∀ f ∈ flows, f.wellFormed = true)
    (hattach : ∃ f ∈ flows, ∃ state ∈ f.states, Action.attachesAll state.actions = false) :
    Fails (r.run ((flows.flatMap (Flow.lines .attached)).map Text.strip)) := by
  induction flows generalizing r with
  | nil => simp at hattach
  | cons f flows ih =>
    have hf := hw f (by simp)
    have hflows : ∀ g ∈ flows, g.wellFormed = true := fun g hg => hw g (by simp [hg])
    obtain ⟨before, hstep⟩ := h f.name (Flow.isName_of_wellFormed hf)
    rw [List.flatMap_cons, List.map_append, Flow.lines, List.map_cons, List.cons_append,
      run_cons hstep]
    by_cases hfirst : ∃ state ∈ f.states, Action.attachesAll state.actions = false
    · exact (fails_run_states (.inl rfl) (Flow.states_wellFormed hf) hfirst).append
        (headed_flows hflows)
    · have hall : ∀ state ∈ f.states, Action.attachesAll state.actions = true := by
        simpa using hfirst
      obtain ⟨mid, hrun, hmid⟩ := run_flow before hf (.inr hall)
      rw [run_append hrun]
      refine ih (fun name hn => ⟨_, step_flow hmid hn⟩) hflows ?_
      obtain ⟨g, hg, hlater⟩ := hattach
      rcases List.mem_cons.1 hg with rfl | hmem
      · exact absurd hlater hfirst
      · exact ⟨g, hmem, hlater⟩

end Reading

namespace Script

/-! ## Whole scripts -/

/-- A script in which a joint does not attach cannot be read: reading never ends, or misses a
closing brace. -/
theorem parse_print_error {script : Script} (h : script.wellFormed = true)
    (hattach : script.attaches = false) :
    parse (script.print .attached) = .error .endless ∨
      ∃ kind, parse (script.print .attached) = .error (.missingBrace kind) := by
  have hlines := strippedLines_print .attached h
  simp only [wellFormed, Bool.and_eq_true, List.all_eq_true] at h
  have hsome : ∃ f ∈ script.flows, ∃ state ∈ f.states,
      Action.attachesAll state.actions = false := by
    simpa [attaches] using hattach
  rcases Reading.fails_run_flows (fun name hn => ⟨[], Reading.step_firstFlow hn⟩) h.1.2 hsome with
    herror | ⟨next, hrun, hunclosed⟩
  · left
    rw [parse, hlines, Script.lines, herror]
    rfl
  · right
    obtain ⟨kind, hfinish⟩ := Reading.finish_of_unclosed hunclosed
    refine ⟨kind, ?_⟩
    rw [parse, hlines, Script.lines, hrun]
    exact hfinish

/-- A well-formed script that is written with closing braces before `elif` and `else` is read as the
same script exactly if in no chain, at any depth, a body that is continued ends with a chain without
other actions.  Otherwise it is not read as some other script either: reading never ends, or ends
with a missing brace. -/
theorem parse_print_attached_iff {script : Script} (h : script.wellFormed = true) :
    (parse (script.print .attached) = .ok script ↔ script.attaches = true) ∧
      (script.attaches = false →
        parse (script.print .attached) = .error .endless ∨
          ∃ kind, parse (script.print .attached) = .error (.missingBrace kind)) := by
  refine ⟨⟨fun hok => ?_, fun hattach => parse_print .attached h (.inr hattach)⟩,
    parse_print_error h⟩
  cases hattach : script.attaches with
  | true => rfl
  | false =>
    rcases parse_print_error h hattach with herror | ⟨kind, herror⟩
    · cases hok.symm.trans herror
    · cases hok.symm.trans herror

/-- Chains in all bodies of a chain.  What is continued ends with other actions or with a jump. -/
def nested : Script :=
  ⟨[⟨"main".toList, [
      ⟨"s".toList, [
        .chain [
          ("a".toList, [.chain [("b".toList, [.reply "x".toList])] (some [])]),
          ("c".toList, [.chain [("d".toList, [])] none, .goto "s".toList])]
          (some [.chain [("e".toList, [])] none])]⟩]⟩]⟩

theorem parse_print_attached_iff_nested :
    nested.wellFormed = true ∧ nested.attaches = true ∧
      parse (nested.print .attached) = .ok nested := by
  have h : nested.wellFormed = true := by decide
  have hattach : nested.attaches = true := by decide
  exact ⟨h, hattach, (parse_print_attached_iff h).1.2 hattach⟩

/-- A chain in a branch that `else` continues. -/
def dangling : Script :=
  ⟨[⟨"main".toList, [
      ⟨"s".toList, [
        .chain [("a".toList, [.chain [("b".toList, [.reply "x".toList])] none])]
          (some [.reply "y".toList])]⟩]⟩]⟩

/-- The inner chain takes the `else` of the outer one, which is then never closed. -/
theorem parse_print_dangling :
    dangling.wellFormed = true ∧
      dangling.print .attached = ("flow main\nstate s\nif a \x7b\nif b \x7b\nreply \"x\"\n\x7d\n" ++
        "\x7d else \x7b\nreply \"y\"\n\x7d\n").toList ∧
      parse (dangling.print .attached) = .error (.missingBrace .if_) := by
  have h : dangling.wellFormed = true := by decide
  refine ⟨h, by decide, ?_⟩
  rw [parse, strippedLines_print .attached h]
  rfl

end Script
end Dialogue
