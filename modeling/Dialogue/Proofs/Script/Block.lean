import Dialogue.Proofs.Script.Statement
set_option autoImplicit false

/-!
# Round trip of bodies

The lines of actions are fed to a body one after another.  In the separate spelling the body then
holds exactly these actions; in the attached spelling it does so if every joint attaches.  Main
statement: `feed_linesOfAll`.
-/

namespace Dialogue

/-! ## Lines that open a block -/

namespace Spelling

/-- The line that opens a branch with a word and a condition. -/
def opening (word condition : Text) : Text := word ++ ' ' :: condition ++ [' ', '\x7b']

/-- The line that opens the other actions of a chain. -/
def elseLine : Text := "else \x7b".toList

/-- The line that opens a block, with the brace that closes the block before it. -/
def closing (line : Text) : Text := '\x7d' :: ' ' :: line

theorem heading_first (s : Spelling) (condition : Text) :
    s.heading true condition = [opening "if".toList condition] := by
  simp [heading, opening]

theorem heading_later (s : Spelling) (condition : Text) :
    s.heading false condition = s.joint (opening "elif".toList condition) := by
  simp [heading, opening]

theorem isSolid_opening {word : Text} (h : word.isSolid = true) (condition : Text) :
    (opening word condition).isSolid = true := by
  have hsolid := Text.isSolid_append (t := ['\x7b']) h (by decide) (' ' :: condition ++ [' '])
  simpa [opening] using hsolid

theorem strip_opening {word : Text} (h : word.isSolid = true) (condition : Text) :
    Text.strip (opening word condition) = opening word condition :=
  (Text.isSolid_iff.1 (isSolid_opening h condition)).2

theorem strip_closing {line : Text} (h : line.isSolid = true) :
    Text.strip (closing line) = closing line := by
  have hsolid := Text.isSolid_append (s := ['\x7d']) (by decide) h [' ']
  exact (Text.isSolid_iff.1 hsolid).2

theorem strip_elseLine : Text.strip elseLine = elseLine := by decide

end Spelling

/-- The condition between a word and a brace is read back. -/
theorem Statement.head?_opening {word : String} {condition : Text} (h : condition.isSolid = true) :
    head? word (Spelling.opening word.toList condition) = some condition := by
  obtain ⟨hne, hs⟩ := Text.isSolid_iff.1 h
  have hrest : Spelling.opening word.toList condition =
      word.toList ++ (' ' :: condition ++ [' '] ++ ['\x7b']) := by
    simp [Spelling.opening]
  have hinner : Text.strip (' ' :: condition ++ [' ']) = condition := by
    rw [Text.strip_concat_of_blank (by decide), Text.strip_cons_of_blank (by decide), hs]
  have hlen : 2 ≤ (' ' :: condition ++ [' ']).length := by simp
  have hhead : ((' ' :: condition ++ [' ']).head?.map Text.isBlank).getD false = true := by
    simp only [List.cons_append, List.head?_cons, Option.map_some, Option.getD_some]
    decide
  rw [hrest, head?, Text.after?_append]
  simp only [List.dropLast_concat, List.getLast?_concat, hhead, hlen, hinner, decide_true,
    Bool.and_self, if_true]

namespace LineKind

theorem of_ifLine {condition : Text} (h : condition.isSolid = true) :
    LineKind.of (Spelling.opening "if".toList condition) = .ifHead condition := by
  unfold LineKind.of
  rw [Statement.head?_opening h]
  rfl

theorem of_closeElif (condition : Text) :
    LineKind.of (Spelling.closing (Spelling.opening "elif".toList condition)) =
      .closeElif (' ' :: condition ++ [' ', '\x7b']) := rfl

theorem of_closeElse : LineKind.of (Spelling.closing Spelling.elseLine) = .closeElse := rfl

theorem of_eq_blank_iff {line : Text} :
    LineKind.of line = .blank ↔ line = [] ∨ ∃ rest, line = '#' :: rest := by
  constructor
  · intro h
    unfold LineKind.of at h
    split at h
    · next hblank =>
      rcases Bool.or_eq_true_iff.1 hblank with hempty | hcomment
      · exact .inl (List.isEmpty_iff.1 hempty)
      · exact .inr (List.head?_eq_some_iff.1 (of_decide_eq_true hcomment))
    repeat' split at h
    all_goals cases h
  · rintro (rfl | ⟨rest, rfl⟩)
    · rfl
    · rfl

/-- The line cannot continue a chain: it is read as the line of a block. -/
structure IsOwn (line : Text) : Prop where
  notCloseElif : ∀ rest, LineKind.of line ≠ .closeElif rest
  notCloseElse : LineKind.of line ≠ .closeElse
  notElif : Statement.head? "elif" line = none
  notElse : Text.startsWith "else".toList line = false
  notBrace : LineKind.of line = .plain → line.head? ≠ some '\x7d'

theorem isOwn_of_writes {line : Text} {a : Action} (h : Statement.Writes line a) : IsOwn line where
  notCloseElif rest := by simp [h.kind]
  notCloseElse := by simp [h.kind]
  notElif := h.notElif
  notElse := h.notElse
  notBrace _ := h.notBrace

theorem isOwn_ifLine {condition : Text} (h : condition.isSolid = true) :
    IsOwn (Spelling.opening "if".toList condition) where
  notCloseElif rest := by
    rw [of_ifLine h]
    exact LineKind.noConfusion
  notCloseElse := by
    rw [of_ifLine h]
    exact LineKind.noConfusion
  notElif := rfl
  notElse := rfl
  notBrace hplain := by
    rw [of_ifLine h] at hplain
    exact LineKind.noConfusion hplain

theorem of_brace : LineKind.of brace = .close := rfl

theorem isOwn_brace : IsOwn brace where
  notCloseElif rest := by simp [of_brace]
  notCloseElse := by simp [of_brace]
  notElif := rfl
  notElse := rfl
  notBrace hplain := by simp [of_brace] at hplain

end LineKind

namespace Block

/-! ## Single lines -/

/-- The body as a line of its own finds it: a chain that waited for its continuation is complete. -/
def ready (b : Block) : Block :=
  match b.mode with
  | .joint done => b.settle done
  | _ => { b with mode := .within }

/-- No line `else` waits for its brace. -/
def isReadable (b : Block) : Bool :=
  match b.mode with
  | .elseAlone _ => false
  | _ => true

/-- A chain waits for its continuation. -/
def isJoint (b : Block) : Bool :=
  match b.mode with
  | .joint _ => true
  | _ => false

@[simp] theorem stack_ready (b : Block) : b.ready.stack = b.stack := by
  unfold ready
  split <;> rfl

theorem ready_of_not_isJoint {b : Block} (h : b.isJoint = false) : b.ready.actions = b.actions := by
  unfold ready
  split
  · next done hmode => simp [isJoint, hmode] at h
  · rfl

/-- How a line within a block is read does not depend on what was read before it. -/
theorem stepWithin_mode (b : Block) (m : Mode) (line : Text) :
    ({ b with mode := m } : Block).stepWithin line = b.stepWithin line := by
  unfold stepWithin
  cases LineKind.of line <;> rfl

/-- A line of its own is read as a line within the block, after a waiting chain is completed. -/
theorem step_of_isOwn {b : Block} (hb : b.isReadable = true) {line : Text}
    (h : LineKind.IsOwn line) : b.step line = b.ready.stepWithin line := by
  obtain ⟨stack, actions, mode⟩ := b
  cases mode with
  | within => rfl
  | opening =>
    show stepOpening _ line = stepWithin _ line
    rw [ready, stepWithin_mode, stepOpening]
    split
    · next frame rest hplain hstack => rw [if_neg (h.notBrace hplain)]
    · rfl
  | joint done =>
    show stepJoint _ done line = stepWithin _ line
    rw [stepJoint]
    split
    · next rest hkind => exact absurd hkind (h.notCloseElif rest)
    · next hkind => exact absurd hkind h.notCloseElse
    · rw [h.notElif, h.notElse]
      rfl
  | elseAlone done => exact Bool.noConfusion hb

theorem step_of_writes {b : Block} (hb : b.isReadable = true) {line : Text} {a : Action}
    (h : Statement.Writes line a) : b.step line = .ok (.more (b.ready.add a)) := by
  rw [step_of_isOwn hb (LineKind.isOwn_of_writes h), stepWithin, h.kind]
  simp only [h.parse, Except.map]

theorem step_ifLine {b : Block} (hb : b.isReadable = true) {condition : Text}
    (h : condition.isSolid = true) :
    b.step (Spelling.opening "if".toList condition) =
      .ok (.more ⟨.branch .if_ b.ready.actions [] condition :: b.stack, [], .opening⟩) := by
  rw [step_of_isOwn hb (LineKind.isOwn_ifLine h), stepWithin, LineKind.of_ifLine h]
  simp only [openBranch, stack_ready]

theorem step_brace_branch {b : Block} (hb : b.isReadable = true) {kind : BlockKind}
    {before : List Action} {done : List Branch} {condition : Text} {rest : List Frame}
    (h : b.stack = .branch kind before done condition :: rest) :
    b.step LineKind.brace =
      .ok (.more ⟨rest, before, .joint (done ++ [(condition, b.ready.actions)])⟩) := by
  rw [step_of_isOwn hb LineKind.isOwn_brace, stepWithin, LineKind.of_brace]
  simp only [stack_ready, h]

theorem step_brace_otherwise {b : Block} (hb : b.isReadable = true) {before : List Action}
    {done : List Branch} {rest : List Frame} (h : b.stack = .otherwise before done :: rest) :
    b.step LineKind.brace =
      .ok (.more ⟨rest, before ++ [.chain done (some b.ready.actions)], .within⟩) := by
  rw [step_of_isOwn hb LineKind.isOwn_brace, stepWithin, LineKind.of_brace]
  simp only [stack_ready, h]

/-! ### Joints -/

theorem continueElif_condition (b : Block) (done : List Branch) {condition : Text}
    (h : condition.isSolid = true) :
    b.continueElif done (' ' :: condition ++ [' ', '\x7b']) =
      .ok (b.openBranch .elif done condition) := by
  obtain ⟨hne, hs⟩ := Text.isSolid_iff.1 h
  have hline : ' ' :: condition ++ [' ', '\x7b'] = ' ' :: (condition ++ [' '] ++ ['\x7b']) := by
    simp
  have hsolid := Text.isSolid_append (t := ['\x7b']) h (by decide) [' ']
  have hpart : Text.strip (' ' :: (condition ++ [' '] ++ ['\x7b'])) =
      condition ++ [' '] ++ ['\x7b'] := by
    rw [Text.strip_cons_of_blank (by decide), (Text.isSolid_iff.1 hsolid).2]
  rw [hline, continueElif, hpart]
  simp only [List.getLast?_concat, if_true, List.dropLast_concat]
  rw [Text.strip_concat_of_blank (by decide), hs]

theorem step_elifLine (stack : List Frame) (actions : List Action) (done : List Branch)
    {condition : Text} (h : condition.isSolid = true) :
    (⟨stack, actions, .joint done⟩ : Block).step (Spelling.opening "elif".toList condition) =
      .ok (.more ⟨.branch .elif actions done condition :: stack, [], .opening⟩) := by
  show stepJoint _ done (Spelling.opening "elif".toList condition) = _
  have hhead : Statement.head? "elif" (Spelling.opening "elif".toList condition) = some condition :=
    Statement.head?_opening h
  have hplain : LineKind.of (Spelling.opening "elif".toList condition) = .plain := rfl
  rw [stepJoint, hplain, hhead]
  rfl

theorem step_elseLine (stack : List Frame) (actions : List Action) (done : List Branch) :
    (⟨stack, actions, .joint done⟩ : Block).step Spelling.elseLine =
      .ok (.more ⟨.otherwise actions done :: stack, [], .within⟩) := rfl

/-- Unless a chain waits, a line that begins with a brace is read as a line within the block. -/
theorem step_of_not_isJoint {b : Block} (hb : b.isReadable = true) (hj : b.isJoint = false)
    {line : Text} (h : LineKind.of line ≠ .plain) : b.step line = b.stepWithin line := by
  obtain ⟨stack, actions, mode⟩ := b
  cases mode with
  | within => rfl
  | opening =>
    show stepOpening _ line = _
    rw [stepOpening]
    split
    · next frame rest hplain hstack => exact absurd hplain h
    · rfl
  | joint done => exact Bool.noConfusion hj
  | elseAlone done => exact Bool.noConfusion hb

theorem step_closeElif {b : Block} (hb : b.isReadable = true) (hj : b.isJoint = false)
    {kind : BlockKind} {before : List Action} {done : List Branch} {last condition : Text}
    {rest : List Frame} (hstack : b.stack = .branch kind before done last :: rest)
    (h : condition.isSolid = true) :
    b.step (Spelling.closing (Spelling.opening "elif".toList condition)) =
      .ok (.more ⟨.branch .elif before (done ++ [(last, b.actions)]) condition :: rest, [],
        .opening⟩) := by
  have hkind : LineKind.of (Spelling.closing (Spelling.opening "elif".toList condition)) ≠
      .plain := by
    rw [LineKind.of_closeElif]
    exact LineKind.noConfusion
  rw [step_of_not_isJoint hb hj hkind, stepWithin, LineKind.of_closeElif]
  simp only [closeBranch?, hstack, continueElif_condition _ _ h]
  rfl

theorem step_closeElse {b : Block} (hb : b.isReadable = true) (hj : b.isJoint = false)
    {kind : BlockKind} {before : List Action} {done : List Branch} {last : Text}
    {rest : List Frame} (hstack : b.stack = .branch kind before done last :: rest) :
    b.step (Spelling.closing Spelling.elseLine) =
      .ok (.more ⟨.otherwise before (done ++ [(last, b.actions)]) :: rest, [], .within⟩) := by
  rw [step_of_not_isJoint hb hj (by simp [LineKind.of_closeElse]), stepWithin,
    LineKind.of_closeElse]
  simp only [closeBranch?, hstack]
  rfl

/-! ## Lines one after another -/

/-- Reads lines until one of them does not belong to the body. -/
def feed (b : Block) : List Text → Except ScriptFault Progress
  | [] => .ok (.more b)
  | line :: rest =>
    match b.step line with
    | .ok (.more next) => next.feed rest
    | r => r

@[simp] theorem feed_nil (b : Block) : b.feed [] = .ok (.more b) := rfl

theorem feed_cons {b next : Block} {line : Text} (h : b.step line = .ok (.more next))
    (rest : List Text) : b.feed (line :: rest) = next.feed rest := by
  rw [feed, h]

theorem feed_append {b next : Block} {xs : List Text} (h : b.feed xs = .ok (.more next))
    (ys : List Text) : b.feed (xs ++ ys) = next.feed ys := by
  induction xs generalizing b with
  | nil =>
    obtain rfl : b = next := by simpa using h
    rfl
  | cons line xs ih =>
    rw [feed] at h
    rw [List.cons_append, feed]
    split at h
    · next mid hmid => exact ih h
    · next hr => exact absurd h (hr next)

/-! ## Bodies that hold more actions -/

/-- The body after the lines of an action: a chain without other actions may still be continued. -/
def write (b : Block) (a : Action) : Block :=
  match a with
  | .chain branches none => { b.ready with mode := .joint branches }
  | a => b.ready.add a

/-- The body after the lines of actions. -/
def writeAll (b : Block) (actions : List Action) : Block := actions.foldl write b

theorem write_of_not_chain {a : Action} (h : ∀ branches otherwise, a ≠ .chain branches otherwise)
    (b : Block) : b.write a = b.ready.add a := by
  cases a with
  | chain branches otherwise => exact absurd rfl (h branches otherwise)
  | _ => rfl

@[simp] theorem stack_write (b : Block) (a : Action) : (b.write a).stack = b.stack := by
  unfold write
  split <;> simp [add]

theorem ready_write (b : Block) (a : Action) : (b.write a).ready = b.ready.add a := by
  unfold write
  split <;> rfl

theorem isReadable_write (b : Block) (a : Action) : (b.write a).isReadable = true := by
  unfold write
  split <;> rfl

theorem isJoint_write (b : Block) (a : Action) : (b.write a).isJoint = Action.endsOpen [a] := by
  unfold write
  split
  · rfl
  · next h =>
    cases a with
    | chain branches otherwise =>
      cases otherwise with
      | none => exact absurd rfl (h branches)
      | some actions => rfl
    | _ => rfl

@[simp] theorem stack_writeAll (b : Block) (actions : List Action) :
    (b.writeAll actions).stack = b.stack := by
  induction actions generalizing b with
  | nil => rfl
  | cons a actions ih => exact (ih (b.write a)).trans (stack_write b a)

theorem isReadable_writeAll {b : Block} (hb : b.isReadable = true) (actions : List Action) :
    (b.writeAll actions).isReadable = true := by
  induction actions generalizing b with
  | nil => exact hb
  | cons a actions ih => exact ih (isReadable_write b a)

theorem actions_ready_writeAll (b : Block) (actions : List Action) :
    (b.writeAll actions).ready.actions = b.ready.actions ++ actions := by
  induction actions generalizing b with
  | nil => simp [writeAll]
  | cons a actions ih =>
    have hrest := ih (b.write a)
    rw [ready_write] at hrest
    simpa [writeAll, add] using hrest

/-- After actions, a chain waits for its continuation exactly if they end open. -/
theorem isJoint_writeAll {b : Block} (hb : b.isJoint = false) (actions : List Action) :
    (b.writeAll actions).isJoint = Action.endsOpen actions := by
  rcases List.eq_nil_or_concat actions with rfl | ⟨front, a, rfl⟩
  · exact hb
  · rw [writeAll, List.concat_eq_append, List.foldl_append, List.foldl_cons, List.foldl_nil,
      isJoint_write]
    simp [Action.endsOpen]

/-! ## Chains -/

/-- The body stands in the last of these branches of a chain, which follows the actions `before` in
a block with the frames `rest` around it. -/
def InBranch (b : Block) (before : List Action) (rest : List Frame) (branches : List Branch) :
    Prop :=
  b.isReadable = true ∧ ∃ kind done condition,
    b.stack = .branch kind before done condition :: rest ∧
      branches = done ++ [(condition, b.ready.actions)]

theorem inBranch_writeAll (kind : BlockKind) (before : List Action) (done : List Branch)
    (condition : Text) (rest : List Frame) (actions : List Action) :
    InBranch (writeAll ⟨.branch kind before done condition :: rest, [], .opening⟩ actions) before
      rest (done ++ [(condition, actions)]) := by
  refine ⟨isReadable_writeAll rfl actions, kind, done, condition, by simp, ?_⟩
  rw [actions_ready_writeAll]
  rfl

theorem strip_brace : Text.strip LineKind.brace = LineKind.brace := by decide

theorem feed_joint_elif {s : Spelling} {b : Block} {before : List Action} {rest : List Frame}
    {branches : List Branch} (h : b.InBranch before rest branches)
    (hj : s = .separate ∨ b.isJoint = false) {condition : Text} (hc : condition.isSolid = true) :
    b.feed ((s.joint (Spelling.opening "elif".toList condition)).map Text.strip) =
      .ok (.more ⟨.branch .elif before branches condition :: rest, [], .opening⟩) := by
  obtain ⟨hb, kind, done, last, hstack, rfl⟩ := h
  have hline : (Spelling.opening "elif".toList condition).isSolid = true :=
    Spelling.isSolid_opening (by decide) condition
  cases s with
  | separate =>
    show b.feed [Text.strip LineKind.brace,
      Text.strip (Spelling.opening "elif".toList condition)] = _
    rw [strip_brace, (Text.isSolid_iff.1 hline).2, feed_cons (step_brace_branch hb hstack),
      feed_cons (step_elifLine rest before _ hc), feed_nil]
  | attached =>
    have hnot : b.isJoint = false := hj.resolve_left (by simp)
    show b.feed [Text.strip (Spelling.closing (Spelling.opening "elif".toList condition))] = _
    rw [Spelling.strip_closing hline, feed_cons (step_closeElif hb hnot hstack hc), feed_nil,
      ready_of_not_isJoint hnot]

theorem feed_joint_else {s : Spelling} {b : Block} {before : List Action} {rest : List Frame}
    {branches : List Branch} (h : b.InBranch before rest branches)
    (hj : s = .separate ∨ b.isJoint = false) :
    b.feed ((s.joint Spelling.elseLine).map Text.strip) =
      .ok (.more ⟨.otherwise before branches :: rest, [], .within⟩) := by
  obtain ⟨hb, kind, done, last, hstack, rfl⟩ := h
  cases s with
  | separate =>
    show b.feed [Text.strip LineKind.brace, Text.strip Spelling.elseLine] = _
    rw [strip_brace, Spelling.strip_elseLine, feed_cons (step_brace_branch hb hstack),
      feed_cons (step_elseLine rest before _), feed_nil]
  | attached =>
    have hnot : b.isJoint = false := hj.resolve_left (by simp)
    show b.feed [Text.strip (Spelling.closing Spelling.elseLine)] = _
    rw [Spelling.strip_closing (by decide), feed_cons (step_closeElse hb hnot hstack), feed_nil,
      ready_of_not_isJoint hnot]

theorem feed_statement (s : Spelling) {a : Action} (h : a.wellFormed = true)
    (hchain : ∀ branches otherwise, a ≠ .chain branches otherwise) {b : Block}
    (hb : b.isReadable = true) : b.feed ((a.lines s).map Text.strip) = .ok (.more (b.write a)) := by
  obtain ⟨line, hlines, hwrites⟩ := Statement.writes_lines s h hchain
  rw [hlines, List.map_singleton, feed_cons (step_of_writes hb hwrites), feed_nil,
    write_of_not_chain hchain]

-- The induction is on the tree of actions.  Between two branches the body stands in the last branch
-- that was read, and `InBranch` says which branches it has collected by then.
mutual

/-- The lines of an action are read as the action. -/
theorem feed_lines (s : Spelling) : ∀ a : Action, a.wellFormed = true →
    (s = .separate ∨ a.attaches = true) → ∀ b : Block, b.isReadable = true →
      b.feed ((a.lines s).map Text.strip) = .ok (.more (b.write a))
  | .chain branches otherwise, h, hs, b, hb => by
    simp only [Action.wellFormed, Bool.and_eq_true, Bool.not_eq_true'] at h
    obtain ⟨⟨hne, hbranches⟩, hotherwise⟩ := h
    have hsb : s = .separate ∨ Action.attachesBranches otherwise.isSome branches = true := by
      simpa [Action.attaches] using hs.imp_right fun h => (Bool.and_eq_true_iff.1 h).1
    have hso : s = .separate ∨ Action.attachesOtherwise otherwise = true := by
      simpa [Action.attaches] using hs.imp_right fun h => (Bool.and_eq_true_iff.1 h).2
    obtain ⟨next, hfeed, hin, hj⟩ :=
      feed_linesOfBranches_first s branches (by simpa using hne) hbranches _ hsb b hb
    have hend := feed_linesOfOtherwise s otherwise hotherwise hso next hin hj
    rw [Action.lines, List.append_assoc, List.map_append, feed_append hfeed, List.map_append]
    exact hend
  | .reply text, h, _, b, hb => feed_statement s h (fun _ _ => Action.noConfusion) hb
  | .goto target, h, _, b, hb => feed_statement s h (fun _ _ => Action.noConfusion) hb
  | .ask var prompt, h, _, b, hb => feed_statement s h (fun _ _ => Action.noConfusion) hb
  | .set var value, h, _, b, hb => feed_statement s h (fun _ _ => Action.noConfusion) hb
  | .setExpr var expr, h, _, b, hb => feed_statement s h (fun _ _ => Action.noConfusion) hb
  | .ifGoto left right target, h, _, b, hb => feed_statement s h (fun _ _ => Action.noConfusion) hb
  | .save var path, h, _, b, hb => feed_statement s h (fun _ _ => Action.noConfusion) hb
  | .load var path, h, _, b, hb => feed_statement s h (fun _ _ => Action.noConfusion) hb
  | .compare _ _ _ _ _, h, _, _, _ => Bool.noConfusion h
  | .unknown _, h, _, _, _ => Bool.noConfusion h

/-- The lines of actions are read as the actions. -/
theorem feed_linesOfAll (s : Spelling) : ∀ actions : List Action,
    Action.wellFormedAll actions = true → (s = .separate ∨ Action.attachesAll actions = true) →
    ∀ b : Block, b.isReadable = true →
      b.feed ((Action.linesOfAll s actions).map Text.strip) = .ok (.more (b.writeAll actions))
  | [], _, _, b, _ => rfl
  | a :: rest, h, hs, b, hb => by
    simp only [Action.wellFormedAll, Bool.and_eq_true] at h
    have hsa : s = .separate ∨ a.attaches = true :=
      hs.imp_right fun h => (Bool.and_eq_true_iff.1 h).1
    have hsr : s = .separate ∨ Action.attachesAll rest = true :=
      hs.imp_right fun h => (Bool.and_eq_true_iff.1 h).2
    rw [Action.linesOfAll, List.map_append, feed_append (feed_lines s a h.1 hsa b hb)]
    exact feed_linesOfAll s rest h.2 hsr (b.write a) (isReadable_write b a)

/-- The lines of a chain up to the end of its last branch. -/
theorem feed_linesOfBranches_first (s : Spelling) : ∀ branches : List (Text × List Action),
    branches ≠ [] → Action.wellFormedBranches branches = true → ∀ continued : Bool,
    (s = .separate ∨ Action.attachesBranches continued branches = true) →
    ∀ b : Block, b.isReadable = true →
      ∃ next : Block,
        b.feed ((Action.linesOfBranches s true branches).map Text.strip) = .ok (.more next) ∧
        next.InBranch b.ready.actions b.stack branches ∧
        (s = .separate ∨ (continued = true → next.isJoint = false))
  | [], hne, _, _, _, _, _ => absurd rfl hne
  | p :: rest, _, h, continued, hs, b, hb => by
    simp only [Action.wellFormedBranches, Bool.and_eq_true] at h
    have hsp : s = .separate ∨ Action.attachesBranch (!rest.isEmpty || continued) p = true :=
      hs.imp_right fun h => (Bool.and_eq_true_iff.1 h).1
    have hsr : s = .separate ∨ Action.attachesBranches continued rest = true :=
      hs.imp_right fun h => (Bool.and_eq_true_iff.1 h).2
    obtain ⟨hcond, hbody, hj⟩ := feed_linesOfBranch s p h.1 _ hsp
      ⟨.branch .if_ b.ready.actions [] p.1 :: b.stack, [], .opening⟩ rfl rfl
    obtain ⟨next, hfeed, hin, hlast⟩ := feed_linesOfBranches s rest h.2 continued hsr _ _ _ _
      (inBranch_writeAll .if_ b.ready.actions [] p.1 b.stack p.2) hj
    refine ⟨next, ?_, hin, hlast⟩
    rw [Action.linesOfBranches, Action.linesOfBranch, Spelling.heading_first]
    simp only [List.map_append, List.map_cons, List.cons_append, List.nil_append]
    rw [Spelling.strip_opening (by decide), feed_cons (step_ifLine hb hcond), feed_append hbody]
    exact hfeed

/-- The lines of the later branches of a chain. -/
theorem feed_linesOfBranches (s : Spelling) : ∀ branches : List (Text × List Action),
    Action.wellFormedBranches branches = true → ∀ continued : Bool,
    (s = .separate ∨ Action.attachesBranches continued branches = true) →
    ∀ (b : Block) (before : List Action) (outer : List Frame) (done : List Branch),
      b.InBranch before outer done →
      (s = .separate ∨ ((!branches.isEmpty || continued) = true → b.isJoint = false)) →
      ∃ next : Block,
        b.feed ((Action.linesOfBranches s false branches).map Text.strip) = .ok (.more next) ∧
        next.InBranch before outer (done ++ branches) ∧
        (s = .separate ∨ (continued = true → next.isJoint = false))
  | [], _, _, _, b, _, _, _, hin, hj => ⟨b, rfl, by simpa using hin, by simpa using hj⟩
  | p :: rest, h, continued, hs, b, before, outer, done, hin, hj => by
    simp only [Action.wellFormedBranches, Bool.and_eq_true] at h
    have hsp : s = .separate ∨ Action.attachesBranch (!rest.isEmpty || continued) p = true :=
      hs.imp_right fun h => (Bool.and_eq_true_iff.1 h).1
    have hsr : s = .separate ∨ Action.attachesBranches continued rest = true :=
      hs.imp_right fun h => (Bool.and_eq_true_iff.1 h).2
    obtain ⟨hcond, hbody, hjoint⟩ := feed_linesOfBranch s p h.1 _ hsp
      ⟨.branch .elif before done p.1 :: outer, [], .opening⟩ rfl rfl
    obtain ⟨next, hfeed, hnext, hlast⟩ := feed_linesOfBranches s rest h.2 continued hsr _ _ _ _
      (inBranch_writeAll .elif before done p.1 outer p.2) hjoint
    refine ⟨next, ?_, by simpa using hnext, hlast⟩
    have hopen := feed_joint_elif hin (hj.imp_right fun h => h (by simp)) hcond
    rw [Action.linesOfBranches, Action.linesOfBranch, Spelling.heading_later]
    simp only [List.map_append, List.append_assoc]
    rw [feed_append hopen, feed_append hbody]
    exact hfeed

/-- The lines of the body of a branch. -/
theorem feed_linesOfBranch (s : Spelling) : ∀ p : Text × List Action,
    Action.wellFormedBranch p = true → ∀ continued : Bool,
    (s = .separate ∨ Action.attachesBranch continued p = true) →
    ∀ b : Block, b.isReadable = true → b.isJoint = false →
      p.1.isSolid = true ∧
      b.feed ((Action.linesOfAll s p.2).map Text.strip) = .ok (.more (b.writeAll p.2)) ∧
      (s = .separate ∨ (continued = true → (b.writeAll p.2).isJoint = false))
  | (condition, actions), h, continued, hs, b, hb, hj => by
    simp only [Action.wellFormedBranch, Bool.and_eq_true] at h
    have hsa : s = .separate ∨ Action.attachesAll actions = true :=
      hs.imp_right fun h => (Bool.and_eq_true_iff.1 h).1
    refine ⟨h.1.1, feed_linesOfAll s actions h.2 hsa b hb, hs.imp_right fun h hcont => ?_⟩
    have hends := (Bool.and_eq_true_iff.1 h).2
    rw [isJoint_writeAll hj]
    simpa [hcont] using hends

/-- The lines of a chain from the end of its last branch. -/
theorem feed_linesOfOtherwise (s : Spelling) : ∀ otherwise : Option (List Action),
    Action.wellFormedOtherwise otherwise = true →
    (s = .separate ∨ Action.attachesOtherwise otherwise = true) →
    ∀ {outer : Block} {branches : List Branch} (b : Block),
      b.InBranch outer.ready.actions outer.stack branches →
      (s = .separate ∨ (otherwise.isSome = true → b.isJoint = false)) →
      b.feed ((Action.linesOfOtherwise s otherwise).map Text.strip ++
        [LineKind.brace].map Text.strip) = .ok (.more (outer.write (.chain branches otherwise)))
  | none, _, _, outer, branches, b, hin, _ => by
    obtain ⟨hb, kind, done, last, hstack, rfl⟩ := hin
    show b.feed [Text.strip LineKind.brace] = _
    rw [strip_brace, feed_cons (step_brace_branch hb hstack), feed_nil, ← stack_ready outer]
    rfl
  | some actions, h, hs, outer, branches, b, hin, hj => by
    have hopen := feed_joint_else hin (hj.imp_right fun h => h rfl)
    have hbody := feed_linesOfAll s actions h hs
      ⟨.otherwise outer.ready.actions branches :: outer.stack, [], .within⟩ rfl
    have hclose := step_brace_otherwise (isReadable_writeAll (b := ⟨.otherwise outer.ready.actions
      branches :: outer.stack, [], .within⟩) rfl actions) (stack_writeAll _ _)
    have hlines : Action.linesOfOtherwise s (some actions) =
        s.joint Spelling.elseLine ++ Action.linesOfAll s actions := rfl
    rw [hlines, List.map_append, List.append_assoc, feed_append hopen, feed_append hbody,
      List.map_singleton, strip_brace, feed_cons hclose, feed_nil, actions_ready_writeAll,
      ← stack_ready outer]
    rfl

end

end Block
end Dialogue
