import Dialogue.Script.Parser
import Mathlib.Data.List.Infix
set_option autoImplicit false

/-!
# The recursive-descent parser

A script can also be read by functions that call each other, one for every kind of thing that a
script has, each with a loop over the lines that are left.  Nothing in the text bounds these loops.
The functions take a number, of which every pass and every call uses up one, and give nothing if it
does not suffice; a reading that never returns is one for which no number suffices.  Main statement:
a list of statements is read in this way as with a stack of open blocks, where
`ScriptFault.endless` stands for the readings that never return, and four passes for every line
suffice for the others.

Normative source: `parser`, `parse` with its inner `parse_block_actions`, loop for loop.
-/

namespace Dialogue

/-! ## Kinds of lines -/

/-- The block comes after all branches of its chain. -/
def BlockKind.isElse : BlockKind → Bool
  | .else_ => true
  | _ => false

/-- The open block comes after all branches of its chain. -/
def Frame.isElse : Frame → Bool
  | .branch _ _ _ _ => false
  | .otherwise _ _ => true

namespace LineKind

/-- The line ends a list of statements. -/
def isEnd : LineKind → Bool
  | close | closeElif _ | closeElse | heading => true
  | _ => false

/-- The line ends a list of statements, but neither closes nor leaves the block that holds it. -/
def isDeadEnd (inElse : Bool) : LineKind → Bool
  | heading => true
  | closeElif _ | closeElse => inElse
  | _ => false

theorem isEnd_of_isDeadEnd {inElse : Bool} {kind : LineKind} (h : kind.isDeadEnd inElse = true) :
    kind.isEnd = true := by
  cases kind with
  | heading | closeElif _ | closeElse => rfl
  | _ => exact Bool.noConfusion h

/-- What the kind of a line says about its beginning. -/
theorem beginning_of (line : Text) :
    (LineKind.of line = .close → line = brace) ∧
      (∀ rest, LineKind.of line = .closeElif rest →
        Text.startsWith (brace ++ " elif".toList) line = true) ∧
      (LineKind.of line = .closeElse → Text.startsWith (brace ++ " else".toList) line = true) ∧
      (LineKind.of line = .heading →
        (Text.startsWith "state ".toList line || Text.startsWith "flow ".toList line) = true) := by
  unfold LineKind.of
  split
  · exact ⟨nofun, nofun, nofun, nofun⟩
  split
  · next h => exact ⟨fun _ => h, nofun, nofun, nofun⟩
  split
  · next rest h => exact ⟨nofun, fun _ _ => Option.isSome_iff_exists.2 ⟨rest, h⟩, nofun, nofun⟩
  split
  · next h => exact ⟨nofun, nofun, fun _ => h, nofun⟩
  split
  · next h => exact ⟨nofun, nofun, nofun, fun _ => h⟩
  split <;> exact ⟨nofun, nofun, nofun, nofun⟩

theorem of_eq_close_iff {line : Text} : LineKind.of line = .close ↔ line = brace := by
  refine ⟨(beginning_of line).1, ?_⟩
  rintro rfl
  rfl

theorem exists_of_eq_closeElif_iff {line : Text} :
    (∃ rest, LineKind.of line = .closeElif rest) ↔
      Text.startsWith (brace ++ " elif".toList) line = true := by
  refine ⟨fun ⟨rest, h⟩ => (beginning_of line).2.1 rest h, fun h => ?_⟩
  obtain ⟨rest, rfl⟩ := Text.startsWith_iff.1 h
  exact ⟨rest, rfl⟩

theorem of_eq_closeElse_iff {line : Text} :
    LineKind.of line = .closeElse ↔ Text.startsWith (brace ++ " else".toList) line = true := by
  refine ⟨(beginning_of line).2.2.1, fun h => ?_⟩
  obtain ⟨rest, rfl⟩ := Text.startsWith_iff.1 h
  rfl

theorem of_eq_heading_iff {line : Text} :
    LineKind.of line = .heading ↔
      (Text.startsWith "state ".toList line || Text.startsWith "flow ".toList line) = true := by
  refine ⟨(beginning_of line).2.2.2, fun h => ?_⟩
  rcases Bool.or_eq_true _ _ ▸ h with h | h
  all_goals
    obtain ⟨rest, rfl⟩ := Text.startsWith_iff.1 h
    rfl

/-- A line that begins with a closing brace closes a block or is no statement at all. -/
theorem of_cons_brace (line : Text) :
    LineKind.of ('\x7d' :: line) = .close ∨
      (∃ rest, LineKind.of ('\x7d' :: line) = .closeElif rest) ∨
      LineKind.of ('\x7d' :: line) = .closeElse ∨ LineKind.of ('\x7d' :: line) = .plain := by
  have hheading : (Text.startsWith "state ".toList ('\x7d' :: line) ||
      Text.startsWith "flow ".toList ('\x7d' :: line)) = false := rfl
  have hhead : Statement.head? "if" ('\x7d' :: line) = none := rfl
  unfold LineKind.of
  rw [hheading, hhead]
  split
  · next h => simp at h
  split
  · exact .inl rfl
  split
  · next rest _ => exact .inr (.inl ⟨rest, rfl⟩)
  split
  · exact .inr (.inr (.inl rfl))
  · exact .inr (.inr (.inr rfl))

/-- Of the lines that end a list of statements, all but headings begin with a closing brace. -/
theorem head?_eq_brace_iff {line : Text} (h : (LineKind.of line).isEnd = true) :
    line.head? = some '\x7d' ↔ LineKind.of line ≠ .heading := by
  constructor
  · intro hhead hheading
    obtain ⟨rest, rfl⟩ := List.head?_eq_some_iff.1 hhead
    have hkinds := of_cons_brace rest
    simp only [hheading, reduceCtorEq, exists_false, or_self] at hkinds
  · intro hheading
    cases hkind : LineKind.of line with
    | close => rw [of_eq_close_iff.1 hkind]; rfl
    | closeElif part =>
      obtain ⟨rest, rfl⟩ := Text.startsWith_iff.1 (exists_of_eq_closeElif_iff.1 ⟨part, hkind⟩)
      rfl
    | closeElse =>
      obtain ⟨rest, rfl⟩ := Text.startsWith_iff.1 (of_eq_closeElse_iff.1 hkind)
      rfl
    | heading => exact absurd hkind hheading
    | _ =>
      rw [hkind] at h
      exact Bool.noConfusion h

end LineKind

theorem Statement.parse_ne_endless (line : Text) : Statement.parse line ≠ .error .endless := by
  unfold parse ask set save load
  dsimp only
  repeat' split
  all_goals simp

namespace Descent

/-! ## The functions -/

/-- What is read, or a fault, or nothing if the number of passes did not suffice. -/
abbrev Result (α : Type) : Type := Option (Except ScriptFault α)

/-- Goes on with what was read. -/
def andThen {α β : Type} (r : Result α) (next : α → Result β) : Result β :=
  match r with
  | none => none
  | some (.error f) => some (.error f)
  | some (.ok x) => next x

theorem ok_of_andThen {α β : Type} {r : Result α} {next : α → Result β} {y : β}
    (h : andThen r next = some (.ok y)) : ∃ x, r = some (.ok x) ∧ next x = some (.ok y) := by
  match r, h with
  | some (.ok x), h => exact ⟨x, rfl, h⟩

/-- The loop over the body of a block ends at a line that begins with a closing brace, or after
`else` at a closing brace alone. -/
def endsAt (kind : BlockKind) : List Text → Bool
  | [] => true
  | line :: _ => if kind.isElse then line = LineKind.brace else line.head? = some '\x7d'

/-- How a chain goes on after one of its branches, with the lines of the block that follows. -/
inductive Joint where
  | elif (cond : Text) (rest : List Text)
  | otherwise (rest : List Text)
  | ended

/-- A line `else` must be followed by a brace on a line of its own. -/
def afterElse : List Text → Except ScriptFault Joint
  | [] => .error .elseBrace
  | line :: rest => if line = ['\x7b'] then .ok (.otherwise rest) else .error .elseBrace

/-- How a chain goes on. -/
def joint : List Text → Except ScriptFault Joint
  | [] => .ok .ended
  | line :: rest =>
    match LineKind.of line with
    | .closeElif part =>
      let part := Text.strip part
      if part.getLast? = some '\x7b' then .ok (.elif (Text.strip part.dropLast) rest)
      else .error .elifForm
    | .closeElse => .ok (.otherwise rest)
    | _ =>
      match Statement.head? "elif" line with
      | some cond => .ok (.elif cond rest)
      | none =>
        if Text.startsWith "else".toList line then
          if line = "else \x7b".toList then .ok (.otherwise rest)
          else if line = "else".toList then afterElse rest
          else .error .elseForm
        else .ok .ended

/-- The lines after a branch.  A brace is passed over unless the chain goes on in its line. -/
def closeBranch (kind : BlockKind) : List Text → Except ScriptFault (List Text)
  | [] => .error (.missingBrace kind)
  | line :: rest =>
    match LineKind.of line with
    | .close => .ok rest
    | .closeElif _ => .ok (line :: rest)
    | .closeElse => .ok (line :: rest)
    | _ => .error (.missingBrace kind)

/-- The lines after the block that ends a chain. -/
def closeElse : List Text → Except ScriptFault (List Text)
  | [] => .error (.missingBrace .else_)
  | line :: rest => if line = LineKind.brace then .ok rest else .error (.missingBrace .else_)

mutual

/-- A list of statements, and the lines from the one that ends it. -/
def block : Nat → List Action → List Text → Result (List Action × List Text)
  | 0, _, _ => none
  | _ + 1, actions, [] => some (.ok (actions, []))
  | n + 1, actions, line :: rest =>
    match LineKind.of line with
    | .blank => block n actions rest
    | .ifHead cond =>
      andThen (branch n .if_ rest) fun (body, rest) =>
        andThen (branches n [(cond, body)] rest) fun (action, rest) =>
          block n (actions ++ [action]) rest
    | .plain =>
      andThen (some (Statement.parse line)) fun action => block n (actions ++ [action]) rest
    | _ => some (.ok (actions, line :: rest))

/-- The body of a block: lists of statements up to the line that ends the block. -/
def body : Nat → BlockKind → List Action → List Text → Result (List Action × List Text)
  | 0, _, _, _ => none
  | n + 1, kind, actions, lines =>
    if endsAt kind lines then some (.ok (actions, lines))
    else andThen (block n [] lines) fun (more, rest) => body n kind (actions ++ more) rest

/-- A branch after its heading. -/
def branch : Nat → BlockKind → List Text → Result (List Action × List Text)
  | 0, _, _ => none
  | n + 1, kind, lines =>
    andThen (body n kind [] lines) fun (actions, rest) =>
      some ((closeBranch kind rest).map fun rest => (actions, rest))

/-- The rest of a chain after some of its branches. -/
def branches : Nat → List Branch → List Text → Result (Action × List Text)
  | 0, _, _ => none
  | n + 1, done, lines =>
    andThen (some (joint lines)) fun
      | .ended => some (.ok (.chain done none, lines))
      | .elif cond rest =>
        andThen (branch n .elif rest) fun (actions, rest) =>
          branches n (done ++ [(cond, actions)]) rest
      | .otherwise rest =>
        andThen (body n .else_ [] rest) fun (actions, rest) =>
          some ((closeElse rest).map fun rest => (.chain done (some actions), rest))

end

/-- The states of a flow, and the lines from the heading of the next flow. -/
def states : Nat → Flow → List Text → Result (Flow × List Text)
  | 0, _, _ => none
  | _ + 1, f, [] => some (.ok (f, []))
  | n + 1, f, line :: rest =>
    match Statement.after? "state" line with
    | some name =>
      andThen (block n [] rest) fun (actions, rest) =>
        states n { f with states := Flow.put ⟨name, actions⟩ f.states } rest
    | none =>
      if Text.startsWith "flow ".toList line then some (.ok (f, line :: rest)) else states n f rest

/-- The flows of a script. -/
def flows : Nat → List Flow → List Text → Result (List Flow)
  | 0, _, _ => none
  | _ + 1, done, [] => some (.ok done)
  | n + 1, done, line :: rest =>
    match Statement.after? "flow" line with
    | some name =>
      andThen (states n ⟨name, []⟩ rest) fun (f, rest) => flows n (Script.put f done) rest
    | none =>
      if Text.startsWith "state ".toList line then some (.error .stateOutsideFlow)
      else flows n done rest

/-- A script has a flow. -/
def script (flows : List Flow) : Except ScriptFault Script :=
  if flows.isEmpty then .error .noFlow else .ok ⟨flows⟩

/-- The script that a text writes, if the number of passes suffices. -/
def parse (n : Nat) (t : Text) : Result Script :=
  andThen (flows n [] (Script.strippedLines t)) fun fs => some (script fs)

/-! ## What is left of the lines -/

/-- The next line, if there is one, ends a list of statements. -/
def atEnd : List Text → Bool
  | [] => true
  | line :: _ => (LineKind.of line).isEnd

theorem afterElse_eq_ok {lines : List Text} {j : Joint} (h : afterElse lines = .ok j) :
    ∃ line rest, lines = line :: rest ∧ j = .otherwise rest := by
  unfold afterElse at h
  split at h
  · cases h
  · next line rest =>
    split at h
    · cases h
      exact ⟨line, rest, rfl, rfl⟩
    · cases h

/-- A chain goes on with the lines after the joint. -/
theorem joint_eq_ok {line : Text} {rest : List Text} {j : Joint}
    (h : joint (line :: rest) = .ok j) :
    (∃ cond, j = .elif cond rest) ∨ (∃ left, j = .otherwise left ∧ left <:+ rest) ∨ j = .ended := by
  rw [joint] at h
  dsimp only at h
  split at h
  · split at h <;> cases h
    exact .inl ⟨_, rfl⟩
  · cases h
    exact .inr (.inl ⟨rest, rfl, List.suffix_rfl⟩)
  split at h
  · cases h
    exact .inl ⟨_, rfl⟩
  split at h
  · split at h
    · cases h
      exact .inr (.inl ⟨rest, rfl, List.suffix_rfl⟩)
    split at h
    · obtain ⟨brace, left, rfl, rfl⟩ := afterElse_eq_ok h
      exact .inr (.inl ⟨left, rfl, List.suffix_cons brace left⟩)
    · cases h
  · cases h
    exact .inr (.inr rfl)

theorem joint_elif {lines : List Text} {cond : Text} {rest : List Text}
    (h : joint lines = .ok (.elif cond rest)) : ∃ line, lines = line :: rest := by
  cases lines with
  | nil => cases h
  | cons line rest' =>
    obtain ⟨_, ⟨⟩⟩ | ⟨_, ⟨⟩, _⟩ | ⟨⟨⟩⟩ := joint_eq_ok h
    exact ⟨line, rfl⟩

theorem joint_otherwise {lines rest : List Text} (h : joint lines = .ok (.otherwise rest)) :
    ∃ line rest', lines = line :: rest' ∧ rest <:+ rest' := by
  cases lines with
  | nil => cases h
  | cons line rest' =>
    obtain ⟨_, ⟨⟩⟩ | ⟨_, ⟨⟩, hsuffix⟩ | ⟨⟨⟩⟩ := joint_eq_ok h
    exact ⟨line, rest', rfl, hsuffix⟩

theorem suffix_of_closeBranch {kind : BlockKind} {lines rest : List Text}
    (h : closeBranch kind lines = .ok rest) : rest <:+ lines := by
  unfold closeBranch at h
  grind [List.suffix_cons]

theorem suffix_of_closeElse {lines rest : List Text} (h : closeElse lines = .ok rest) :
    rest <:+ lines := by
  unfold closeElse at h
  grind [List.suffix_cons]

theorem exists_of_map_eq_ok {α β : Type} {r : Except ScriptFault α} {g : α → β} {y : β}
    (h : r.map g = .ok y) : ∃ x, r = .ok x ∧ g x = y := by
  cases r with
  | error f => cases h
  | ok x => exact ⟨x, rfl, Except.ok.inj h⟩

/-- Every function leaves an end of its lines: a list of statements one that begins with a line that
ends it, the body of a block one at which its loop ends. -/
structure Leaves (n : Nat) : Prop where
  block : ∀ {actions : List Action} {lines : List Text} {x : List Action × List Text},
    block n actions lines = some (.ok x) → x.2 <:+ lines ∧ atEnd x.2 = true
  body : ∀ {kind : BlockKind} {actions : List Action} {lines : List Text}
    {x : List Action × List Text}, body n kind actions lines = some (.ok x) →
      x.2 <:+ lines ∧ endsAt kind x.2 = true
  branch : ∀ {kind : BlockKind} {lines : List Text} {x : List Action × List Text},
    branch n kind lines = some (.ok x) → x.2 <:+ lines
  branches : ∀ {done : List Branch} {lines : List Text} {x : Action × List Text},
    branches n done lines = some (.ok x) → x.2 <:+ lines

theorem Leaves.block_succ {n : Nat} (ih : Leaves n) {actions : List Action} {lines : List Text}
    {x : List Action × List Text} (h : Descent.block (n + 1) actions lines = some (.ok x)) :
    x.2 <:+ lines ∧ atEnd x.2 = true := by
  cases lines with
  | nil =>
    cases h
    exact ⟨List.suffix_rfl, rfl⟩
  | cons line rest =>
    have hrest : rest <:+ line :: rest := List.suffix_cons line rest
    rw [Descent.block] at h
    cases hkind : LineKind.of line with
    | blank =>
      rw [hkind] at h
      obtain ⟨hleft, hend⟩ := ih.block h
      exact ⟨hleft.trans hrest, hend⟩
    | ifHead cond =>
      rw [hkind] at h
      obtain ⟨⟨body, middle⟩, hfirst, h⟩ := ok_of_andThen h
      obtain ⟨⟨action, left⟩, hothers, h⟩ := ok_of_andThen h
      obtain ⟨hs, hend⟩ := ih.block h
      have hmiddle : middle <:+ rest := ih.branch hfirst
      have hleft : left <:+ middle := ih.branches hothers
      exact ⟨((hs.trans hleft).trans hmiddle).trans hrest, hend⟩
    | plain =>
      rw [hkind] at h
      obtain ⟨action, -, h⟩ := ok_of_andThen h
      obtain ⟨hleft, hend⟩ := ih.block h
      exact ⟨hleft.trans hrest, hend⟩
    | _ =>
      rw [hkind] at h
      cases h
      exact ⟨List.suffix_rfl, by rw [atEnd, hkind]; rfl⟩

theorem Leaves.branches_succ {n : Nat} (ih : Leaves n) {done : List Branch} {lines : List Text}
    {x : Action × List Text} (h : Descent.branches (n + 1) done lines = some (.ok x)) :
    x.2 <:+ lines := by
  rw [Descent.branches] at h
  obtain ⟨j, hjoint, h⟩ := ok_of_andThen h
  have hjoint := Option.some.inj hjoint
  cases j with
  | ended =>
    cases h
    exact List.suffix_rfl
  | elif cond rest =>
    obtain ⟨line, rfl⟩ := joint_elif hjoint
    obtain ⟨⟨actions, middle⟩, hbranch, h⟩ := ok_of_andThen h
    have hmiddle : middle <:+ rest := ih.branch hbranch
    exact ((ih.branches h).trans hmiddle).trans (List.suffix_cons line rest)
  | otherwise rest =>
    obtain ⟨line, rest', rfl, hrest⟩ := joint_otherwise hjoint
    obtain ⟨⟨actions, middle⟩, hbody, h⟩ := ok_of_andThen h
    obtain ⟨left, hclose, rfl⟩ := exists_of_map_eq_ok (Option.some.inj h)
    have hmiddle : middle <:+ rest := (ih.body hbody).1
    exact (((suffix_of_closeElse hclose).trans hmiddle).trans hrest).trans
      (List.suffix_cons line rest')

theorem leaves (n : Nat) : Leaves n := by
  induction n with
  | zero => exact ⟨nofun, nofun, nofun, nofun⟩
  | succ n ih =>
    refine ⟨ih.block_succ, fun h => ?_, fun h => ?_, ih.branches_succ⟩
    · rw [body] at h
      split at h
      · next hend =>
        cases h
        exact ⟨List.suffix_rfl, hend⟩
      · obtain ⟨⟨more, middle⟩, hblock, h⟩ := ok_of_andThen h
        obtain ⟨hleft, hend⟩ := ih.body h
        exact ⟨hleft.trans (ih.block hblock).1, hend⟩
    · rw [branch] at h
      obtain ⟨⟨actions, middle⟩, hbody, h⟩ := ok_of_andThen h
      obtain ⟨left, hclose, rfl⟩ := exists_of_map_eq_ok (Option.some.inj h)
      exact (suffix_of_closeBranch hclose).trans (ih.body hbody).1

/-! ## Loops that do not end -/

/-- Where the loop over a body ends there is no dead end, and where a list of statements ends and
the loop does not there is one. -/
theorem isDeadEnd_eq_not_endsAt {kind : BlockKind} {line : Text}
    (h : (LineKind.of line).isEnd = true) (rest : List Text) :
    (LineKind.of line).isDeadEnd kind.isElse = !endsAt kind (line :: rest) := by
  have hbrace : line = LineKind.brace ↔ LineKind.of line = .close :=
    LineKind.of_eq_close_iff.symm
  simp only [endsAt, hbrace, LineKind.head?_eq_brace_iff h]
  cases hkind : LineKind.of line <;> rw [hkind] at h <;>
    first | exact Bool.noConfusion h | cases kind <;> rfl

theorem isDeadEnd_eq_false_of_endsAt {kind : BlockKind} {line : Text} {rest : List Text}
    (h : endsAt kind (line :: rest) = true) :
    (LineKind.of line).isDeadEnd kind.isElse = false := by
  by_contra hdead
  rw [Bool.not_eq_false] at hdead
  rw [isDeadEnd_eq_not_endsAt (LineKind.isEnd_of_isDeadEnd hdead) rest, h] at hdead
  exact Bool.noConfusion hdead

theorem block_of_isEnd {line : Text} (h : (LineKind.of line).isEnd = true) (n : Nat)
    (actions : List Action) (rest : List Text) :
    block (n + 1) actions (line :: rest) = some (.ok (actions, line :: rest)) := by
  rw [block]
  cases hkind : LineKind.of line with
  | close | closeElif _ | closeElse | heading => rfl
  | _ =>
    rw [hkind] at h
    exact Bool.noConfusion h

/-- A body whose next line is a dead end never ends: a list of statements ends before the line, and
the loop goes on with the lines that it had. -/
theorem body_eq_none {kind : BlockKind} {line : Text}
    (h : (LineKind.of line).isDeadEnd kind.isElse = true) (n : Nat) (actions : List Action)
    (rest : List Text) : body n kind actions (line :: rest) = none := by
  have hnot : endsAt kind (line :: rest) ≠ true := fun hend =>
    Bool.noConfusion (h.symm.trans (isDeadEnd_eq_false_of_endsAt hend))
  induction n generalizing actions with
  | zero => rfl
  | succ n ih =>
    rw [body, if_neg hnot]
    cases n with
    | zero => rfl
    | succ n =>
      rw [block_of_isEnd (LineKind.isEnd_of_isDeadEnd h)]
      exact ih (actions ++ [])

/-! ## Agreement with the stack of open blocks -/

/-- What was read by descent agrees with what another reading gives: that reading fails in the same
way or goes on as given.  If nothing was read, the passes were too few, or the other reading fails
as endless. -/
def Agrees {α β : Type} (few : Prop) (r : Result α) (other : Except ScriptFault β)
    (next : α → Except ScriptFault β) : Prop :=
  match r with
  | none => few ∨ other = .error .endless
  | some (.error f) => f ≠ .endless ∧ other = .error f
  | some (.ok x) => other = next x

namespace Agrees

variable {α β γ : Type} {few few' : Prop} {r : Result α}

theorem mono {other : Except ScriptFault β} {next : α → Except ScriptFault β}
    (h : Agrees few r other next) (hfew : few → few') : Agrees few' r other next := by
  match r, h with
  | none, h => exact h.imp_left hfew
  | some (.error f), h => exact h
  | some (.ok x), h => exact h

theorem andThen {other : Except ScriptFault γ} {next : α → Except ScriptFault γ}
    {further : α → Result β} {last : β → Except ScriptFault γ} (h : Agrees few r other next)
    (hfew : few → few')
    (hfurther : ∀ x, r = some (.ok x) → Agrees few' (further x) (next x) last) :
    Agrees few' (andThen r further) other last := by
  match r, h with
  | none, h => exact h.imp_left hfew
  | some (.error f), h => exact h
  | some (.ok x), h =>
    rw [show other = next x from h]
    exact hfurther x rfl

theorem bind {other : Except ScriptFault β} {next : α → Except ScriptFault β}
    (h : Agrees few r other next) (further : β → Except ScriptFault γ) :
    Agrees few r (other >>= further) fun x => next x >>= further := by
  match r, h with
  | none, h => exact h.imp_right fun hother => by rw [hother]; rfl
  | some (.error f), h => exact ⟨h.1, by rw [h.2]; rfl⟩
  | some (.ok x), h => rw [show other = next x from h]; rfl

end Agrees

theorem read_congr {b b' : Block} {line : Text} (h : b.step line = b'.step line)
    (rest : List Text) : b.read (line :: rest) = b'.read (line :: rest) := by
  rw [Block.read, Block.read, h]

theorem read_more {b b' : Block} {line : Text} (h : b.step line = .ok (.more b'))
    (rest : List Text) : b.read (line :: rest) = b'.read rest := by
  rw [Block.read, h]
  rfl

theorem read_error {b : Block} {line : Text} {f : ScriptFault} (h : b.step line = .error f)
    (rest : List Text) : b.read (line :: rest) = .error f := by
  rw [Block.read, h]
  rfl

/-- What the first line of a block may be. -/
def firstMode : BlockKind → Mode
  | .else_ => .within
  | _ => .opening

theorem not_plain_of_atEnd {lines : List Text} (h : atEnd lines = true) {p : Prop} :
    ∀ line ∈ lines.head?, LineKind.of line = .plain → p := by
  cases lines with
  | nil => exact nofun
  | cons line rest =>
    rintro _ ⟨⟩ hplain
    rw [atEnd, hplain] at h
    exact Bool.noConfusion h

/-- The first line of a block is read as any other, unless the loop over the block ends there with a
line that closes nothing. -/
theorem read_firstMode (kind : BlockKind) {lines : List Text}
    (h : ∀ line ∈ lines.head?, LineKind.of line = .plain → endsAt kind lines = false)
    (stack : List Frame) (actions : List Action) :
    (⟨stack, actions, firstMode kind⟩ : Block).read lines =
      (⟨stack, actions, .within⟩ : Block).read lines := by
  cases lines with
  | nil => cases kind <;> rfl
  | cons line rest =>
    refine read_congr ?_ rest
    have hopening (hbrace : LineKind.of line = .plain → line.head? ≠ some '\x7d') :
        Block.stepOpening ⟨stack, actions, .opening⟩ line =
          Block.stepWithin ⟨stack, actions, .within⟩ line := by
      unfold Block.stepOpening
      split
      · next hkind _ => exact if_neg (hbrace hkind)
      · rfl
    cases kind with
    | else_ => rfl
    | if_ | elif => exact hopening fun hplain => of_decide_eq_false (h line rfl hplain)

theorem read_deadEnd {frame : Frame} {line : Text}
    (h : (LineKind.of line).isDeadEnd frame.isElse = true) (stack : List Frame)
    (actions : List Action) (rest : List Text) :
    (⟨frame :: stack, actions, .within⟩ : Block).read (line :: rest) = .error .endless := by
  refine read_error ?_ rest
  show Block.stepWithin _ line = _
  unfold Block.stepWithin
  cases hkind : LineKind.of line <;> rw [hkind] at h <;> cases frame <;>
    first | rfl | exact Bool.noConfusion h

/-- How the machine goes on at a joint. -/
def Joint.resume (stack : List Frame) (before : List Action) (done : List Branch)
    (lines : List Text) : Joint → Except ScriptFault (List Action × List Text)
  | elif cond rest => (⟨.branch .elif before done cond :: stack, [], .opening⟩ : Block).read rest
  | otherwise rest => (⟨.otherwise before done :: stack, [], .within⟩ : Block).read rest
  | ended => (⟨stack, before ++ [.chain done none], .within⟩ : Block).read lines

theorem agrees_afterElse (stack : List Frame) (before : List Action) (done : List Branch)
    (lines rest : List Text) :
    Agrees False (some (afterElse rest)) ((⟨stack, before, .elseAlone done⟩ : Block).read rest)
      (Joint.resume stack before done lines) := by
  cases rest with
  | nil => exact ⟨by simp, rfl⟩
  | cons line rest =>
    rw [Block.read, afterElse]
    show Agrees _ _ ((if line = ['\x7b'] then _ else _) >>= _) _
    by_cases hbrace : line = ['\x7b']
    · rw [if_pos hbrace, if_pos hbrace]
      rfl
    · rw [if_neg hbrace, if_neg hbrace]
      exact ⟨by simp, rfl⟩

theorem agrees_joint (stack : List Frame) (before : List Action) (done : List Branch)
    (lines : List Text) :
    Agrees False (some (joint lines)) ((⟨stack, before, .joint done⟩ : Block).read lines)
      (Joint.resume stack before done lines) := by
  cases lines with
  | nil => cases stack <;> rfl
  | cons line rest =>
    rw [Block.read, joint]
    show Agrees _ _ (Block.stepJoint _ done line >>= _) _
    unfold Block.stepJoint Block.continueElif
    generalize LineKind.of line = kind
    cases kind with
    | closeElif part =>
      dsimp only
      by_cases hbrace : (Text.strip part).getLast? = some '\x7b'
      · rw [if_pos hbrace, if_pos hbrace]
        rfl
      · rw [if_neg hbrace, if_neg hbrace]
        exact ⟨by simp, rfl⟩
    | closeElse => rfl
    | _ =>
      dsimp only
      cases Statement.head? "elif" line with
      | some cond => rfl
      | none =>
        dsimp only
        by_cases hword : Text.startsWith "else".toList line = true
        · rw [if_pos hword, if_pos hword]
          by_cases hopen : line = "else \x7b".toList
          · rw [if_pos hopen, if_pos hopen]
            rfl
          rw [if_neg hopen, if_neg hopen]
          by_cases halone : line = "else".toList
          · rw [if_pos halone, if_pos halone]
            exact agrees_afterElse stack before done (line :: rest) rest
          · rw [if_neg halone, if_neg halone]
            exact ⟨by simp, rfl⟩
        · rw [if_neg hword, if_neg hword]
          rfl

theorem agrees_closeBranch {few : Prop} {kind : BlockKind} {lines : List Text}
    (hkind : kind.isElse = false)
    (h : endsAt kind lines = true) (stack : List Frame) (before actions : List Action)
    (done : List Branch) (cond : Text) :
    Agrees few (some ((closeBranch kind lines).map fun rest => (actions, rest)))
      ((⟨.branch kind before done cond :: stack, actions, .opening⟩ : Block).read lines)
      fun x => (⟨stack, before, .joint (done ++ [(cond, x.1)])⟩ : Block).read x.2 := by
  cases lines with
  | nil => exact ⟨by simp, rfl⟩
  | cons line rest =>
    have hhead : line.head? = some '\x7d' := by
      rw [endsAt, hkind] at h
      exact of_decide_eq_true h
    obtain ⟨tail, hline⟩ := List.head?_eq_some_iff.1 hhead
    have hkinds := LineKind.of_cons_brace tail
    rw [← hline] at hkinds
    rcases hkinds with hclose | ⟨part, helif⟩ | helse | hplain
    · rw [closeBranch, hclose]
      exact read_more (by simp only [Block.step, Block.stepOpening, Block.stepWithin, hclose]) rest
    · rw [closeBranch, helif]
      refine read_congr ?_ rest
      simp only [Block.step, Block.stepOpening, Block.stepWithin, Block.stepJoint, helif]
      rfl
    · rw [closeBranch, helse]
      refine read_congr ?_ rest
      simp only [Block.step, Block.stepOpening, Block.stepWithin, Block.stepJoint, helse]
      rfl
    · rw [closeBranch, hplain]
      refine ⟨by simp, read_error ?_ rest⟩
      simp only [Block.step, Block.stepOpening, hplain, hhead, if_true]
      rfl

theorem agrees_closeElse {few : Prop} {lines : List Text} (h : endsAt .else_ lines = true)
    (stack : List Frame) (before actions : List Action) (done : List Branch) :
    Agrees few (some ((closeElse lines).map fun rest => (Action.chain done (some actions), rest)))
      ((⟨.otherwise before done :: stack, actions, .within⟩ : Block).read lines)
      fun x => (⟨stack, before ++ [x.1], .within⟩ : Block).read x.2 := by
  cases lines with
  | nil => exact ⟨by simp, rfl⟩
  | cons line rest =>
    obtain rfl : line = LineKind.brace := of_decide_eq_true h
    rfl

/-- With a number of passes, reading by descent agrees with the stack of open blocks.  Four passes
for every line suffice, and up to three for the calls before the first list of statements. -/
structure AgreesFor (n : Nat) : Prop where
  block : ∀ (lines : List Text) (actions : List Action) (stack : List Frame),
    Agrees (n ≤ 4 * lines.length) (block n actions lines)
      ((⟨stack, actions, .within⟩ : Block).read lines)
      fun x => (⟨stack, x.1, .within⟩ : Block).read x.2
  body : ∀ (lines : List Text) (kind : BlockKind) (frame : Frame) (stack : List Frame),
    frame.isElse = kind.isElse →
    Agrees (n ≤ 4 * lines.length + 1) (body n kind [] lines)
      ((⟨frame :: stack, [], firstMode kind⟩ : Block).read lines)
      fun x => (⟨frame :: stack, x.1, firstMode kind⟩ : Block).read x.2
  branch : ∀ (lines : List Text) (kind : BlockKind) (stack : List Frame) (before : List Action)
    (done : List Branch) (cond : Text), kind.isElse = false →
    Agrees (n ≤ 4 * lines.length + 2) (branch n kind lines)
      ((⟨.branch kind before done cond :: stack, [], .opening⟩ : Block).read lines)
      fun x => (⟨stack, before, .joint (done ++ [(cond, x.1)])⟩ : Block).read x.2
  branches : ∀ (lines : List Text) (stack : List Frame) (before : List Action)
    (done : List Branch),
    Agrees (n ≤ 4 * lines.length) (branches n done lines)
      ((⟨stack, before, .joint done⟩ : Block).read lines)
      fun x => (⟨stack, before ++ [x.1], .within⟩ : Block).read x.2

namespace AgreesFor

variable {n : Nat} (ih : AgreesFor n)

include ih

theorem block_succ (lines : List Text) (actions : List Action) (stack : List Frame) :
    Agrees (n + 1 ≤ 4 * lines.length) (Descent.block (n + 1) actions lines)
      ((⟨stack, actions, .within⟩ : Block).read lines)
      fun x => (⟨stack, x.1, .within⟩ : Block).read x.2 := by
  cases lines with
  | nil => rfl
  | cons line rest =>
    have hstep : (⟨stack, actions, .within⟩ : Block).step line =
        Block.stepWithin ⟨stack, actions, .within⟩ line := rfl
    rw [Descent.block, List.length_cons]
    rw [Block.stepWithin] at hstep
    cases hkind : LineKind.of line with
    | blank =>
      rw [hkind] at hstep
      rw [read_more hstep]
      exact (ih.block rest actions stack).mono (by omega)
    | ifHead cond =>
      rw [hkind] at hstep
      rw [read_more hstep]
      refine (ih.branch rest .if_ stack actions [] cond rfl).andThen (by omega) ?_
      rintro ⟨body, middle⟩ hbranch
      have hmiddle : middle.length ≤ rest.length := ((leaves n).branch hbranch).length_le
      refine (ih.branches middle stack actions [(cond, body)]).andThen (by omega) ?_
      rintro ⟨action, left⟩ hbranches
      have hleft : left.length ≤ middle.length := ((leaves n).branches hbranches).length_le
      exact (ih.block left (actions ++ [action]) stack).mono (by omega)
    | plain =>
      rw [hkind] at hstep
      dsimp only at hstep
      cases hparse : Statement.parse line with
      | error f =>
        rw [hparse] at hstep
        exact ⟨fun h => Statement.parse_ne_endless line (h ▸ hparse), read_error hstep rest⟩
      | ok action =>
        rw [hparse] at hstep
        rw [read_more hstep]
        exact (ih.block rest (actions ++ [action]) stack).mono (by omega)
    | _ => rfl

theorem body_succ (lines : List Text) (kind : BlockKind) (frame : Frame) (stack : List Frame)
    (hframe : frame.isElse = kind.isElse) :
    Agrees (n + 1 ≤ 4 * lines.length + 1) (Descent.body (n + 1) kind [] lines)
      ((⟨frame :: stack, [], firstMode kind⟩ : Block).read lines)
      fun x => (⟨frame :: stack, x.1, firstMode kind⟩ : Block).read x.2 := by
  rw [Descent.body]
  by_cases hend : endsAt kind lines = true
  · rw [if_pos hend]
    rfl
  rw [if_neg hend, read_firstMode kind fun _ _ _ => eq_false_of_ne_true hend]
  refine (ih.block lines [] (frame :: stack)).andThen (by omega) ?_
  rintro ⟨more, rest⟩ hblock
  have hatEnd : atEnd rest = true := ((leaves n).block hblock).2
  show Agrees _ (Descent.body n kind more rest)
    ((⟨frame :: stack, more, .within⟩ : Block).read rest) _
  -- The loop ends at the line that ends the list of statements, or it never does.
  by_cases hend' : endsAt kind rest = true
  · rw [← read_firstMode kind (not_plain_of_atEnd hatEnd)]
    cases n with
    | zero => exact .inl (by omega)
    | succ n =>
      rw [Descent.body, if_pos hend']
      rfl
  · cases rest with
    | nil => exact absurd rfl hend'
    | cons line rest =>
      have hdead : (LineKind.of line).isDeadEnd kind.isElse = true := by
        rw [isDeadEnd_eq_not_endsAt hatEnd rest, eq_false_of_ne_true hend']
        rfl
      rw [body_eq_none hdead]
      exact .inr (read_deadEnd (hframe ▸ hdead) stack more rest)

theorem branch_succ (lines : List Text) (kind : BlockKind) (stack : List Frame)
    (before : List Action) (done : List Branch) (cond : Text) (hkind : kind.isElse = false) :
    Agrees (n + 1 ≤ 4 * lines.length + 2) (Descent.branch (n + 1) kind lines)
      ((⟨.branch kind before done cond :: stack, [], .opening⟩ : Block).read lines)
      fun x => (⟨stack, before, .joint (done ++ [(cond, x.1)])⟩ : Block).read x.2 := by
  have hmode : firstMode kind = .opening := by
    cases kind with
    | else_ => exact Bool.noConfusion hkind
    | _ => rfl
  have hbody := ih.body lines kind (.branch kind before done cond) stack hkind.symm
  rw [hmode] at hbody
  rw [Descent.branch]
  refine hbody.andThen (by omega) ?_
  rintro ⟨actions, rest⟩ hread
  exact agrees_closeBranch hkind ((leaves n).body hread).2 stack before actions done cond

theorem branches_succ (lines : List Text) (stack : List Frame) (before : List Action)
    (done : List Branch) :
    Agrees (n + 1 ≤ 4 * lines.length) (Descent.branches (n + 1) done lines)
      ((⟨stack, before, .joint done⟩ : Block).read lines)
      fun x => (⟨stack, before ++ [x.1], .within⟩ : Block).read x.2 := by
  rw [Descent.branches]
  refine (agrees_joint stack before done lines).andThen False.elim ?_
  intro j hjoint
  have hjoint := Option.some.inj hjoint
  cases j with
  | ended => rfl
  | elif cond rest =>
    obtain ⟨line, rfl⟩ := joint_elif hjoint
    rw [List.length_cons]
    refine (ih.branch rest .elif stack before done cond rfl).andThen (by omega) ?_
    rintro ⟨actions, left⟩ hbranch
    have hleft : left.length ≤ rest.length := ((leaves n).branch hbranch).length_le
    exact (ih.branches left stack before (done ++ [(cond, actions)])).mono (by omega)
  | otherwise rest =>
    obtain ⟨line, rest', rfl, hsuffix⟩ := joint_otherwise hjoint
    have hrest : rest.length ≤ rest'.length := hsuffix.length_le
    rw [List.length_cons]
    refine (ih.body rest .else_ (.otherwise before done) stack rfl).andThen (by omega) ?_
    rintro ⟨actions, left⟩ hread
    exact agrees_closeElse ((leaves n).body hread).2 stack before actions done

end AgreesFor

theorem agreesFor (n : Nat) : AgreesFor n := by
  induction n with
  | zero =>
    exact ⟨fun _ _ _ => .inl (Nat.zero_le _), fun _ _ _ _ _ => .inl (Nat.zero_le _),
      fun _ _ _ _ _ _ _ => .inl (Nat.zero_le _), fun _ _ _ _ => .inl (Nat.zero_le _)⟩
  | succ n ih => exact ⟨ih.block_succ, ih.body_succ, ih.branch_succ, ih.branches_succ⟩

theorem read_of_atEnd {lines : List Text} (actions : List Action) (h : atEnd lines = true) :
    (⟨[], actions, .within⟩ : Block).read lines = .ok (actions, lines) := by
  cases lines with
  | nil => rfl
  | cons line rest =>
    have hstep : (⟨[], actions, .within⟩ : Block).step line = .ok (.stopped actions) := by
      show Block.stepWithin _ line = _
      unfold Block.stepWithin
      cases hkind : LineKind.of line <;> rw [atEnd, hkind] at h <;>
        first | rfl | exact Bool.noConfusion h
    rw [Block.read, hstep]
    rfl

/-- The body of a state agrees with the stack that begins without open blocks. -/
theorem agrees_block (n : Nat) (lines : List Text) :
    Agrees (n ≤ 4 * lines.length) (block n [] lines) (Block.read {} lines) .ok := by
  have hblock := (agreesFor n).block lines [] []
  match hr : block n [] lines, hblock with
  | none, hblock => exact hblock
  | some (.error f), hblock => exact hblock
  | some (.ok x), hblock =>
    exact Eq.trans hblock (read_of_atEnd x.1 ((leaves n).block hr).2)

end Descent
end Dialogue
