import Dialogue.Script.Statement
set_option autoImplicit false

/-!
# Blocks

The body of a state is read line by line.  Open blocks stand on a stack; a line either adds a
statement to the innermost block, opens a block, closes one, or continues a chain.  A chain whose
branch was closed by a brace on a line of its own is continued only by the very next line.

Normative source: `parser`, `parse_block_actions` within `parse`, which descends into a block where
a stack grows here (`Proofs.Script.Descent` proves that both read the same).  A loop that never ends
is the fault `ScriptFault.endless`.

Deviation, disclosed: the depth of nesting is not limited, while the source fails when its call
stack is exhausted.
-/

namespace Dialogue

/-- An open block, with the actions before its chain and the finished branches of the chain. -/
inductive Frame where
  | branch (kind : BlockKind) (before : List Action) (done : List Branch) (cond : Text)
  | otherwise (before : List Action) (done : List Branch)

/-- What the next line may be. -/
inductive Mode where
  /-- The first line of a block. -/
  | opening
  | within
  /-- A branch was closed by a brace; the branches of its chain may be continued. -/
  | joint (done : List Branch)
  /-- A line `else` waits for its brace. -/
  | elseAlone (done : List Branch)

/-- A body while it is being read: the open blocks, innermost first, and the actions of the
innermost block so far. -/
structure Block where
  stack : List Frame := []
  actions : List Action := []
  mode : Mode := .within

/-- What a line does to a body. -/
inductive Progress where
  | more (b : Block)
  /-- The line does not belong to the body, which is complete. -/
  | stopped (actions : List Action)

/-- The kinds of lines, as far as blocks are concerned. -/
inductive LineKind where
  | blank
  | close
  /-- A closing brace and `elif`, with what follows it. -/
  | closeElif (rest : Text)
  | closeElse
  /-- The heading of a state or a flow. -/
  | heading
  | ifHead (cond : Text)
  | plain
  deriving DecidableEq, Repr

/-- The closing brace. -/
def LineKind.brace : Text := ['\x7d']

/-- The kind of a line. -/
def LineKind.of (line : Text) : LineKind :=
  if line.isEmpty || line.head? = some '#' then .blank
  else if line = brace then .close
  else
    match Text.after? (brace ++ " elif".toList) line with
    | some rest => .closeElif rest
    | none =>
      if Text.startsWith (brace ++ " else".toList) line then .closeElse
      else if Text.startsWith "state ".toList line || Text.startsWith "flow ".toList line then
        .heading
      else
        match Statement.head? "if" line with
        | some cond => .ifHead cond
        | none => .plain

namespace Frame

/-- The kind of an open block. -/
def kind : Frame → BlockKind
  | branch kind _ _ _ => kind
  | otherwise _ _ => .else_

end Frame

namespace Block

/-- Opens a branch of a chain. -/
def openBranch (b : Block) (kind : BlockKind) (done : List Branch) (cond : Text) : Block :=
  ⟨.branch kind b.actions done cond :: b.stack, [], .opening⟩

/-- Opens the block after all branches of a chain. -/
def openElse (b : Block) (done : List Branch) : Block :=
  ⟨.otherwise b.actions done :: b.stack, [], .within⟩

/-- Adds an action to the innermost block. -/
def add (b : Block) (a : Action) : Block :=
  { b with actions := b.actions ++ [a], mode := .within }

/-- Closes the innermost block, if it is a branch: the chain may now be continued. -/
def closeBranch? (b : Block) : Option (Block × List Branch) :=
  match b.stack with
  | .branch _ before done cond :: rest =>
    some (⟨rest, before, .within⟩, done ++ [(cond, b.actions)])
  | _ => none

/-- A chain is continued by a line that closes a branch and begins with `elif`. -/
def continueElif (b : Block) (done : List Branch) (rest : Text) : Except ScriptFault Block :=
  let part := Text.strip rest
  if part.getLast? = some '\x7b' then .ok (b.openBranch .elif done (Text.strip part.dropLast))
  else .error .elifForm

/-- A line in the middle of a block. -/
def stepWithin (b : Block) (line : Text) : Except ScriptFault Progress :=
  match LineKind.of line with
  | .blank => .ok (.more { b with mode := .within })
  | .heading => if b.stack.isEmpty then .ok (.stopped b.actions) else .error .endless
  | .close =>
    match b.stack with
    | [] => .ok (.stopped b.actions)
    | .branch _ before done cond :: rest =>
      .ok (.more ⟨rest, before, .joint (done ++ [(cond, b.actions)])⟩)
    | .otherwise before done :: rest =>
      .ok (.more ⟨rest, before ++ [.chain done (some b.actions)], .within⟩)
  | .closeElif rest =>
    match b.closeBranch? with
    | some (outer, done) => (outer.continueElif done rest).map .more
    | none => if b.stack.isEmpty then .ok (.stopped b.actions) else .error .endless
  | .closeElse =>
    match b.closeBranch? with
    | some (outer, done) => .ok (.more (outer.openElse done))
    | none => if b.stack.isEmpty then .ok (.stopped b.actions) else .error .endless
  | .ifHead cond => .ok (.more (b.openBranch .if_ [] cond))
  | .plain => (Statement.parse line).map fun a => .more (b.add a)

/-- The chain is complete. -/
def settle (b : Block) (done : List Branch) : Block := b.add (.chain done none)

/-- The line after a branch that was closed by a brace. -/
def stepJoint (b : Block) (done : List Branch) (line : Text) : Except ScriptFault Progress :=
  match LineKind.of line with
  | .closeElif rest => (b.continueElif done rest).map .more
  | .closeElse => .ok (.more (b.openElse done))
  | _ =>
    match Statement.head? "elif" line with
    | some cond => .ok (.more (b.openBranch .elif done cond))
    | none =>
      if Text.startsWith "else".toList line then
        if line = "else \x7b".toList then .ok (.more (b.openElse done))
        else if line = "else".toList then .ok (.more { b with mode := .elseAlone done })
        else .error .elseForm
      else (b.settle done).stepWithin line

/-- The first line of a branch: a line that begins with a closing brace must close the branch. -/
def stepOpening (b : Block) (line : Text) : Except ScriptFault Progress :=
  match LineKind.of line, b.stack with
  | .plain, frame :: _ =>
    if line.head? = some '\x7d' then .error (.missingBrace frame.kind) else b.stepWithin line
  | _, _ => b.stepWithin line

/-- One line of a body. -/
def step (b : Block) (line : Text) : Except ScriptFault Progress :=
  match b.mode with
  | .opening => b.stepOpening line
  | .within => b.stepWithin line
  | .joint done => b.stepJoint done line
  | .elseAlone done =>
    if line = ['\x7b'] then .ok (.more (b.openElse done)) else .error .elseBrace

/-- The actions of a body at the end of the text. -/
def finish (b : Block) : Except ScriptFault (List Action) :=
  match b.mode with
  | .elseAlone _ => .error .elseBrace
  | .joint done =>
    match b.stack with
    | [] => .ok (b.settle done).actions
    | frame :: _ => .error (.missingBrace frame.kind)
  | _ =>
    match b.stack with
    | [] => .ok b.actions
    | frame :: _ => .error (.missingBrace frame.kind)

/-- Reads a body from its lines: its actions, and the lines from the one that ends it. -/
def read (b : Block) : List Text → Except ScriptFault (List Action × List Text)
  | [] => do
    let actions ← b.finish
    return (actions, [])
  | line :: rest => do
    match ← b.step line with
    | .more b => read b rest
    | .stopped actions => return (actions, line :: rest)

end Block
end Dialogue
