import Dialogue.Script.Basic
import Dialogue.Text.Blank
set_option autoImplicit false

/-!
# Statements

How a single line of a script is read, without regard to the lines around it.  Lines are given
without the blanks at their ends.

Normative source: `parser`, `_unquote`, `_IF_GOTO` and the statements of `parse_block_actions`.
-/

namespace Dialogue

/-- The three kinds of blocks. -/
inductive BlockKind where
  | if_
  | elif
  | else_
  deriving DecidableEq, Repr

/-- Why a text is no script. -/
inductive ScriptFault where
  /-- A block is not closed. -/
  | missingBrace (kind : BlockKind)
  | elifForm
  /-- A line `else` is not followed by a line with a brace. -/
  | elseBrace
  | elseForm
  | askForm
  | setForm
  | saveForm
  | loadForm
  | unknownStatement (line : Text)
  | stateOutsideFlow
  | noFlow
  /-- A heading or joint stands in a block that it cannot close; reading would never end. -/
  | endless
  deriving DecidableEq, Repr

namespace ScriptFault

/-- The message of a fault. -/
def message : ScriptFault → Text
  | missingBrace .if_ => "缺少 if 的右括号 '\x7d'".toList
  | missingBrace .elif => "缺少 elif 的右括号 '\x7d'".toList
  | missingBrace .else_ => "缺少 else 的右括号 '\x7d'".toList
  | elifForm => "elif 语法错误，应为 `\x7d elif <cond> \x7b`".toList
  | elseBrace => "else 后应为 '\x7b'".toList
  | elseForm => "else 用法：else \x7b ... \x7d".toList
  | askForm => "not enough values to unpack (expected 2, got 1)".toList
  | setForm => "set 语法: set <var> = <expr或\"字符串\">".toList
  | saveForm => "save 语法: save <var> to \"file.json\"".toList
  | loadForm => "load 语法: load <var> from \"file.json\"".toList
  | unknownStatement line => "无法识别的语句：".toList ++ line
  | stateOutsideFlow => "state 必须出现在 flow 内".toList
  | noFlow => "至少需要一个 flow".toList
  | endless => "unterminated block".toList

end ScriptFault

namespace Statement

/-- Both ends are quotes. -/
def isQuoted (t : Text) : Bool := t.head? = some '"' && t.getLast? = some '"'

/-- Without the blanks at its ends, and without the quotes if both ends are quotes. -/
def unquote (t : Text) : Text :=
  let s := Text.strip t
  if isQuoted s then (s.drop 1).dropLast else s

/-- What follows a word and a space at the beginning of a line, without blanks at its ends. -/
def after? (word : String) (line : Text) : Option Text :=
  (Text.after? (word.toList ++ [' ']) line).map Text.strip

/-- The condition of a line that opens a block: the word, a blank, the condition, a brace. -/
def head? (word : String) (line : Text) : Option Text :=
  match Text.after? word.toList line with
  | none => none
  | some rest =>
    let inner := rest.dropLast
    if rest.getLast? = some '\x7b' && (inner.head?.map Text.isBlank).getD false && 2 ≤ inner.length
    then some (Text.strip inner)
    else none

/-! ## The inline jump

`if left == right goto target`.  The left side ends at the first equals signs and the right side at
the first `goto` between blanks for which the rest of the line has the form.  A side may consist of
blanks, but it is not empty. -/

/-- The numbers from `n` down to `least`. -/
def downFrom (n least : Nat) : List Nat := ((List.range (n + 1)).drop least).reverse

/-- The number of blanks at the beginning. -/
def blanks (t : Text) : Nat := (t.takeWhile Text.isBlank).length

/-- The target after blanks, `goto` and blanks. -/
def gotoTail? (t : Text) : Option Text :=
  if blanks t = 0 then none
  else
    match Text.after? "goto".toList (Text.stripStart t) with
    | some r => if blanks r ≠ 0 ∧ 2 ≤ r.length then some (Text.strip r) else none
    | none => none

/-- The shortest right side that a target follows. -/
def rightSide? : Text → Option (Text × Text)
  | [] => none
  | c :: t =>
    match gotoTail? t with
    | some target => some ([c], target)
    | none => (rightSide? t).map fun (right, target) => (c :: right, target)

/-- The right side and the target, where blanks before the right side are left out if they can. -/
def afterEquals? (t : Text) : Option (Text × Text) :=
  (downFrom (blanks t) 0).findSome? fun j => rightSide? (t.drop j)

/-- The shortest left side before equals signs, the right side and the target. -/
def leftSide? : Text → Option (Text × Text × Text)
  | [] => none
  | c :: t =>
    match (Text.after? "==".toList t).bind afterEquals? with
    | some (right, target) => some ([c], right, target)
    | none => (leftSide? t).map fun (left, rest) => (c :: left, rest)

/-- The inline jump that a line writes. -/
def ifGoto? (line : Text) : Option Action :=
  match Text.after? "if".toList line with
  | none => none
  | some rest =>
    ((downFrom (blanks rest) 1).findSome? fun j => leftSide? (rest.drop j)).map
      fun (left, right, target) => .ifGoto (Text.strip left) (unquote right) target

/-! ## All statements -/

/-- `ask var "prompt"`. -/
def ask (rest : Text) : Except ScriptFault Action :=
  match Text.cutAt? [' '] rest with
  | some (var, prompt) => .ok (.ask var (unquote prompt))
  | none => .error .askForm

/-- `set var = "text"` or `set var = expression`. -/
def set (rest : Text) : Except ScriptFault Action :=
  match Text.cutAt? ['='] rest with
  | none => .error .setForm
  | some (var, right) =>
    let value := Text.strip right
    if isQuoted value then .ok (.set (Text.strip var) (unquote value))
    else .ok (.setExpr (Text.strip var) value)

/-- `save var to "path"`. -/
def save (rest : Text) : Except ScriptFault Action :=
  match Text.cutAt? " to ".toList rest with
  | some (var, path) => .ok (.save (Text.strip var) (unquote path))
  | none => .error .saveForm

/-- `load var from "path"`. -/
def load (rest : Text) : Except ScriptFault Action :=
  match Text.cutAt? " from ".toList rest with
  | some (var, path) => .ok (.load (Text.strip var) (unquote path))
  | none => .error .loadForm

/-- The action that a line writes. -/
def parse (line : Text) : Except ScriptFault Action :=
  match after? "reply" line with
  | some rest => .ok (.reply (unquote rest))
  | none =>
  match after? "goto" line with
  | some target => .ok (.goto target)
  | none =>
  match after? "ask" line with
  | some rest => ask rest
  | none =>
  match after? "set" line with
  | some rest => set rest
  | none =>
  match ifGoto? line with
  | some action => .ok action
  | none =>
  match after? "save" line with
  | some rest => save rest
  | none =>
  match after? "load" line with
  | some rest => load rest
  | none => .error (.unknownStatement line)

end Statement
end Dialogue
