import Dialogue.Disk.Utf8
import Dialogue.Json.Reader
set_option autoImplicit false

/-!
# Writing JSON

`compact` writes a value on one line, `indented` one item or member a line with two blanks for each
level.  Only quoting marks, backslashes and control characters are escaped, and half of a surrogate
pair.  Such a half cannot be encoded, so a value that holds one can be written but not stored;
`encodingFault` locates the failure in its written form.

Normative source: the JSON that `runtime` (`Engine._exec_actions`) and `cli` (`run_cmd`) write.
-/

namespace Dialogue.Json

/-- How one character of a text is written. -/
def escaped (c : Char) : Text :=
  if c = '"' then ['\\', '"']
  else if c = '\\' then ['\\', '\\']
  else if c = '\n' then ['\\', 'n']
  else if c = '\r' then ['\\', 'r']
  else if c = '\t' then ['\\', 't']
  else if c = '\x0c' then ['\\', 'f']
  else if c = '\x08' then ['\\', 'b']
  else if c.toNat < 0x20 then '\\' :: 'u' :: Text.hex 4 c.toNat
  else [c]

/-- A text between quoting marks. -/
def quote (t : Text) : Text := '"' :: t.flatMap escaped ++ ['"']

/-- How one code point of a text is written. -/
def escapedPoint (n : Nat) : Text :=
  match CodePoints.char? n with
  | some c => escaped c
  | none => '\\' :: 'u' :: Text.hex 4 n

/-- Code points between quoting marks. -/
def quotePoints (codes : List Nat) : Text := '"' :: codes.flatMap escapedPoint ++ ['"']

/-- A number that is no integer. -/
def floatText (x : Float) : Text :=
  if x.isNaN then "NaN".toList
  else if x.isInf then if x < 0.0 then "-Infinity".toList else "Infinity".toList
  else Number.write x

/-- A line end and the indentation of a level. -/
def newline (level : Nat) : Text := '\n' :: List.replicate (2 * level) ' '

mutual

/-- A value with its items and members indented below a level. -/
def indentedAt (level : Nat) : Json → Text
  | null => "null".toList
  | bool true => "true".toList
  | bool false => "false".toList
  | int n => Text.ofInt n
  | float x => floatText x
  | text t => quote t
  | unpaired codes => quotePoints codes
  | array [] => ['[', ']']
  | array items =>
    '[' :: newline (level + 1)
      ++ Text.joinWith (',' :: newline (level + 1)) (itemsAt (level + 1) items)
      ++ newline level ++ [']']
  | object [] => ['\x7b', '\x7d']
  | object members =>
    '\x7b' :: newline (level + 1)
      ++ Text.joinWith (',' :: newline (level + 1)) (membersAt (level + 1) members)
      ++ newline level ++ ['\x7d']
  | unpairedObject [] => ['\x7b', '\x7d']
  | unpairedObject members =>
    '\x7b' :: newline (level + 1)
      ++ Text.joinWith (',' :: newline (level + 1)) (unpairedMembersAt (level + 1) members)
      ++ newline level ++ ['\x7d']

/-- The items of an array. -/
def itemsAt (level : Nat) : List Json → List Text
  | [] => []
  | v :: vs => indentedAt level v :: itemsAt level vs

/-- The members of an object. -/
def membersAt (level : Nat) : List (Text × Json) → List Text
  | [] => []
  | (k, v) :: rest => (quote k ++ ": ".toList ++ indentedAt level v) :: membersAt level rest

/-- The members of an object whose names are code points. -/
def unpairedMembersAt (level : Nat) : List (List Nat × Json) → List Text
  | [] => []
  | (k, v) :: rest =>
    (quotePoints k ++ ": ".toList ++ indentedAt level v) :: unpairedMembersAt level rest

end

/-- A value with one item or member a line. -/
def indented (v : Json) : Text := indentedAt 0 v

mutual

/-- A value on one line. -/
def compact : Json → Text
  | null => "null".toList
  | bool true => "true".toList
  | bool false => "false".toList
  | int n => Text.ofInt n
  | float x => floatText x
  | text t => quote t
  | unpaired codes => quotePoints codes
  | array items => '[' :: Text.joinWith ", ".toList (compactItems items) ++ [']']
  | object members => '\x7b' :: Text.joinWith ", ".toList (compactMembers members) ++ ['\x7d']
  | unpairedObject members =>
    '\x7b' :: Text.joinWith ", ".toList (compactUnpaired members) ++ ['\x7d']

/-- The items of an array on one line. -/
def compactItems : List Json → List Text
  | [] => []
  | v :: vs => compact v :: compactItems vs

/-- The members of an object on one line. -/
def compactMembers : List (Text × Json) → List Text
  | [] => []
  | (k, v) :: rest => (quote k ++ ": ".toList ++ compact v) :: compactMembers rest

/-- The members of an object whose names are code points on one line. -/
def compactUnpaired : List (List Nat × Json) → List Text
  | [] => []
  | (k, v) :: rest => (quotePoints k ++ ": ".toList ++ compact v) :: compactUnpaired rest

end

/-! ## Values that cannot be stored -/

mutual

/-- No half of a surrogate pair stands in the value. -/
def isEncodable : Json → Bool
  | unpaired codes => (CodePoints.text? codes).isSome
  | array items => areEncodable items
  | object members => membersEncodable members
  | unpairedObject members => unpairedEncodable members
  | _ => true

/-- No half of a surrogate pair stands in the items. -/
def areEncodable : List Json → Bool
  | [] => true
  | v :: vs => isEncodable v && areEncodable vs

/-- No half of a surrogate pair stands in the members. -/
def membersEncodable : List (Text × Json) → Bool
  | [] => true
  | (_, v) :: rest => isEncodable v && membersEncodable rest

/-- No half of a surrogate pair stands in the members or their names. -/
def unpairedEncodable : List (List Nat × Json) → Bool
  | [] => true
  | (k, v) :: rest => (CodePoints.text? k).isSome && isEncodable v && unpairedEncodable rest

end

theorem isEncodable_array {items : List Json} :
    (array items).isEncodable = true ↔ ∀ v ∈ items, v.isEncodable = true := by
  rw [isEncodable]
  induction items with
  | nil => simp [areEncodable]
  | cons v vs ih => simp [areEncodable, ih]

theorem isEncodable_object {members : List (Text × Json)} :
    (object members).isEncodable = true ↔ ∀ member ∈ members, member.2.isEncodable = true := by
  rw [isEncodable]
  induction members with
  | nil => simp [membersEncodable]
  | cons member rest ih => simp [membersEncodable, ih]

theorem isEncodable_unpairedObject {members : List (List Nat × Json)} :
    (unpairedObject members).isEncodable = true ↔
      ∀ member ∈ members,
        (CodePoints.text? member.1).isSome = true ∧ member.2.isEncodable = true := by
  rw [isEncodable]
  induction members with
  | nil => simp [unpairedEncodable]
  | cons member rest ih => simp [unpairedEncodable, ih]

/-- The halves of surrogate pairs at the beginning of a written value. -/
def leadingHalves : Text → List Nat
  | '\\' :: 'u' :: 'd' :: a :: b :: c :: t =>
    match code? ['d', a, b, c] with
    | some n => n :: leadingHalves t
    | none => []
  | _ => []

/-- Where a written value has its first halves of surrogate pairs, from an offset on.  Of all
escapes only theirs begin with the digit `d`. -/
def halvesFrom (offset : Nat) : Text → Utf8.Fault
  | '\\' :: 'u' :: 'd' :: t => .surrogates offset (leadingHalves ('\\' :: 'u' :: 'd' :: t))
  | '\\' :: _ :: t => halvesFrom (offset + 2) t
  | _ :: t => halvesFrom (offset + 1) t
  | [] => .surrogates offset []

/-- Why a value cannot be stored. -/
def encodingFault (v : Json) : Utf8.Fault := halvesFrom 0 v.indented

example :
    encodingFault (object [("a".toList, text "\\ud800".toList),
      ("b".toList, unpaired [0xDFFF, 0xD800])]) = .surrogates 28 [0xDFFF, 0xD800] := by
  decide +kernel

end Dialogue.Json
