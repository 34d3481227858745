import Dialogue.Text.CodePoints
import Dialogue.Value
set_option autoImplicit false

/-!
# JSON values

The values of the JSON format with integers apart from other numbers and the members of an object in
the order of their first appearance; `text?` is the text of such a value in a conversation.  An
escape can write half of a surrogate pair alone, so texts and names with such a half have forms of
their own.

Normative source: the JSON of `runtime` (`Engine._exec_actions`), `cli` (`run_cmd`), `webapp`
(`api_start`, `api_send`) and `llm_agent` (`_load_api_key`, `classify_intent`).

Deviation, disclosed: where a text or a name with half of a surrogate pair enters a conversation
(`text?`, `members?`), U+FFFD takes the place of the half.
-/

namespace Dialogue

/-- A JSON value. -/
inductive Json where
  | null
  | bool (b : Bool)
  | int (n : Int)
  | float (x : Float)
  | text (t : Text)
  /-- A text with half of a surrogate pair in it, by its code points. -/
  | unpaired (codes : List Nat)
  | array (items : List Json)
  | object (members : List (Text × Json))
  /-- An object with such a text among the names of its members. -/
  | unpairedObject (members : List (List Nat × Json))
  deriving Inhabited

namespace Json

/-- The text with the given code points. -/
def ofCodes (codes : List Nat) : Json :=
  match CodePoints.text? codes with
  | some t => text t
  | none => unpaired codes

@[simp] theorem ofCodes_ofText (t : Text) : ofCodes (CodePoints.ofText t) = text t := by
  rw [ofCodes, CodePoints.text?_ofText]

/-- The members by texts as names, unless a name has half of a surrogate pair in it. -/
def named? : Assoc Json (List Nat) → Option (Assoc Json)
  | [] => some []
  | (codes, v) :: rest => do
    let name ← CodePoints.text? codes
    let members ← named? rest
    return (name, v) :: members

/-- The object with the given members. -/
def ofMembers (members : Assoc Json (List Nat)) : Json :=
  match named? members with
  | some members => object members
  | none => unpairedObject members

/-- The value as it is held by a variable; what is no plain value is held as its text. -/
def plain? : Json → Option Value
  | null => some .none
  | bool b => some (.bool b)
  | int n => some (.int n)
  | float x => some (.float x)
  | text t => some (.text t)
  | _ => none

/-- The name of the kind of a value. -/
def kind : Json → Text
  | null => "NoneType".toList
  | bool _ => "bool".toList
  | int _ => "int".toList
  | float _ => "float".toList
  | text _ | unpaired _ => "str".toList
  | array _ => "list".toList
  | object _ | unpairedObject _ => "dict".toList

/-- Whether the value counts as true: not null, false, zero or empty. -/
def truth : Json → Bool
  | null => false
  | bool b => b
  | int n => n != 0
  | float x => !(x == 0.0)
  | text t => !t.isEmpty
  | unpaired codes => !codes.isEmpty
  | array items => !items.isEmpty
  | object members => !members.isEmpty
  | unpairedObject members => !members.isEmpty

mutual

/-- The text of a value inside another, where texts are quoted. -/
def literal? : Json → Option Text
  | null => some "None".toList
  | bool true => some "True".toList
  | bool false => some "False".toList
  | int n => Value.intText? n
  | float x => some (Number.write x)
  | text t => some (Text.quoted t)
  | unpaired codes => some (CodePoints.quoted codes)
  | array items => do
    let ts ← literals? items
    return '[' :: Text.joinWith ", ".toList ts ++ [']']
  | object members => do
    let ts ← memberLiterals? members
    return '\x7b' :: Text.joinWith ", ".toList ts ++ ['\x7d']
  | unpairedObject members => do
    let ts ← unpairedLiterals? members
    return '\x7b' :: Text.joinWith ", ".toList ts ++ ['\x7d']

/-- The texts of the items of an array. -/
def literals? : List Json → Option (List Text)
  | [] => some []
  | v :: vs => do
    let t ← literal? v
    let ts ← literals? vs
    return t :: ts

/-- The texts of the members of an object. -/
def memberLiterals? : List (Text × Json) → Option (List Text)
  | [] => some []
  | (k, v) :: rest => do
    let t ← literal? v
    let ts ← memberLiterals? rest
    return (Text.quoted k ++ ": ".toList ++ t) :: ts

/-- The texts of the members of an object whose names are code points. -/
def unpairedLiterals? : List (List Nat × Json) → Option (List Text)
  | [] => some []
  | (k, v) :: rest => do
    let t ← literal? v
    let ts ← unpairedLiterals? rest
    return (CodePoints.quoted k ++ ": ".toList ++ t) :: ts

end

/-- The text of a value; a text is its own, with the replacement character in the place of half of a
surrogate pair. -/
def text? : Json → Option Text
  | text t => some t
  | unpaired codes => some (CodePoints.replaced codes)
  | v => literal? v

@[simp] theorem text?_text (t : Text) : (text t).text? = some t := rfl

/-- The members of an object by their names, with the replacement character in the place of half of
a surrogate pair. -/
def members? : Json → Option (Assoc Json)
  | object members => some members
  | unpairedObject members => some (members.map fun (k, v) => (CodePoints.replaced k, v))
  | _ => none

/-- The member of an object with a given name. -/
def member? (name : Text) : Json → Option Json
  | object members => Assoc.get? name members
  | unpairedObject members => Assoc.get? (CodePoints.ofText name) members
  | _ => none

/-- The object with a value stored under a name. -/
def put? (v : Json) (name : Text) (value : Json) : Option Json :=
  match v with
  | object members => some (object (Assoc.put name value members))
  | unpairedObject members =>
    some (unpairedObject (Assoc.put (CodePoints.ofText name) value members))
  | _ => none

end Json
end Dialogue
