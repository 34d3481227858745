import Dialogue.Assoc
import Dialogue.Number.Numeral
import Dialogue.Text.Quoted
set_option autoImplicit false

/-!
# Values

What a variable holds and an expression yields.  Most values are texts; a number is any value that
denotes one, so a text such as `12` takes part in arithmetic.

Normative source: `runtime`, the values in `Engine.ctx` and of `_eval_value_node`.

Deviation, disclosed: no value is an array or an object.  Only an input to the server can be one,
and its text takes its place (`Server.input`).
-/

namespace Dialogue

/-- A value of a variable or an expression. -/
inductive Value where
  | none
  | bool (b : Bool)
  | int (n : Int)
  | float (x : Float)
  | text (t : Text)
  | bytes (bs : List UInt8)
  /-- An imaginary number. -/
  | imaginary (x : Float)
  | ellipsis

/-- The variables of a conversation. -/
abbrev Context : Type := Assoc Value

namespace Value

/-- An integer of more digits has no text. -/
def digitLimit : Nat := 4300

/-- The text of an integer, if it has one. -/
def intText? (n : Int) : Option Text :=
  if n.natAbs < Number.tenTo digitLimit then some (Text.ofInt n) else Option.none

/-- Imaginary numbers are written like others, but without the `.0` of a whole number. -/
def imaginaryLayout : Number.Layout := { Number.plainLayout with keepPoint := false }

/-- The text of a value; a text is its own. -/
def text? : Value → Option Text
  | none => some "None".toList
  | bool true => some "True".toList
  | bool false => some "False".toList
  | int n => intText? n
  | float x => some (Number.write x)
  | text t => some t
  | bytes bs => some (Text.quotedBytes bs)
  | imaginary x => some (imaginaryLayout.write x ++ ['j'])
  | ellipsis => some "Ellipsis".toList

/-- The text of a value as it is written inside an expression, where texts are quoted. -/
def literal? : Value → Option Text
  | text t => some (Text.quoted t)
  | v => v.text?

/-- The name of the kind of a value. -/
def kind : Value → Text
  | none => "NoneType".toList
  | bool _ => "bool".toList
  | int _ => "int".toList
  | float _ => "float".toList
  | text _ => "str".toList
  | bytes _ => "bytes".toList
  | imaginary _ => "complex".toList
  | ellipsis => "ellipsis".toList

/-- Whether the value counts as true: not zero and not empty. -/
def truth : Value → Bool
  | none => false
  | bool b => b
  | int n => n != 0
  | float x => !(x == 0.0)
  | text t => !t.isEmpty
  | bytes bs => !bs.isEmpty
  | imaginary x => !(x == 0.0)
  | ellipsis => true

@[simp] theorem text?_text (t : Text) : (text t).text? = some t := rfl

end Value
end Dialogue
