import Dialogue.Disk.Basic
import Dialogue.Json.Reader
import Dialogue.Json.Writer
set_option autoImplicit false

/-!
# Stores

A file can keep variables between conversations: it holds a JSON object with one member a variable.
A file that cannot be read counts as an empty object.  What the file holds besides is written back;
if half of a surrogate pair is in it, that fails when the file is already empty.

Normative source: `runtime`, the actions `save` and `load` of `Engine._exec_actions`.

Deviation, disclosed: a text with half of a surrogate pair is loaded with U+FFFD in the place of the
half.
-/

namespace Dialogue.Store

/-- Why a variable cannot be stored. -/
inductive Fault where
  | disk (fault : DiskFault)
  /-- The file holds JSON of another kind than an object. -/
  | notObject (value : Json)

/-- The message of a fault. -/
def Fault.message : Fault → Text
  | disk fault => fault.message
  | notObject (.array _) => "list indices must be integers or slices, not str".toList
  | notObject v => '\x27' :: v.kind ++ "' object does not support item assignment".toList

/-- The JSON value that a file holds, if it holds one; an empty file holds an empty object. -/
def value? (d : Disk) (p : Path) : Option Json :=
  match d.read p with
  | .error _ => none
  | .ok [] => some (.object [])
  | .ok t => (Json.read t).toOption

/-- The value into which a variable is stored. -/
def base (d : Disk) (p : Path) : Json :=
  if d.has p then (value? d p).getD (.object []) else .object []

/-- Writes a value into a file; also returns the files as they are after a fault.  The file is
emptied before it turns out that the value cannot be encoded. -/
def write (d : Disk) (p : Path) (v : Json) : Disk × Option DiskFault :=
  match d.write p (if v.isEncodable then v.indented else []) with
  | .error f => (d, some f)
  | .ok d => (d, if v.isEncodable then none else some (.undecodable v.encodingFault))

/-- Stores a text under the name of a variable; also returns the files as they are after a fault. -/
def save (d : Disk) (p : Path) (var t : Text) : Disk × Option Fault :=
  match (base d p).put? var (.text t) with
  | some v => (write d p v).map id (Option.map .disk)
  | none => (d, some (.notObject (base d p)))

/-- The text stored under the name of a variable. -/
def load? (d : Disk) (p : Path) (var : Text) : Option Text :=
  if d.has p then do
    let t ← (d.read p).toOption
    (← (← (Json.read t).toOption).member? var).text?
  else none

end Dialogue.Store
