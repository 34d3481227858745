import Dialogue.Text.Quoted
set_option autoImplicit false

/-!
# Paths

A path is kept as its parts; single points and repeated slashes are left out.  A path that begins at
the root has a first part of its own for it.

Normative source: the paths of `runtime` (`Engine._exec_actions`), `cli` (`run_cmd`) and `webapp`
(`api_start`).
-/

namespace Dialogue

/-- A path. -/
structure Path where
  parts : List Text
  deriving DecidableEq, Repr

namespace Path

/-- The parts of a text between slashes. -/
def cutAtSlashes : Text → List Text
  | [] => [[]]
  | c :: t =>
    if c = '/' then [] :: cutAtSlashes t
    else
      match cutAtSlashes t with
      | [] => [[c]]
      | part :: parts => (c :: part) :: parts

/-- The root that a text begins with; exactly two slashes are a root of their own. -/
def rootOf : Text → List Text
  | '/' :: '/' :: '/' :: _ => [['/']]
  | '/' :: '/' :: _ => [['/', '/']]
  | '/' :: _ => [['/']]
  | _ => []

/-- The path that a text writes. -/
def ofText (t : Text) : Path :=
  ⟨rootOf t ++ (cutAtSlashes t).filter fun part => !part.isEmpty && part != ['.']⟩

/-- The part is a root. -/
def isRoot (part : Text) : Bool := part.head? = some '/'

/-- The text of a path; the working directory is a point. -/
def text (p : Path) : Text :=
  match p.parts with
  | [] => ['.']
  | root :: rest =>
    if isRoot root then root ++ Text.joinWith ['/'] rest else Text.joinWith ['/'] p.parts

/-- The path of the directory that holds a path. -/
def parent (p : Path) : Path :=
  match p.parts with
  | [root] => if isRoot root then p else ⟨[]⟩
  | parts => ⟨parts.dropLast⟩

/-- A path below a path, unless it begins at the root itself. -/
def join (p q : Path) : Path :=
  match q.parts with
  | root :: _ => if isRoot root then q else ⟨p.parts ++ q.parts⟩
  | [] => p

/-- The name of a file in the working directory. -/
def ofName (name : String) : Path := ⟨[name.toList]⟩

/-- The path holds a null character, which no file name can. -/
def hasNull (p : Path) : Bool := p.parts.any fun part => part.contains '\x00'

end Path
end Dialogue
