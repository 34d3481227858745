import Dialogue.Assoc
import Dialogue.Disk.Path
import Dialogue.Disk.Utf8
import Dialogue.Text.Lines
set_option autoImplicit false

/-!
# Files

The files and directories that a conversation can reach, by their place below the working
directory.  A file holds a text, or bytes that are no text.

Normative source: the file operations of `runtime` (`Engine._exec_actions`, the actions `save` and
`load`), `cli` (`run_cmd`) and `webapp` (`api_start`).

Deviation, disclosed: there are no links, no permissions and no other processes, so reading and
writing fail only for what stands at the path and on the way to it.
-/

namespace Dialogue

/-- The content of a file. -/
inductive Content where
  | text (t : Text)
  /-- Bytes that are not UTF-8, with the reason. -/
  | broken (bytes : List UInt8) (fault : Utf8.Fault)
  deriving DecidableEq

/-- A text is the content of the file that holds it. -/
instance : Coe Text Content := ⟨.text⟩

/-- The content that bytes make. -/
def Content.ofBytes (bytes : List UInt8) : Content :=
  match Utf8.decode bytes with
  | .ok t => .text t
  | .error fault => .broken bytes fault

/-- What a place holds. -/
inductive Node where
  | directory
  | file (c : Content)
  deriving DecidableEq

/-- Files and directories by the text of their place, in the order of their creation. -/
abbrev Disk : Type := Assoc Node

/-- Why a file operation fails. -/
inductive DiskFault where
  | missing (path : Text)
  | fileExists (path : Text)
  | notDirectory (path : Text)
  | isDirectory (path : Text)
  /-- What is read or written has no UTF-8 form. -/
  | undecodable (fault : Utf8.Fault)
  /-- A file name holds a null character. -/
  | nullInFile
  /-- A directory name holds a null character. -/
  | nullInDirectory
  deriving DecidableEq, Repr

/-- The message of a fault. -/
def DiskFault.message : DiskFault → Text
  | missing path => "[Errno 2] No such file or directory: ".toList ++ Text.quoted path
  | fileExists path => "[Errno 17] File exists: ".toList ++ Text.quoted path
  | notDirectory path => "[Errno 20] Not a directory: ".toList ++ Text.quoted path
  | isDirectory path => "[Errno 21] Is a directory: ".toList ++ Text.quoted path
  | undecodable fault => fault.message
  | nullInFile => "embedded null byte".toList
  | nullInDirectory => "mkdir: embedded null character in path".toList

namespace Disk

/-- A place: the names from the working directory on. -/
abbrev Place : Type := List Text

/-- The text of a place. -/
def key (place : Place) : Text := Text.joinWith ['/'] place

/-- The name that leads to the directory above. -/
def above : Text := ['.', '.']

/-- The place above a place. -/
def up (place : Place) : Place :=
  match place.getLast? with
  | none => [above]
  | some name =>
    if name = above then place ++ [above]
    else if Path.isRoot name then place
    else place.dropLast

/-- The place that a path leads to if every directory on the way exists. -/
def placeOf (p : Path) : Place :=
  p.parts.foldl (fun place name => if name = above then up place else place ++ [name]) []

/-- The working directory, those above it and the roots are always there. -/
def isGiven (place : Place) : Bool :=
  place.all (· = above) ||
    match place with
    | [name] => Path.isRoot name
    | _ => false

/-- What stands at a place. -/
def node? (d : Disk) (place : Place) : Option Node :=
  if isGiven place then some .directory else Assoc.get? (key place) d

/-- There is a directory at the place. -/
def isDirectory (d : Disk) (place : Place) : Bool := d.node? place = some .directory

/-- Why a path leads nowhere. -/
inductive Absence where
  | missing
  | notDirectory
  deriving DecidableEq, Repr

/-- The place that names lead to from a place. -/
def walk (d : Disk) (place : Place) : List Text → Except Absence Place
  | [] => .ok place
  | name :: names =>
    if !d.isDirectory place then .error .notDirectory
    else if name = above then walk d (up place) names
    else if (d.node? (place ++ [name])).isSome then walk d (place ++ [name]) names
    else .error .missing

/-- What stands at a path. -/
def find (d : Disk) (p : Path) : Except Absence Node := do
  let place ← d.walk [] p.parts
  match d.node? place with
  | some node => return node
  | none => .error .missing

/-- Something stands at the path. -/
def has (d : Disk) (p : Path) : Bool := !p.hasNull && (d.find p).isOk

/-- The fault of a path that leads nowhere. -/
def Absence.fault (p : Path) : Absence → DiskFault
  | missing => .missing p.text
  | notDirectory => .notDirectory p.text

/-- The text of a file, with its line ends unified. -/
def read (d : Disk) (p : Path) : Except DiskFault Text :=
  if p.hasNull then .error .nullInFile
  else
    match d.find p with
    | .error a => .error (a.fault p)
    | .ok .directory => .error (.isDirectory p.text)
    | .ok (.file (.text t)) => .ok (Text.unifyNewlines t)
    | .ok (.file (.broken _ fault)) => .error (.undecodable fault)

/-- The place of the last name of a path, whose directory must exist; none if there is no name. -/
def target (d : Disk) (p : Path) : Except DiskFault (Option Place) :=
  match p.parts.getLast? with
  | none => .ok none
  | some name =>
    match d.walk [] p.parts.dropLast with
    | .error a => .error (a.fault p)
    | .ok place =>
      if !d.isDirectory place then .error (.notDirectory p.text)
      else if name = above || Path.isRoot name then .ok none
      else .ok (some (place ++ [name]))

/-- Writes a text into a file. -/
def write (d : Disk) (p : Path) (t : Text) : Except DiskFault Disk :=
  if p.hasNull then .error .nullInFile
  else
    match d.target p with
    | .error f => .error f
    | .ok none => .error (.isDirectory p.text)
    | .ok (some place) =>
      if d.isDirectory place then .error (.isDirectory p.text)
      else .ok (Assoc.put (key place) (.file (.text t)) d)

/-- Makes one directory in a directory that exists; one that exists already is let be. -/
def makeOne (d : Disk) (p : Path) : Except DiskFault Disk :=
  match d.target p with
  | .error f => .error f
  | .ok none => .ok d
  | .ok (some place) =>
    match d.node? place with
    | none => .ok (Assoc.put (key place) .directory d)
    | some .directory => .ok d
    | some (.file _) => .error (.fileExists p.text)

/-- Makes a directory and those that hold it; the number bounds how many. -/
def makeUpTo : Nat → Disk → Path → Except DiskFault Disk
  | 0, d, p => d.makeOne p
  | n + 1, d, p =>
    match d.makeOne p with
    | .error (.missing _) => do
      let d ← makeUpTo n d p.parent
      d.makeOne p
    | result => result

/-- Makes a directory and those that hold it. -/
def makeDirectory (d : Disk) (p : Path) : Except DiskFault Disk :=
  if p.hasNull then .error .nullInDirectory else makeUpTo p.parts.length d p

end Disk
end Dialogue
