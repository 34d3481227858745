import Dialogue.Command.Basic
import Dialogue.Script.Paths
set_option autoImplicit false

/-!
# The program

Brings the files that a run can reach into memory, runs the command on them line by line, and writes
back what has changed.

Normative source: `cli`, `main`.
-/

namespace Dialogue.Program

/-- The code of the error for a directory where a file is needed. -/
def directoryCode : UInt32 := 21

/-- What stands at a path of the file system. -/
def nodeAt (p : Path) : IO (Option Node) := do
  try
    let bytes ← IO.FS.readBinFile (String.ofList p.text)
    return some (.file (Content.ofBytes bytes.toList))
  catch e =>
    match e with
    | .inappropriateType _ code _ => return if code = directoryCode then some .directory else none
    | _ => return none

/-- The paths on the way to a path, and itself. -/
def ancestors (p : Path) : List Path :=
  (List.range p.parts.length).map fun n => ⟨p.parts.take (n + 1)⟩

/-- Brings what stands at a path, and on the way to it, into memory. -/
def loadPath (d : Disk) (p : Path) : IO Disk :=
  (ancestors p).foldlM (fun d p => do
    match ← nodeAt p with
    | some node => return Assoc.put (Disk.key (Disk.placeOf p)) node d
    | none => return d) d

/-- The paths that arguments can name. -/
def pathsOf (args : List Text) : List Path :=
  args.flatMap fun arg =>
    match Text.cutAt? ['='] arg with
    | some (_, value) => [Path.ofText arg, Path.ofText value]
    | none => [Path.ofText arg]

/-- The paths that the scripts among files name. -/
def pathsOfScripts (d : Disk) : List Path :=
  d.flatMap fun (_, node) =>
    match node with
    | .file (.text t) =>
      match Script.parse t with
      | .ok script => script.paths.map Path.ofText
      | .error _ => []
    | _ => []

/-- Makes the directories that are new, and writes back the files that have changed. -/
def writeBack (before after : Disk) (paths : List Path) : IO Unit :=
  (paths.flatMap ancestors).forM fun p => do
    let key := Disk.key (Disk.placeOf p)
    unless Assoc.get? key before = Assoc.get? key after do
      match Assoc.get? key after with
      | some .directory => IO.FS.createDirAll (String.ofList p.text)
      | some (.file (.text t)) => IO.FS.writeFile (String.ofList p.text) (String.ofList t)
      | _ => return ()

/-- Runs the command with the lines that have been typed, shows what has not been shown, and goes on
with another line if the command waits for one. -/
partial def loop (world : World) (source : Classifier.Source) (args : List Text) (typed : Text)
    (shown : Nat) : IO Command.Outcome := do
  let o := Command.perform world source args typed
  let stdout ← IO.getStdout
  let ending := if o.isWaiting then "Aborted!\n".length else 0
  let ready := o.output.take (o.output.length - ending)
  stdout.putStr (String.ofList (ready.drop shown))
  stdout.flush
  if o.isWaiting then
    let line ← (← IO.getStdin).getLine
    if line.isEmpty then
      stdout.putStr "Aborted!\n"
      return o
    else loop world source args (typed ++ line.toList) (ready.length + line.length)
  else return o

/-- The configuration of the classifier. -/
def config : IO (Option Content) := do
  match ← nodeAt (Path.ofName "config.json") with
  | some (.file c) => return some c
  | _ => return none

/-- Runs the program. -/
def run (args : List Text) : IO Nat := do
  let named := pathsOf args
  let d ← named.foldlM loadPath []
  let paths := named ++ pathsOfScripts d
  let d ← paths.foldlM loadPath d
  let world : World := ⟨d, ⟨[], .failed "connection refused".toList⟩⟩
  let o ← loop world ⟨true, ← config⟩ args [] 0
  unless o.isWaiting do writeBack d o.world.disk paths
  match o.fault with
  | some f => IO.eprintln (String.ofList f.message)
  | none => return o.exitCode
  return o.exitCode

end Dialogue.Program

/-- The command line. -/
def main (args : List String) : IO UInt32 := do
  let code ← Dialogue.Program.run (args.map String.toList)
  return UInt32.ofNat code
