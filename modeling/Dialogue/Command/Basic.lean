import Dialogue.Command.Arguments
import Dialogue.Run.Console
import Dialogue.Script.Parser
import Dialogue.Text.Unstyled
import Dialogue.Text.Word
import Dialogue.Version
set_option autoImplicit false

/-!
# The command line

The program has one command, which runs a script at a console.  All of it is a function of the
arguments, the typed lines and the environment.

Normative source: `cli`, with `cli`, `run_cmd` and its `ask_fn`; prompts, usage faults and exit
codes by the rules of `click`.
-/

namespace Dialogue.Command

/-- Why a run of the program breaks off. -/
inductive Fault where
  | disk (fault : DiskFault)
  /-- A path with a null character. -/
  | nullInPath
  | script (fault : ScriptFault)
  | start (fault : StartFault)
  | run (fault : RunFault)

/-- The message of a fault. -/
def Fault.message : Fault → Text
  | disk fault => fault.message
  | nullInPath => "stat: embedded null character in path".toList
  | script fault => fault.message
  | start fault => fault.message
  | run fault => fault.message

/-- Why a command stops. -/
inductive Stop where
  | usage (fault : UsageFault)
  | fault (fault : Fault)
  /-- Help was asked for. -/
  | help

/-- The program or its command. -/
inductive Scope where
  | program
  | run

namespace Scope

/-- How the program or its command is called. -/
def path : Scope → Text
  | program => programName
  | run => programName ++ ' ' :: commandName

/-- What follows the call. -/
def parameters : Scope → Text
  | program => "[OPTIONS] COMMAND [ARGS]...".toList
  | run => "[OPTIONS] SCRIPT".toList

/-- The usage line. -/
def usage (s : Scope) : Text := "Usage: ".toList ++ s.path ++ ' ' :: s.parameters ++ ['\n']

/-- The reminder of the help option. -/
def hint (s : Scope) : Text := "Try '".toList ++ s.path ++ " --help' for help.\n".toList

/-- The explanations under the usage line. -/
def explanation : Scope → List String
  | program =>
    ["  Agent DSL command-line tool.",
      "",
      "Options:",
      "  --help  Show this message and exit.",
      "",
      "Commands:",
      "  run  Run a DSL file from its first state."]
  | run =>
    ["  Run a DSL file from its first state.",
      "",
      "Options:",
      "  --flow TEXT            Flow name to run  [default: main]",
      "  --var TEXT             预置变量，形如 name=Alice，可重复传入多次",
      "  --data FILE            上下文 JSON 文件；启动时加载，结束时保存",
      "  --no-save              与 --data 同用时，运行结束不回写上下文",
      "  --llm [none|deepseek]  是否启用LLM意图识别  [default: none]",
      "  --help                 Show this message and exit."]

/-- The help text. -/
def help (s : Scope) : Text :=
  s.usage ++ '\n' :: s.explanation.flatMap fun line => line.toList ++ ['\n']

/-- The report of a fault of usage. -/
def complaint (s : Scope) (f : UsageFault) : Text :=
  let reminder := if f.isBare then [] else s.usage ++ s.hint ++ ['\n']
  Text.unstyled (reminder ++ "Error: ".toList ++ f.message ++ ['\n'])

end Scope

/-! ## The parameters of a run -/

/-- The parameters of a run. -/
structure Parameters where
  script : Path
  flow : Text
  vars : List Text
  data : Option Path
  saves : Bool
  classifies : Bool

/-- The options of the command. -/
def flags : List Flag := [.flow, .var, .data, .noSave, .llm, .help]

/-- What stands at the path that a text writes; a slash at its end asks for a directory. -/
def stat (d : Disk) (t : Text) : Except Fault (Option Node) :=
  if t.contains '\x00' then .error .nullInPath
  else if t.isEmpty then .ok none
  else
    let node := (d.find (Path.ofText t)).toOption
    let asDirectory := match (Path.cutAtSlashes t).getLast? with
      | some last => last.isEmpty || last = ['.']
      | none => false
    .ok (node.filter fun n => !asDirectory || n = .directory)

/-- A parameter that names a file. -/
def checkFile (d : Disk) (parameter t : Text) (mustExist : Bool) : Except Stop Unit :=
  match stat d t with
  | .error f => .error (.fault f)
  | .ok none => if mustExist then .error (.usage (.noSuchFile parameter t)) else .ok ()
  | .ok (some .directory) => .error (.usage (.directory parameter t))
  | .ok (some (.file _)) => .ok ()

/-- Checks the value of an option. -/
def checkOption (d : Disk) (g : Given) (f : Flag) : Except Stop Unit :=
  match f, g.value? f with
  | .data, some t => checkFile d f.name t false
  | .llm, some t =>
    if t = "none".toList || t = "deepseek".toList then .ok () else .error (.usage (.noSuchChoice t))
  | _, _ => .ok ()

/-- Checks the values of options in order. -/
def checkOptions (d : Disk) (g : Given) : List Flag → Except Stop Unit
  | [] => .ok ()
  | f :: rest =>
    match checkOption d g f with
    | .error stop => .error stop
    | .ok () => checkOptions d g rest

/-- The parameters that the arguments of the command give. -/
def parameters (d : Disk) (args : List Text) : Except Stop Parameters := do
  let g ← (Given.read flags true args).mapError Stop.usage
  if g.has .help then .error .help
  checkOptions d g g.order
  match g.operands with
  | [] => .error (.usage .scriptMissing)
  | script :: more =>
    checkFile d "SCRIPT".toList script true
    if !more.isEmpty then .error (.usage (.extra more))
    return {
      script := Path.ofText script
      flow := (g.value? .flow).getD "main".toList
      vars := g.values .var
      data := (g.value? .data).map Path.ofText
      saves := !g.has .noSave
      classifies := g.value? .llm = some "deepseek".toList }

/-! ## Variables -/

/-- The variable that an item gives: its name, and the value after the first equals sign. -/
def variableOf (item : Text) : Except UsageFault (Text × Value) :=
  match Text.cutAt? ['='] item with
  | some (name, value) => .ok (name, .text value)
  | none => .error (.variableWithoutValue item)

/-- The variables that items give; a later item replaces an earlier one. -/
def assigned : Context → List Text → Except UsageFault Context
  | ctx, [] => .ok ctx
  | ctx, item :: rest =>
    match variableOf item with
    | .ok (name, value) => assigned (Assoc.put name value ctx) rest
    | .error f => .error f

/-- The variables that a file keeps, as texts; a file that keeps none adds nothing. -/
def keptIn (d : Disk) (p : Path) : Context :=
  match (if d.has p then Store.value? d p else none).bind Json.members? with
  | some members => members.map fun (k, v) => (k, .text (v.text?.getD []))
  | none => []

/-- A value as it is kept in a file. -/
def keptValue (v : Value) : Json := .text (v.text?.getD [])

/-- The text of a file that keeps variables. -/
def keptText (ctx : Context) : Text :=
  (Json.object (ctx.map fun (k, v) => (k, keptValue v))).indented

/-- Writes variables into a file, whose directory is made if need be; also returns the files as they
are after a fault. -/
def keep (d : Disk) (p : Path) (ctx : Context) : Disk × Option DiskFault :=
  match d.makeDirectory p.parent with
  | .error f => (d, some f)
  | .ok d =>
    match d.write p (keptText ctx) with
    | .error f => (d, some f)
    | .ok d => (d, none)

/-! ## Display -/

/-- A question as it appears. -/
def question (prompt : Text) : Text := Text.unstyled (prompt ++ [':']) ++ [' ']

/-- What appears of a list of events, where the user types the given lines.  A question is repeated
until the line is not empty. -/
def display : List Text → List Event → Text
  | _, [] => []
  | typed, .flushed line :: rest => line ++ '\n' :: display typed rest
  | typed, .shown line :: rest => Text.unstyled line ++ '\n' :: display typed rest
  | typed, .notice line :: rest => line ++ '\n' :: display typed rest
  | typed, .requested _ :: rest => display typed rest
  | typed, .asked _ prompt _ :: rest =>
    let empties := typed.takeWhile List.isEmpty
    (empties.flatMap fun _ => question prompt ++ ['\n']) ++ question prompt ++
      match typed.dropWhile List.isEmpty with
      | line :: typed => line ++ '\n' :: display typed rest
      | [] => display [] rest

/-- The lines that a user types. -/
def typedLines (typed : Text) : List Text := Console.typedLines (Text.unifyNewlines typed)

/-- The answers in typed lines: those that are not empty. -/
def answers (lines : List Text) : List Text := lines.filter fun line => !line.isEmpty

/-! ## The command -/

/-- How the program ends. -/
inductive Ending where
  | finished
  /-- The answers did not suffice. -/
  | aborted
  | stopped (stop : Stop)

namespace Ending

/-- The exit code. -/
def exitCode : Ending → Nat
  | finished => 0
  | aborted => 1
  | stopped (.usage _) => 2
  | stopped (.fault _) => 1
  | stopped .help => 0

/-- The fault with which the program breaks off. -/
def fault? : Ending → Option Fault
  | stopped (.fault f) => some f
  | _ => none

/-- What appears at the end. -/
def message (scope : Scope) : Ending → Text
  | finished => []
  | aborted => "Aborted!\n".toList
  | stopped (.usage f) => scope.complaint f
  | stopped (.fault _) => []
  | stopped .help => scope.help

end Ending

/-- What the command leaves behind: how it ended, what happened, and its environment. -/
structure Completion where
  ending : Ending
  events : List Event
  world : World

namespace Completion

/-- The exit code. -/
def exitCode (c : Completion) : Nat := c.ending.exitCode

/-- The fault with which the command breaks off. -/
def fault (c : Completion) : Option Fault := c.ending.fault?

/-- A question waits for an answer. -/
def isWaiting (c : Completion) : Bool := c.ending matches .aborted

/-- The requests that were made. -/
def requests (c : Completion) : List Request := c.events.filterMap Event.request?

end Completion

/-- The script at a path. -/
def scriptAt (d : Disk) (p : Path) : Except Fault Script := do
  let text ← (d.read p).mapError Fault.disk
  (Script.parse text).mapError Fault.script

/-- The variables at the beginning: those given, and then those kept in the file. -/
def beginning (d : Disk) (p : Parameters) : Except UsageFault Context := do
  let ctx ← assigned [] p.vars
  match p.data with
  | some file => return Assoc.putAll (keptIn d file) ctx
  | none => return ctx

/-- The conversation that the parameters ask for, at its beginning. -/
def opening (d : Disk) (source : Classifier.Source) (p : Parameters) : Except Stop Opening := do
  let script ← (scriptAt d p.script).mapError Stop.fault
  let ctx ← (beginning d p).mapError Stop.usage
  (Engine.start script p.flow ctx source p.classifies).mapError fun f => .fault (.start f)

/-- The run of a conversation with the answers that the user will give. -/
def runOf (world : World) (o : Opening) (answers : List Text) : Run :=
  o.engine.resume o.standing (answers.map Value.text) world

/-- How the command ends after a run, and its environment then.  The variables of a run that
finished are written into the data file, unless they are not to be kept. -/
def conclude (p : Parameters) (r : Run) : Ending × World :=
  match r.fault with
  | some (.unanswered _ _) => (.aborted, r.scene.world)
  | some f => (.stopped (.fault (.run f)), r.scene.world)
  | none =>
    match if p.saves then p.data else none with
    | none => (.finished, r.scene.world)
    | some file =>
      match keep r.scene.world.disk file r.scene.ctx with
      | (d, none) => (.finished, { r.scene.world with disk := d })
      | (d, some f) => (.stopped (.fault (.disk f)), { r.scene.world with disk := d })

/-- Executes the command with its parameters and the answers that the user will give. -/
def execute (world : World) (source : Classifier.Source) (p : Parameters) (answers : List Text) :
    Completion :=
  match opening world.disk source p with
  | .error stop => ⟨.stopped stop, [], world⟩
  | .ok o =>
    let r := runOf world o answers
    let (ending, world) := conclude p r
    ⟨ending, o.notices.map Event.notice ++ r.trace.map Entry.event, world⟩

/-! ## The program -/

/-- What a run of the program leaves behind, with all that appeared. -/
structure Outcome extends Completion where
  output : Text

/-- Nothing is run. -/
def Outcome.ofStop (world : World) (scope : Scope) (stop : Stop) : Outcome :=
  ⟨⟨.stopped stop, [], world⟩, (Ending.stopped stop).message scope⟩

/-- Executes the command with its arguments and the typed text. -/
def runScript (world : World) (source : Classifier.Source) (args : List Text) (typed : Text) :
    Outcome :=
  match parameters world.disk args with
  | .error stop => .ofStop world .run stop
  | .ok p =>
    let lines := typedLines typed
    let c := execute world source p (answers lines)
    ⟨c, display lines c.events ++ c.ending.message .run⟩

/-- The text can be the name of a command: it begins with a letter or a digit, or is empty. -/
def isName (t : Text) : Bool :=
  match t with
  | [] => true
  | c :: _ => Text.isWordChar c && c != '_'

/-- The arguments of the command; it must be named first. -/
def commandArguments (args : List Text) : Except Stop (List Text) := do
  if args.isEmpty then .error .help
  let g ← (Given.read [.help] false args).mapError Stop.usage
  if g.has .help then .error .help
  match g.operands with
  | [] => .error (.usage .noCommand)
  | name :: rest =>
    if name = commandName then return rest
    else if isName name then .error (.usage (.noSuchCommand name))
    else .error .help

/-- Runs the program.  Its output has plain line ends. -/
def perform (world : World) (source : Classifier.Source) (args : List Text) (typed : Text) :
    Outcome :=
  let o := match commandArguments args with
    | .error stop => Outcome.ofStop world .program stop
    | .ok args => runScript world source args typed
  { o with output := Text.replacePair '\r' '\n' '\n' o.output }

end Dialogue.Command
