import Dialogue.Text.Quoted
import Dialogue.Text.Similar
set_option autoImplicit false

/-!
# Arguments

The arguments of the program: options with or without values, and what remains.

Normative source: `cli`, the parameters of `cli` and `run_cmd`, read by the rules of `click`.
-/

namespace Dialogue.Command

/-- An option. -/
inductive Flag where
  | flow
  | var
  | data
  | noSave
  | llm
  | help
  deriving DecidableEq, Repr

namespace Flag

/-- The name of an option. -/
def name : Flag → Text
  | flow => "--flow".toList
  | var => "--var".toList
  | data => "--data".toList
  | noSave => "--no-save".toList
  | llm => "--llm".toList
  | help => "--help".toList

/-- The option is followed by a value. -/
def takesValue : Flag → Bool
  | noSave | help => false
  | _ => true

/-- The option with a name, out of those that are known. -/
def ofName? (known : List Flag) (t : Text) : Option Flag := known.find? fun f => f.name = t

end Flag

/-- Why the arguments are refused. -/
inductive UsageFault where
  /-- No such option; these are similar. -/
  | noSuchOption (name : Text) (similar : List Text)
  | valueMissing (f : Flag)
  | valueUnexpected (f : Flag)
  | noCommand
  | noSuchCommand (name : Text)
  | scriptMissing
  /-- A parameter names no file. -/
  | noSuchFile (parameter file : Text)
  /-- A parameter names a directory. -/
  | directory (parameter file : Text)
  | noSuchChoice (value : Text)
  /-- More arguments than the command takes. -/
  | extra (args : List Text)
  /-- A variable is given without a value. -/
  | variableWithoutValue (item : Text)
  deriving DecidableEq, Repr

namespace UsageFault

/-- The message of a fault. -/
def message : UsageFault → Text
  | noSuchOption name similar =>
    "No such option: ".toList ++ name ++
      match similar with
      | [] => []
      | [other] => " Did you mean ".toList ++ other ++ ['?']
      | others => " (Possible options: ".toList ++ Text.joinWith ", ".toList others ++ [')']
  | valueMissing f => "Option ".toList ++ Text.quoted f.name ++ " requires an argument.".toList
  | valueUnexpected f => "Option ".toList ++ Text.quoted f.name ++ " does not take a value.".toList
  | noCommand => "Missing command.".toList
  | noSuchCommand name => "No such command ".toList ++ Text.quoted name ++ ['.']
  | scriptMissing => "Missing argument 'SCRIPT'.".toList
  | noSuchFile parameter file =>
    "Invalid value for ".toList ++ Text.quoted parameter ++ ": File ".toList ++ Text.quoted file
      ++ " does not exist.".toList
  | directory parameter file =>
    "Invalid value for ".toList ++ Text.quoted parameter ++ ": File ".toList ++ Text.quoted file
      ++ " is a directory.".toList
  | noSuchChoice value =>
    "Invalid value for '--llm': ".toList ++ Text.quoted value
      ++ " is not one of 'none', 'deepseek'.".toList
  | extra args =>
    (if args.length = 1 then "Got unexpected extra argument (".toList
      else "Got unexpected extra arguments (".toList) ++ Text.joinWith [' '] args ++ [')']
  | variableWithoutValue item => "--var 需要 name=value 形式，收到：".toList ++ item

/-- The fault is reported without a reminder of the usage. -/
def isBare : UsageFault → Bool
  | valueMissing _ | valueUnexpected _ => true
  | _ => false

end UsageFault

/-- Arguments that have been read: the options in order with their values, and what remains. -/
structure Given where
  options : List (Flag × Text)
  operands : List Text

namespace Given

/-- With an option before. -/
def withOption (f : Flag) (value : Text) (g : Given) : Given :=
  { g with options := (f, value) :: g.options }

/-- With an operand before. -/
def withOperand (t : Text) (g : Given) : Given := { g with operands := t :: g.operands }

/-- The argument is an option and no operand. -/
def isOption (arg : Text) : Bool := arg.head? = some '-' && 1 < arg.length

/-- The option that an argument names, and the value that is written with it. -/
def option (known : List Flag) (arg : Text) : Except UsageFault (Flag × Option Text) :=
  let (name, value) := match Text.cutAt? ['='] arg with
    | some (name, value) => (name, some value)
    | none => (arg, none)
  match Flag.ofName? known name with
  | some f =>
    if value.isSome && !f.takesValue then .error (.valueUnexpected f) else .ok (f, value)
  | none =>
    if Text.startsWith ['-', '-'] arg then
      .error (.noSuchOption name (Text.mostLike name (known.map Flag.name)))
    else .error (.noSuchOption (arg.take 2) [])

/-- Reads arguments.  Options may stand between operands only if this is allowed; two dashes end the
options. -/
def read (known : List Flag) (mixed : Bool) : List Text → Except UsageFault Given
  | [] => .ok ⟨[], []⟩
  | arg :: rest =>
    if arg = ['-', '-'] then .ok ⟨[], rest⟩
    else if isOption arg then
      match option known arg with
      | .error f => .error f
      | .ok (f, some value) => (read known mixed rest).map (withOption f value)
      | .ok (f, none) =>
        if f.takesValue then
          match rest with
          | [] => .error (.valueMissing f)
          | value :: rest => (read known mixed rest).map (withOption f value)
        else (read known mixed rest).map (withOption f [])
    else if mixed then (read known mixed rest).map (withOperand arg)
    else .ok ⟨[], arg :: rest⟩

/-- The option is given. -/
def has (g : Given) (f : Flag) : Bool := g.options.any fun (x, _) => x = f

/-- All values of an option in order. -/
def values (g : Given) (f : Flag) : List Text :=
  g.options.filterMap fun (x, value) => if x = f then some value else none

/-- The value of an option that counts, which is the last. -/
def value? (g : Given) (f : Flag) : Option Text := (g.values f).getLast?

/-- The options in the order in which they were first given. -/
def order (g : Given) : List Flag := (g.options.map Prod.fst).eraseDups

end Given
end Dialogue.Command
