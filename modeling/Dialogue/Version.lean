import Dialogue.Text.Basic
set_option autoImplicit false

/-!
# The program and its version

The names by which the program and its command are called, and the version of the program.

Normative source: `init`, `__version__`; `cli`, the name of the command.
-/

namespace Dialogue

/-- The name by which the program is called. -/
def programName : Text := "cli".toList

/-- The name of the command that runs a script. -/
def commandName : Text := "run".toList

/-- The version of the program. -/
def version : Text := "0.0.1".toList

end Dialogue
