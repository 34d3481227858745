import Dialogue.Run.Engine
set_option autoImplicit false

/-!
# Conversations at a console

The user types one line an answer, and all that is emitted appears as text.

Normative source: `runtime`, an `Engine` with the default `ask_fn` and `printer`.
-/

namespace Dialogue.Console

/-- The lines of a typed text; a last line need not be ended. -/
def typedLines : Text → List Text
  | [] => []
  | c :: t =>
    if c = '\n' then [] :: typedLines t
    else
      match typedLines t with
      | [] => [[c]]
      | line :: lines => (c :: line) :: lines

/-- The answers in a typed text. -/
def answers (t : Text) : List Value := (typedLines t).map Value.text

/-- What an event writes; lines at the end of a state are left to the caller. -/
def written : Event → Text
  | .flushed line => line ++ ['\n']
  | .asked _ prompt _ => prompt
  | .notice line => line ++ ['\n']
  | .shown _ | .requested _ => []

/-- What a run writes. -/
def output (r : Run) : Text := r.trace.flatMap fun x => written x.event

/-- The message for a question after the last typed line. -/
def exhausted : Text := "EOF when reading a line".toList

end Dialogue.Console
