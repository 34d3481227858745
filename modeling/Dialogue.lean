import Dialogue.Main
import Dialogue.Proofs.Script.Nesting
import Dialogue.Proofs.Session.Replay
import Dialogue.Script.Printer
import Dialogue.Server
import Dialogue.Template.Printer
import Dialogue.Version
import Dialogue.Proofs.Run.Bounds
import Dialogue.Proofs.Run.Immediate
import Dialogue.Proofs.Script.Descent
import Dialogue.Proofs.Script.Termination
import Dialogue.Proofs.Session.Repetition
import Dialogue.Proofs.Expr.Whitelist
import Dialogue.Proofs.Server.Isolation
import Dialogue.Proofs.Run.Storage
import Dialogue.Proofs.Command.Persistence
import Dialogue.Proofs.Script.Merge
import Dialogue.Proofs.Run.Routing
import Dialogue.Proofs.Session.History
import Dialogue.Proofs.Expr.Atom
import Dialogue.Proofs.Number.Written
import Dialogue.Proofs.Json.Rereading
import Dialogue.Proofs.Run.Overwriting
import Dialogue.Proofs.Run.Assignment
import Dialogue.Proofs.Number.Extended
import Dialogue.Proofs.Number.Numeral
import Dialogue.Proofs.Expr.Equality
import Dialogue.Proofs.Classifier.Naming
import Dialogue.Proofs.Server.Table
import Dialogue.Proofs.Run.Conditional
import Dialogue.Proofs.Classifier.Safety
import Dialogue.Proofs.Expr.Desugaring
import Dialogue.Proofs.Run.Inlining
import Dialogue.Proofs.Run.Framing
import Dialogue.Proofs.Script.Conservation
import Dialogue.Proofs.Template.RoundTrip
import Dialogue.Proofs.Template.Segments
import Dialogue.Proofs.Template.Quoting
import Dialogue.Proofs.Script.Layout
