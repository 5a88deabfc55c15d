import Lisplet.Command.Directory
import Lisplet.Log.Journal
import Lisplet.Main
import Lisplet.Value.Kind
import Lisplet.Workspace
import Lisplet.Proofs.Text.Decoding
import Lisplet.Proofs.Reader.Token
import Lisplet.Proofs.Decimal.Numeral
import Lisplet.Proofs.Decimal.Bits
import Lisplet.Proofs.Decimal.Rounding
import Lisplet.Proofs.Reader.Lexer
import Lisplet.Proofs.Reader.Nesting
import Lisplet.Proofs.Reader.Agreement
import Lisplet.Proofs.Reader.Grammar
import Lisplet.Proofs.Reader.Continuation
import Lisplet.Proofs.Decimal.RoundTrip
import Lisplet.Proofs.Reader.Printing
import Lisplet.Proofs.Printer
import Lisplet.Proofs.Printer.Pieces
import Lisplet.Proofs.Reader.Lines
import Lisplet.Proofs.Reader.Brackets
import Lisplet.Proofs.Reader.Progress
import Lisplet.Proofs.Reader.Place
import Lisplet.Proofs.Reader.Sugar
import Lisplet.Proofs.Reader.Translation
import Lisplet.Proofs.Repl
import Lisplet.Proofs.Environment
import Lisplet.Proofs.Store
import Lisplet.Proofs.Evaluator.Simulation
import Lisplet.Proofs.Evaluator.Dispatch
import Lisplet.Proofs.Evaluator.Invariant
import Lisplet.Proofs.Evaluator.Depth
import Lisplet.Proofs.Evaluator.Frame
import Lisplet.Proofs.Evaluator.Inert
import Lisplet.Proofs.Evaluator.Ending
import Lisplet.Proofs.Evaluator.Observation
import Lisplet.Proofs.Evaluator.Mirror
import Lisplet.Proofs.Evaluator.Delivery
import Lisplet.Proofs.Evaluator.Binding
import Lisplet.Proofs.Evaluator.Script
import Lisplet.Proofs.Equality
import Lisplet.Proofs.Evaluator.Height
import Lisplet.Proofs.Evaluator.Seed
import Lisplet.Proofs.Workspace
import Lisplet.Proofs.Reader.Layout
import Lisplet.Proofs.Decimal.Notation
import Lisplet.Proofs.Reader.Numbers
import Lisplet.Proofs.Reader.Culprit
import Lisplet.Proofs.Reader.Locality
import Lisplet.Proofs.Reader.Datum
import Lisplet.Proofs.Text.Composition
import Lisplet.Proofs.Evaluator.Tame
import Lisplet.Proofs.Repl.Chunks
import Lisplet.Proofs.Evaluator.Extension
import Lisplet.Proofs.Bindings
import Lisplet.Proofs.Settings
import Lisplet.Proofs.Command
import Lisplet.Proofs.Reader.Cursor
import Lisplet.Proofs.Reader.Backtracking
import Lisplet.Proofs.Printer.Lines
