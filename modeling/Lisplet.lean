import Lisplet.CommandLine
import Lisplet.CommandLine.Arguments
import Lisplet.Error
import Lisplet.Evaluation
import Lisplet.Event
import Lisplet.Interpreter
import Lisplet.Limit
import Lisplet.Main
import Lisplet.Mode
import Lisplet.Numeral
import Lisplet.Operator
import Lisplet.Proofs.Acceptance
import Lisplet.Proofs.Alternatives
import Lisplet.Proofs.Arithmetic
import Lisplet.Proofs.Branches
import Lisplet.Proofs.ClosedForms
import Lisplet.Proofs.Contexts
import Lisplet.Proofs.Continuations
import Lisplet.Proofs.DebugLog
import Lisplet.Proofs.Descriptions
import Lisplet.Proofs.Division
import Lisplet.Proofs.DivisionPairs
import Lisplet.Proofs.Expectations
import Lisplet.Proofs.Faults
import Lisplet.Proofs.FirstMismatch
import Lisplet.Proofs.Grammar
import Lisplet.Proofs.Image
import Lisplet.Proofs.IntegerTexts
import Lisplet.Proofs.Language
import Lisplet.Proofs.Levels
import Lisplet.Proofs.Literals
import Lisplet.Proofs.MaximalMunch
import Lisplet.Proofs.NumeralForms
import Lisplet.Proofs.Numerals
import Lisplet.Proofs.Offsets
import Lisplet.Proofs.Outcomes
import Lisplet.Proofs.Positions
import Lisplet.Proofs.Prefixes
import Lisplet.Proofs.Provenance
import Lisplet.Proofs.ReaderForms
import Lisplet.Proofs.Records
import Lisplet.Proofs.Reports
import Lisplet.Proofs.Results
import Lisplet.Proofs.Room
import Lisplet.Proofs.RoundTrip
import Lisplet.Proofs.StreamRuns
import Lisplet.Proofs.Streams
import Lisplet.Proofs.Strictness
import Lisplet.Proofs.Tokenization
import Lisplet.Proofs.Verdicts
import Lisplet.Reading
import Lisplet.Settings
import Lisplet.Source
import Lisplet.Text.Blank
import Lisplet.Text.DecimalDigit
import Lisplet.Text.Letter
import Lisplet.Text.Position
import Lisplet.Text.Printable
import Lisplet.Text.Quoted
import Lisplet.Text.Ranges
import Lisplet.Text.Upper
import Lisplet.Token
import Lisplet.TokenStream
import Lisplet.Trace
import Lisplet.Value
import Lisplet.Value.Comparison
import Lisplet.Value.Description
import Lisplet.Value.Foreign
import Lisplet.Value.Text
