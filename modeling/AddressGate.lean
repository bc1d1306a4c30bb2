import AddressGate.Address.Basic
import AddressGate.Address.Mask
import AddressGate.Address.Prefix
import AddressGate.Address.Spelling
import AddressGate.Console.Basic
import AddressGate.Console.Filter
import AddressGate.Console.Line
import AddressGate.Decimal.Layout
import AddressGate.Decimal.Shortest
import AddressGate.Document.Fault
import AddressGate.Document.Loading
import AddressGate.Document.Number
import AddressGate.Document.Numeral
import AddressGate.Document.Position
import AddressGate.Document.Quotation
import AddressGate.Document.Reader
import AddressGate.Document.Scalar
import AddressGate.Document.Skipped
import AddressGate.Document.Word
import AddressGate.Document.Writer
import AddressGate.Event
import AddressGate.Pattern
import AddressGate.Proofs.Audit
import AddressGate.Proofs.Bits
import AddressGate.Proofs.Canonical
import AddressGate.Proofs.Colour
import AddressGate.Proofs.Decision
import AddressGate.Proofs.Document.Acceptance
import AddressGate.Proofs.Document.Grammar
import AddressGate.Proofs.Document.Lists
import AddressGate.Proofs.Document.Members
import AddressGate.Proofs.Document.Number
import AddressGate.Proofs.Document.Path
import AddressGate.Proofs.Document.Quotation
import AddressGate.Proofs.Document.RoundTrip
import AddressGate.Proofs.Document.Skipped
import AddressGate.Proofs.Document.Writer
import AddressGate.Proofs.Edits
import AddressGate.Proofs.Effective
import AddressGate.Proofs.Entries
import AddressGate.Proofs.Environment
import AddressGate.Proofs.FailClosed
import AddressGate.Proofs.Filter
import AddressGate.Proofs.Form
import AddressGate.Proofs.Line
import AddressGate.Proofs.Mask
import AddressGate.Proofs.Nesting
import AddressGate.Proofs.Number
import AddressGate.Proofs.Pattern
import AddressGate.Proofs.Pieces
import AddressGate.Proofs.Prediction
import AddressGate.Proofs.Prefix
import AddressGate.Proofs.Quoted
import AddressGate.Proofs.Respelling
import AddressGate.Proofs.Session
import AddressGate.Proofs.Spelling
import AddressGate.Proofs.Subnet
import AddressGate.Proofs.Terse
import AddressGate.Proofs.Trim
import AddressGate.Proofs.WellFormed
import AddressGate.Reported
import AddressGate.Rules.Basic
import AddressGate.Rules.Environment
import AddressGate.Rules.Evaluation
import AddressGate.Rules.Loading
import AddressGate.Session
import AddressGate.Subnet
import AddressGate.Text.Alphanumeric
import AddressGate.Text.Blank
import AddressGate.Text.DecimalDigit
import AddressGate.Text.Invisible
import AddressGate.Text.Number
import AddressGate.Text.Quoted
import AddressGate.Text.Ranges
