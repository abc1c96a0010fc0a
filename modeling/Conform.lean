import Conform.Address
import Conform.Checker.Basic
import Conform.Checker.Children
import Conform.Checker.Dispatch
import Conform.Checker.Test
import Conform.Config.Basic
import Conform.Config.Check
import Conform.Config.Load
import Conform.Context
import Conform.Documents
import Conform.Fault
import Conform.Format.Basic
import Conform.Format.Moment
import Conform.Json.Reader
import Conform.Json.Writer
import Conform.Judge
import Conform.Keyword.Basic
import Conform.Keyword.Builders
import Conform.Keyword.Expect
import Conform.Log.Clock
import Conform.Log.Correlation
import Conform.Log.Level
import Conform.Log.Loggable
import Conform.Log.Logger
import Conform.Log.Normal
import Conform.Log.Numeral
import Conform.Log.Queue
import Conform.Log.Record
import Conform.Log.Session
import Conform.Log.Setup
import Conform.Log.Template
import Conform.Number.Binary64
import Conform.Number.Decimal
import Conform.Number.Real
import Conform.Options
import Conform.Path
import Conform.Pattern.Basic
import Conform.Pattern.Class
import Conform.Pattern.Folding
import Conform.Pattern.Matcher
import Conform.Pattern.Reader
import Conform.Pattern.Start
import Conform.Pattern.Tree
import Conform.Pointer.Basic
import Conform.Pointer.Resolve
import Conform.Proofs.Acceptance
import Conform.Proofs.Addressing
import Conform.Proofs.Agreement
import Conform.Proofs.Alternatives
import Conform.Proofs.Ancestors
import Conform.Proofs.Answer
import Conform.Proofs.Answered
import Conform.Proofs.Appending
import Conform.Proofs.Bases
import Conform.Proofs.Bound
import Conform.Proofs.Builders
import Conform.Proofs.Calls
import Conform.Proofs.Checking
import Conform.Proofs.Children
import Conform.Proofs.ClosedWorld
import Conform.Proofs.Collapse
import Conform.Proofs.Composition
import Conform.Proofs.Correspondence
import Conform.Proofs.Counterparts
import Conform.Proofs.Delivery
import Conform.Proofs.Derivations
import Conform.Proofs.Dispatch
import Conform.Proofs.Elsewhere
import Conform.Proofs.Entries
import Conform.Proofs.Equality
import Conform.Proofs.Escapes
import Conform.Proofs.Escaping
import Conform.Proofs.Exactness
import Conform.Proofs.Expectations
import Conform.Proofs.Failing
import Conform.Proofs.Faults
import Conform.Proofs.FirstUse
import Conform.Proofs.Fragments
import Conform.Proofs.Fuel
import Conform.Proofs.Grammars
import Conform.Proofs.Guard
import Conform.Proofs.Handles
import Conform.Proofs.Intended
import Conform.Proofs.JsonText
import Conform.Proofs.Judging
import Conform.Proofs.Keywords
import Conform.Proofs.Layers
import Conform.Proofs.Lines
import Conform.Proofs.Literals
import Conform.Proofs.Loading
import Conform.Proofs.LoggedValues
import Conform.Proofs.LowerCase
import Conform.Proofs.Meaning
import Conform.Proofs.MemberOrder
import Conform.Proofs.Members
import Conform.Proofs.Merging
import Conform.Proofs.Negation
import Conform.Proofs.NumberText
import Conform.Proofs.Outcome
import Conform.Proofs.Paired
import Conform.Proofs.Parallel
import Conform.Proofs.Paths
import Conform.Proofs.PlainValues
import Conform.Proofs.PointerText
import Conform.Proofs.Pool
import Conform.Proofs.Positions
import Conform.Proofs.Precedence
import Conform.Proofs.Provenance
import Conform.Proofs.Quiet
import Conform.Proofs.Quotation
import Conform.Proofs.Rationals
import Conform.Proofs.Rearranged
import Conform.Proofs.References
import Conform.Proofs.Registries
import Conform.Proofs.Related
import Conform.Proofs.Relocation
import Conform.Proofs.Reordered
import Conform.Proofs.Repetitions
import Conform.Proofs.Resolution
import Conform.Proofs.Rolls
import Conform.Proofs.Rounding
import Conform.Proofs.Scopes
import Conform.Proofs.Scoping
import Conform.Proofs.Sections
import Conform.Proofs.Sessions
import Conform.Proofs.Setups
import Conform.Proofs.Shortest
import Conform.Proofs.Sinks
import Conform.Proofs.Splitting
import Conform.Proofs.Steering
import Conform.Proofs.Tables
import Conform.Proofs.Termination
import Conform.Proofs.Tests
import Conform.Proofs.Threads
import Conform.Proofs.Thresholds
import Conform.Proofs.Trail
import Conform.Proofs.Undeclared
import Conform.Proofs.Unordered
import Conform.Proofs.Unpooled
import Conform.Proofs.Verdict
import Conform.Proofs.Whereabouts
import Conform.Proofs.Written
import Conform.Report.Basic
import Conform.Report.Desk
import Conform.Report.Diagnostic
import Conform.Site
import Conform.Text.Blank
import Conform.Text.Case
import Conform.Text.Digit
import Conform.Text.Identifier
import Conform.Text.Integer
import Conform.Text.Name
import Conform.Text.Name.Ancient
import Conform.Text.Name.Ideographs
import Conform.Text.Name.Others
import Conform.Text.Name.Pictures
import Conform.Text.Name.Scripts
import Conform.Text.Name.Syllables
import Conform.Text.Name.Symbols
import Conform.Text.Pieces
import Conform.Text.Printable
import Conform.Text.Quoted
import Conform.Text.Ranges
import Conform.Text.Utf8
import Conform.Text.Word
import Conform.Toml.Draft
import Conform.Toml.Reader
import Conform.Toml.Scan
import Conform.Uri.Basic
import Conform.Uri.Join
import Conform.Uri.Percent
import Conform.Validator
import Conform.Value.Basic
import Conform.Value.Classify
import Conform.Value.Equality
import Conform.Value.Kind
import Conform.Value.Text
import Conform.Value.Written
import Conform.Vocabulary.Basic
import Conform.Vocabulary.Registry
