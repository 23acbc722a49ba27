import RecordAudit.Assoc
import RecordAudit.Audit
import RecordAudit.Calendar.Day
import RecordAudit.Calendar.Spelling
import RecordAudit.Catalog
import RecordAudit.Check.Basic
import RecordAudit.Check.Finding
import RecordAudit.Check.Observed
import RecordAudit.Comparison
import RecordAudit.Constraint.Basic
import RecordAudit.Constraint.Builder
import RecordAudit.Constraint.FieldRule
import RecordAudit.Fault
import RecordAudit.Finding
import RecordAudit.Formula.Basic
import RecordAudit.Formula.Evaluation
import RecordAudit.Log
import RecordAudit.Number.Arithmetic
import RecordAudit.Number.Binary64
import RecordAudit.Number.Layout
import RecordAudit.Number.Numeral
import RecordAudit.Number.Precision
import RecordAudit.Number.Reading
import RecordAudit.Number.Shortest
import RecordAudit.Number.Significance
import RecordAudit.Pattern.Basic
import RecordAudit.Pattern.Escape
import RecordAudit.Pattern.Fault
import RecordAudit.Pattern.Inline
import RecordAudit.Pattern.Options
import RecordAudit.Pattern.Reader
import RecordAudit.Pattern.Reference
import RecordAudit.Pattern.Search
import RecordAudit.Pattern.Token
import RecordAudit.Proofs.Check.Conclusion
import RecordAudit.Proofs.Check.Isolation
import RecordAudit.Proofs.Session.Completion
import RecordAudit.Proofs.Session.Conduct
import RecordAudit.Proofs.Session.Consistency
import RecordAudit.Proofs.Session.ExclusiveScopes
import RecordAudit.Proofs.Session.Interleaving
import RecordAudit.Proofs.Session.Occupancy
import RecordAudit.Proofs.Session.Operations
import RecordAudit.Proofs.Session.Progress
import RecordAudit.Proofs.Session.Queue
import RecordAudit.Proofs.Session.Requests
import RecordAudit.Proofs.Session.Results
import RecordAudit.Proofs.Session.ScopeTask
import RecordAudit.Proofs.Session.Settling
import RecordAudit.Proofs.Session.Trace
import RecordAudit.Proofs.Session.Views
import RecordAudit.Proofs.Session.Waits
import RecordAudit.Proofs.Solver.Stack
import RecordAudit.Reading.Amount
import RecordAudit.Reading.Count
import RecordAudit.Reading.Flag
import RecordAudit.Reading.Kind
import RecordAudit.Record
import RecordAudit.Report
import RecordAudit.Rule
import RecordAudit.Session.Lock
import RecordAudit.Session.Program
import RecordAudit.Session.Run
import RecordAudit.Session.Schedule
import RecordAudit.Session.Scope
import RecordAudit.Session.World
import RecordAudit.Settings.Basic
import RecordAudit.Settings.Environment
import RecordAudit.Settings.Validation
import RecordAudit.Solver.Answer
import RecordAudit.Solver.AssertionStack
import RecordAudit.Solver.Backend
import RecordAudit.Solver.Candidate
import RecordAudit.Solver.Line
import RecordAudit.Solver.Model
import RecordAudit.Solver.Propagation
import RecordAudit.Solver.Script
import RecordAudit.Solver.Search
import RecordAudit.Term.Basic
import RecordAudit.Term.Display
import RecordAudit.Term.Elaborate
import RecordAudit.Term.Operand
import RecordAudit.Term.Valuation
import RecordAudit.Text.Blank
import RecordAudit.Text.CharacterName
import RecordAudit.Text.CharacterName.Aliases
import RecordAudit.Text.CharacterName.AncientScripts
import RecordAudit.Text.CharacterName.CompatibilityForms
import RecordAudit.Text.CharacterName.EasternScripts
import RecordAudit.Text.CharacterName.EuropeanScripts
import RecordAudit.Text.CharacterName.FurtherScripts
import RecordAudit.Text.CharacterName.ModernScripts
import RecordAudit.Text.CharacterName.Notations
import RecordAudit.Text.CharacterName.Pictographs
import RecordAudit.Text.CharacterName.SignLists
import RecordAudit.Text.CharacterName.Symbols
import RecordAudit.Text.Digit
import RecordAudit.Text.Identifier
import RecordAudit.Text.Lowercase
import RecordAudit.Text.Printable
import RecordAudit.Text.Quoted
import RecordAudit.Text.Ranges
import RecordAudit.Text.Uppercase
import RecordAudit.Text.Word
import RecordAudit.Value.Arithmetic
import RecordAudit.Value.Basic
import RecordAudit.Value.Convert
import RecordAudit.Value.Json
import RecordAudit.Value.Template
import RecordAudit.Proofs.Check.SideBySide
import RecordAudit.Proofs.Number.Decimal
import RecordAudit.Proofs.Reading.Exact
import RecordAudit.Proofs.Solver.Candidates
import RecordAudit.Proofs.Solver.Lines
import RecordAudit.Proofs.Solver.Pinned
import RecordAudit.Proofs.Term.Scope
import RecordAudit.Proofs.Check.Bound
import RecordAudit.Proofs.Check.Direct
import RecordAudit.Proofs.Solver.Decision
import RecordAudit.Proofs.Solver.Steps
import RecordAudit.Proofs.Session.Alone
import RecordAudit.Proofs.Check.Dialogue
import RecordAudit.Proofs.Check.BalancedTrace
import RecordAudit.Proofs.Check.Coherence
import RecordAudit.Proofs.Check.Witnessing
import RecordAudit.Proofs.Formula.Eager
import RecordAudit.Proofs.Check.RecordFaults
import RecordAudit.Proofs.Check.WitnessReadBack
import RecordAudit.Proofs.Session.SingleCreation
import RecordAudit.Proofs.Formula.Fields
import RecordAudit.Proofs.Number.Greatest
import RecordAudit.Proofs.Reading.AmountText
import RecordAudit.Proofs.Check.Meaning
import RecordAudit.Proofs.Check.FieldRules
import RecordAudit.Proofs.Number.RoundTrip
import RecordAudit.Proofs.Number.Significant
import RecordAudit.Proofs.Reading.WrittenAmount
import RecordAudit.Proofs.Session.Cancellation
import RecordAudit.Proofs.Session.Attendance
import RecordAudit.Proofs.Session.UndisturbedChecks
import RecordAudit.Proofs.Check.ContractCatalog
import RecordAudit.Proofs.Check.Thresholds
import RecordAudit.Proofs.Calendar.Day
import RecordAudit.Proofs.Calendar.Matching
import RecordAudit.Proofs.Calendar.Spelling
import RecordAudit.Proofs.Number.LeadingNumeral
import RecordAudit.Proofs.Number.Nearest
import RecordAudit.Proofs.Reading.ScaledAmount
import RecordAudit.Proofs.Check.NoticePeriod
import RecordAudit.Proofs.Session.Gives
import RecordAudit.Proofs.Report.FieldMessages
import RecordAudit.Proofs.Report.FieldAnnotations
import RecordAudit.Proofs.Check.WitnessPresence
import RecordAudit.Proofs.Constraint.Building
import RecordAudit.Proofs.Constraint.RuleIds
import RecordAudit.Proofs.Report.Sections
import RecordAudit.Proofs.Text.Digit
import RecordAudit.Proofs.Reading.FirstCount
import RecordAudit.Proofs.Number.ShortestDecimal
import RecordAudit.Proofs.Check.ObservedModel
import RecordAudit.Proofs.Session.Footing
import RecordAudit.Proofs.Session.Moments
import RecordAudit.Proofs.Session.Permission
import RecordAudit.Proofs.Session.Withdrawal
