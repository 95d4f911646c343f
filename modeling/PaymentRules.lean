import PaymentRules.ClientRules.Action
import PaymentRules.ClientRules.Attach
import PaymentRules.ClientRules.Basic
import PaymentRules.ClientRules.Resolve
import PaymentRules.ClientRules.Sheet
import PaymentRules.Collaborators.Basic
import PaymentRules.Collaborators.Phrasebook
import PaymentRules.Collaborators.Template
import PaymentRules.Collaborators.Wallet
import PaymentRules.CommandLine
import PaymentRules.Component.Grammar
import PaymentRules.Component.Pattern
import PaymentRules.Component.Span
import PaymentRules.Constant
import PaymentRules.Contract.ClientAction
import PaymentRules.Contract.Description
import PaymentRules.Contract.ErrorResponse
import PaymentRules.Contract.PaymentInstrument
import PaymentRules.Contract.Request
import PaymentRules.Contract.Uuid
import PaymentRules.Decimal.Double
import PaymentRules.Decimal.Shortest
import PaymentRules.Dimension
import PaymentRules.Engine.Basic
import PaymentRules.Engine.RuleStore
import PaymentRules.Engine.Session
import PaymentRules.ErrorRules.Basic
import PaymentRules.ErrorRules.Kind
import PaymentRules.ErrorRules.Resolve
import PaymentRules.ErrorRules.Respond
import PaymentRules.ErrorRules.Sheet
import PaymentRules.Json.Basic
import PaymentRules.Json.Carried
import PaymentRules.Json.Decode
import PaymentRules.Json.Numeral
import PaymentRules.Json.Reader
import PaymentRules.Json.Token
import PaymentRules.Json.Writer
import PaymentRules.Keyed
import PaymentRules.LoadError
import PaymentRules.Main
import PaymentRules.Named
import PaymentRules.Narrowing
import PaymentRules.ResolveError
import PaymentRules.Review
import PaymentRules.RuleRow
import PaymentRules.Settings
import PaymentRules.Sheet.Basic
import PaymentRules.Sheet.Delimiter
import PaymentRules.Sheet.Header
import PaymentRules.Sheet.Reader
import PaymentRules.Sheet.Record
import PaymentRules.Sheet.Writer
import PaymentRules.Text.Attaching
import PaymentRules.Text.Blank
import PaymentRules.Text.CodePoints
import PaymentRules.Text.Letters
import PaymentRules.Text.Pieces
import PaymentRules.Text.Printable
import PaymentRules.Text.Quoted
import PaymentRules.Proofs.Except
import PaymentRules.Proofs.Narrowing.Sequence
import PaymentRules.Proofs.Text.Filling
import PaymentRules.Proofs.ClientRules.Decision
import PaymentRules.Proofs.ErrorRules.Decision
import PaymentRules.Proofs.Component.Tiling
import PaymentRules.Proofs.Component.Tree
import PaymentRules.Proofs.Dimension.Inclusion
import PaymentRules.Proofs.Narrowing.Thinning
import PaymentRules.Proofs.Review.Cleanup
import PaymentRules.Proofs.Component.Joining
import PaymentRules.Proofs.Component.Locality
import PaymentRules.Proofs.Dimension.Covering
import PaymentRules.Proofs.Sheet.Joining
import PaymentRules.Proofs.Component.Nearest
import PaymentRules.Proofs.Component.Reading
import PaymentRules.Proofs.Review.Completeness
import PaymentRules.Proofs.ClientRules.Placement
import PaymentRules.Proofs.ErrorRules.Placement
import PaymentRules.Proofs.Component.Headed
import PaymentRules.Proofs.Component.Insertion
import PaymentRules.Proofs.Component.Relabelling
import PaymentRules.Proofs.Sheet.Separators
import PaymentRules.Proofs.Sheet.Unmarked
import PaymentRules.Proofs.Sheet.Names
import PaymentRules.Proofs.Sheet.Layout
import PaymentRules.Proofs.Dimension.Proper
import PaymentRules.Proofs.Query.Likeness
import PaymentRules.Proofs.Query.Missing
import PaymentRules.Proofs.Query.LetterCase
import PaymentRules.Proofs.ErrorRules.Rewriting
import PaymentRules.Proofs.ClientRules.Attachment
import PaymentRules.Proofs.Engine.Publication
import PaymentRules.Proofs.Json.Fields
import PaymentRules.Proofs.Json.Shape
import PaymentRules.Proofs.Json.Numeral
import PaymentRules.Proofs.Json.Lexing
import PaymentRules.Proofs.Json.Printing
import PaymentRules.Proofs.Json.Reading
import PaymentRules.Proofs.Contract.Documents
import PaymentRules.Proofs.Contract.Texts
import PaymentRules.Proofs.Constant
import PaymentRules.Proofs.Dimension.Cell
import PaymentRules.Proofs.Dimension.Exclusion
import PaymentRules.Proofs.ClientRules.Retry
import PaymentRules.Proofs.ClientRules.Methods
import PaymentRules.Proofs.ErrorRules.Codes
import PaymentRules.Proofs.Sheet.Causes
import PaymentRules.Proofs.Sheet.Passages
import PaymentRules.Proofs.Sheet.SourceLines
import PaymentRules.Proofs.Sheet.Grids
import PaymentRules.Proofs.ErrorRules.Challenges
import PaymentRules.Proofs.ClientRules.Redirection
import PaymentRules.Proofs.Component.Nesting
import PaymentRules.Proofs.Sheet.Nesting
import PaymentRules.Proofs.Sheet.Columns
import PaymentRules.Proofs.Component.Walk
