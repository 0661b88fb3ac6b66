import LuceneQuery.Text.Blank
import LuceneQuery.Text.Printable
import LuceneQuery.Text.Quoted
import LuceneQuery.Word
import LuceneQuery.Decimal
import LuceneQuery.Decimal.Shortest
import LuceneQuery.Decimal.FloatText
import LuceneQuery.Escape
import LuceneQuery.QueryError
import LuceneQuery.Change
import LuceneQuery.Operator
import LuceneQuery.Decoration
import LuceneQuery.Term
import LuceneQuery.Calendar.Date
import LuceneQuery.Calendar.Timestamp
import LuceneQuery.Calendar.Fields
import LuceneQuery.Calendar.Scan
import LuceneQuery.Calendar.Pattern
import LuceneQuery.Calendar.Internet
import LuceneQuery.Calendar.Mail
import LuceneQuery.Calendar.Reading
import LuceneQuery.Range
import LuceneQuery.Node
import LuceneQuery.Explain
import LuceneQuery.Query
import LuceneQuery.Toml.Value
import LuceneQuery.Toml.Literal
import LuceneQuery.Toml.Scalar
import LuceneQuery.Toml.Token
import LuceneQuery.Toml.Tree
import LuceneQuery.Toml.Draft
import LuceneQuery.Toml.Key
import LuceneQuery.Toml.Form
import LuceneQuery.Toml.Line
import LuceneQuery.Toml.Reading
import LuceneQuery.Toml.Writer
import LuceneQuery.Toml.Schema
import LuceneQuery.FileTree
import LuceneQuery.Settings
import LuceneQuery.Settings.Template
import LuceneQuery.Settings.Discovery
import LuceneQuery.Document.Clause
import LuceneQuery.Document
import LuceneQuery.Notice
import LuceneQuery.Notice.Trail
import LuceneQuery.Command.Arguments
import LuceneQuery.Command
import LuceneQuery.Main
import LuceneQuery.Proofs.Trim
import LuceneQuery.Proofs.Token
import LuceneQuery.Proofs.Tree
import LuceneQuery.Proofs.NumberText
import LuceneQuery.Proofs.Reading
import LuceneQuery.Proofs.UniqueReading
import LuceneQuery.Proofs.Skeleton
import LuceneQuery.Proofs.Pieces
import LuceneQuery.Proofs.Structure
import LuceneQuery.Proofs.Assignment
import LuceneQuery.Proofs.Brackets
import LuceneQuery.Proofs.Grammar
import LuceneQuery.Proofs.ClauseTree
import LuceneQuery.Proofs.Faults
import LuceneQuery.Proofs.Positions
import LuceneQuery.Proofs.Building
import LuceneQuery.Proofs.Defaults
import LuceneQuery.Proofs.Merging
import LuceneQuery.Proofs.Places
import LuceneQuery.Proofs.Discovery
import LuceneQuery.Proofs.Loading
import LuceneQuery.Proofs.Isolation
import LuceneQuery.Proofs.Quoting
import LuceneQuery.Proofs.WrittenTable
import LuceneQuery.Proofs.WrittenSettings
import LuceneQuery.Proofs.NewFile
import LuceneQuery.Proofs.Calls
import LuceneQuery.Proofs.OrderedTables
import LuceneQuery.Proofs.ClauseReading
import LuceneQuery.Proofs.KnownKeys
import LuceneQuery.Proofs.DayNumbers
import LuceneQuery.Proofs.DateText
import LuceneQuery.Proofs.Instants
import LuceneQuery.Proofs.DateReading
import LuceneQuery.Proofs.DateBounds
import LuceneQuery.Proofs.Wrapping
import LuceneQuery.Proofs.Emptiness
import LuceneQuery.Proofs.Escaping
import LuceneQuery.Proofs.OneLine
import LuceneQuery.Proofs.Precedence
import LuceneQuery.Proofs.BuiltNodes
import LuceneQuery.Proofs.ShownRanges
import LuceneQuery.Proofs.SpelledTerms
import LuceneQuery.Proofs.LastSetter
import LuceneQuery.Proofs.SignedZero
import LuceneQuery.Proofs.Keywords
import LuceneQuery.Proofs.Respelled
import LuceneQuery.Proofs.Commands
