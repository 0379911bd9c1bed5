import QueryLoom.Alias
import QueryLoom.Assignment
import QueryLoom.Bytes
import QueryLoom.Calendar
import QueryLoom.Catalog
import QueryLoom.Chain
import QueryLoom.Column
import QueryLoom.ColumnType
import QueryLoom.Condition
import QueryLoom.Config
import QueryLoom.Derive.Attribute
import QueryLoom.Derive.Declaration
import QueryLoom.Dialect
import QueryLoom.Entity
import QueryLoom.Error
import QueryLoom.Event
import QueryLoom.Executor
import QueryLoom.Fetch
import QueryLoom.FromValue
import QueryLoom.Identifier
import QueryLoom.Json
import QueryLoom.Json.Compact
import QueryLoom.Json.Source
import QueryLoom.Lru
import QueryLoom.Number.Binary
import QueryLoom.Number.Shortest
import QueryLoom.Ordering
import QueryLoom.Page
import QueryLoom.Proofs.Aliases
import QueryLoom.Proofs.Binding
import QueryLoom.Proofs.Filling
import QueryLoom.Proofs.Mentions
import QueryLoom.Proofs.Names
import QueryLoom.Proofs.Parameters
import QueryLoom.Proofs.Pieces
import QueryLoom.Proofs.Rendering
import QueryLoom.Proofs.Settled
import QueryLoom.Proofs.Templates
import QueryLoom.Proofs.Tokens
import QueryLoom.Query
import QueryLoom.Row
import QueryLoom.Selection
import QueryLoom.Server
import QueryLoom.Session
import QueryLoom.Statement
import QueryLoom.Table
import QueryLoom.Template
import QueryLoom.Text.Displayed
import QueryLoom.Text.Hex
import QueryLoom.Text.Letter
import QueryLoom.Text.Visible
import QueryLoom.Text.Words
import QueryLoom.Uuid
import QueryLoom.Value
import QueryLoom.Wire
import QueryLoom.Proofs.Placeholders
import QueryLoom.Proofs.Replacement
import QueryLoom.Proofs.Independence
import QueryLoom.Proofs.Precedence
import QueryLoom.Proofs.Meaning
import QueryLoom.Proofs.EmptyMembers
import QueryLoom.Proofs.Known
import QueryLoom.Proofs.Direct
import QueryLoom.Proofs.Numbering
import QueryLoom.Proofs.Transparency
import QueryLoom.Proofs.OneBody
import QueryLoom.Proofs.Declared
import QueryLoom.Proofs.Citing
import QueryLoom.Proofs.Qualification
import QueryLoom.Proofs.Failure
import QueryLoom.Proofs.Clauses
import QueryLoom.Proofs.Protocol
import QueryLoom.Proofs.Queue
import QueryLoom.Proofs.Recency
import QueryLoom.Proofs.Records
import QueryLoom.Proofs.Conflicts
import QueryLoom.Proofs.Conversion
import QueryLoom.Proofs.RoundTrip
import QueryLoom.Proofs.NoRow
import QueryLoom.Proofs.Registration
import QueryLoom.Proofs.Flushing
import QueryLoom.Proofs.SharedAliases
import QueryLoom.Proofs.Shown
import QueryLoom.Proofs.Folding
import QueryLoom.Proofs.Issued
import QueryLoom.Proofs.Quoting
import QueryLoom.Proofs.OutputNames
import QueryLoom.Proofs.WrittenColumns
import QueryLoom.Proofs.Arity
import QueryLoom.Proofs.SetList
import QueryLoom.Proofs.Integers
import QueryLoom.Proofs.Declarations
import QueryLoom.Proofs.Paging
import QueryLoom.Proofs.Partition
import QueryLoom.Proofs.Attributes
import QueryLoom.Proofs.LastUse
import QueryLoom.Proofs.Parsing
import QueryLoom.Proofs.Slots
import QueryLoom.Proofs.Search
import QueryLoom.Proofs.Cutting
