import RemoteQuery.Main
import RemoteQuery.Script
import RemoteQuery.Step
import RemoteQuery.Proofs.Execution.Turn
import RemoteQuery.Proofs.Execution.Reference
import RemoteQuery.Proofs.Execution.Trace
import RemoteQuery.Proofs.Connection.Answer
import RemoteQuery.Proofs.Materialize
import RemoteQuery.Proofs.Connection.Cancellation
import RemoteQuery.Proofs.Disk
import RemoteQuery.Proofs.Staging
import RemoteQuery.Proofs.Connection.Staging
import RemoteQuery.Proofs.Literal
import RemoteQuery.Proofs.Quotes
import RemoteQuery.Proofs.Statement.Shape
import RemoteQuery.Proofs.Statement.Quotes
import RemoteQuery.Proofs.Csv
import RemoteQuery.Proofs.Materialize.Rows
import RemoteQuery.Proofs.Literal.Reading
import RemoteQuery.Proofs.Statement.Literals
import RemoteQuery.Proofs.Url.Encode
import RemoteQuery.Proofs.Http.Store
import RemoteQuery.Proofs.Connection.Course
import RemoteQuery.Proofs.Connection.Modes
import RemoteQuery.Proofs.Literal.Segments
import RemoteQuery.Proofs.Statement.Prepared
import RemoteQuery.Proofs.Csv.Nulls
import RemoteQuery.Proofs.Materialize.Nulls
import RemoteQuery.Proofs.Connection.Log
import RemoteQuery.Proofs.Connection.Pretending
import RemoteQuery.Proofs.Literal.Positions
import RemoteQuery.Proofs.Literal.Openers
import RemoteQuery.Proofs.Paging
import RemoteQuery.Proofs.Paging.Overflow
import RemoteQuery.Proofs.Statement.Terminators
import RemoteQuery.Proofs.Statement.Comments
import RemoteQuery.Proofs.Staging.Shared
import RemoteQuery.Proofs.Materialize.Steps
import RemoteQuery.Proofs.Materialize.Race
import RemoteQuery.Proofs.Execution.Addressing
import RemoteQuery.Proofs.Literal.Numeral
import RemoteQuery.Proofs.Command.Bindings
import RemoteQuery.Proofs.Literal.Typed
import RemoteQuery.Proofs.Text.Search
import RemoteQuery.Proofs.Statement.Prefix
import RemoteQuery.Proofs.Text.Case
import RemoteQuery.Proofs.Sql.Ranking
import RemoteQuery.Proofs.Sql.RankingText
import RemoteQuery.Proofs.Execution.Absorption
import RemoteQuery.Proofs.Decimal.Size
import RemoteQuery.Proofs.Decimal.Word
import RemoteQuery.Proofs.Decimal.Rounding
import RemoteQuery.Proofs.Poll
import RemoteQuery.Proofs.Execution.Pacing
import RemoteQuery.Proofs.Record
import RemoteQuery.Proofs.Artifact
import RemoteQuery.Proofs.Http.ObjectUrl
import RemoteQuery.Proofs.Csv.Faults
import RemoteQuery.Proofs.Materialize.Stages
import RemoteQuery.Proofs.Json.Quoted
import RemoteQuery.Proofs.Json.Texts
import RemoteQuery.Proofs.Literal.Escaping
import RemoteQuery.Proofs.Record.Ordered
import RemoteQuery.Proofs.Http.Download
import RemoteQuery.Proofs.Decimal.Nearest
import RemoteQuery.Proofs.Binding
