import Depot.CharSet
import Depot.Controller.Basic
import Depot.Controller.Children
import Depot.Controller.Operations
import Depot.Controller.Options
import Depot.Controller.Script
import Depot.Error
import Depot.Http.Route
import Depot.Http.Service
import Depot.Http.Target
import Depot.Json.Basic
import Depot.Json.Document
import Depot.Json.Inspect
import Depot.Json.Numeral
import Depot.Json.Printer
import Depot.Json.Record
import Depot.KeyPath
import Depot.Model.Check
import Depot.Model.Config
import Depot.Model.Decode
import Depot.Model.Encode
import Depot.Model.Entity
import Depot.Model.Resolve
import Depot.Net.SocketAddress
import Depot.Number.Decimal
import Depot.Number.Double
import Depot.Pattern.Automaton
import Depot.Pattern.Basic
import Depot.Pattern.Bracket
import Depot.Pattern.Build
import Depot.Pattern.Class
import Depot.Pattern.Escape
import Depot.Pattern.Motion
import Depot.Pattern.Parser
import Depot.Pattern.Place
import Depot.Pattern.Scan
import Depot.Program
import Depot.Proofs.Controller.Additions
import Depot.Proofs.Controller.Atomicity
import Depot.Proofs.Controller.Children
import Depot.Proofs.Controller.Collections
import Depot.Proofs.Controller.Concurrent
import Depot.Proofs.Controller.Creations
import Depot.Proofs.Controller.Deletions
import Depot.Proofs.Controller.Failures
import Depot.Proofs.Controller.HookFree
import Depot.Proofs.Controller.Isolation
import Depot.Proofs.Controller.Lookup
import Depot.Proofs.Controller.Noninterference
import Depot.Proofs.Controller.OwnRows
import Depot.Proofs.Controller.Paging
import Depot.Proofs.Controller.Plans
import Depot.Proofs.Controller.Reads
import Depot.Proofs.Controller.References
import Depot.Proofs.Controller.Replacement
import Depot.Proofs.Controller.Responses
import Depot.Proofs.Controller.Retry
import Depot.Proofs.Controller.Rules
import Depot.Proofs.Controller.SelectedRow
import Depot.Proofs.Controller.Settled
import Depot.Proofs.Controller.Success
import Depot.Proofs.Controller.Transactions
import Depot.Proofs.Controller.UniqueKeys
import Depot.Proofs.Controller.Upsert
import Depot.Proofs.Controller.Written
import Depot.Proofs.Http.Mounts
import Depot.Proofs.Json.Fields
import Depot.Proofs.Json.Integers
import Depot.Proofs.Json.Ordered
import Depot.Proofs.Json.Zeros
import Depot.Proofs.KeyPath.Grammar
import Depot.Proofs.KeyPath.Requests
import Depot.Proofs.KeyPath.Routes
import Depot.Proofs.List
import Depot.Proofs.Model.Resolved
import Depot.Proofs.Number.Exact
import Depot.Proofs.Partition
import Depot.Proofs.Pattern.Matches
import Depot.Proofs.Program
import Depot.Proofs.Query.Comparisons
import Depot.Proofs.Query.Expressions
import Depot.Proofs.Query.Instants
import Depot.Proofs.Query.Joins
import Depot.Proofs.Query.Lists
import Depot.Proofs.Query.Nulls
import Depot.Proofs.Query.Operators
import Depot.Proofs.Query.Orders
import Depot.Proofs.Query.Sorting
import Depot.Proofs.Query.Wildcards
import Depot.Proofs.Reconcile
import Depot.Proofs.Sql.Forms
import Depot.Proofs.Sql.Identifiers
import Depot.Proofs.Sql.Omissions
import Depot.Proofs.Sql.Placeholders
import Depot.Proofs.Sql.Readings
import Depot.Proofs.Sql.Scan
import Depot.Proofs.Sql.Updates
import Depot.Proofs.Sql.ValueLists
import Depot.Proofs.Store.Batches
import Depot.Proofs.Store.Current
import Depot.Proofs.Store.Defaults
import Depot.Proofs.Store.Distinct
import Depot.Proofs.Store.InPlace
import Depot.Proofs.Store.Insertions
import Depot.Proofs.Store.NotNull
import Depot.Proofs.Store.Populate
import Depot.Proofs.Store.Reachable
import Depot.Proofs.Store.References
import Depot.Proofs.Store.Replay
import Depot.Proofs.Store.RowInvariants
import Depot.Proofs.Store.Rows
import Depot.Proofs.Store.Searches
import Depot.Proofs.Store.Serials
import Depot.Proofs.Store.Snapshot
import Depot.Proofs.Store.Staging
import Depot.Proofs.Text.Cuts
import Depot.Proofs.Text.Words
import Depot.Proofs.Validation
import Depot.Query.Compare
import Depot.Query.Condition
import Depot.Query.Filter
import Depot.Query.Instant
import Depot.Query.Like
import Depot.Query.Sort
import Depot.Reconcile
import Depot.Request
import Depot.Settings
import Depot.Sql.Bind
import Depot.Sql.Query
import Depot.Sql.Statement
import Depot.Store.Call
import Depot.Store.Database
import Depot.Store.Faults
import Depot.Store.Session
import Depot.Store.Tables
import Depot.Store.Transaction
import Depot.Text.Blank
import Depot.Text.ByteSequences
import Depot.Text.Case
import Depot.Text.Integer
import Depot.Text.Utf8
import Depot.Text.Visible
import Depot.Text.Word
import Depot.Unicode.Age
import Depot.Unicode.Boundary
import Depot.Unicode.Category
import Depot.Unicode.Edition
import Depot.Unicode.Letter
import Depot.Unicode.Naming
import Depot.Unicode.Property
import Depot.Unicode.Script
import Depot.Validation
