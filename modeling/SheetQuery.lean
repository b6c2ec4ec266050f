import SheetQuery.Main
import SheetQuery.Ingest.Rehearsal
import SheetQuery.Service.Router
import SheetQuery.Shutdown
import SheetQuery.Proofs.Decimal.Notation
import SheetQuery.Proofs.Sheet.Line
import SheetQuery.Proofs.Sheet.Schema
import SheetQuery.Proofs.Sheet.Cell
import SheetQuery.Proofs.Sheet.Reader
import SheetQuery.Proofs.Sheet.Client
import SheetQuery.Proofs.Sheet.RoundTrip
import SheetQuery.Proofs.Decimal.Rounding
import SheetQuery.Proofs.Store.Paging
import SheetQuery.Proofs.Store.Reordering
import SheetQuery.Proofs.Json.Members
import SheetQuery.Proofs.Json.Order
import SheetQuery.Proofs.Json.Path
import SheetQuery.Proofs.Json.Outline
import SheetQuery.Proofs.Query.Projection
import SheetQuery.Proofs.Query.Showing
import SheetQuery.Proofs.Query.Control
import SheetQuery.Proofs.Query.Operand
import SheetQuery.Proofs.Query.Setting
import SheetQuery.Proofs.Query.Asked
import SheetQuery.Proofs.Query.Acceptance
import SheetQuery.Proofs.Query.Compile
import SheetQuery.Proofs.Query.Rendering
import SheetQuery.Proofs.Store.Rendering
import SheetQuery.Proofs.Store.Trimming
import SheetQuery.Proofs.Store.Exposure
import SheetQuery.Proofs.Store.Listing
import SheetQuery.Proofs.Store.Matching
import SheetQuery.Proofs.Service.Query
import SheetQuery.Proofs.Decimal.Widening
import SheetQuery.Proofs.Sheet.Format
import SheetQuery.Proofs.Sheet.Opening
import SheetQuery.Proofs.Sheet.Requests
import SheetQuery.Proofs.Sheet.Decoding
import SheetQuery.Proofs.Sheet.Refusal
import SheetQuery.Proofs.Sheet.Columns
import SheetQuery.Proofs.Sheet.BadCell
import SheetQuery.Proofs.Sheet.Reencoding
import SheetQuery.Proofs.Ingest.History
import SheetQuery.Proofs.Ingest.Keeping
import SheetQuery.Proofs.Ingest.Tally
import SheetQuery.Proofs.Ingest.Course
import SheetQuery.Proofs.Ingest.Loading
import SheetQuery.Proofs.Ingest.Refresh
import SheetQuery.Proofs.Sorting
import SheetQuery.Proofs.Ingest.Serving
import SheetQuery.Proofs.Store.Documents
import SheetQuery.Proofs.Sorting.Successive
import SheetQuery.Proofs.Query.SortKeys
import SheetQuery.Proofs.Query.Coverage
import SheetQuery.Proofs.Store.Linking
import SheetQuery.Proofs.Store.Comparison
import SheetQuery.Proofs.Sheet.Header
import SheetQuery.Proofs.Sheet.Registry
import SheetQuery.Proofs.Query.Written
import SheetQuery.Proofs.Ingest.Isolation
import SheetQuery.Proofs.Text.Blank
import SheetQuery.Proofs.Query.Combination
import SheetQuery.Proofs.Ingest.Declared
import SheetQuery.Proofs.Store.Exactness
import SheetQuery.Proofs.Json.Text
import SheetQuery.Proofs.Json.ReadBack
import SheetQuery.Proofs.Log.Line
import SheetQuery.Proofs.Sheet.Slots
import SheetQuery.Proofs.Text.Lowercase
import SheetQuery.Proofs.Sheet.Decoration
