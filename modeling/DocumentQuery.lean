import DocumentQuery.Main
import DocumentQuery.Repository
import DocumentQuery.Proofs.Cursor.ForwardWalk
import DocumentQuery.Proofs.Cursor.SortAgreement
import DocumentQuery.Proofs.Text.Base64
import DocumentQuery.Proofs.Value.Bson.Fields
import DocumentQuery.Proofs.Value.Bson.ReadBack
import DocumentQuery.Proofs.Value.Plain
import DocumentQuery.Proofs.Cursor.TokenRoundTrip
import DocumentQuery.Proofs.Cursor.BackwardPage
import DocumentQuery.Proofs.Query.Selection
import DocumentQuery.Proofs.Cursor.SelectedPage
import DocumentQuery.Proofs.Aggregate.Decoding
import DocumentQuery.Proofs.Query.StrictFields
import DocumentQuery.Proofs.Cursor.Mirror
import DocumentQuery.Proofs.Filter.Grammar
import DocumentQuery.Proofs.Filter.Malformed
import DocumentQuery.Proofs.Cursor.TokenLength
import DocumentQuery.Proofs.Cursor.Acceptance
import DocumentQuery.Proofs.Repository.Accounting
import DocumentQuery.Proofs.Query.IdentifierAlias
import DocumentQuery.Proofs.Filter.OwnOperators
import DocumentQuery.Proofs.Json.Distinct
import DocumentQuery.Proofs.Schema.Flattening
import DocumentQuery.Proofs.Filter.Comparison
import DocumentQuery.Proofs.Filter.Form
import DocumentQuery.Proofs.Cursor.Neighbours
import DocumentQuery.Proofs.Aggregate.Record
import DocumentQuery.Proofs.Aggregate.SortedGroups
import DocumentQuery.Proofs.Filter.Rejection
import DocumentQuery.Proofs.Value.Rendering
import DocumentQuery.Proofs.CommandLine.UntypedValues
import DocumentQuery.Proofs.Schema.ReadBack
import DocumentQuery.Proofs.Json.Rendering
import DocumentQuery.Proofs.CommandLine.Answers
import DocumentQuery.Proofs.Aggregate.TableDecoding
import DocumentQuery.Proofs.Filter.Coercion
import DocumentQuery.Proofs.Filter.Range
import DocumentQuery.Proofs.Query.Pages
import DocumentQuery.Proofs.Aggregate.ColumnOrder
import DocumentQuery.Proofs.Cursor.TotalSort
import DocumentQuery.Proofs.Log.Line
