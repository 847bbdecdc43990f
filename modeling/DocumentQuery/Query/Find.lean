import DocumentQuery.Filter.Predicate
import DocumentQuery.Query.Projection
import DocumentQuery.Query.SortOrder
import DocumentQuery.Request.Basic

/-!
# Find queries

What the store is asked for when rows are wanted: a predicate, an order, a selection of fields and
a window.

* `Find.ofRequest`  : the query of a request;
* `Find.toDocument` : the query as one document.
-/

namespace DocumentQuery

structure Find where
  filter : Document := []
  sort : Option Document := none
  projection : Option Document := none
  window : Window := {}

namespace Find

/-- The query of a request, or the first error in its filter, its sort or its fields. -/
def ofRequest (collection : Collection) (request : FindRequest) : Except QueryError Find := do
  let filter ← Filter.compile collection request.filter
  let sort ← SortOrder.compile collection request.sort
  let projection ← Projection.compile collection request.fields
  .ok ⟨filter, sort, projection, request.paging.window⟩

/-- A count as the store takes it: the greatest signed number stands for all above it. -/
def countValue (count : UInt64) : Value :=
  .int64 (Int64.ofInt (min count.toNat Number.Range.int64.high))

/-- The entry of an optional part. -/
def part (key : String) (value : Option Value) : Document :=
  match value with
  | some value => [(key, value)]
  | none => []

/-- The query as one document; parts that it has not are left out. -/
def toDocument (find : Find) : Document :=
  part "filter" (some (.document find.filter)) ++
    part "sort" (find.sort.map .document) ++
    part "projection" (find.projection.map .document) ++
    part "skip" (find.window.skip.map countValue) ++
    part "limit" (find.window.limit.map countValue)

end Find

end DocumentQuery
