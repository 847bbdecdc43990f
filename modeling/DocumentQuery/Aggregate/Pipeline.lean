import DocumentQuery.Aggregate.Grouping
import DocumentQuery.Query.Find

/-!
# Aggregation pipelines

What the store is asked for when groups are wanted: rows are matched, grouped, and the groups put
in order.

* `Pipeline.ofRequest`  : the pipeline of a request;
* `Pipeline.stages`     : its stages;
* `Pipeline.toDocument` : stages and column names as one document;
* `Pipeline.decode`     : the groups of result rows.
-/

namespace DocumentQuery.Aggregate

structure Pipeline where
  filter : Document
  sort : Option Document
  grouping : Grouping

namespace Pipeline

/-- The pipeline of a request, or the first error in its filter or its aggregation. -/
def ofRequest (collection : Collection) (request : AggregateRequest) :
    Except QueryError Pipeline := do
  let filter ← Filter.compile collection request.filter
  let grouping ← Grouping.compile request.aggregation
  .ok ⟨filter, grouping.sort?, grouping⟩

def stages (pipeline : Pipeline) : List Document :=
  [[("$match", .document pipeline.filter)], [("$group", .document pipeline.grouping.body)]] ++
    (match pipeline.sort with
      | some sort => [[("$sort", .document sort)]]
      | none => [])

/-- Stages and column names. -/
def toDocument (pipeline : Pipeline) : Document :=
  [("pipeline", .array (pipeline.stages.map .document)),
    ("columns", .array (pipeline.grouping.columns.map fun column => .string column.label))]

/-- The groups of result rows. -/
def decode (pipeline : Pipeline) (rows : List Document) : Except QueryError (List Group) :=
  pipeline.grouping.decode rows

end Pipeline

end DocumentQuery.Aggregate
