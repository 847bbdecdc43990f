import DocumentQuery.Cursor.Keyset
import DocumentQuery.Cursor.Token
import DocumentQuery.Query.Find

/-!
# Cursor queries

A request for the page next to a cursor becomes a find query for one row more than the page has:
that row tells whether there is another page. Rows before the cursor are asked for in the reverse
order, nearest first.

* `Start.ofRequest`       : the request as far as the cursor's values, and whether it has any;
* `CursorQuery.ofStart`   : the query from there on;
* `CursorQuery.ofRequest` : the query of a request.
-/

namespace DocumentQuery.Cursor

/-- A request whose filter is compiled, whose sort order is checked and whose token, if there is
one, is decoded. -/
structure Start where
  filter : Document
  sort : SortOrder
  values? : Option (List Value)

/-- The values of a request's token. A blank token is none. -/
def tokenValues (config : Config) (cursor : Option String) :
    Except QueryError (Option (List Value)) :=
  match cursor with
  | none => .ok none
  | some token =>
    if Token.isBlank token then .ok none
    else (Token.decode config.maxTokenLength token).map some

def Start.ofRequest (collection : Collection) (request : CursorRequest) :
    Except QueryError Start := do
  let filter ← Filter.compile collection request.filter
  let sort := Keyset.effectiveSort collection.config request.sort
  sort.forM fun s => collection.check s.field
  let values? ← tokenValues collection.config request.cursor
  .ok ⟨filter, sort, values?⟩

end Cursor

structure CursorQuery where
  /-- Its limit is one row more than the page has. -/
  find : Find
  /-- The order of the page's rows. -/
  sort : SortOrder
  /-- The rows of the page at most. -/
  limit : UInt64
  side : Side
  /-- The store returns the rows in reverse. -/
  reverse : Bool
  /-- There is a boundary, so there are rows on the other side of it. -/
  bounded : Bool

namespace CursorQuery

/-- Both predicates; an empty filter adds nothing to a boundary. -/
def bound (boundary : Option Document) (filter : Document) : Document :=
  match boundary with
  | none => filter
  | some boundary =>
    if filter.isEmpty then boundary
    else [("$and", .array [.document boundary, .document filter])]

/-- The order in which the store returns the rows. -/
def storeSort (side : Side) (sort : SortOrder) : SortOrder :=
  match side with
  | .after => sort
  | .before => sort.map SortField.reversed

def ofStart (collection : Collection) (request : CursorRequest) (start : Cursor.Start) :
    Except QueryError CursorQuery := do
  let values := start.values?.getD []
  let boundary ← Cursor.Keyset.boundary collection start.sort values request.side
  let projection ← Projection.compile collection request.fields
  .ok
    { find :=
        { filter := bound boundary start.filter
          sort := some (SortOrder.document (storeSort request.side start.sort))
          projection := projection
          window := ⟨none, some (Number.saturatingAdd request.limit 1)⟩ }
      sort := start.sort
      limit := request.limit
      side := request.side
      reverse := request.side = .before
      bounded := boundary.isSome }

/-- The query of a request, or the first error in its filter, its sort order, its cursor or its
fields. -/
def ofRequest (collection : Collection) (request : CursorRequest) :
    Except QueryError CursorQuery := do
  let start ← Cursor.Start.ofRequest collection request
  ofStart collection request start

/-- The query as one document. -/
def toDocument (query : CursorQuery) : Document :=
  query.find.toDocument ++ [("reverse", .bool query.reverse)]

end CursorQuery

end DocumentQuery
