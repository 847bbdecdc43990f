import DocumentQuery.Cursor.Query
import DocumentQuery.Cursor.RowKey

/-!
# Pages

The rows that a store returns for a cursor query, as a page: without the row that is one too many,
in the order that was asked for, and with the cursors of its first and last row.

* `Page.ofRows` : the page of rows.
-/

namespace DocumentQuery

structure Page where
  rows : List Document
  hasNext : Bool
  hasPrevious : Bool
  /-- The cursor of the first row. -/
  startCursor : Option String
  /-- The cursor of the last row. -/
  endCursor : Option String

namespace Page

/-- The cursor of a row, if there is one. -/
def cursor (sort : SortOrder) (row : Option Document) : Except QueryError (Option String) :=
  match row with
  | none => .ok none
  | some row => (Cursor.Token.encode (Cursor.Row.key sort row)).map some

/-- The page of rows. A row too many says that there are more on the side that the page lies on;
a boundary says that there are some on the other side. -/
def ofRows (query : CursorQuery) (rows : List Document) : Except QueryError Page := do
  let hasMore := query.limit.toNat < rows.length
  let kept := rows.take query.limit.toNat
  let kept := if query.reverse then kept.reverse else kept
  let startCursor ← cursor query.sort kept.head?
  let endCursor ← cursor query.sort kept.getLast?
  let (hasNext, hasPrevious) :=
    match query.side with
    | .after => (decide hasMore, query.bounded)
    | .before => (query.bounded, decide hasMore)
  .ok ⟨kept, hasNext, hasPrevious, startCursor, endCursor⟩

end Page

end DocumentQuery
