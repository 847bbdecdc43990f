import DocumentQuery.Aggregate.Grouping
import DocumentQuery.Filter.Basic
import DocumentQuery.Request.Paging

/-!
# Requests

The three kinds of requests: for a window of rows, for groups of rows, and for the page of rows
next to a cursor.
-/

namespace DocumentQuery

/-- A request for rows. -/
structure FindRequest where
  filter : Filter := []
  sort : List String := []
  fields : List String := []
  paging : Paging := {}

/-- A request for groups of the rows that meet a filter. -/
structure AggregateRequest where
  filter : Filter := []
  aggregation : Aggregate.Aggregation := {}

/-- The side of a cursor's row on which a page lies. -/
inductive Side where
  | before
  | after
  deriving DecidableEq, Repr

namespace Side

def name : Side → String
  | before => "before"
  | after => "after"

def opposite : Side → Side
  | before => after
  | after => before

end Side

/-- The rows of a page unless the request says otherwise. -/
def defaultPageLimit : UInt64 := 10

/-- A request for a page of rows. Without a cursor it is the first page. -/
structure CursorRequest where
  filter : Filter := []
  sort : List String := []
  fields : List String := []
  cursor : Option String := none
  side : Side := .after
  limit : UInt64 := defaultPageLimit

end DocumentQuery
