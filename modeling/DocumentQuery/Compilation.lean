import DocumentQuery.Aggregate.Pipeline
import DocumentQuery.Cursor.Query
import DocumentQuery.Log.Line
import DocumentQuery.Metrics

/-!
# Observed compilations

Compiling a request gives its result and, beside it, what is reported: the log entries, and which
counter goes up. What is reported has no influence on the result.

* `Compilation.find`, `Compilation.pipeline`, `Compilation.page` : the compilations of the three
  kinds of requests.
-/

namespace DocumentQuery

/-- A result with what is reported of it. -/
structure Compilation (α : Type) where
  result : Except QueryError α
  log : List Log.Entry
  counter : Counter

namespace Compilation

/-- The three kinds of requests. -/
inductive Kind where
  | query
  | aggregate
  | cursor
  deriving DecidableEq, Repr

namespace Kind

def name : Kind → String
  | query => "query"
  | aggregate => "aggregate"
  | cursor => "cursor"

def compiled : Kind → Log.Event
  | query => .queryCompiled
  | aggregate => .aggregateCompiled
  | cursor => .cursorQueryCompiled

def counter : Kind → Counter
  | query => .queries
  | aggregate => .aggregates
  | cursor => .cursorQueries

end Kind

/-- Reports a result, after what was reported on the way to it. -/
def report {α : Type} (kind : Kind) (before : List Log.Entry) (result : Except QueryError α) :
    Compilation α :=
  match result with
  | .ok _ =>
    { result := result
      log := before ++ [.perRequest kind.compiled [("kind", kind.name)]]
      counter := kind.counter }
  | .error error =>
    { result := result
      log := before ++ [.perRequest .compileRejected
        [("kind", kind.name), ("code", error.code), ("error", error.message)]]
      counter := .rejected }

/-- The compilation of a request for rows. -/
def find (collection : Collection) (request : FindRequest) : Compilation Find :=
  report .query [] (Find.ofRequest collection request)

/-- The compilation of a request for groups. -/
def pipeline (collection : Collection) (request : AggregateRequest) :
    Compilation Aggregate.Pipeline :=
  report .aggregate [] (Aggregate.Pipeline.ofRequest collection request)

/-- What is reported of a token: the number of its values. -/
def decoded (start : Except QueryError Cursor.Start) : List Log.Entry :=
  match start with
  | .ok { values? := some values, .. } =>
    [.perRequest .cursorDecoded [("values", toString values.length)]]
  | _ => []

/-- The compilation of a request for a page. -/
def page (collection : Collection) (request : CursorRequest) : Compilation CursorQuery :=
  let start := Cursor.Start.ofRequest collection request
  report .cursor (decoded start) (start.bind (CursorQuery.ofStart collection request))

end Compilation

end DocumentQuery
