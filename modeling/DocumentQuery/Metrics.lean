import DocumentQuery.Json.Basic

/-!
# Metrics

Counts of the requests that were compiled, by kind, and of those that were rejected. Each counter
has 64 bits.

* `Metrics.count` : one more of a kind;
* `Metrics.value` : the number under a counter;
* `Metrics.total` : all requests.
-/

namespace DocumentQuery

/-- What can be counted. -/
inductive Counter where
  | queries
  | aggregates
  | cursorQueries
  | rejected
  deriving DecidableEq, Repr

structure Metrics where
  queries : Nat := 0
  aggregates : Nat := 0
  cursorQueries : Nat := 0
  rejected : Nat := 0
  deriving DecidableEq, Repr

namespace Metrics

/-- How many numbers a counter can hold. -/
def capacity : Nat := UInt64.size

/-- One more; after the greatest number a counter starts again from zero. -/
def next (n : Nat) : Nat := (n + 1) % capacity

def count (metrics : Metrics) : Counter → Metrics
  | .queries => { metrics with queries := next metrics.queries }
  | .aggregates => { metrics with aggregates := next metrics.aggregates }
  | .cursorQueries => { metrics with cursorQueries := next metrics.cursorQueries }
  | .rejected => { metrics with rejected := next metrics.rejected }

/-- The number under a counter. -/
def value (metrics : Metrics) : Counter → Nat
  | .queries => metrics.queries
  | .aggregates => metrics.aggregates
  | .cursorQueries => metrics.cursorQueries
  | .rejected => metrics.rejected

theorem value_count (metrics : Metrics) (counted counter : Counter) :
    (metrics.count counted).value counter =
      if counted = counter then next (metrics.value counter) else metrics.value counter := by
  cases counted <;> cases counter <;> rfl

/-- One more of a kind, if there is one. -/
def count? (metrics : Metrics) (counter : Option Counter) : Metrics :=
  match counter with
  | some counter => metrics.count counter
  | none => metrics

def total (metrics : Metrics) : Nat :=
  metrics.queries + metrics.aggregates + metrics.cursorQueries + metrics.rejected

def toJson (metrics : Metrics) : Json :=
  .object
    [("queries_compiled", .integer metrics.queries),
      ("aggregates_compiled", .integer metrics.aggregates),
      ("cursor_queries_compiled", .integer metrics.cursorQueries),
      ("compilations_rejected", .integer metrics.rejected)]

end Metrics

end DocumentQuery
