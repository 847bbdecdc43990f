/-!
# Events

What is reported while requests are compiled, and how severe it is.

* `Severity`            : trace, info, warning, error;
* `Event`               : what happened;
* `Event.lifecycle`     : the severity of an event of the program;
* `Event.perRequest`    : the severity of an event of a single request.
-/

namespace DocumentQuery.Log

inductive Severity where
  | trace
  | info
  | warn
  | error
  deriving DecidableEq, Repr

namespace Severity

def name : Severity → String
  | trace => "TRACE"
  | info => "INFO"
  | warn => "WARN"
  | error => "ERROR"

def rank : Severity → Nat
  | trace => 0
  | info => 1
  | warn => 2
  | error => 3

/-- What is this severe is written where `least` is the least severity. -/
def enabled (least severity : Severity) : Bool := least.rank ≤ severity.rank

end Severity

inductive Event where
  | configLoaded
  | catalogLoaded
  | queryCompiled
  | aggregateCompiled
  | cursorQueryCompiled
  | compileRejected
  | cursorDecoded
  deriving DecidableEq, Repr

namespace Event

def name : Event → String
  | configLoaded => "CONFIG_LOADED"
  | catalogLoaded => "CATALOG_LOADED"
  | queryCompiled => "QUERY_COMPILED"
  | aggregateCompiled => "AGGREGATE_COMPILED"
  | cursorQueryCompiled => "CURSOR_QUERY_COMPILED"
  | compileRejected => "COMPILE_REJECTED"
  | cursorDecoded => "CURSOR_DECODED"

def isFailure : Event → Bool
  | compileRejected => true
  | _ => false

/-- The severity of an event of the program. -/
def lifecycle (event : Event) : Severity := if event.isFailure then .warn else .info

/-- The severity of an event of a single request. -/
def perRequest (event : Event) : Severity := if event.isFailure then .warn else .trace

end Event

end DocumentQuery.Log
