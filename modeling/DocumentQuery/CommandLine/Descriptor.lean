import DocumentQuery.CommandLine.Failure
import DocumentQuery.Compilation
import DocumentQuery.Value.ExtendedJson

/-!
# Descriptors

A JSON request of any kind is read, compiled and written as a JSON document.

* `Descriptor.ofRequest` : the descriptor of a request, with what is reported on the way.
-/

namespace DocumentQuery.CommandLine

/-- A result with the log entries that were reported. -/
structure Reported (α : Type) where
  result : Except Failure α
  log : List Log.Entry

namespace Descriptor

/-- A compilation, its result written as JSON. -/
def ofCompilation {α : Type} (toDocument : α → Document) (compilation : Compilation α) :
    Reported Json where
  result := (compilation.result.map fun compiled => (toDocument compiled).toJson).mapError .query
  log := compilation.log

/-- Compiles what has been read of a request. -/
def compile {α : Type} (read : Except RequestError α) (descriptor : α → Reported Json) :
    Reported Json :=
  match read with
  | .ok request => descriptor request
  | .error error => ⟨.error (.request error), []⟩

/-- The descriptor of a request. -/
def ofRequest (kind : Compilation.Kind) (collection : Collection) (json : Json) : Reported Json :=
  match kind with
  | .query =>
    compile (FindRequest.ofJson json) fun request =>
      ofCompilation Find.toDocument (Compilation.find collection request)
  | .aggregate =>
    compile (AggregateRequest.ofJson json) fun request =>
      ofCompilation Aggregate.Pipeline.toDocument (Compilation.pipeline collection request)
  | .cursor =>
    compile (CursorRequest.ofJson json) fun request =>
      ofCompilation CursorQuery.toDocument (Compilation.page collection request)

end Descriptor

end DocumentQuery.CommandLine
