import DocumentQuery.Json.Printer
import DocumentQuery.Log.Event
import DocumentQuery.Map.SortedMap

/-!
# Log lines

One event is one line: a JSON object with the event, its severity, and then the fields in
ascending order of their keys. Of a repeated key the last text counts. Fields cannot take the
place of the first two keys.

* `Entry`         : an event with its fields;
* `Entry.line`    : its line;
* `Entry.written` : what is written of it.
-/

namespace DocumentQuery.Log

structure Entry where
  severity : Severity
  event : String
  fields : List (String × String) := []
  deriving DecidableEq, Repr

namespace Entry

def eventKey : String := "event"

def severityKey : String := "severity"

/-- The fields under their own keys. -/
def ownFields (entry : Entry) : SortedMap String :=
  .ofList (entry.fields.filter fun field => field.1 ≠ eventKey && field.1 ≠ severityKey)

/-- The entry as a JSON object. -/
def toJson (entry : Entry) : Json :=
  .object <|
    (eventKey, .string entry.event) :: (severityKey, .string entry.severity.name) ::
      entry.ownFields.toList.map fun (key, text) => (key, .string text)

def line (entry : Entry) : String := entry.toJson.render ++ "\n"

/-- What is written of an entry where `least` is the least severity. -/
def written (least : Severity) (entry : Entry) : String :=
  if Severity.enabled least entry.severity then entry.line else ""

/-- An event of the program. -/
def lifecycle (event : Event) (fields : List (String × String)) : Entry :=
  ⟨event.lifecycle, event.name, fields⟩

/-- An event of a single request. -/
def perRequest (event : Event) (fields : List (String × String)) : Entry :=
  ⟨event.perRequest, event.name, fields⟩

end Entry

/-- What is written of several entries. -/
def transcript (least : Severity) (entries : List Entry) : String :=
  String.join (entries.map (Entry.written least))

end DocumentQuery.Log
