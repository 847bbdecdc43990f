import DocumentQuery.Filter.Parser
import DocumentQuery.Number.Range
import DocumentQuery.Request.Basic

/-!
# Requests as JSON

Requests are JSON objects whose members may all be left out; members that a request does not know
are ignored. Requests of one level may also be lists of their members' values, in order. The first
member that does not fit is the error.

* `FindRequest.ofJson`, `AggregateRequest.ofJson`, `CursorRequest.ofJson` : the three kinds of
  requests;
* `Paging.ofJson`, `Aggregation.ofJson` : the parts that are requests of one level.
-/

namespace DocumentQuery

/-- Why JSON is no request. -/
inductive RequestError where
  | shape
  | filter (part : Filter.Malformed)
  deriving DecidableEq, Repr

namespace RequestError

def message : RequestError → String
  | shape => "malformed request"
  | filter part =>
    "invalid filter at \x27" ++ part.location ++ "\x27: " ++ part.expected.description

end RequestError

namespace Request

/-- The result of reading a part. -/
abbrev Read (α : Type) := Except RequestError α

/-- A count of 64 bits. -/
def readCount : Json → Read UInt64
  | .integer n =>
    if Number.Range.uint64.holds n then .ok (UInt64.ofNat n.toNat) else .error .shape
  | _ => .error .shape

def readText : Json → Read String
  | .string s => .ok s
  | _ => .error .shape

/-- Null, or what `read` reads. -/
def readOptional {α : Type} (read : Json → Read α) : Json → Read (Option α)
  | .null => .ok none
  | json => (read json).map some

def readTexts : Json → Read (List String)
  | .array items => items.mapM readText
  | _ => .error .shape

def readFilter (json : Json) : Read Filter := (Filter.ofJson json).mapError .filter

/-- The name of a side, alone or as the key of an object that holds null. -/
def readSide (json : Json) : Read Side :=
  let name :=
    match json with
    | .string name => some name
    | .object [(name, .null)] => some name
    | _ => none
  match name with
  | some "before" => .ok .before
  | some "after" => .ok .after
  | _ => .error .shape

/-- Reads the members of an object one after the other into `start`. -/
def readMembers {α : Type} (member : α → String × Json → Read α) (start : α) :
    Entries Json → Read α :=
  List.foldlM member start

/-- Reads an object, or a list of the values of the members `keys`, of which the last ones may be
left out. -/
def readFlat {α : Type} (member : α → String × Json → Read α) (start : α) (keys : List String) :
    Json → Read α
  | .object members => readMembers member start members
  | .array items => do
    let read ← readMembers member start (keys.zip items)
    if items.length ≤ keys.length then .ok read else .error .shape
  | _ => .error .shape

end Request

namespace Paging

open Request

def member (paging : Paging) : String × Json → Read Paging
  | ("limit", json) => (readOptional readCount json).map fun n => { paging with limit := n }
  | ("offset", json) => (readOptional readCount json).map fun n => { paging with offset := n }
  | ("skip", json) => (readOptional readCount json).map fun n => { paging with skip := n }
  | ("page", json) => (readOptional readCount json).map fun n => { paging with page := n }
  | ("size", json) => (readOptional readCount json).map fun n => { paging with size := n }
  | _ => .ok paging

def keys : List String := ["limit", "offset", "skip", "page", "size"]

/-- A list has to have all five values. -/
def ofJson (json : Json) : Read Paging := do
  let paging ← readFlat member {} keys json
  match json with
  | .array items => if items.length = keys.length then .ok paging else .error .shape
  | _ => .ok paging

end Paging

namespace Aggregate.Aggregation

open Request

def member (aggregation : Aggregation) : String × Json → Read Aggregation
  | ("groupBy", json) => (readTexts json).map fun l => { aggregation with groupBy := l }
  | ("count", json) => (readTexts json).map fun l => { aggregation with count := l }
  | ("sum", json) => (readTexts json).map fun l => { aggregation with sum := l }
  | ("avg", json) => (readTexts json).map fun l => { aggregation with average := l }
  | ("max", json) => (readTexts json).map fun l => { aggregation with maximum := l }
  | ("min", json) => (readTexts json).map fun l => { aggregation with minimum := l }
  | _ => .ok aggregation

def keys : List String := ["groupBy", "count", "sum", "avg", "max", "min"]

def ofJson (json : Json) : Read Aggregation := readFlat member {} keys json

end Aggregate.Aggregation

namespace FindRequest

open Request

def member (request : FindRequest) : String × Json → Read FindRequest
  | ("filter", json) => (readFilter json).map fun f => { request with filter := f }
  | ("sort", json) => (readTexts json).map fun l => { request with sort := l }
  | ("fields", json) => (readTexts json).map fun l => { request with fields := l }
  | _ => .ok request

/-- The window stands among the other members and is read after them. -/
def ofJson : Json → Read FindRequest
  | .object members => do
    let request ← readMembers member {} members
    let paging ← readMembers Paging.member {} members
    .ok { request with paging := paging }
  | _ => .error .shape

end FindRequest

namespace AggregateRequest

open Request

def member (request : AggregateRequest) : String × Json → Read AggregateRequest
  | ("filter", json) => (readFilter json).map fun f => { request with filter := f }
  | _ => .ok request

/-- The aggregation stands among the other members and is read after them. -/
def ofJson : Json → Read AggregateRequest
  | .object members => do
    let request ← readMembers member {} members
    let aggregation ← readMembers Aggregate.Aggregation.member {} members
    .ok { request with aggregation := aggregation }
  | _ => .error .shape

end AggregateRequest

namespace CursorRequest

open Request

def member (request : CursorRequest) : String × Json → Read CursorRequest
  | ("filter", json) => (readFilter json).map fun f => { request with filter := f }
  | ("sort", json) => (readTexts json).map fun l => { request with sort := l }
  | ("fields", json) => (readTexts json).map fun l => { request with fields := l }
  | ("cursor", json) => (readOptional readText json).map fun c => { request with cursor := c }
  | ("direction", json) => (readSide json).map fun s => { request with side := s }
  | ("limit", json) => (readCount json).map fun n => { request with limit := n }
  | _ => .ok request

def keys : List String := ["filter", "sort", "fields", "cursor", "direction", "limit"]

def ofJson (json : Json) : Read CursorRequest := readFlat member {} keys json

end CursorRequest

end DocumentQuery
