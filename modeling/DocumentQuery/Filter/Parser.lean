import DocumentQuery.Filter.Basic

/-!
# Filters as JSON

A filter is a JSON object. The keys `and` and `or` hold lists of filters; any other key is the
name of a field and holds an object of operators with their values. Null is the empty filter.

* `Filter.ofJson`    : the filter of a JSON value, or the first part that does not fit;
* `Malformed`        : such a part, with the way to it.
-/

namespace DocumentQuery.Filter

/-- A step from a JSON value into it. -/
inductive Step where
  | member (key : String)
  | item (index : Nat)
  deriving DecidableEq, Repr

/-- What a part of a filter has to be. -/
inductive Shape where
  | filter
  | filterList
  | operators
  deriving DecidableEq, Repr

/-- A part that has not the shape it needs; `path` leads there from the root. -/
structure Malformed where
  path : List Step
  expected : Shape
  deriving DecidableEq, Repr

def Step.render : Step → String
  | member key => "." ++ key
  | item index => "[" ++ toString index ++ "]"

def Malformed.location (m : Malformed) : String := "$" ++ String.join (m.path.map Step.render)

def Shape.description : Shape → String
  | filter => "expected an object"
  | filterList => "expected a list of filters"
  | operators => "expected an operator object"

def conjunctionKey : String := "and"

def disjunctionKey : String := "or"

/-- The comparisons of a field. -/
def ofOperators (path : List Step) (field : String) (json : Json) :
    Except Malformed FieldComparisons :=
  match json with
  | .object operators =>
    .ok ⟨field, operators.map fun (name, raw) => ⟨Operator.parse name, Value.ofJson raw⟩⟩
  | _ => .error ⟨path, .operators⟩

mutual

/-- The filter of a JSON object that lies at `path`. -/
def ofObject (path : List Step) : Json → Except Malformed Filter
  | .object members => ofMembers path members
  | _ => .error ⟨path, .filter⟩

def ofMembers (path : List Step) : List (String × Json) → Except Malformed (List Clause)
  | [] => .ok []
  | (key, json) :: rest => do
    let here := path ++ [.member key]
    let clause ←
      if key = conjunctionKey then (ofGroup here json).map .allOf
      else if key = disjunctionKey then (ofGroup here json).map .anyOf
      else (ofOperators here key json).map .field
    let clauses ← ofMembers path rest
    .ok (clause :: clauses)

def ofGroup (path : List Step) : Json → Except Malformed (List (List Clause))
  | .array items => ofItems path 0 items
  | _ => .error ⟨path, .filterList⟩

def ofItems (path : List Step) (index : Nat) :
    List Json → Except Malformed (List (List Clause))
  | [] => .ok []
  | json :: rest => do
    let filter ← ofObject (path ++ [.item index]) json
    let filters ← ofItems path (index + 1) rest
    .ok (filter :: filters)

end

/-- The filter of a JSON value. -/
def ofJson : Json → Except Malformed Filter
  | .null => .ok []
  | json => ofObject [] json

end DocumentQuery.Filter
