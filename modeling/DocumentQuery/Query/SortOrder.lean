import DocumentQuery.Collection

/-!
# Sort orders

A sort order is a list of fields, each with a direction. In a request a field is a token: a leading
`-` means descending, a leading `+` or none ascending.

* `SortField.parse`    : the field of a token;
* `SortOrder.document` : the order as the store takes it;
* `SortOrder.compile`  : the sort document of tokens.
-/

namespace DocumentQuery

inductive Direction where
  | ascending
  | descending
  deriving DecidableEq, Repr

namespace Direction

def name : Direction → String
  | ascending => "asc"
  | descending => "desc"

/-- The direction as the store writes it. -/
def sign : Direction → Int32
  | ascending => 1
  | descending => -1

def reversed : Direction → Direction
  | ascending => descending
  | descending => ascending

end Direction

structure SortField where
  field : String
  direction : Direction
  deriving DecidableEq, Repr

namespace SortField

/-- The field of a token. -/
def parse (token : String) : SortField :=
  match token.toList with
  | '-' :: field => ⟨String.ofList field, .descending⟩
  | '+' :: field => ⟨String.ofList field, .ascending⟩
  | _ => ⟨token, .ascending⟩

/-- The field of a token under its stored name. -/
def ofToken (config : Config) (token : String) : SortField :=
  let parsed := parse token
  ⟨config.resolve parsed.field, parsed.direction⟩

def reversed (s : SortField) : SortField := ⟨s.field, s.direction.reversed⟩

end SortField

/-- Fields to sort by, the first one first. -/
abbrev SortOrder := List SortField

namespace SortOrder

/-- The fields with their directions as the store takes them. A repeated field keeps its first
place and takes its last direction. -/
def document (sort : SortOrder) : Document :=
  Entries.ofPairs (sort.map fun s => (s.field, Value.int32 s.direction.sign))

/-- The sort document of tokens, and none for an empty list. -/
def compile (collection : Collection) (tokens : List String) :
    Except QueryError (Option Document) :=
  if tokens.isEmpty then .ok none
  else do
    let sort := tokens.map (SortField.ofToken collection.config)
    sort.forM fun s => collection.check s.field
    .ok (some (document sort))

end SortOrder

end DocumentQuery
