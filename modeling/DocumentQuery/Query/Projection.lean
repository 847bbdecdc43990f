import DocumentQuery.Collection

/-!
# Projections

The fields of a row that a request asks for. A leading `-` leaves a field out, a leading `+` or
none asks for it.

* `ProjectionField.parse`  : the field of a token;
* `Projection.compile`     : the projection document of tokens.
-/

namespace DocumentQuery

structure ProjectionField where
  field : String
  included : Bool
  deriving DecidableEq, Repr

namespace ProjectionField

/-- The field of a token. -/
def parse (token : String) : ProjectionField :=
  match token.toList with
  | '-' :: field => ⟨String.ofList field, false⟩
  | '+' :: field => ⟨String.ofList field, true⟩
  | _ => ⟨token, true⟩

/-- The field of a token under its stored name. -/
def ofToken (config : Config) (token : String) : ProjectionField :=
  let parsed := parse token
  ⟨config.resolve parsed.field, parsed.included⟩

end ProjectionField

namespace Projection

/-- The fields as the store takes them, one for each that is asked for and zero for the others. -/
def document (fields : List ProjectionField) : Document :=
  Entries.ofPairs (fields.map fun f => (f.field, Value.int32 (if f.included then 1 else 0)))

/-- The projection document of tokens, and none for an empty list. -/
def compile (collection : Collection) (tokens : List String) :
    Except QueryError (Option Document) :=
  if tokens.isEmpty then .ok none
  else do
    let fields := tokens.map (ProjectionField.ofToken collection.config)
    fields.forM fun f => collection.check f.field
    .ok (some (document fields))

end Projection

end DocumentQuery
