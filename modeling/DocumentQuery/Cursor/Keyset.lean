import DocumentQuery.Query.SortOrder
import DocumentQuery.Request.Basic

/-!
# Boundaries

The rows on one side of a cursor's row are those that meet a predicate on the fields of the sort
order. The order always has the identifier in it, so that no two rows are equal in it.

* `Keyset.effectiveSort` : the sort order of tokens, with the identifier;
* `Keyset.operator`      : the operator that compares with the cursor's row;
* `Keyset.boundary`      : the predicate.
-/

namespace DocumentQuery.Cursor.Keyset

/-- The sort order of tokens. Where it lacks the identifier that comes first, ascending. -/
def effectiveSort (config : Config) (tokens : List String) : SortOrder :=
  let sort := tokens.map (SortField.ofToken config)
  if sort.any fun s => s.field = config.idField then sort
  else ⟨config.idField, .ascending⟩ :: sort

/-- The operator of the boundary, from the side and the direction of the first field. -/
def operator (side : Side) (first : Direction) : String :=
  match side, first with
  | .after, .ascending => "$gt"
  | .after, .descending => "$lt"
  | .before, .ascending => "$lt"
  | .before, .descending => "$gt"

/-- A cursor's value as the values of a field are stored: texts of dates become dates. -/
def coerce (collection : Collection) (field : String) (value : Value) : Value :=
  match collection.catalog.kind? field with
  | some kind => if kind.isTemporal then Coercion.temporal value else value
  | none => value

/-- The condition on one field. -/
def condition (collection : Collection) (operator field : String) (value : Value) : Value :=
  .document [(field, .document [(operator, coerce collection field value)])]

/-- The lists of the first one, two, … conditions, each as conjuncts. -/
def alternatives (conditions : List Value) : List Value :=
  (List.range conditions.length).map fun i =>
    .document [("$and", .array (conditions.take (i + 1)))]

/-- The predicate of the rows on one side of those values, and none without values. There has to
be one value for each field. -/
def boundary (collection : Collection) (sort : SortOrder) (values : List Value) (side : Side) :
    Except QueryError (Option Document) :=
  if values.isEmpty then .ok none
  else if values.length ≠ sort.length then
    .error (.cursorLength values.length sort.length)
  else do
    sort.forM fun s => collection.check s.field
    match sort with
    | [] => .ok none
    | first :: _ =>
      let operator := operator side first.direction
      let conditions := sort.zipWith (fun s value => condition collection operator s.field value)
        values
      .ok (some [("$or", .array (alternatives conditions))])

end DocumentQuery.Cursor.Keyset
