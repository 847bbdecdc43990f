import DocumentQuery.Aggregate.Column
import DocumentQuery.Map.SortedMap
import DocumentQuery.Value.Basic

/-!
# Decoded groups

A row of a grouped result, taken apart into the values of its group keys and those of its
functions, each by field.

* `Group.merge`    : two parts of a group together;
* `Group.toRecord` : a group as a flat document;
* `Group.ofRow`    : the group of a row.
-/

namespace DocumentQuery.Aggregate

structure Group where
  keys : SortedMap Value
  values : Function → SortedMap Value

namespace Group

def empty : Group := ⟨.empty, fun _ => .empty⟩

/-- The value of a function of a field. -/
def get? (group : Group) (function : Function) (field : String) : Option Value :=
  (group.values function).get? field

def set (group : Group) (slot : Slot) (value : Value) : Group :=
  match slot with
  | .key field => { group with keys := group.keys.insert field value }
  | .value column =>
    { group with
      values := fun function =>
        if function = column.function then (group.values function).insert column.field value
        else group.values function }

/-- The values of both; where both have one, that of `other`. -/
def merge (group other : Group) : Group where
  keys := group.keys.merge other.keys
  values := fun function => (group.values function).merge (other.values function)

/-- Group keys by field, then the columns of each function by label. -/
def toRecord (group : Group) : Document :=
  let columns := Function.all.flatMap fun function =>
    (group.values function).toList.map fun (field, value) =>
      ((Column.mk function field).label, value)
  Entries.ofPairs (group.keys.toList ++ columns)

/-- The key of the document that holds the group keys of a row. -/
def keysKey : String := "_id"

/-- The columns as a group. `resolve` says what a column holds. -/
def ofColumns (resolve : String → Except QueryError Slot) (columns : Document) :
    Except QueryError Group :=
  columns.foldlM (fun group (label, value) => (resolve label).map fun slot => group.set slot value)
    empty

/-- The group of a row: the columns within its group keys, then its other columns over them. -/
def ofRow (resolve : String → Except QueryError Slot) (row : Document) :
    Except QueryError Group := do
  let keys ←
    match Entries.get? keysKey row with
    | some (.document columns) => ofColumns resolve columns
    | _ => .ok empty
  let others ← ofColumns resolve (row.filter fun entry => entry.1 ≠ keysKey)
  .ok (keys.merge others)

/-- The groups of rows, by their labels alone. -/
def ofRows (rows : List Document) : Except QueryError (List Group) := rows.mapM (ofRow Slot.parse)

end Group

end DocumentQuery.Aggregate
