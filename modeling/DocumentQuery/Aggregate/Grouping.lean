import DocumentQuery.Aggregate.Group

/-!
# Groupings

A request to group rows names the fields to group by and, for each function, the fields to apply
it to. It is compiled to the body of a `$group` stage, to the list of its columns, and to a table in
which a label is looked up.

* `Aggregation`         : the request;
* `Indexes`             : every place in a table is that of a column of the label;
* `Grouping.compile`    : its grouping, column by column;
* `Grouping.column?`    : the column of a label, by the table;
* `Grouping.sort?`      : the order of the groups;
* `Grouping.decode`     : the groups of result rows.
-/

namespace DocumentQuery.Aggregate

/-- The fields to group by, and those of each function. -/
structure Aggregation where
  groupBy : List String := []
  count : List String := []
  sum : List String := []
  average : List String := []
  maximum : List String := []
  minimum : List String := []
  deriving DecidableEq, Repr

def Aggregation.fields (aggregation : Aggregation) : Function → List String
  | .count => aggregation.count
  | .sum => aggregation.sum
  | .average => aggregation.average
  | .maximum => aggregation.maximum
  | .minimum => aggregation.minimum

/-- The columns of all functions, in order. -/
def Aggregation.columns (aggregation : Aggregation) : List Column :=
  Function.all.flatMap fun function => (aggregation.fields function).map (Column.mk function)

/-- The reference to a field of a row. -/
def reference (field : String) : Value := .string ("$" ++ field)

/-- One for each row whose field is there and not null. -/
def countAccumulator (field : String) : Document :=
  let absent : Value :=
    .array
      [.document [("$type", reference field)], .array [.string "missing", .string "null"]]
  let condition : Document :=
    [("if", .document [("$in", absent)]), ("then", .int32 0), ("else", .int32 1)]
  [("$sum", .document [("$cond", .document condition)])]

/-- The accumulator of a column. -/
def Column.accumulator (column : Column) : Document :=
  match column.function with
  | .count => countAccumulator column.field
  | .sum => [("$sum", reference column.field)]
  | .average => [("$avg", reference column.field)]
  | .maximum => [("$max", reference column.field)]
  | .minimum => [("$min", reference column.field)]

/-- Each label leads to the place of a column that has it. -/
def Indexes (lookup : SortedMap Nat) (columns : List Column) : Prop :=
  ∀ label place, lookup.get? label = some place →
    ∃ column, columns[place]? = some column ∧ column.label = label

namespace Indexes

theorem empty : Indexes .empty [] := nofun

/-- A new label leads to the end. Where it has been there before, it no longer leads to its old
place. -/
theorem append {lookup : SortedMap Nat} {columns : List Column} (h : Indexes lookup columns)
    (column : Column) :
    Indexes (lookup.insert column.label columns.length) (columns ++ [column]) := by
  intro label place hplace
  rw [SortedMap.get?_insert] at hplace
  split at hplace
  · rename_i hlabel
    cases hplace
    exact ⟨column, by simp, hlabel⟩
  · obtain ⟨other, hother, hlabel⟩ := h label place hplace
    have hlt : place < columns.length := (List.getElem?_eq_some_iff.1 hother).1
    exact ⟨other, (List.getElem?_append_left hlt).trans hother, hlabel⟩

end Indexes

/-- A compiled grouping. -/
structure Grouping where
  /-- The body of the `$group` stage. -/
  body : Document
  groupBy : List String
  columns : List Column
  /-- The place of each label among the columns. -/
  lookup : SortedMap Nat
  indexes : Indexes lookup columns

namespace Grouping

/-- The expression of the group keys; null puts all rows into one group. -/
def keysValue (groupBy : List String) : Value :=
  if groupBy.isEmpty then .null
  else .document (Entries.ofPairs (groupBy.map fun field => (groupLabel field, reference field)))

/-- The grouping without columns. -/
def start (groupBy : List String) : Grouping where
  body := [(Group.keysKey, keysValue groupBy)]
  groupBy := groupBy
  columns := []
  lookup := .empty
  indexes := .empty

/-- One more column, in the body, in the list and in the table. -/
def add (grouping : Grouping) (column : Column) : Grouping where
  body := Entries.put column.label (.document column.accumulator) grouping.body
  groupBy := grouping.groupBy
  columns := grouping.columns ++ [column]
  lookup := grouping.lookup.insert column.label grouping.columns.length
  indexes := grouping.indexes.append column

/-- The grouping of a request that names some function of a field. -/
def compile (aggregation : Aggregation) : Except QueryError Grouping :=
  if aggregation.columns.isEmpty then .error .noFunctions
  else .ok (aggregation.columns.foldl add (start aggregation.groupBy))

/-- The groups in ascending order of their keys, unless there is only one group. -/
def sort? (grouping : Grouping) : Option Document :=
  if grouping.groupBy.isEmpty then none
  else
    some <| Entries.ofPairs <| grouping.groupBy.map fun field =>
      (Group.keysKey ++ "." ++ groupLabel field, Value.int32 1)

theorem place_lt {grouping : Grouping} {label : String} {place : Nat}
    (h : grouping.lookup.get? label = some place) : place < grouping.columns.length := by
  obtain ⟨column, hcolumn, -⟩ := grouping.indexes label place h
  exact (List.getElem?_eq_some_iff.1 hcolumn).1

/-- The requested column of a label: the one at its place. -/
def column? (grouping : Grouping) (label : String) : Option Column :=
  match h : grouping.lookup.get? label with
  | some place => some (grouping.columns.get ⟨place, place_lt h⟩)
  | none => none

/-- What a column holds: what was requested under its label, or else what the label says. -/
def resolve (grouping : Grouping) (label : String) : Except QueryError Slot :=
  match grouping.column? label with
  | some column => .ok (.value column)
  | none => Slot.parse label

/-- The groups of result rows. -/
def decode (grouping : Grouping) (rows : List Document) : Except QueryError (List Group) :=
  rows.mapM (Group.ofRow grouping.resolve)

end Grouping

end DocumentQuery.Aggregate
