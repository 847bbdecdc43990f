import DocumentQuery.Collection
import DocumentQuery.Filter.Basic

/-!
# Predicates of comparisons

A comparison becomes a document with one entry: the stored name of the field, and under it the
operator of the store with the coerced value.

* `Comparison.compile` : the predicate of one comparison on a field.
-/

namespace DocumentQuery.Filter.Comparison

/-- A document with one entry. -/
def entry (key : String) (value : Value) : Document := [(key, value)]

/-- One bound of a range. Null counts as missing. -/
def bound (collection : Collection) (field operator : String) (bounds : Document) (which : Bound) :
    Except QueryError Value :=
  match Entries.get? which.key bounds with
  | none | some .null => .error (.invalidValue field operator (.missing which))
  | some value => .ok (collection.coerce field value)

/-- The two bounds of a range, the lower one first. -/
def bounds (collection : Collection) (field : String) (comparison : Comparison) :
    Except QueryError (Value × Value) := do
  let operator := comparison.operator.name
  match comparison.value.document? with
  | none => .error (.invalidValue field operator .notARange)
  | some bounds =>
    let lower ← bound collection field operator bounds .lower
    let upper ← bound collection field operator bounds .upper
    .ok (lower, upper)

/-- The conditions of a range: from the lower to the upper bound, or, where it is negated, below
the lower and above the upper one. -/
def rangeConditions (negated : Bool) (lower upper : Value) : Document :=
  if negated then [("$lt", lower), ("$gt", upper)] else [("$gte", lower), ("$lte", upper)]

/-- The value has the shape that the operator needs. -/
def checkShape (field : String) (comparison : Comparison) : Except QueryError Unit :=
  if comparison.operator.requiresList && comparison.value.array?.isNone then
    .error (.invalidValue field comparison.operator.name (.notAList comparison.value.typeName))
  else .ok ()

/-- The predicate of a comparison on a field. A range names the field by its stored name where
its value is at fault, every other operator by the name in the request. -/
def compile (collection : Collection) (field : String) (comparison : Comparison) :
    Except QueryError Document := do
  let stored := collection.config.resolve field
  let operator := comparison.operator
  if operator.isRange then
    let (lower, upper) ← bounds collection stored comparison
    .ok (entry stored (.document (rangeConditions (operator == .notBetween) lower upper)))
  else
    match collection.config.operatorTable.native? operator.name with
    | none => .error (.unknownOperator field operator.name)
    | some native => do
      checkShape field comparison
      .ok (entry stored
        (.document (entry native (collection.coerce stored comparison.value))))

end DocumentQuery.Filter.Comparison
