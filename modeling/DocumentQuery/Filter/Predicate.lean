import DocumentQuery.Filter.Comparison

/-!
# Predicates of filters

A filter becomes one document. The comparisons of a field are alternatives, the fields of a filter
all hold, and groups are written with `$and` and `$or`. A list of one is written without its
operator, and the empty filter is the empty document.

* `Filter.predicate`     : the predicate of given conjuncts and alternatives;
* `Filter.compile`       : the predicate of a filter, or the first error within it.
-/

namespace DocumentQuery.Filter

/-- The documents under an operator, unless there is just one of them or none. -/
def combine (operator : String) : List Document → Document
  | [] => []
  | [single] => single
  | documents => [(operator, .array (documents.map .document))]

def andKey : String := "$and"

def orKey : String := "$or"

/-- The predicate of the comparisons of one field, of which any may hold. -/
def compileField (collection : Collection) (own : FieldComparisons) :
    Except QueryError Document := do
  let compiled ← own.comparisons.mapM (Comparison.compile collection own.field)
  .ok (combine orKey compiled)

/-- The predicate of the comparisons that a filter itself makes. -/
def compileFields (collection : Collection) (fields : List FieldComparisons) :
    Except QueryError Document := do
  let compiled ← fields.mapM (compileField collection)
  .ok (combine andKey compiled)

/-- The documents under an operator, unless there is none. -/
def group (operator : String) (documents : List Document) : Document :=
  if documents.isEmpty then [] else [(operator, .array (documents.map .document))]

/-- The predicate of a filter, from those of its conjuncts, of its alternatives and of its own
fields. Own fields that say nothing are left out. -/
def predicate (conjuncts alternatives : List Document) (own : Document) : Document :=
  let conjuncts := if own.isEmpty then conjuncts else conjuncts ++ [own]
  match conjuncts, alternatives with
  | [single], [] => single
  | _, _ => group andKey conjuncts ++ group orKey alternatives

mutual

/-- The predicates of the filters in a group that must hold. -/
def clauseConjuncts (collection : Collection) : Clause → Except QueryError (List Document)
  | .allOf filters => compileAll collection filters
  | .anyOf _ => .ok []
  | .field _ => .ok []

/-- The predicates of the filters in a group of which one must hold. -/
def clauseAlternatives (collection : Collection) : Clause → Except QueryError (List Document)
  | .anyOf filters => compileAll collection filters
  | .allOf _ => .ok []
  | .field _ => .ok []

/-- The predicates of the filters in all groups that must hold. -/
def compileConjuncts (collection : Collection) : List Clause → Except QueryError (List Document)
  | [] => .ok []
  | clause :: rest => do
    let documents ← clauseConjuncts collection clause
    let others ← compileConjuncts collection rest
    .ok (documents ++ others)

/-- The predicates of the filters in all groups of which one must hold. -/
def compileAlternatives (collection : Collection) :
    List Clause → Except QueryError (List Document)
  | [] => .ok []
  | clause :: rest => do
    let documents ← clauseAlternatives collection clause
    let others ← compileAlternatives collection rest
    .ok (documents ++ others)

/-- The predicates of filters, each from its conjuncts, then its alternatives, then its own
fields. -/
def compileAll (collection : Collection) :
    List (List Clause) → Except QueryError (List Document)
  | [] => .ok []
  | filter :: rest => do
    let conjuncts ← compileConjuncts collection filter
    let alternatives ← compileAlternatives collection filter
    let own ← compileFields collection (fields filter)
    let documents ← compileAll collection rest
    .ok (predicate conjuncts alternatives own :: documents)

end

/-- The predicate of a filter, or the first error within it: in its conjuncts, then in its
alternatives, then in its own fields. -/
def compile (collection : Collection) (filter : Filter) : Except QueryError Document := do
  let conjuncts ← compileConjuncts collection filter
  let alternatives ← compileAlternatives collection filter
  let own ← compileFields collection (fields filter)
  .ok (predicate conjuncts alternatives own)

end DocumentQuery.Filter
