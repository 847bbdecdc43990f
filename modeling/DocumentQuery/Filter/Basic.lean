import DocumentQuery.Filter.Operator
import DocumentQuery.Value.Basic

/-!
# Filters

A filter is a list of clauses, all of which a row has to meet: comparisons of one field, of which
any may hold, and groups of other filters. Clauses keep their order.

* `Clause`, `Filter`          : the syntax of filters;
* `Filter.fields`             : the comparisons of a filter itself;
* `Filter.conjuncts`          : the filters of its groups that must all hold;
* `Filter.alternatives`       : the filters of its groups of which one must hold.
-/

namespace DocumentQuery.Filter

/-- An operator with the value on its right-hand side. -/
structure Comparison where
  operator : Operator
  value : Value
  deriving Inhabited, Repr

/-- The comparisons of one field. More than one means that any of them may hold. -/
structure FieldComparisons where
  field : String
  comparisons : List Comparison
  deriving Inhabited, Repr

inductive Clause where
  | field (own : FieldComparisons)
  | allOf (filters : List (List Clause))
  | anyOf (filters : List (List Clause))
  deriving Inhabited, Repr

end Filter

/-- A list of clauses, all of which must hold. -/
abbrev Filter := List Filter.Clause

namespace Filter

/-- The comparisons that the filter itself makes. -/
def fields (filter : Filter) : List FieldComparisons :=
  filter.filterMap fun
    | .field own => some own
    | _ => none

/-- The filters in all groups that must hold. -/
def conjuncts (filter : Filter) : List Filter :=
  filter.flatMap fun
    | .allOf filters => filters
    | _ => []

/-- The filters in all groups of which one must hold. -/
def alternatives (filter : Filter) : List Filter :=
  filter.flatMap fun
    | .anyOf filters => filters
    | _ => []

end DocumentQuery.Filter
