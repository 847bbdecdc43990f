import DocumentQuery.Query.Error

/-!
# Columns of grouped results

A grouped result has a column for each group key and for each function of a field. Its name, the
label, is the function's name or `group_by`, an underscore, and the field.

* `Column.label`, `groupLabel` : the label of a column;
* `Slot`                       : what a column holds;
* `Slot.parse`                 : what the column of a label holds.
-/

namespace DocumentQuery.Aggregate

inductive Function where
  | count
  | sum
  | average
  | maximum
  | minimum
  deriving DecidableEq, Repr

namespace Function

/-- The functions in the order of their columns. -/
def all : List Function := [count, sum, average, maximum, minimum]

def name : Function → String
  | count => "count"
  | sum => "sum"
  | average => "avg"
  | maximum => "max"
  | minimum => "min"

end Function

/-- A function of a field. -/
structure Column where
  function : Function
  field : String
  deriving DecidableEq, Repr

def joined (lead field : String) : String := lead ++ "_" ++ field

def Column.label (column : Column) : String := joined column.function.name column.field

def groupLead : String := "group_by"

/-- The label of a group key. -/
def groupLabel (field : String) : String := joined groupLead field

/-- What a column holds: a group key, or a function of a field. -/
inductive Slot where
  | key (field : String)
  | value (column : Column)
  deriving DecidableEq, Repr

namespace Slot

def label : Slot → String
  | key field => groupLabel field
  | value column => column.label

/-- What follows `lead` and an underscore, unless nothing does. -/
def fieldAfter? (lead : String) (label : String) : Option String := do
  let rest ← (joined lead "").toList.isPrefixOf? label.toList
  if rest.isEmpty then none else some (String.ofList rest)

/-- What the column of a label holds. -/
def parse? (label : String) : Option Slot :=
  let value? (function : Function) : Option Slot :=
    (fieldAfter? function.name label).map fun field => .value ⟨function, field⟩
  (Function.all.findSome? value?).or ((fieldAfter? groupLead label).map .key)

def parse (label : String) : Except QueryError Slot :=
  match parse? label with
  | some slot => .ok slot
  | none => .error (.unknownColumn label)

end Slot

end DocumentQuery.Aggregate
