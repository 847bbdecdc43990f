import DocumentQuery.Map.SortedMap
import DocumentQuery.Text.LowerCase

/-!
# Comparison operators

Operators are named without regard to case. A name that is not known is kept: a configuration may
say what it stands for.

* `Operator.parse`       : the operator of a name;
* `Operator.name`        : the name in lower case;
* `OperatorTable`        : which operator of the store each name stands for.
-/

namespace DocumentQuery.Filter

inductive Operator where
  | equal
  | notEqual
  | greater
  | greaterEqual
  | less
  | lessEqual
  | isIn
  | notIn
  | is
  | isNot
  | between
  | notBetween
  /-- A name in lower case that is none of the above. -/
  | custom (name : String)
  deriving DecidableEq, Inhabited, Repr

namespace Operator

def ofLowerCase (name : String) : Operator :=
  match name with
  | "eq" => equal
  | "neq" => notEqual
  | "gt" => greater
  | "gte" => greaterEqual
  | "lt" => less
  | "lte" => lessEqual
  | "in" => isIn
  | "notin" => notIn
  | "is" => is
  | "isnot" => isNot
  | "between" => between
  | "notbetween" => notBetween
  | _ => custom name

/-- The operator of a name of any case. -/
def parse (name : String) : Operator := ofLowerCase (Text.lowerCase name)

def name : Operator → String
  | equal => "eq"
  | notEqual => "neq"
  | greater => "gt"
  | greaterEqual => "gte"
  | less => "lt"
  | lessEqual => "lte"
  | isIn => "in"
  | notIn => "notin"
  | is => "is"
  | isNot => "isnot"
  | between => "between"
  | notBetween => "notbetween"
  | custom name => name

def isCustom : Operator → Bool
  | custom _ => true
  | _ => false

/-- The value is a pair of bounds. -/
def isRange : Operator → Bool
  | between | notBetween => true
  | _ => false

/-- The value is a list. -/
def requiresList : Operator → Bool
  | isIn | notIn => true
  | _ => false

end Operator

/-- The operators of the store by name. -/
structure OperatorTable where
  entries : SortedMap String

namespace OperatorTable

def standard : OperatorTable where
  entries := .ofList
    [("eq", "$eq"), ("neq", "$ne"), ("gt", "$gt"), ("gte", "$gte"), ("lt", "$lt"),
      ("lte", "$lte"), ("in", "$in"), ("notin", "$nin"), ("is", "$eq"), ("isnot", "$ne")]

/-- The table with other entries over it, their names in lower case; of several entries for one
name the last one counts. -/
def override (table : OperatorTable) (entries : Entries String) : OperatorTable :=
  ⟨table.entries.insertAll (entries.map fun (name, native) => (Text.lowerCase name, native))⟩

/-- The operator of the store for a name in lower case. -/
def native? (table : OperatorTable) (name : String) : Option String := table.entries.get? name

end OperatorTable

end DocumentQuery.Filter
