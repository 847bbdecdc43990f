import DocumentQuery.Map.Entries
import DocumentQuery.Number.Floating

/-!
# JSON values

Members keep their order. Numbers are whole numbers or 64-bit floating-point numbers.
-/

namespace DocumentQuery

inductive Json where
  | null
  | bool (value : Bool)
  | integer (value : Int)
  | real (value : Number.Double)
  | string (value : String)
  | array (items : List Json)
  | object (members : List (String × Json))
  deriving Inhabited, Repr

namespace Json

def object? : Json → Option (Entries Json)
  | object members => some members
  | _ => none

def array? : Json → Option (List Json)
  | array items => some items
  | _ => none

def string? : Json → Option String
  | string value => some value
  | _ => none

end Json

end DocumentQuery
