/-!
# Type kinds

What a schema says of a field's values, as far as comparisons need to know.
-/

namespace DocumentQuery.Schema

inductive TypeKind where
  | string
  | bool
  | date
  | timestamp
  /-- Numbers of 32-bit floating-point precision. -/
  | decimal
  | double
  | int
  | long
  | object
  | array
  /-- A declared type that values are not adapted to. -/
  | unknown
  deriving DecidableEq, Repr

namespace TypeKind

/-- The kind of a declared type name, which is matched exactly. -/
def ofName (name : String) : TypeKind :=
  match name with
  | "string" => string
  | "bool" => bool
  | "date" => date
  | "timestamp" => timestamp
  | "decimal" => decimal
  | "double" => double
  | "int" => int
  | "long" => long
  | "object" => object
  | "array" => array
  | _ => unknown

def name : TypeKind → String
  | string => "string"
  | bool => "bool"
  | date => "date"
  | timestamp => "timestamp"
  | decimal => "decimal"
  | double => "double"
  | int => "int"
  | long => "long"
  | object => "object"
  | array => "array"
  | unknown => "unknown"

/-- Values are points in time. -/
def isTemporal : TypeKind → Bool
  | date | timestamp => true
  | _ => false

def isNumeric : TypeKind → Bool
  | decimal | double | int | long => true
  | _ => false

end TypeKind

end DocumentQuery.Schema
