import DocumentQuery.Map.Entries
import DocumentQuery.Json.Basic
import DocumentQuery.Number.Decimal128
import DocumentQuery.Number.Range
import DocumentQuery.Value.ObjectId

/-!
# Document values

The values that a document store keeps, each with its own type: numbers of four kinds, dates,
identifiers and the rest.

* `Value`        : a value;
* `Document`     : ordered entries of values;
* `Value.ofJson` : the value that a JSON value stands for.
-/

namespace DocumentQuery

inductive Value where
  | null
  | bool (value : Bool)
  | int32 (value : Int32)
  | int64 (value : Int64)
  | double (value : Number.Double)
  | decimal128 (value : Number.Decimal128)
  | string (value : String)
  | array (items : List Value)
  | document (entries : List (String × Value))
  /-- A point in time, in milliseconds since 1970. -/
  | date (milliseconds : Int64)
  | objectId (id : ObjectId)
  | binary (subtype : UInt8) (bytes : Bytes)
  /-- An internal time of the store: seconds, and a count within the second. -/
  | timestamp (time increment : UInt32)
  | regex (pattern options : String)
  | code (source : String)
  | codeWithScope (source : String) (scope : List (String × Value))
  | symbol (name : String)
  | minKey
  | maxKey
  | undefined
  | dbPointer (collection : String) (id : ObjectId)
  deriving Inhabited, Repr

/-- Ordered entries. Those built by `Entries.put` hold each key once. -/
abbrev Document := Entries Value

namespace Value

/-- The name of a value's type. -/
def typeName : Value → String
  | null => "Null"
  | bool _ => "Boolean"
  | int32 _ => "Int32"
  | int64 _ => "Int64"
  | double _ => "Double"
  | decimal128 _ => "Decimal128"
  | string _ => "String"
  | array _ => "Array"
  | document _ => "EmbeddedDocument"
  | date _ => "DateTime"
  | objectId _ => "ObjectId"
  | binary _ _ => "Binary"
  | timestamp _ _ => "Timestamp"
  | regex _ _ => "RegularExpression"
  | code _ => "JavaScriptCode"
  | codeWithScope _ _ => "JavaScriptCodeWithScope"
  | symbol _ => "Symbol"
  | minKey => "MinKey"
  | maxKey => "MaxKey"
  | undefined => "Undefined"
  | dbPointer _ _ => "DbPointer"

def array? : Value → Option (List Value)
  | array items => some items
  | _ => none

def document? : Value → Option Document
  | document entries => some entries
  | _ => none

/-- The options of a regular expression in order. Written forms keep them so. -/
def sortOptions (options : String) : String :=
  String.ofList (options.toList.mergeSort fun a b => a.toNat ≤ b.toNat)

/-- A whole number takes the smaller of the two integer types that holds it. -/
def ofInt (n : Int) : Value :=
  if Number.Range.int32.holds n then int32 (Int32.ofInt n)
  else if Number.Range.int64.holds n then int64 (Int64.ofInt n)
  else double (.ofInt n)

mutual

/-- The value that a JSON value stands for. -/
def ofJson : Json → Value
  | .null => null
  | .bool b => bool b
  | .integer n => ofInt n
  | .real x => double x
  | .string s => string s
  | .array items => array (ofJsonItems items)
  | .object members => document (Entries.ofPairs (ofJsonMembers members))

def ofJsonItems : List Json → List Value
  | [] => []
  | item :: rest => ofJson item :: ofJsonItems rest

def ofJsonMembers : List (String × Json) → List (String × Value)
  | [] => []
  | (key, value) :: rest => (key, ofJson value) :: ofJsonMembers rest

end

end Value

end DocumentQuery
