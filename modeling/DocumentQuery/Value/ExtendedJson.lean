import DocumentQuery.Text.Base64
import DocumentQuery.Time.Timestamp
import DocumentQuery.Value.Basic

/-!
# Values as JSON

The relaxed form of extended JSON: numbers, texts, lists and documents stand for themselves, and
values of the other types are objects whose only key begins with a dollar sign. What the scope of
code holds has a form of its own, in which some types are lost.

* `Value.toJson`    : a value as JSON in either form;
* `Document.toJson` : a document as a JSON object in relaxed form.
-/

namespace DocumentQuery

/-- Where a value is written decides its form. -/
inductive JsonForm where
  | relaxed
  /-- The form of what the scope of code holds. -/
  | scope
  deriving DecidableEq, Repr

namespace Value

/-- An object with one member. -/
def tagged (key : String) (json : Json) : Json := .object [(key, json)]

def intJson (n : Int) : Json := .integer n

/-- A number that is not finite has no form of its own in a scope. -/
def doubleJson (form : JsonForm) (x : Number.Double) : Json :=
  if x.isFinite then .real x
  else
    match form with
    | .scope => .null
    | .relaxed =>
      let word := if x.isNaN then "NaN" else "Infinity"
      tagged "$numberDouble" (.string (if x.isNegative then "-" ++ word else word))

def millisecondsJson (ms : Int) : Json := tagged "$numberLong" (.string (toString ms))

/-- In relaxed form a time from 1970 to 9999 is written as text. Any other one is a number of
milliseconds. -/
def dateJson (form : JsonForm) (ms : Int) : Json :=
  tagged "$date" <|
    match form with
    | .scope => millisecondsJson ms
    | .relaxed =>
      match Time.Timestamp.render? ms with
      | some text => .string text
      | none => millisecondsJson ms

/-- In a scope, bytes of the general subtype are a list of numbers. -/
def binaryJson (form : JsonForm) (subtype : UInt8) (bytes : Bytes) : Json :=
  if form = .scope ∧ subtype = 0 then .array (bytes.map fun byte => intJson byte.toNat)
  else
    tagged "$binary" <| .object
      [("base64", .string (String.ofList (Text.Base64.encodePadded bytes))),
        ("subType", .string (String.ofList (Text.Hex.encode [subtype])))]

def objectIdJson (id : ObjectId) : Json := tagged "$oid" (.string id.toHex)

mutual

/-- A value as JSON. -/
def toJson (form : JsonForm) : Value → Json
  | null => .null
  | bool b => .bool b
  | int32 n => intJson n.toInt
  | int64 n => intJson n.toInt
  | double x => doubleJson form x
  | decimal128 d => tagged "$numberDecimal" (.string d.toText)
  | string s => .string s
  | array items => .array (itemsToJson form items)
  | document entries => .object (entriesToJson form entries)
  | date ms => dateJson form ms.toInt
  | objectId id => objectIdJson id
  | binary subtype bytes => binaryJson form subtype bytes
  | timestamp time increment =>
    tagged "$timestamp" (.object [("t", intJson time.toNat), ("i", intJson increment.toNat)])
  | regex pattern options =>
    tagged "$regularExpression"
      (.object [("pattern", .string pattern), ("options", .string (sortOptions options))])
  | code source => tagged "$code" (.string source)
  | codeWithScope source scope =>
    .object [("$code", .string source), ("$scope", .object (entriesToJson .scope scope))]
  | symbol name => tagged "$symbol" (.string name)
  | minKey => tagged "$minKey" (.integer 1)
  | maxKey => tagged "$maxKey" (.integer 1)
  | undefined => tagged "$undefined" (.bool true)
  | dbPointer collection id =>
    tagged "$dbPointer" (.object [("$ref", .string collection), ("$id", objectIdJson id)])

def itemsToJson (form : JsonForm) : List Value → List Json
  | [] => []
  | item :: rest => toJson form item :: itemsToJson form rest

def entriesToJson (form : JsonForm) : List (String × Value) → List (String × Json)
  | [] => []
  | (key, value) :: rest => (key, toJson form value) :: entriesToJson form rest

end

end Value

namespace Document

/-- A document as a JSON object. -/
def toJson (document : Document) : Json := .object (Value.entriesToJson .relaxed document)

end Document

end DocumentQuery
