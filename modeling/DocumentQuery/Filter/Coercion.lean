import DocumentQuery.Schema.TypeKind
import DocumentQuery.Text.Blank
import DocumentQuery.Time.Timestamp
import DocumentQuery.Value.Basic

/-!
# Coercion

A value in a request is brought to the type that its field has in the store. Coercion never fails:
text that is no number counts as zero, text that is no truth value as false, and text that is no
date or identifier stays as it is. A list is coerced item by item.

* `Coercion.temporal`   : dates from text;
* `Coercion.identifier` : object identifiers from text;
* `Coercion.toKind`     : the coercion of each type kind.
-/

namespace DocumentQuery.Coercion

open Schema (TypeKind)

/-- The texts that count as true. -/
def isTrueText (s : String) : Bool :=
  ["1", "t", "T", "TRUE", "true", "True"].contains s

/-- The date of a text that denotes one. -/
def temporal (value : Value) : Value :=
  match value with
  | .string s =>
    match Time.Timestamp.parse? s with
    | some ms => .date (Int64.ofInt ms)
    | none => value
  | _ => value

/-- A truth value; null stays null. -/
def boolean : Value → Value
  | .null => .null
  | .bool b => .bool b
  | .string s => .bool (isTrueText s)
  | _ => .bool false

/-- Replaces a text by the number it spells. Blanks around it do not count. -/
def numeric (read : List Char → Value) : Value → Value
  | .string s => read (Text.trim s.toList)
  | value => value

def readSingle (s : List Char) : Value := .double ((Number.single? s).getD .zero)

def readDouble (s : List Char) : Value := .double ((Number.double? s).getD .zero)

def readInt32 (s : List Char) : Value :=
  .int32 (Int32.ofInt ((Number.integerIn? .int32 s).getD 0))

def readInt64 (s : List Char) : Value :=
  .int64 (Int64.ofInt ((Number.integerIn? .int64 s).getD 0))

/-- The coercion of a value that is no list. -/
def leaf : TypeKind → Value → Value
  | .bool => boolean
  | .date | .timestamp => temporal
  | .decimal => numeric readSingle
  | .double => numeric readDouble
  | .int => numeric readInt32
  | .long => numeric readInt64
  | .string | .object | .array | .unknown => id

/-- The object identifier of a text that spells one. -/
def identifierLeaf (value : Value) : Value :=
  match value with
  | .string s =>
    match ObjectId.ofHex? s with
    | some id => .objectId id
    | none => value
  | _ => value

mutual

/-- Applies `f` to a value, or to each item of a list, however deep. -/
def mapLeaves (f : Value → Value) : Value → Value
  | .array items => .array (mapItems f items)
  | value => f value

def mapItems (f : Value → Value) : List Value → List Value
  | [] => []
  | item :: rest => mapLeaves f item :: mapItems f rest

end

/-- The coercion of a type kind. -/
def toKind (kind : TypeKind) (value : Value) : Value := mapLeaves (leaf kind) value

/-- The coercion of the identifier. -/
def identifier (value : Value) : Value := mapLeaves identifierLeaf value

end DocumentQuery.Coercion
