import DocumentQuery.Value.Basic

/-!
# Values as bytes give them

A document in bytes is looked at element by element, and damage counts only where somebody looks.
`Raw` is all that the bytes say, the place of the damage included.

* `Raw`          : a value as bytes give it;
* `Raw.text?`    : a value read as text;
* `Raw.integer?` : a value read as a whole number;
* `Raw.bytes?`   : a value read as bytes;
* `Raw.pair?`    : a value read as a record of two fields.
-/

namespace DocumentQuery.Bson

/-- A value as bytes give it. Keys may be repeated. -/
inductive Raw where
  /-- A value that holds no other values. -/
  | leaf (value : Value)
  | array (items : List Raw)
  | document (elements : List (String × Raw))
  | codeWithScope (source : String) (scope : List (String × Raw))
  /-- Bytes that are no value. Nothing can be told of what follows them. -/
  | broken
  deriving Inhabited, Repr

namespace Raw

/-- A text, or the text whose UTF-8 form a binary value of the general subtype is. -/
def text? : Raw → Option String
  | leaf (.string text) => some text
  | leaf (.binary 0 bytes) => Text.ofBytes? bytes
  | _ => none

/-- A whole number of either integer type. -/
def integer? : Raw → Option Int
  | leaf (.int32 n) => some n.toInt
  | leaf (.int64 n) => some n.toInt
  | _ => none

def integerIn? (range : Number.Range) (raw : Raw) : Option Int :=
  (integer? raw).filter range.holds

def byte? (raw : Raw) : Option UInt8 :=
  (integerIn? .uint8 raw).map fun n => UInt8.ofNat n.toNat

/-- A binary value of the general subtype, the UTF-8 form of a text, or a list of bytes. -/
def bytes? : Raw → Option Bytes
  | leaf (.binary 0 bytes) => some bytes
  | leaf (.string text) => some (Text.toBytes text)
  | array items => items.mapM byte?
  | _ => none

/-- The fields of a record: exactly the keys `first` and `second`, in either order, or the first
two items of an array. -/
def pair? (first second : String) : Raw → Option (Raw × Raw)
  | document [(a, x), (b, y)] =>
    if a = first ∧ b = second then some (x, y)
    else if a = second ∧ b = first then some (y, x)
    else none
  | array (x :: y :: _) => some (x, y)
  | _ => none

end Raw

end DocumentQuery.Bson
