import DocumentQuery.Value.Basic
import DocumentQuery.Value.Bson.Tag

/-!
# Writing BSON

* `Bson.encode?` : the bytes of a document. A document has none if a key, or the pattern or the
  options of a regular expression, holds a NUL character: the format ends these texts with it.
-/

namespace DocumentQuery.Bson

/-- A text that ends in a zero byte and so holds no other. -/
def keyBytes? (s : String) : Option Bytes :=
  let bytes := Text.toBytes s
  if bytes.contains 0 then none else some (bytes ++ [0])

/-- A text with its length and a zero byte at its end. -/
def textBytes (s : String) : Bytes :=
  let bytes := Text.toBytes s
  littleEndian 4 (bytes.length + 1) ++ bytes ++ [0]

/-- Elements as a document. -/
def framed (elements : Bytes) : Bytes := littleEndian 4 (elements.length + 5) ++ elements ++ [0]

def binaryBytes (subtype : UInt8) (bytes : Bytes) : Bytes :=
  if subtype = lengthPrefixed then
    littleEndian 4 (bytes.length + 4) ++ subtype :: littleEndian 4 bytes.length ++ bytes
  else littleEndian 4 bytes.length ++ subtype :: bytes

/-- One element. -/
def element? (tag : UInt8) (key : String) (value : Bytes) : Option Bytes :=
  (keyBytes? key).map fun keyBytes => tag :: (keyBytes ++ value)

mutual

/-- Tag and bytes of a value. -/
def value? : Value → Option (UInt8 × Bytes)
  | .null => some (Tag.null, [])
  | .bool b => some (Tag.bool, [if b then 1 else 0])
  | .int32 n => some (Tag.int32, littleEndian 4 n.toUInt32.toNat)
  | .int64 n => some (Tag.int64, littleEndian 8 n.toUInt64.toNat)
  | .double x => some (Tag.double, littleEndian 8 x.bits.toNat)
  | .decimal128 d => some (Tag.decimal128, littleEndian 16 d.bits.toNat)
  | .string s => some (Tag.string, textBytes s)
  | .array items => (items? 0 items).map fun bytes => (Tag.array, framed bytes)
  | .document entries => (elements? entries).map fun bytes => (Tag.document, framed bytes)
  | .date ms => some (Tag.date, littleEndian 8 ms.toUInt64.toNat)
  | .objectId id => some (Tag.objectId, id.bytes)
  | .binary subtype bytes => some (Tag.binary, binaryBytes subtype bytes)
  | .timestamp time increment =>
    some (Tag.timestamp, littleEndian 4 increment.toNat ++ littleEndian 4 time.toNat)
  | .regex pattern options => do
    let pattern ← keyBytes? pattern
    let options ← keyBytes? (Value.sortOptions options)
    some (Tag.regex, pattern ++ options)
  | .code source => some (Tag.code, textBytes source)
  | .codeWithScope source scope => do
    let elements ← elements? scope
    let body := textBytes source ++ framed elements
    some (Tag.codeWithScope, littleEndian 4 (body.length + 4) ++ body)
  | .symbol name => some (Tag.symbol, textBytes name)
  | .minKey => some (Tag.minKey, [])
  | .maxKey => some (Tag.maxKey, [])
  | .undefined => some (Tag.undefined, [])
  | .dbPointer collection id => some (Tag.dbPointer, textBytes collection ++ id.bytes)

def elements? : List (String × Value) → Option Bytes
  | [] => some []
  | (key, value) :: rest => do
    let (tag, bytes) ← value? value
    let first ← element? tag key bytes
    let others ← elements? rest
    some (first ++ others)

/-- The items of an array from `index` on; their keys are their places. -/
def items? (index : Nat) : List Value → Option Bytes
  | [] => some []
  | value :: rest => do
    let (tag, bytes) ← value? value
    let first ← element? tag (String.ofList (Number.toDigits index)) bytes
    let others ← items? (index + 1) rest
    some (first ++ others)

end

/-- The bytes of a document. -/
def encode? (document : Document) : Option Bytes := (elements? document).map framed

end DocumentQuery.Bson
