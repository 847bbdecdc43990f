import DocumentQuery.Text.Base64
import DocumentQuery.Time.StoredDate
import DocumentQuery.Value.Bson.Raw
import DocumentQuery.Value.Uuid

/-!
# Spelled values

Some documents spell a value of another type: `$oid` with hexadecimal digits spells an object
identifier, `$minKey` with one the least key, and so on. The first key of that kind decides which
value it is. The elements before it are left out, and those after it are not looked at.

* `Spelled.plain?`    : what one element spells;
* `Raw.value?`        : the value that bytes give, with the documents within it replaced by what
  they spell. There is none where bytes are broken, or where a document has a key of that kind but
  spells nothing.
-/

namespace DocumentQuery

namespace Spelled

open Bson (Raw)
open Number (Range)

/-- The digits of an integer. -/
def integerText? (range : Range) (raw : Raw) : Option Int := do
  Number.integerIn? range (← raw.text?).toList

/-- Hexadecimal digits or twelve bytes. -/
def objectId? : Raw → Option ObjectId
  | .leaf (.string text) => ObjectId.ofHex? text
  | .leaf (.binary 0 bytes) => ObjectId.ofBytes? bytes
  | _ => none

def double? (raw : Raw) : Option Value := do
  let number ← Number.double? (← raw.text?).toList
  some (.double number)

def decimal128? (raw : Raw) : Option Value := do
  let number ← Number.Decimal128.ofText? (← raw.text?)
  some (.decimal128 number)

def decimal128Bytes? (raw : Raw) : Option Value := do
  let bytes ← raw.bytes?
  if bytes.length = 16 then some (.decimal128 ⟨BitVec.ofNat 128 (ofLittleEndian bytes)⟩) else none

def binary? (raw : Raw) : Option Value := do
  let (symbols, subtype) ← raw.pair? "base64" "subType"
  let bytes ← Text.Base64.decodePadded? (← symbols.text?).toList
  match ← Text.Hex.decode? (← subtype.text?).toList with
  | [subtype] => some (.binary subtype bytes)
  | _ => none

/-- The binary subtype of universally unique identifiers. -/
def uuidSubtype : UInt8 := 4

def uuid? (raw : Raw) : Option Value := do
  let bytes ← Uuid.ofText? (← raw.text?)
  some (.binary uuidSubtype bytes)

def uint32? (raw : Raw) : Option UInt32 :=
  (raw.integerIn? .uint32).map fun n => UInt32.ofNat n.toNat

def timestamp? (raw : Raw) : Option Value := do
  let (time, increment) ← raw.pair? "t" "i"
  some (.timestamp (← uint32? time) (← uint32? increment))

def regex? (raw : Raw) : Option Value := do
  let (pattern, options) ← raw.pair? "pattern" "options"
  let options ← options.text?
  some (.regex (← pattern.text?) (Value.sortOptions options))

/-- An identifier as it is, or its digits as the only field of a record. -/
def pointedId? : Raw → Option ObjectId
  | .leaf (.objectId id) => some id
  | .document [(key, raw)] => if key = "$oid" then raw.text?.bind ObjectId.ofHex? else none
  | .array (raw :: _) => raw.text?.bind ObjectId.ofHex?
  | _ => none

def dbPointer? (raw : Raw) : Option Value := do
  let (collection, id) ← raw.pair? "$ref" "$id"
  some (.dbPointer (← collection.text?) (← pointedId? id))

/-- Milliseconds as a number, or their digits as the only field of a record, or the text of a
date. -/
def milliseconds? (raw : Raw) : Option Int :=
  match raw with
  | .document [(key, raw)] => if key = "$numberLong" then integerText? .int64 raw else none
  | .array [raw] => integerText? .int64 raw
  | _ =>
    match raw.text? with
    | some text => Time.StoredDate.parse? text
    | none => raw.integer?

def date? (raw : Raw) : Option Value :=
  (milliseconds? raw).map fun ms => .date (Int64.ofInt ms)

def isOne (raw : Raw) : Bool := raw.integer? == some 1

def isTrue : Raw → Bool
  | .leaf (.bool true) => true
  | _ => false

/-- What a key of this kind spells with its value, but for code, which may have a scope. -/
def plain? (key : String) (raw : Raw) : Option (Option Value) :=
  if key = "$oid" then some ((objectId? raw).map .objectId)
  else if key = "$symbol" then some (raw.text?.map .symbol)
  else if key = "$numberInt" then
    some ((integerText? .int32 raw).map fun n => .int32 (Int32.ofInt n))
  else if key = "$numberLong" then
    some ((integerText? .int64 raw).map fun n => .int64 (Int64.ofInt n))
  else if key = "$numberDouble" then some (double? raw)
  else if key = "$numberDecimal" then some (decimal128? raw)
  else if key = "$numberDecimalBytes" then some (decimal128Bytes? raw)
  else if key = "$binary" then some (binary? raw)
  else if key = "$uuid" then some (uuid? raw)
  else if key = "$timestamp" then some (timestamp? raw)
  else if key = "$regularExpression" then some (regex? raw)
  else if key = "$dbPointer" then some (dbPointer? raw)
  else if key = "$date" then some (date? raw)
  else if key = "$minKey" then some (if isOne raw then some .minKey else none)
  else if key = "$maxKey" then some (if isOne raw then some .maxKey else none)
  else if key = "$undefined" then some (if isTrue raw then some .undefined else none)
  else none

end Spelled

namespace Bson.Raw

mutual

/-- The value that bytes give, with the documents within it replaced by what they spell. -/
def value? : Raw → Option Value
  | leaf value => some value
  | array items => (items? items).map .array
  | document elements => elements? [] elements
  | codeWithScope source scope => do
    let scope ← (← elements? [] scope).document?
    some (.codeWithScope source scope)
  | broken => none

def items? : List Raw → Option (List Value)
  | [] => some []
  | item :: rest => do
    let value ← value? item
    let values ← items? rest
    some (value :: values)

/-- The document of `found` and the elements after it, or what the first of these spells. -/
def elements? (found : Document) : List (String × Raw) → Option Value
  | [] => some (.document found)
  | (key, raw) :: rest =>
    if key = "$code" then
      match rest with
      | [] => raw.text?.map .code
      | (next, scope) :: _ =>
        if next = "$scope" then do
          let source ← raw.text?
          let scope ← (← value? scope).document?
          some (.codeWithScope source scope)
        else none
    else if key = "$scope" then
      match rest with
      | [] => none
      | (next, source) :: _ =>
        if next = "$code" then do
          let scope ← (← value? raw).document?
          let source ← source.text?
          some (.codeWithScope source scope)
        else none
    else
      match Spelled.plain? key raw with
      | some spelled => spelled
      | none => do
        let value ← value? raw
        elements? (Entries.put key value found) rest

end

end Bson.Raw

end DocumentQuery
