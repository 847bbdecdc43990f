import DocumentQuery.Text.Hex

/-!
# Object identifiers

Twelve bytes, written as twenty-four hexadecimal digits.
-/

namespace DocumentQuery

structure ObjectId where
  bytes : Bytes
  size : bytes.length = 12
  deriving DecidableEq, Repr

namespace ObjectId

/-- The identifier of twelve bytes. -/
def ofBytes? (bytes : Bytes) : Option ObjectId :=
  if h : bytes.length = 12 then some ⟨bytes, h⟩ else none

/-- The identifier of twenty-four hexadecimal digits of any case. -/
def ofHex? (text : String) : Option ObjectId := (Text.Hex.decode? text.toList).bind ofBytes?

def toHex (id : ObjectId) : String := String.ofList (Text.Hex.encode id.bytes)

end ObjectId

end DocumentQuery
