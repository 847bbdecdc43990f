import DocumentQuery.Text.Hex

/-!
# Universally unique identifiers

Sixteen bytes. Their text is thirty-two hexadecimal digits of any case: all together, or in groups
with hyphens between them. The groups may stand within braces or after the words `urn:uuid:`.

* `Uuid.ofText?` : the bytes of an identifier.
-/

namespace DocumentQuery.Uuid

/-- The count of digits. -/
def digitCount : Nat := 32

/-- The count of digits of each group. -/
def groupSizes : List Nat := [8, 4, 4, 4, 12]

/-- Groups of the given sizes with a hyphen between each and the next, the hyphens left out. -/
def ungroup? : List Nat → List Char → Option (List Char)
  | [], s => if s.isEmpty then some [] else none
  | [size], s => if s.length = size then some s else none
  | size :: sizes, s =>
    match s.drop size with
    | '-' :: rest => (ungroup? sizes rest).map fun digits => s.take size ++ digits
    | _ => none

/-- What stands within braces or after the words, or else `s` itself. -/
def unwrapped (s : List Char) : List Char :=
  if s.head? = some '\x7b' ∧ s.getLast? = some '\x7d' then s.tail.dropLast
  else if (s.take 9).map Char.toLower = "urn:uuid:".toList then s.drop 9
  else s

/-- The bytes of an identifier. -/
def ofText? (text : String) : Option Bytes :=
  let s := text.toList
  if s.length = digitCount then Text.Hex.decode? s
  else (ungroup? groupSizes (unwrapped s)).bind Text.Hex.decode?

end DocumentQuery.Uuid
