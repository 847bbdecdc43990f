import DocumentQuery.Json.Basic
import DocumentQuery.Json.Outline
import DocumentQuery.Number.Scaling

/-!
# Reading JSON

A text has a value if its outline does: surrogates come in pairs, numbers are in range, and
arrays and objects are nested at most `maxDepth` deep. Numbers with a fraction or an exponent are
read by scaling, and are in range if that does not give infinity.

* `Outline.toJson?` : the value of an outline;
* `Json.parse?`     : the value of a text.
-/

namespace DocumentQuery.Json

open Number (Decimal digitsValue)

/-- Arrays and objects may be nested this deep. -/
def maxDepth : Nat := 127

def isHighSurrogate (unit : Nat) : Bool := 0xD800 ≤ unit && unit < 0xDC00

def isLowSurrogate (unit : Nat) : Bool := 0xDC00 ≤ unit && unit < 0xE000

/-- The characters that pieces stand for. A high surrogate needs a low one right after it, and a
low one stands nowhere else. -/
def Piece.chars? : List Piece → Option (List Char)
  | [] => some []
  | .char c :: rest => do
    let chars ← chars? rest
    some (c :: chars)
  | .unit high :: .unit low :: rest =>
    if isHighSurrogate high then
      if isLowSurrogate low then do
        let chars ← chars? rest
        some (Char.ofNat (0x10000 + 1024 * (high - 0xD800) + (low - 0xDC00)) :: chars)
      else none
    else if isLowSurrogate high then none
    else do
      let chars ← chars? (.unit low :: rest)
      some (Char.ofNat high :: chars)
  | .unit u :: rest =>
    if isHighSurrogate u || isLowSurrogate u then none
    else do
      let chars ← chars? rest
      some (Char.ofNat u :: chars)

def Piece.text? (pieces : List Piece) : Option String := (chars? pieces).map String.ofList

/-- The 64-bit number that a spelled one is read as, unless that is infinite. -/
def Spelled.real? (s : Spelled) : Option Json :=
  (Decimal.ofDigits s.whole s.fraction (s.exponent.getD 0)).approximate?.map fun magnitude =>
    .real (.ofMagnitude s.negative magnitude)

/-- A spelled number without fraction and exponent is a whole number if it fits 64 bits, signed
or not; a negative zero does not. -/
def Spelled.value? (s : Spelled) : Option Json :=
  let n := digitsValue s.whole
  if s.fraction.isEmpty && s.exponent.isNone then
    if s.negative then
      if n ≠ 0 ∧ Number.Range.int64.holds (-n) then some (.integer (-n)) else s.real?
    else if Number.Range.uint64.holds n then some (.integer n)
    else s.real?
  else s.real?

mutual

/-- The value of an outline with at most `depth` levels of arrays and objects. -/
def Outline.toJson? (depth : Nat) : Outline → Option Json
  | .null => some .null
  | .bool b => some (.bool b)
  | .number spelled => spelled.value?
  | .string pieces => (Piece.text? pieces).map .string
  | .array items =>
    match depth with
    | 0 => none
    | depth + 1 => (Outline.toItems? depth items).map .array
  | .object members =>
    match depth with
    | 0 => none
    | depth + 1 =>
      (Outline.toMembers? depth members).map fun members => .object (Entries.ofPairs members)

def Outline.toItems? (depth : Nat) : List Outline → Option (List Json)
  | [] => some []
  | item :: rest => do
    let value ← Outline.toJson? depth item
    let values ← Outline.toItems? depth rest
    some (value :: values)

def Outline.toMembers? (depth : Nat) : List (List Piece × Outline) → Option (Entries Json)
  | [] => some []
  | (key, item) :: rest => do
    let key ← Piece.text? key
    let value ← Outline.toJson? depth item
    let members ← Outline.toMembers? depth rest
    some ((key, value) :: members)

end

/-- The value of a text. -/
def parse? (text : String) : Option Json := do
  let outline ← Outline.ofText? text
  outline.toJson? maxDepth

end DocumentQuery.Json
