import DocumentQuery.Text.Bytes

/-!
# Base 64

Three bytes are written as four symbols of six bits. The two last symbols of the alphabet and
the padding of the last block depend on the variant:

* `Base64.encodeUrl`, `Base64.decodeUrl?` : symbols `-` and `_`, no padding;
* `Base64.encodePadded`, `Base64.decodePadded?` : symbols `+` and `/`, padded with `=` to blocks
  of four.

Reading is exact: the bits that a short last block leaves over are zero.
-/

namespace DocumentQuery.Text.Base64

/-- The symbols for 62 and 63. -/
structure Alphabet where
  symbol62 : Char
  symbol63 : Char
  deriving DecidableEq, Repr

def urlAlphabet : Alphabet := ⟨'-', '_'⟩

def standardAlphabet : Alphabet := ⟨'+', '/'⟩

/-- The symbol of `v < 64`. -/
def Alphabet.symbol (a : Alphabet) (v : Nat) : Char :=
  if v < 26 then Char.ofNat (65 + v)
  else if v < 52 then Char.ofNat (71 + v)
  else if v < 62 then Char.ofNat (v - 4)
  else if v = 62 then a.symbol62
  else a.symbol63

/-- The six bits that a symbol stands for. -/
def Alphabet.value? (a : Alphabet) (c : Char) : Option Nat :=
  if 'A' ≤ c ∧ c ≤ 'Z' then some (c.toNat - 65)
  else if 'a' ≤ c ∧ c ≤ 'z' then some (c.toNat - 71)
  else if '0' ≤ c ∧ c ≤ '9' then some (c.toNat + 4)
  else if c = a.symbol62 then some 62
  else if c = a.symbol63 then some 63
  else none

/-- Symbols without padding. -/
def encode (a : Alphabet) : Bytes → List Char
  | x :: y :: z :: rest =>
    let n := 65536 * x.toNat + 256 * y.toNat + z.toNat
    a.symbol (n / 262144) :: a.symbol (n / 4096 % 64) :: a.symbol (n / 64 % 64) ::
      a.symbol (n % 64) :: encode a rest
  | [x, y] =>
    let n := 256 * x.toNat + y.toNat
    [a.symbol (n / 1024), a.symbol (n / 16 % 64), a.symbol (n % 16 * 4)]
  | [x] => [a.symbol (x.toNat / 4), a.symbol (x.toNat % 4 * 16)]
  | [] => []

/-- Reads symbols without padding. A last block of one symbol, or one with bits left over that
are not zero, is refused. -/
def decode? (a : Alphabet) : List Char → Option Bytes
  | s :: t :: u :: v :: rest => do
    let p ← a.value? s
    let q ← a.value? t
    let r ← a.value? u
    let o ← a.value? v
    let n := 262144 * p + 4096 * q + 64 * r + o
    let bytes ← decode? a rest
    pure (UInt8.ofNat (n / 65536) :: UInt8.ofNat (n / 256) :: UInt8.ofNat n :: bytes)
  | [s, t, u] => do
    let p ← a.value? s
    let q ← a.value? t
    let r ← a.value? u
    if r % 4 = 0 then
      let n := 1024 * p + 16 * q + r / 4
      some [UInt8.ofNat (n / 256), UInt8.ofNat n]
    else none
  | [s, t] => do
    let p ← a.value? s
    let q ← a.value? t
    if q % 16 = 0 then some [UInt8.ofNat (4 * p + q / 16)] else none
  | [_] => none
  | [] => some []

/-- URL-safe symbols without padding. -/
def encodeUrl (bytes : Bytes) : List Char := encode urlAlphabet bytes

def decodeUrl? (symbols : List Char) : Option Bytes := decode? urlAlphabet symbols

/-- The count of `=` that fill the last block of `count` bytes. -/
def padding (count : Nat) : Nat := (3 - count % 3) % 3

/-- Standard symbols, padded to blocks of four. -/
def encodePadded (bytes : Bytes) : List Char :=
  encode standardAlphabet bytes ++ List.replicate (padding bytes.length) '='

/-- Reads padded standard symbols; the padding is exactly the one that writing gives. -/
def decodePadded? (symbols : List Char) : Option Bytes := do
  let body := symbols.takeWhile (· ≠ '=')
  let bytes ← decode? standardAlphabet body
  if symbols.drop body.length = List.replicate (padding bytes.length) '=' then some bytes else none

end DocumentQuery.Text.Base64
