import DocumentQuery.Number.Decimal

/-!
# Decimal numbers of 128 bits

A sign bit, an exponent of fourteen bits with bias 6176, and a coefficient of at most 34 digits.
The bits are the number: two ways to write one value stay apart.

* `Decimal128.kind`      : what the bits stand for;
* `Decimal128.toText`    : plain or with an exponent, every digit of the coefficient kept;
* `Decimal128.ofText?`   : reading of the same, refused where digits would be lost.
-/

namespace DocumentQuery.Number

structure Decimal128 where
  bits : BitVec 128
  deriving DecidableEq, Repr, Inhabited

namespace Decimal128

/-- What the bits below the sign stand for. -/
inductive Kind where
  | nan
  | infinity
  | finite (value : Decimal)
  deriving DecidableEq, Repr

def maxDigits : Nat := 34

def bias : Int := 6176

def maxExponent : Int := 6111

/-- The number in the `count` bits from bit `start` on. -/
def part (x : Decimal128) (start count : Nat) : Nat := (x.bits.extractLsb' start count).toNat

def isNegative (x : Decimal128) : Bool := x.part 127 1 = 1

/-- Coefficients past 34 digits count as zero, and so do all that are marked by two leading ones:
they are longer still. -/
def kind (x : Decimal128) : Kind :=
  let lead := x.part 122 5
  if lead = 0b11111 then .nan
  else if lead = 0b11110 then .infinity
  else if x.part 125 2 = 0b11 then .finite ⟨0, x.part 111 14 - bias⟩
  else
    let coefficient := x.part 0 113
    .finite ⟨if coefficient < Nat.pow 10 maxDigits then coefficient else 0, x.part 113 14 - bias⟩

/-- The digits with a point `places` from the right. -/
def pointed (digits : List Char) (places : Nat) : List Char :=
  if places = 0 then digits
  else if digits.length ≤ places then
    '0' :: '.' :: (List.replicate (places - digits.length) '0' ++ digits)
  else digits.take (digits.length - places) ++ '.' :: digits.drop (digits.length - places)

/-- A digit, a point where more digits follow, and the exponent with its sign. -/
def scientific (digits : List Char) (exponent : Int) : List Char :=
  let fraction := digits.drop 1
  digits.take 1 ++ (if fraction.isEmpty then [] else '.' :: fraction) ++ 'E' ::
    (if 0 < exponent then ['+'] else if exponent < 0 then ['-'] else []) ++
      toDigits exponent.natAbs

/-- A NaN has no sign. Exponents up to zero are written out, unless more than six places would
lie before the first digit. -/
def toText (x : Decimal128) : String :=
  let signed (body : List Char) : String :=
    String.ofList (if x.isNegative then '-' :: body else body)
  match x.kind with
  | .nan => "NaN"
  | .infinity => signed "Infinity".toList
  | .finite d =>
    let digits := toDigits d.coefficient
    let adjusted := d.exponent + digits.length - 1
    if d.exponent ≤ 0 ∧ -6 ≤ adjusted then signed (pointed digits (-d.exponent).toNat)
    else signed (scientific digits adjusted)

/-- The number with the bits of `rest`, and a sign. -/
def ofParts (negative : Bool) (rest : Nat) : Decimal128 :=
  ⟨BitVec.ofNat 128 ((if negative then 1 <<< 127 else 0) + rest)⟩

def ofDecimal (negative : Bool) (coefficient : Nat) (exponent : Int) : Decimal128 :=
  ofParts negative ((exponent + bias).toNat <<< 113 + coefficient)

/-- The first `count` digits, if there are that many and the others are zeros. -/
def cutExact? (digits : List Char) (count : Nat) : Option (List Char) :=
  if count ≤ digits.length ∧ (digits.drop count).all (· = '0') then some (digits.take count)
  else none

/-- An exponent that fits sixteen bits. -/
def exponentIn? (e : Int) : Option Int := if Range.int16.holds e then some e else none

/-- Brings an unsigned numeral, digits and exponent, into the limits of the format without loss. -/
def fit? (digits : List Char) (exponent : Int) : Option (Nat × Int) := do
  let stripped := digits.dropWhile (· = '0')
  let digits := if stripped.isEmpty then ['0'] else stripped
  let kept ←
    if maxDigits < digits.length then cutExact? digits maxDigits else some digits
  let exponent ← exponentIn? (exponent + (digits.length - kept.length : Nat))
  let isZero := kept == ['0']
  let cut ←
    if exponent < -bias ∧ !isZero then
      let excess := (-bias - exponent).toNat
      if excess ≤ kept.length then cutExact? kept (kept.length - excess) else none
    else some kept
  let exponent := max exponent (-bias)
  let padded ←
    if maxExponent < exponent ∧ !isZero then
      let excess := (exponent - maxExponent).toNat
      if maxDigits < cut.length + excess then none else some (cut ++ List.replicate excess '0')
    else some cut
  let body := match padded with
    | '+' :: rest => rest
    | _ => padded
  if body.isEmpty || !body.all isDigit then none
  else some (digitsValue body, min exponent maxExponent)

/-- An optional sign and a word for infinity or NaN, or digits with an optional point and
exponent. No digits before the exponent stand for zero. -/
def ofText? (s : String) : Option Decimal128 :=
  let (negative, body) := sign (s.toList.map Char.toLower)
  if body = "nan".toList then some (ofParts negative (0b11111 <<< 122))
  else if body = "snan".toList then some (ofParts negative (0b111111 <<< 121))
  else if body = "infinity".toList ∨ body = "inf".toList then
    some (ofParts negative (0b11110 <<< 122))
  else do
    let mantissa := body.takeWhile (· ≠ 'e')
    let exponent ←
      match body.drop mantissa.length with
      | [] => some 0
      | _ :: t => integerIn? .int16 t
    let whole := mantissa.takeWhile (· ≠ '.')
    let fraction := (mantissa.drop whole.length).drop 1
    let exponent ← exponentIn? (exponent - fraction.length)
    let (coefficient, exponent) ← fit? (whole ++ fraction) exponent
    some (ofDecimal negative coefficient exponent)

end Decimal128

end DocumentQuery.Number
