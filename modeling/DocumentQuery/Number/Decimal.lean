import DocumentQuery.Number.Floating
import DocumentQuery.Number.Range

/-!
# Decimal numerals

Reading of numbers from text. A numeral is read exactly, as a whole number of powers of ten, and
rounded once.

* `digits`, `digitsValue` : a run of digits and its value;
* `Decimal.nearest`       : the magnitude of a binary format nearest to a decimal;
* `integer?`              : an optional sign and digits;
* `floating?`             : an optional sign and either a word for infinity or NaN, or digits
  with an optional point and exponent.
-/

namespace DocumentQuery.Number

def isDigit (c : Char) : Bool := '0' ≤ c && c ≤ '9'

/-- The digits at the front of `s`, and what follows them. -/
def digits (s : List Char) : List Char × List Char := s.span isDigit

/-- The number that a run of digits spells. -/
def digitsValue (s : List Char) : Nat := s.foldl (fun n c => 10 * n + (c.toNat - 48)) 0

/-- The decimal digits of a number, without leading zeros. -/
def toDigits (n : Nat) : List Char := Nat.toDigits 10 n

/-- The number `coefficient * 10 ^ exponent`. -/
structure Decimal where
  coefficient : Nat
  exponent : Int
  deriving DecidableEq, Repr

/-- The nearest magnitude. Numbers from `10 ^ 400` or below `10 ^ (-400)` are infinite or zero
in both formats, and are not computed. -/
def Decimal.nearest (f : Format) (d : Decimal) : Nat :=
  let top := d.exponent + (toDigits d.coefficient).length
  if d.coefficient = 0 ∨ top < -400 then 0
  else if 400 < top then f.infinite
  else
    let (n, e) := scaled 10 d.coefficient 1 d.exponent
    f.nearest n e

/-- The sign at the front of `s`, and what follows it. -/
def sign (s : List Char) : Bool × List Char :=
  match s with
  | '-' :: rest => (true, rest)
  | '+' :: rest => (false, rest)
  | _ => (false, s)

/-- An integer: an optional sign and at least one digit. -/
def integer? (s : List Char) : Option Int :=
  let (negative, body) := sign s
  if body.isEmpty || !body.all isDigit then none
  else some (if negative then -(digitsValue body : Int) else digitsValue body)

/-- An integer within a range. -/
def integerIn? (range : Range) (s : List Char) : Option Int := (integer? s).filter range.holds

/-- An unsigned decimal: digits with an optional point among or beside them, at least one digit,
and an optional exponent. -/
def decimal? (s : List Char) : Option Decimal :=
  let (whole, afterWhole) := digits s
  let (fraction, rest) :=
    match afterWhole with
    | '.' :: t => digits t
    | t => ([], t)
  if whole.isEmpty && fraction.isEmpty then none
  else
    let exponent : Option Int :=
      match rest with
      | [] => some 0
      | c :: t => if c = 'e' ∨ c = 'E' then integer? t else none
    exponent.map fun e => ⟨digitsValue (whole ++ fraction), e - fraction.length⟩

/-- `s` is `word` in letters of any case; `word` is in lower case. -/
def isWord (word : String) (s : List Char) : Bool := s.map Char.toLower == word.toList

/-- What a floating-point numeral spells. -/
inductive Numeral where
  | infinity
  | nan
  | decimal (value : Decimal)
  deriving DecidableEq, Repr

/-- A floating-point numeral with its sign. -/
def floating? (s : List Char) : Option (Bool × Numeral) :=
  let (negative, body) := sign s
  if isWord "inf" body || isWord "infinity" body then some (negative, .infinity)
  else if isWord "nan" body then some (negative, .nan)
  else (decimal? body).map fun d => (negative, .decimal d)

/-- The number of the 64-bit format nearest to a numeral. -/
def double? (s : List Char) : Option Double :=
  (floating? s).map fun
    | (negative, .infinity) => .infinity negative
    | (negative, .nan) => .nan negative
    | (negative, .decimal d) => .ofMagnitude negative (d.nearest .double)

/-- The number of the 32-bit format nearest to a numeral, as a number of the 64-bit format. -/
def single? (s : List Char) : Option Double :=
  (floating? s).map fun
    | (negative, .infinity) => .infinity negative
    | (negative, .nan) => .nan negative
    | (negative, .decimal d) => .ofSingle negative (d.nearest .single)

end DocumentQuery.Number
