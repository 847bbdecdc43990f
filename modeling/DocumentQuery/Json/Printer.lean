import DocumentQuery.Json.Basic
import DocumentQuery.Number.Shortest
import DocumentQuery.Text.Hex

/-!
# Writing JSON

Compact JSON without blanks. Strings escape quotation marks, backslashes and the characters below
U+0020, the usual ones by a letter; everything else stands for itself. Numbers have the shortest
digits that read back.

* `quote`       : the text of a string;
* `realText`    : the text of a floating-point number;
* `Json.render` : the text of a value.
-/

namespace DocumentQuery.Json

open Number (Double toDigits)

/-- How a character stands within a string. -/
def escape (c : Char) : List Char :=
  match c with
  | '"' => ['\\', '"']
  | '\\' => ['\\', '\\']
  | '\x08' => ['\\', 'b']
  | '\x0c' => ['\\', 'f']
  | '\n' => ['\\', 'n']
  | '\r' => ['\\', 'r']
  | '\t' => ['\\', 't']
  | _ =>
    if c.toNat < 0x20 then
      ['\\', 'u', '0', '0', Text.hexDigit (c.toNat / 16), Text.hexDigit (c.toNat % 16)]
    else [c]

def quote (s : String) : List Char := '"' :: (s.toList.flatMap escape ++ ['"'])

def integerText (n : Int) : List Char :=
  if n < 0 then '-' :: toDigits n.natAbs else toDigits n.natAbs

/-- Which numbers are written without an exponent: those whose first digit has a place in the
closed range from `lowest` to `highest`, counted in powers of ten. -/
structure Layout where
  lowest : Int
  highest : Int
  deriving DecidableEq, Repr

def Layout.number : Layout := ⟨-5, 15⟩

/-- Digits of which the first `point` lie before the point. There is at least one digit on each
side of it. -/
def positional (digits : List Char) (point : Int) : List Char :=
  if point ≤ 0 then '0' :: '.' :: (List.replicate (-point).toNat '0' ++ digits)
  else if digits.length ≤ point.toNat then
    digits ++ List.replicate (point.toNat - digits.length) '0' ++ ['.', '0']
  else digits.take point.toNat ++ '.' :: digits.drop point.toNat

/-- One digit before the point, which stands only where digits follow, and an exponent with its
sign. -/
def scientific (digits : List Char) (exponent : Int) : List Char :=
  let fraction := digits.drop 1
  digits.take 1 ++ (if fraction.isEmpty then [] else '.' :: fraction) ++ 'e' ::
    (if exponent < 0 then '-' else '+') :: toDigits exponent.natAbs

/-- The text of a finite number; the two zeros are `0.0` and `-0.0`. -/
def realText (x : Double) : List Char :=
  let shortest := x.shortest
  let digits := toDigits shortest.coefficient
  let place := shortest.exponent + digits.length - 1
  let body :=
    if Layout.number.lowest ≤ place ∧ place ≤ Layout.number.highest then
      positional digits (place + 1)
    else scientific digits place
  if x.isNegative then '-' :: body else body

/-- `body` between brackets. -/
def bracketed (first last : Char) (body : List Char) : List Char := first :: (body ++ [last])

mutual

def chars : Json → List Char
  | .null => "null".toList
  | .bool true => "true".toList
  | .bool false => "false".toList
  | .integer n => integerText n
  | .real x => realText x
  | .string s => quote s
  | .array items => bracketed '[' ']' (itemChars items)
  | .object members => bracketed '\x7b' '\x7d' (memberChars members)

def itemChars : List Json → List Char
  | [] => []
  | [item] => chars item
  | item :: rest => chars item ++ ',' :: itemChars rest

def memberChars : List (String × Json) → List Char
  | [] => []
  | [(key, value)] => quote key ++ ':' :: chars value
  | (key, value) :: rest => quote key ++ ':' :: (chars value ++ ',' :: memberChars rest)

end

/-- The compact text of a value. -/
def render (value : Json) : String := String.ofList (chars value)

end DocumentQuery.Json
