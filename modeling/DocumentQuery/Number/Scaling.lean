import DocumentQuery.Number.Decimal

/-!
# Decimals read by scaling

A fast way to read a number with a fraction or an exponent. The digits make up a whole number of 64
bits. It becomes a number of the 64-bit format, and is then multiplied or divided by a power of ten
of that format. As each step rounds, what is read need not be the number nearest to the numeral, and
a numeral just below the greatest number may come out as infinite, which is refused.

* `Decimal.ofDigits`     : the decimal of as many digits as fit;
* `raise?`, `lower`      : multiplication and division by a power of ten;
* `Decimal.approximate?` : the magnitude that is read.
-/

namespace DocumentQuery.Number

/-- Appends digits to a number while it fits 64 bits. The digits from the first one that does not
fit are left over. -/
def appendDigits (n : Nat) : List Char → Nat × List Char
  | [] => (n, [])
  | c :: rest =>
    let next := 10 * n + (c.toNat - 48)
    if Range.uint64.holds next then appendDigits next rest else (n, c :: rest)

/-- The digits before and after a point. Digits that are left over before the point count as places
of the exponent, those after the point are dropped. -/
def Decimal.ofDigits (whole fraction : List Char) (exponent : Int) : Decimal :=
  let (n, left) := appendDigits 0 whole
  let (coefficient, dropped) := appendDigits n fraction
  ⟨coefficient, exponent + left.length - (fraction.length - dropped.length : Nat)⟩

/-- The exponent of the greatest power of ten in the 64-bit format. -/
def maxPlaces : Nat := 308

/-- A power of ten. -/
def powerOfTen (places : Nat) : Nat := Format.double.nearest (Nat.pow 10 places) 1

/-- A magnitude times a power of ten, unless that is infinite. -/
def raise? (magnitude places : Nat) : Option Nat :=
  if places ≤ maxPlaces then
    let raised := Format.double.product magnitude (powerOfTen places)
    if raised < Format.double.infinite then some raised else none
  else if magnitude = 0 then some 0
  else none

/-- A magnitude divided by a power of ten, by the greatest one as often as it takes. -/
def lower (magnitude places : Nat) : Nat :=
  if places ≤ maxPlaces then Format.double.quotient magnitude (powerOfTen places)
  else if magnitude = 0 then 0
  else lower (Format.double.quotient magnitude (powerOfTen maxPlaces)) (places - maxPlaces)
termination_by places
decreasing_by simp only [maxPlaces] at *; omega

/-- The magnitude that a decimal is read as, unless it is infinite. -/
def Decimal.approximate? (d : Decimal) : Option Nat :=
  let magnitude := Format.double.nearest d.coefficient 1
  if 0 ≤ d.exponent then raise? magnitude d.exponent.toNat
  else some (lower magnitude (-d.exponent).toNat)

end DocumentQuery.Number
