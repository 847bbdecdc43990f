import DocumentQuery.Number.Decimal

/-!
# Shortest decimals

The decimal with the fewest digits that reads back as a given number, and of those the nearest
one, with an even last digit if there are two. On the grid of decimals with `n` significant digits
only the two neighbours of the number need a look: if any point of the grid reads back, one of
them does.

* `Double.shortest` : the digits, without trailing zeros, and the exponent of the last one.
-/

namespace DocumentQuery.Number

/-- The exponent `e` with `10 ^ e ≤ num / den < 10 ^ (e + 1)`. -/
def decimalExponent (num den : Nat) : Int :=
  let e : Int := ((toDigits num).length : Int) - ((toDigits den).length : Int)
  let (n, d) := scaled 10 num den (-e)
  if d ≤ n then e else e - 1

/-- The decimal without trailing zeros in its coefficient; `fuel` bounds their count. -/
def Decimal.strip : Nat → Decimal → Decimal
  | 0, d => d
  | fuel + 1, d =>
    if d.coefficient ≠ 0 ∧ d.coefficient % 10 = 0 then
      Decimal.strip fuel ⟨d.coefficient / 10, d.exponent + 1⟩
    else d

/-- Whether `n / d`, a number between `floor` and the next one, goes down to `floor` when it is
rounded. Half way between them it goes to the even one. -/
def roundsDown (n d floor : Nat) : Bool :=
  let twice := 2 * (n - d * floor)
  twice < d || (twice == d && floor % 2 == 0)

/-- The decimal of `count` significant digits that is nearest to `num / den` among those that read
back as `magnitude`. Of two that are equally near it is the one whose last digit is even. -/
def neighbour? (f : Format) (magnitude num den : Nat) (count : Nat) : Option Decimal :=
  let unit := decimalExponent num den + 1 - count
  let (n, d) := scaled 10 num den (-unit)
  let below : Decimal := ⟨n / d, unit⟩
  let above : Decimal := ⟨n / d + 1, unit⟩
  let hitsBelow := below.nearest f == magnitude
  let hitsAbove := above.nearest f == magnitude
  if hitsBelow && hitsAbove then some (if roundsDown n d (n / d) then below else above)
  else if hitsBelow then some below
  else if hitsAbove then some above
  else none

/-- The shortest decimal of a finite magnitude that is not zero. Seventeen digits always do. -/
def Format.shortest (f : Format) (magnitude : Nat) : Decimal :=
  let (m, e) := f.parts magnitude
  let (num, den) := scaled 2 m 1 e
  let found := (List.range 17).findSome? fun i => neighbour? f magnitude num den (i + 1)
  (found.getD ⟨m, 0⟩).strip 400

/-- The shortest decimal of a finite number, its sign left out. -/
def Double.shortest (x : Double) : Decimal :=
  if x.magnitude = 0 then ⟨0, 0⟩ else Format.double.shortest x.magnitude

end DocumentQuery.Number
