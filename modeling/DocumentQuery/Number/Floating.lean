/-!
# Binary floating-point numbers

A format is described by its precision and the exponent of its least unit. The non-negative
numbers of a format are numbered upwards from zero, and that number, the *magnitude*, is also the
bit pattern without the sign: the next magnitude is the next representable number, and the first
one past the finite numbers is infinity.

* `Format.parts`    : significand and exponent of a magnitude;
* `Format.nearest`  : the magnitude nearest to a quotient, ties to the even one;
* `Format.product`, `Format.quotient` : arithmetic on magnitudes, each result rounded once;
* `Double`          : a number of the 64-bit format, given by its bits;
* `Double.ofSingle` : widening of a magnitude of the 32-bit format.
-/

namespace DocumentQuery.Number

/-- A binary format: finite magnitudes are `m * 2 ^ e` with `m < 2 ^ precision` and
`lowest ≤ e`; `infinite` is the first magnitude that is not finite. -/
structure Format where
  precision : Nat
  lowest : Int
  infinite : Nat
  deriving DecidableEq, Repr

/-- The 64-bit format. -/
def Format.double : Format := ⟨53, -1074, 0x7FF0000000000000⟩

/-- The 32-bit format. -/
def Format.single : Format := ⟨24, -149, 0x7F800000⟩

/-- The least significand of a normal number. -/
def Format.hidden (f : Format) : Nat := Nat.pow 2 (f.precision - 1)

/-- Significand and exponent of a finite magnitude. -/
def Format.parts (f : Format) (magnitude : Nat) : Nat × Int :=
  if magnitude < f.hidden then (magnitude, f.lowest)
  else
    (f.hidden + magnitude % f.hidden, f.lowest + (magnitude / f.hidden : Nat) - 1)

/-- The quotient `num / den * base ^ exponent` as a quotient of natural numbers. -/
def scaled (base : Nat) (num den : Nat) (exponent : Int) : Nat × Nat :=
  if 0 ≤ exponent then (num * base.pow exponent.toNat, den)
  else (num, den * base.pow (-exponent).toNat)

/-- `num / den` rounded to a natural number, a half to the even neighbour. -/
def roundHalfEven (num den : Nat) : Nat :=
  let q := num / den
  let twice := 2 * (num % den)
  if twice < den then q
  else if den < twice then q + 1
  else q + q % 2

/-- The exponent `e` with `2 ^ e ≤ num / den < 2 ^ (e + 1)`. -/
def binaryExponent (num den : Nat) : Int :=
  let e : Int := (num.log2 : Int) - (den.log2 : Int)
  let (n, d) := scaled 2 num den (-e)
  if d ≤ n then e else e - 1

/-- The magnitude nearest to `num / den`, ties to the even magnitude; what lies above the finite
numbers gives infinity. -/
def Format.nearest (f : Format) (num den : Nat) : Nat :=
  if num = 0 then 0
  else
    let unit := max f.lowest (binaryExponent num den - (f.precision - 1 : Nat))
    let (n, d) := scaled 2 num den (-unit)
    min f.infinite (roundHalfEven n d + (unit - f.lowest).toNat * f.hidden)

/-- The product of two finite magnitudes. -/
def Format.product (f : Format) (a b : Nat) : Nat :=
  let (m, d) := f.parts a
  let (n, e) := f.parts b
  let (num, den) := scaled 2 (m * n) 1 (d + e)
  f.nearest num den

/-- The quotient of two finite magnitudes, the second one not zero. -/
def Format.quotient (f : Format) (a b : Nat) : Nat :=
  let (m, d) := f.parts a
  let (n, e) := f.parts b
  let (num, den) := scaled 2 m n (d - e)
  f.nearest num den

/-- A number of the 64-bit format. -/
structure Double where
  bits : UInt64
  deriving DecidableEq, Repr, Inhabited

namespace Double

/-- The bit of the sign. -/
def signBit : Nat := 0x8000000000000000

def ofMagnitude (negative : Bool) (magnitude : Nat) : Double :=
  ⟨UInt64.ofNat (if negative then signBit + magnitude else magnitude)⟩

def isNegative (x : Double) : Bool := signBit ≤ x.bits.toNat

def magnitude (x : Double) : Nat := x.bits.toNat % signBit

def isNaN (x : Double) : Bool := Format.double.infinite < x.magnitude

def isFinite (x : Double) : Bool := x.magnitude < Format.double.infinite

def zero : Double := ⟨0⟩

def infinity (negative : Bool) : Double := ofMagnitude negative Format.double.infinite

/-- The quiet NaN without further payload. -/
def nan (negative : Bool) : Double := ofMagnitude negative 0x7FF8000000000000

/-- The number nearest to an integer. -/
def ofInt (n : Int) : Double := ofMagnitude (n < 0) (Format.double.nearest n.natAbs 1)

/-- The 64-bit number equal to a magnitude of the 32-bit format, infinity included. -/
def ofSingle (negative : Bool) (magnitude : Nat) : Double :=
  if Format.single.infinite ≤ magnitude then infinity negative
  else
    let (m, e) := Format.single.parts magnitude
    let (n, d) := scaled 2 m 1 e
    ofMagnitude negative (Format.double.nearest n d)

end Double

end DocumentQuery.Number
