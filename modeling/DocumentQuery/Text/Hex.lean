import DocumentQuery.Text.Bytes

/-!
# Hexadecimal text

Bytes are written with two lower-case digits each; reading accepts both cases.
-/

namespace DocumentQuery.Text

/-- The lower-case hexadecimal digit of `d < 16`. -/
def hexDigit (d : Nat) : Char := if d < 10 then Char.ofNat (48 + d) else Char.ofNat (87 + d)

/-- The value of a hexadecimal digit of either case. -/
def hexValue? (c : Char) : Option Nat :=
  if '0' ≤ c ∧ c ≤ '9' then some (c.toNat - 48)
  else if 'a' ≤ c ∧ c ≤ 'f' then some (c.toNat - 87)
  else if 'A' ≤ c ∧ c ≤ 'F' then some (c.toNat - 55)
  else none

namespace Hex

/-- Two digits for each byte, the higher first. -/
def encode : Bytes → List Char
  | [] => []
  | b :: rest => hexDigit (b.toNat / 16) :: hexDigit (b.toNat % 16) :: encode rest

/-- Reads an even count of digits. -/
def decode? : List Char → Option Bytes
  | [] => some []
  | [_] => none
  | high :: low :: rest => do
    let h ← hexValue? high
    let l ← hexValue? low
    let bytes ← decode? rest
    pure (UInt8.ofNat (16 * h + l) :: bytes)

end Hex

end DocumentQuery.Text
