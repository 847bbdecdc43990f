/-!
# Blank characters

The characters with the Unicode property `White_Space`, and the removal of blanks from the ends
of a text.
-/

namespace DocumentQuery.Text

/-- The characters with the property `White_Space`. -/
def isBlank (c : Char) : Bool :=
  let n := c.toNat
  (0x09 ≤ n && n ≤ 0x0D) || n == 0x20 || n == 0x85 || n == 0xA0 || n == 0x1680 ||
    (0x2000 ≤ n && n ≤ 0x200A) || n == 0x2028 || n == 0x2029 || n == 0x202F || n == 0x205F ||
    n == 0x3000

/-- `s` without the blanks at its two ends. -/
def trim (s : List Char) : List Char :=
  ((s.dropWhile isBlank).reverse.dropWhile isBlank).reverse

/-- `s` holds nothing but blanks. -/
def isAllBlank (s : String) : Bool := s.toList.all isBlank

end DocumentQuery.Text
