/-!
# Ranges of integers

The integers that fit a fixed number of bits, with or without a sign.
-/

namespace DocumentQuery.Number

/-- The integers from `low` to `high`. -/
structure Range where
  low : Int
  high : Int
  deriving DecidableEq, Repr

namespace Range

def int16 : Range := ⟨-0x8000, 0x7FFF⟩

def int32 : Range := ⟨-0x80000000, 0x7FFFFFFF⟩

def int64 : Range := ⟨-0x8000000000000000, 0x7FFFFFFFFFFFFFFF⟩

def uint8 : Range := ⟨0, 0xFF⟩

def uint32 : Range := ⟨0, 0xFFFFFFFF⟩

def uint64 : Range := ⟨0, 0xFFFFFFFFFFFFFFFF⟩

def holds (range : Range) (n : Int) : Bool := range.low ≤ n && n ≤ range.high

end Range

end DocumentQuery.Number
