/-!
# Saturating counts

Counts of 64 bits in which a result that is too large becomes the greatest count.
-/

namespace DocumentQuery.Number

/-- The greatest count. -/
def maxCount : Nat := 0xFFFFFFFFFFFFFFFF

/-- The count `n`, or the greatest one. -/
def saturate (n : Nat) : UInt64 := UInt64.ofNat (min n maxCount)

theorem toNat_saturate (n : Nat) : (saturate n).toNat = min n maxCount := by
  have h : min n maxCount < UInt64.size :=
    Nat.lt_of_le_of_lt (Nat.min_le_right _ _) (by decide)
  simp only [saturate, UInt64.toNat_ofNat']
  exact Nat.mod_eq_of_lt h

/-- The sum of two counts. -/
def saturatingAdd (a b : UInt64) : UInt64 := saturate (a.toNat + b.toNat)

end DocumentQuery.Number
