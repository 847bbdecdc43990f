import DocumentQuery.Number.Scaling
import Mathlib.Algebra.Group.Nat.Defs

/-!
# What scaling comes to

A numeral whose digits make up a number of 64 bits is scaled from exactly that number. Whatever the
digits and the exponent are, the magnitude that is read is finite: multiplication is checked, and
division starts from less than `2 ^ 64` and never raises a magnitude much. Magnitudes are bounded by
the field of their exponent, which starts at bit 52 and is 1023 for the numbers from one to two.

* `appendDigits_spec`   : which digits are taken;
* `Decimal.ofDigits_eq` : the decimal of digits that all fit;
* `Format.nearest_le`, `Format.quotient_le` : bounds for rounding and for division.

Principal result: `Decimal.approximate?_lt_infinite`.
-/

namespace DocumentQuery.Number

/-! ## Digits -/

/-- A number with a run of digits appended. -/
def digitsAfter (n : Nat) (run : List Char) : Nat :=
  run.foldl (fun n c => 10 * n + (c.toNat - 48)) n

theorem digitsValue_append (run rest : List Char) :
    digitsValue (run ++ rest) = digitsAfter (digitsValue run) rest :=
  List.foldl_append

theorem digitsAfter_cons (n : Nat) (c : Char) (rest : List Char) :
    digitsAfter n (c :: rest) = digitsAfter (10 * n + (c.toNat - 48)) rest := by
  unfold digitsAfter
  exact List.foldl_cons ..

theorem le_digitsAfter (n : Nat) (run : List Char) : n ≤ digitsAfter n run := by
  induction run generalizing n with
  | nil => exact Nat.le_refl n
  | cons c rest ih =>
    rw [digitsAfter_cons]
    exact Nat.le_trans (by omega) (ih _)

theorem holds_uint64 {n : Nat} : Range.uint64.holds n = true ↔ n < 2 ^ 64 := by
  unfold Range.holds Range.uint64
  simp only [Bool.and_eq_true, decide_eq_true_eq]
  omega

theorem appendDigits_lt {n : Nat} (h : n < 2 ^ 64) (run : List Char) :
    (appendDigits n run).1 < 2 ^ 64 := by
  fun_induction appendDigits n run with
  | case1 => exact h
  | case2 _ _ _ _ hnext ih => exact ih (holds_uint64.1 hnext)
  | case3 => exact h

/-- **Digits are taken while they fit 64 bits**, and the first one that is left over does not. -/
theorem appendDigits_spec (n : Nat) (run : List Char) :
    ∃ taken, run = taken ++ (appendDigits n run).2 ∧
      (appendDigits n run).1 = digitsAfter n taken ∧
      ∀ c ∈ (appendDigits n run).2.head?,
        2 ^ 64 ≤ 10 * (appendDigits n run).1 + (c.toNat - 48) := by
  fun_induction appendDigits n run with
  | case1 => exact ⟨[], rfl, rfl, nofun⟩
  | case2 n c rest _ _ ih =>
    obtain ⟨taken, hrun, hvalue, hleft⟩ := ih
    exact ⟨c :: taken, congrArg (c :: ·) hrun, hvalue.trans (digitsAfter_cons ..).symm, hleft⟩
  | case3 n c rest next hnext =>
    refine ⟨[], rfl, rfl, fun _ hc => ?_⟩
    cases hc
    exact Nat.le_of_not_lt (mt holds_uint64.2 hnext)

/-- One more than the greatest number of 64 bits. -/
example : appendDigits 0 "18446744073709551616".toList = (1844674407370955161, ['6']) := by
  decide +kernel

theorem appendDigits_eq {n : Nat} {run : List Char} (h : digitsAfter n run < 2 ^ 64) :
    appendDigits n run = (digitsAfter n run, []) := by
  fun_induction appendDigits n run with
  | case1 => rfl
  | case2 _ _ _ _ _ ih => exact ih h
  | case3 n c rest next hnext =>
    have hlt : next < 2 ^ 64 := Nat.lt_of_le_of_lt (le_digitsAfter next rest) h
    exact absurd (holds_uint64.2 hlt) hnext

namespace Decimal

theorem coefficient_ofDigits_lt (whole fraction : List Char) (exponent : Int) :
    (ofDigits whole fraction exponent).coefficient < 2 ^ 64 :=
  appendDigits_lt (appendDigits_lt (by decide) whole) fraction

/-- **Digits that fit are all taken.** -/
theorem ofDigits_eq {whole fraction : List Char} (h : digitsValue (whole ++ fraction) < 2 ^ 64)
    (exponent : Int) : ofDigits whole fraction exponent =
      ⟨digitsValue (whole ++ fraction), exponent - fraction.length⟩ := by
  rw [digitsValue_append] at h ⊢
  have hwhole : appendDigits 0 whole = (digitsValue whole, []) :=
    appendDigits_eq (Nat.lt_of_le_of_lt (le_digitsAfter _ fraction) h)
  simp [ofDigits, hwhole, appendDigits_eq h]

end Decimal

/-! ## Bounds -/

/-- A bound for `num / den` gives one for the scaled quotient. -/
theorem scaled_lt {num den low high bound : Nat} {exponent : Int}
    (h : num * 2 ^ low < 2 ^ high * den) (hbound : high - low + exponent ≤ bound) :
    (scaled 2 num den exponent).1 < 2 ^ bound * (scaled 2 num den exponent).2 := by
  unfold scaled
  split
  · obtain ⟨places, rfl⟩ := Int.eq_ofNat_of_zero_le ‹0 ≤ exponent›
    have hpower : 2 ^ (high + places) ≤ 2 ^ (bound + low) :=
      Nat.pow_le_pow_right (by decide) (by omega)
    refine Nat.lt_of_mul_lt_mul_right (a := 2 ^ low) ?_
    calc num * 2 ^ places * 2 ^ low = num * 2 ^ low * 2 ^ places := by ac_rfl
      _ < 2 ^ high * den * 2 ^ places := Nat.mul_lt_mul_of_pos_right h (Nat.two_pow_pos places)
      _ = 2 ^ (high + places) * den := by rw [Nat.pow_add]; ac_rfl
      _ ≤ 2 ^ (bound + low) * den := Nat.mul_le_mul_right den hpower
      _ = 2 ^ bound * den * 2 ^ low := by rw [Nat.pow_add]; ac_rfl
  · generalize hplaces : (-exponent).toNat = places
    have hpower : 2 ^ high ≤ 2 ^ (bound + places + low) :=
      Nat.pow_le_pow_right (by decide) (by omega)
    refine Nat.lt_of_mul_lt_mul_right (a := 2 ^ low) ?_
    calc num * 2 ^ low < 2 ^ high * den := h
      _ ≤ 2 ^ (bound + places + low) * den := Nat.mul_le_mul_right den hpower
      _ = 2 ^ bound * (den * 2 ^ places) * 2 ^ low := by
        rw [Nat.pow_add, Nat.pow_add]
        ac_rfl

theorem roundHalfEven_le {num den bound : Nat} (h : num < bound * den) :
    roundHalfEven num den ≤ bound := by
  have hquotient : num / den < bound := Nat.div_lt_of_lt_mul (Nat.mul_comm bound den ▸ h)
  unfold roundHalfEven
  dsimp only
  split
  · omega
  · split <;> omega

theorem le_roundHalfEven {num den bound : Nat} (hden : den ≠ 0) (h : bound * den ≤ num) :
    bound ≤ roundHalfEven num den := by
  have hquotient : bound ≤ num / den := (Nat.le_div_iff_mul_le (Nat.pos_of_ne_zero hden)).2 h
  unfold roundHalfEven
  dsimp only
  split
  · exact hquotient
  · split <;> omega

/-- Both powers of two next to the binary logarithms. -/
theorem mul_log2_lt {num den : Nat} (hden : den ≠ 0) :
    num * 2 ^ den.log2 < 2 ^ (num.log2 + 1) * den :=
  Nat.mul_lt_mul_of_lt_of_le Nat.lt_log2_self (Nat.log2_self_le hden) (Nat.pos_of_ne_zero hden)

theorem log2_le {num den bound : Nat} (hnum : num ≠ 0) (h : num < 2 ^ bound * den) :
    num.log2 ≤ bound + den.log2 := by
  have hlt : num < 2 ^ (bound + den.log2 + 1) := by
    calc num < 2 ^ bound * den := h
      _ ≤ 2 ^ bound * 2 ^ (den.log2 + 1) := Nat.mul_le_mul_left _ (Nat.le_of_lt Nat.lt_log2_self)
      _ = 2 ^ (bound + den.log2 + 1) := (Nat.pow_add 2 bound (den.log2 + 1)).symm
  exact Nat.lt_succ_iff.1 ((Nat.log2_lt hnum).2 hlt)

namespace Format

theorem hidden_double : double.hidden = 2 ^ 52 := rfl

/-- What is less than `2 ^ bound` is rounded to a magnitude of about that exponent or less. -/
theorem nearest_le {num den bound : Nat} (h : num < 2 ^ bound * den) :
    double.nearest num den ≤ (bound + 1026) * 2 ^ 52 := by
  unfold nearest
  split
  · exact Nat.zero_le _
  · rename_i hnum
    have hden : den ≠ 0 := by
      rintro rfl
      exact absurd h (Nat.not_lt_zero num)
    have hlog := log2_le hnum h
    have hexponent : (num.log2 : Int) - den.log2 - 1 ≤ binaryExponent num den ∧
        binaryExponent num den ≤ (num.log2 : Int) - den.log2 := by
      unfold binaryExponent
      dsimp only
      split <;> omega
    generalize binaryExponent num den = exponent at hexponent
    generalize hunit : max double.lowest (exponent - (double.precision - 1 : Nat)) = unit
    simp only [double] at hunit
    have hrounded : roundHalfEven (scaled 2 num den (-unit)).1 (scaled 2 num den (-unit)).2 ≤
        2 ^ 54 := roundHalfEven_le (scaled_lt (mul_log2_lt hden) (by omega))
    have hsteps : (unit - double.lowest).toNat ≤ bound + 1022 := by
      simp only [double]
      omega
    calc min double.infinite (roundHalfEven (scaled 2 num den (-unit)).1
          (scaled 2 num den (-unit)).2 + (unit - double.lowest).toNat * double.hidden)
        ≤ 2 ^ 54 + (bound + 1022) * 2 ^ 52 :=
          Nat.le_trans (Nat.min_le_right _ _)
            (Nat.add_le_add hrounded (Nat.mul_le_mul_right _ hsteps))
      _ = (bound + 1026) * 2 ^ 52 := by omega

/-- What is at least one is not rounded to less. -/
theorem le_nearest {num den : Nat} (hden : den ≠ 0) (h : den ≤ num) :
    1023 * 2 ^ 52 ≤ double.nearest num den := by
  have hnum : num ≠ 0 := by omega
  have hlog : den.log2 ≤ num.log2 := (Nat.le_log2 hnum).2 (Nat.le_trans (Nat.log2_self_le hden) h)
  have hexponent : 0 ≤ binaryExponent num den := by
    unfold binaryExponent
    dsimp only
    split
    · omega
    · rename_i hless
      rcases Nat.eq_or_lt_of_le hlog with heq | hlt
      · rw [heq, Int.sub_self] at hless
        exact absurd (Nat.le_trans h (Nat.le_of_eq (Nat.mul_one num).symm)) hless
      · omega
  unfold nearest
  rw [if_neg hnum]
  generalize binaryExponent num den = exponent at hexponent
  generalize hunit : max double.lowest (exponent - (double.precision - 1 : Nat)) = unit
  simp only [double] at hunit
  refine Nat.le_min.2 ⟨by decide, ?_⟩
  rcases Int.lt_or_eq_of_le (show -52 ≤ unit by omega) with hlarge | rfl
  · have hsteps : 1023 ≤ (unit - double.lowest).toNat := by
      simp only [double]
      omega
    exact Nat.le_trans (Nat.mul_le_mul_right _ hsteps) (Nat.le_add_left ..)
  · have hrounded : 2 ^ 52 ≤ roundHalfEven (num * 2 ^ 52) den :=
      le_roundHalfEven hden (Nat.mul_comm num _ ▸ Nat.mul_le_mul_left _ h)
    exact Nat.add_le_add_right hrounded (1022 * 2 ^ 52)

/-- Significand and exponent of a magnitude that is not above a bound. -/
theorem parts_le {magnitude bound : Nat} (h : magnitude ≤ bound * 2 ^ 52) (hbound : 0 < bound) :
    (double.parts magnitude).1 < 2 ^ 53 ∧ (double.parts magnitude).2 ≤ (bound : Int) - 1075 := by
  unfold parts
  rw [hidden_double]
  simp only [double]
  split <;> constructor <;> dsimp only <;> omega

/-- Significand and exponent of a magnitude that is not below a bound. -/
theorem le_parts {magnitude bound : Nat} (h : bound * 2 ^ 52 ≤ magnitude) (hbound : 0 < bound) :
    2 ^ 52 ≤ (double.parts magnitude).1 ∧ (bound : Int) - 1075 ≤ (double.parts magnitude).2 := by
  unfold parts
  rw [hidden_double]
  simp only [double]
  split <;> constructor <;> dsimp only <;> omega

/-- Division subtracts the exponents. -/
theorem quotient_le {a b s t bound : Nat} (ha : a ≤ s * 2 ^ 52) (hb : t * 2 ^ 52 ≤ b)
    (hs : 0 < s) (ht : 0 < t) (hbound : s + 1 ≤ t + bound) :
    double.quotient a b ≤ (bound + 1026) * 2 ^ 52 := by
  obtain ⟨ham, hae⟩ := parts_le ha hs
  obtain ⟨hbm, hbe⟩ := le_parts hb ht
  have hlt : (double.parts a).1 * 2 ^ 52 < 2 ^ 53 * (double.parts b).1 :=
    Nat.mul_lt_mul_of_lt_of_le ham hbm (Nat.lt_of_lt_of_le (Nat.two_pow_pos 52) hbm)
  have hexponent : ((53 : Nat) : Int) - (52 : Nat) +
      ((double.parts a).2 - (double.parts b).2) ≤ bound := by omega
  exact nearest_le (scaled_lt hlt hexponent)

end Format

/-! ## Reading -/

theorem le_powerOfTen (places : Nat) : 1023 * 2 ^ 52 ≤ powerOfTen places :=
  Format.le_nearest (by decide) (Nat.pow_pos (by decide))

theorem lower_le {magnitude places : Nat} (h : magnitude ≤ 1090 * 2 ^ 52) :
    lower magnitude places ≤ 1094 * 2 ^ 52 := by
  fun_induction lower magnitude places with
  | case1 magnitude places =>
    exact Format.quotient_le h (le_powerOfTen places) (by decide) (by decide) (by decide)
  | case2 => exact Nat.zero_le _
  | case3 magnitude places _ _ ih =>
    have hpower : 2023 * 2 ^ 52 ≤ powerOfTen maxPlaces := by decide +kernel
    have hnext := @Format.quotient_le _ _ _ _ 0 h hpower (by decide) (by decide) (by decide)
    exact ih (Nat.le_trans hnext (by decide))

namespace Decimal

/-- **What is read is finite.** -/
theorem approximate?_lt_infinite {d : Decimal} (h : d.coefficient < 2 ^ 64) {magnitude : Nat}
    (hread : d.approximate? = some magnitude) : magnitude < Format.double.infinite := by
  have hcoefficient : Format.double.nearest d.coefficient 1 ≤ 1090 * 2 ^ 52 :=
    @Format.nearest_le _ _ 64 (by omega)
  unfold approximate? raise? at hread
  dsimp only at hread
  split at hread
  · split at hread
    · split at hread
      · cases hread
        assumption
      · cases hread
    · split at hread
      · cases hread
        decide
      · cases hread
  · cases hread
    exact Nat.lt_of_le_of_lt (lower_le hcoefficient) (by decide)

/-- Nearest to this is the greatest number, but its last multiplication gives infinity. -/
example : approximate? ⟨17976931348623158, 292⟩ = none := by decide +kernel

/-- The number nearest to this is the one after it. -/
example : approximate? ⟨9204938554384977, -15⟩ = some 4621371537785195461 := by decide +kernel

end Decimal

end DocumentQuery.Number
