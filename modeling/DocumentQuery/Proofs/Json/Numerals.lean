import DocumentQuery.Json.Parser
import DocumentQuery.Json.Printer
import DocumentQuery.Proofs.Number.Scaling
import Mathlib.Data.List.TakeDrop
import Mathlib.Tactic.IntervalCases

/-!
# Numbers as they are spelled

A whole number is spelled by its digits, and any other one by its shortest digits with a point or an
exponent. Either spelling is read off the text that is written, up to what ends a value. Whatever a
text spells, it is never read as an infinite number.

* `Spelled.text`       : a spelled number as text;
* `Spelled.WellFormed` : the digits are digits, without leading zeros;
* `Spelled.ofInt`, `Spelled.ofReal` : how numbers are spelled;
* `Ends`               : what may stand after a value.

Principal results: `number?_text`, `integerText_eq`, `realText_eq`, `Spelled.isFinite_of_value?`.
-/

namespace DocumentQuery

namespace Number

/-- A digit that is not zero leads, or zero stands alone. -/
def NoLeadingZero (run : List Char) : Prop := run.head? = some '0' → run = ['0']

theorem isDigit_of_mem_toDigits {n : Nat} {c : Char} (h : c ∈ toDigits n) : isDigit c = true :=
  Nat.isDigit_of_mem_toDigits (by decide) (by decide) h

theorem toDigits_ne_nil (n : Nat) : toDigits n ≠ [] := Nat.toDigits_ne_nil

theorem digitsValue_toDigits (n : Nat) : digitsValue (toDigits n) = n :=
  Nat.ofDigitChars_toDigits (by decide) (by decide)

/-- The first digit of a positive number is not zero. -/
theorem head?_toDigits {n : Nat} (h : n ≠ 0) : (toDigits n).head? ≠ some '0' := by
  induction n using Nat.strongRecOn with
  | ind n ih =>
    by_cases hsmall : n < 10
    · rw [toDigits, Nat.toDigits_of_lt_base hsmall]
      interval_cases n <;> first | exact absurd rfl h | decide
    · have hfront := ih (n / 10) (by omega) (by omega)
      obtain ⟨c, rest, hrest⟩ := List.exists_cons_of_ne_nil (toDigits_ne_nil (n / 10))
      rw [toDigits, Nat.toDigits_of_base_le (by decide) (by omega)]
      rw [toDigits] at hrest hfront
      rw [hrest] at hfront ⊢
      exact hfront

theorem noLeadingZero_toDigits (n : Nat) : NoLeadingZero (toDigits n) := by
  intro h
  by_cases hn : n = 0
  · rw [hn]
    rfl
  · exact absurd h (head?_toDigits hn)

/-- A run of digits ends where no digit follows. -/
theorem digits_append {run rest : List Char} (hrun : ∀ c ∈ run, isDigit c = true)
    (hrest : ∀ c, rest.head? = some c → isDigit c = false) :
    digits (run ++ rest) = (run, rest) := by
  have hfront : rest.takeWhile isDigit = [] ∧ rest.dropWhile isDigit = rest := by
    cases rest with
    | nil => exact ⟨rfl, rfl⟩
    | cons c rest => simp [hrest c rfl]
  rw [digits, List.span_eq_takeWhile_dropWhile, List.takeWhile_append_of_pos hrun,
    List.dropWhile_append_of_pos hrun, hfront.1, hfront.2, List.append_nil]

/-! ### Shortest decimals -/

/-- A zero coefficient has no power of ten with it. -/
def Decimal.Plain (d : Decimal) : Prop := d.coefficient = 0 → d.exponent = 0

theorem Decimal.plain_strip {d : Decimal} (h : d.Plain) (fuel : Nat) : (strip fuel d).Plain := by
  induction fuel generalizing d with
  | zero => exact h
  | succ fuel ih =>
    unfold strip
    split
    · rename_i hten
      refine ih fun hzero => absurd hzero ?_
      show d.coefficient / 10 ≠ 0
      omega
    · exact h

/-- A decimal that reads back as another number than zero is not zero. -/
theorem Decimal.plain_of_nearest {f : Format} {d : Decimal} (h : d.nearest f ≠ 0) : d.Plain := by
  intro hzero
  exact absurd (by simp only [nearest, hzero, true_or, if_true]) h

theorem nearest_neighbour? {f : Format} {magnitude num den count : Nat} {d : Decimal}
    (h : neighbour? f magnitude num den count = some d) : d.nearest f = magnitude := by
  simp only [neighbour?] at h
  split at h
  · rename_i hboth
    rw [Bool.and_eq_true, beq_iff_eq, beq_iff_eq] at hboth
    cases h
    split
    · exact hboth.1
    · exact hboth.2
  · split at h
    · rename_i hbelow
      cases h
      exact beq_iff_eq.1 hbelow
    · split at h
      · rename_i habove
        cases h
        exact beq_iff_eq.1 habove
      · cases h

theorem Decimal.plain_getD {found : Option Decimal} (h : ∀ d, found = some d → d.Plain) (m : Nat) :
    (found.getD ⟨m, 0⟩).Plain := by
  cases found with
  | none => exact fun _ => rfl
  | some d => exact h d rfl

theorem Format.plain_shortest (f : Format) {magnitude : Nat} (hmagnitude : magnitude ≠ 0) :
    (f.shortest magnitude).Plain := by
  unfold shortest
  refine Decimal.plain_strip (Decimal.plain_getD (fun d hd => ?_) _) _
  obtain ⟨i, -, hi⟩ := List.exists_of_findSome?_eq_some hd
  exact Decimal.plain_of_nearest ((nearest_neighbour? hi).trans_ne hmagnitude)

theorem Double.plain_shortest (x : Double) : x.shortest.Plain := by
  unfold Double.shortest
  split
  · exact fun _ => rfl
  · rename_i hmagnitude
    exact Format.plain_shortest _ hmagnitude

theorem Double.isFinite_ofMagnitude (negative : Bool) {magnitude : Nat}
    (h : magnitude < Format.double.infinite) :
    (ofMagnitude negative magnitude).isFinite = true := by
  have hsign : magnitude < signBit := Nat.lt_trans h (by decide)
  have hword : (if negative then signBit + magnitude else magnitude) < 2 ^ 64 := by
    cases negative
    · exact Nat.lt_trans hsign (by decide)
    · exact Nat.add_lt_add_left hsign signBit
  have hbits : (ofMagnitude negative magnitude).bits.toNat =
      if negative then signBit + magnitude else magnitude := UInt64.toNat_ofNat_of_lt hword
  have hmagnitude : (ofMagnitude negative magnitude).magnitude = magnitude := by
    rw [Double.magnitude, hbits]
    cases negative
    · exact Nat.mod_eq_of_lt hsign
    · exact (Nat.add_mod_left signBit magnitude).trans (Nat.mod_eq_of_lt hsign)
  rw [isFinite, hmagnitude]
  exact decide_eq_true h

end Number

namespace Json

open Number (Decimal Double isDigit digits digitsValue toDigits NoLeadingZero)

/-- A comma, or what closes a list or an object; or nothing. -/
def Ends (rest : List Char) : Prop :=
  ∀ c, rest.head? = some c → c = ',' ∨ c = ']' ∨ c = '\x7d'

/-- What stands after a number goes on with no digit and no point. -/
def Stops (rest : List Char) : Prop :=
  ∀ c, rest.head? = some c → isDigit c = false ∧ c ≠ '.'

theorem Ends.stops {rest : List Char} (h : Ends rest) : Stops rest := by
  intro c hc
  rcases h c hc with rfl | rfl | rfl <;> decide

namespace Spelled

def fractionText (fraction : List Char) : List Char :=
  if fraction.isEmpty then [] else '.' :: fraction

def exponentText : Option Int → List Char
  | none => []
  | some n => 'e' :: (if n < 0 then '-' else '+') :: toDigits n.natAbs

/-- A spelled number as it is written. -/
def text (spelled : Spelled) : List Char :=
  (if spelled.negative then ['-'] else []) ++
    (spelled.whole ++ (fractionText spelled.fraction ++ exponentText spelled.exponent))

/-- Its digits are digits, and those before the point are some, without leading zeros. -/
structure WellFormed (spelled : Spelled) : Prop where
  whole : spelled.whole ≠ []
  leading : NoLeadingZero spelled.whole
  digits : ∀ c ∈ spelled.whole ++ spelled.fraction, isDigit c = true

end Spelled

/-- A number begins with its sign or with a digit. -/
theorem Spelled.WellFormed.exists_text_eq_cons {spelled : Spelled} (h : spelled.WellFormed) :
    ∃ c rest, spelled.text = c :: rest ∧ (c = '-' ∨ isDigit c = true) := by
  obtain ⟨negative, whole, fraction, exponent⟩ := spelled
  obtain ⟨c, run, rfl⟩ := List.exists_cons_of_ne_nil h.whole
  have hc := h.digits c (List.mem_append_left _ List.mem_cons_self)
  cases negative with
  | true => exact ⟨'-', _, rfl, .inl rfl⟩
  | false => exact ⟨c, _, rfl, .inr hc⟩

/-- What a number is written with. -/
theorem Spelled.WellFormed.printable {spelled : Spelled} (h : spelled.WellFormed) :
    ∀ c ∈ spelled.text, 0x20 ≤ c.toNat := by
  have hdigit : ∀ {c : Char}, isDigit c = true → 0x20 ≤ c.toNat := by
    intro c hc
    have hlow : '0' ≤ c := (by simpa [isDigit] using hc : '0' ≤ c ∧ c ≤ '9').1
    exact Nat.le_trans (by decide : 0x20 ≤ '0'.toNat) hlow
  obtain ⟨hwhole, hfraction⟩ := List.forall_mem_append.1 h.digits
  simp only [Spelled.text, List.forall_mem_append]
  refine ⟨?_, fun c hc => hdigit (hwhole c hc), ?_, ?_⟩
  · split <;> simp
  · unfold Spelled.fractionText
    split
    · simp
    · exact List.forall_mem_cons.2 ⟨by decide, fun c hc => hdigit (hfraction c hc)⟩
  · cases spelled.exponent with
    | none => simp [Spelled.exponentText]
    | some n =>
      refine List.forall_mem_cons.2 ⟨by decide, List.forall_mem_cons.2 ⟨?_, fun c hc => ?_⟩⟩
      · split <;> decide
      · exact hdigit (Number.isDigit_of_mem_toDigits hc)

open Spelled (fractionText exponentText)

theorem stops_exponentText {rest : List Char} (h : Ends rest) (exponent : Option Int) :
    Stops (exponentText exponent ++ rest) := by
  cases exponent with
  | none => exact h.stops
  | some n =>
    intro c hc
    cases hc
    decide

namespace Outline

theorem exponent?_text {rest : List Char} (hrest : Ends rest) (exponent : Option Int) :
    exponent? (exponentText exponent ++ rest) = some (exponent, rest) := by
  cases exponent with
  | none =>
    cases rest with
    | nil => rfl
    | cons c rest => rcases hrest c rfl with rfl | rfl | rfl <;> rfl
  | some n =>
    have hrun : digits (toDigits n.natAbs ++ rest) = (toDigits n.natAbs, rest) :=
      Number.digits_append (fun _ => Number.isDigit_of_mem_toDigits)
        fun c hc => (hrest.stops c hc).1
    have hempty : (toDigits n.natAbs).isEmpty = false :=
      List.isEmpty_eq_false_iff.2 (Number.toDigits_ne_nil _)
    by_cases hn : n < 0
    · have hvalue : -(n.natAbs : Int) = n := by omega
      simp only [exponentText, if_pos hn, List.cons_append, exponent?, true_or, if_true,
        Number.sign, hrun, hempty, Number.digitsValue_toDigits, Bool.false_eq_true, if_false,
        hvalue]
    · have hvalue : (n.natAbs : Int) = n := by omega
      simp only [exponentText, if_neg hn, List.cons_append, exponent?, true_or, if_true,
        Number.sign, hrun, hempty, Number.digitsValue_toDigits, Bool.false_eq_true, if_false,
        hvalue]

theorem fraction?_text {fraction rest : List Char} (hdigits : ∀ c ∈ fraction, isDigit c = true)
    (hrest : Stops rest) : fraction? (fractionText fraction ++ rest) = some (fraction, rest) := by
  cases fraction with
  | nil =>
    cases rest with
    | nil => rfl
    | cons c rest =>
      show fraction? (c :: rest) = _
      rw [fraction?]
      rintro _ hdot
      exact (hrest c rfl).2 (List.cons.inj hdot).1
  | cons c fraction =>
    have hrun := Number.digits_append hdigits fun c hc => (hrest c hc).1
    show fraction? ('.' :: (c :: fraction ++ rest)) = _
    simp only [fraction?, hrun]
    rfl

/-- **A spelled number is read as it is spelled**, where it ends. -/
theorem number?_text {spelled : Spelled} (h : spelled.WellFormed) {rest : List Char}
    (hrest : Ends rest) : number? (spelled.text ++ rest) = some (spelled, rest) := by
  obtain ⟨negative, whole, fraction, exponent⟩ := spelled
  obtain ⟨hwhole, hleading, hdigits⟩ := h
  simp only [List.forall_mem_append] at hwhole hleading hdigits
  obtain ⟨c, run, rfl⟩ := List.exists_cons_of_ne_nil hwhole
  have hstops := stops_exponentText hrest exponent
  have hfraction := fraction?_text hdigits.2 hstops
  have hexponent := exponent?_text hrest exponent
  generalize htail : exponentText exponent ++ rest = tail at hfraction hexponent hstops
  have htext : (Spelled.mk negative (c :: run) fraction exponent).text ++ rest =
      (if negative then ['-'] else []) ++ (c :: run ++ (fractionText fraction ++ tail)) := by
    simp only [Spelled.text, List.append_assoc, htail, List.cons_append]
  have hafter : ∀ c, (fractionText fraction ++ tail).head? = some c → isDigit c = false := by
    cases fraction with
    | nil => exact fun c hc => (hstops c hc).1
    | cons => exact fun c hc => by cases hc; rfl
  have hrun := Number.digits_append hdigits.1 hafter
  rw [List.cons_append] at hrun
  rw [htext]
  by_cases hzero : c = '0'
  · subst hzero
    cases hleading rfl
    cases negative <;>
      simp [number?, hfraction, hexponent]
  · have hminus : c ≠ '-' := by
      rintro rfl
      cases hdigits.1 _ List.mem_cons_self
    cases negative <;>
      simp [number?, hrun, hfraction, hexponent, hzero, hminus]

end Outline

/-! ## Whole numbers -/

namespace Spelled

def ofInt (n : Int) : Spelled := ⟨n < 0, toDigits n.natAbs, [], none⟩

theorem wellFormed_ofInt (n : Int) : (ofInt n).WellFormed where
  whole := Number.toDigits_ne_nil _
  leading := Number.noLeadingZero_toDigits _
  digits c hc := Number.isDigit_of_mem_toDigits (by simpa [ofInt] using hc)

end Spelled

theorem integerText_eq (n : Int) : integerText n = (Spelled.ofInt n).text := by
  by_cases hn : n < 0 <;>
    simp [integerText, Spelled.ofInt, Spelled.text, Spelled.fractionText, Spelled.exponentText, hn]

/-! ## Real numbers -/

namespace Spelled

/-- The digits before and after a point. -/
def parts (digits : List Char) (point : Int) : List Char × List Char :=
  if point ≤ 0 then (['0'], List.replicate (-point).toNat '0' ++ digits)
  else if digits.length ≤ point.toNat then
    (digits ++ List.replicate (point.toNat - digits.length) '0', ['0'])
  else (digits.take point.toNat, digits.drop point.toNat)

def ofReal (x : Double) : Spelled :=
  let digits := toDigits x.shortest.coefficient
  let place := x.shortest.exponent + digits.length - 1
  if Layout.number.lowest ≤ place ∧ place ≤ Layout.number.highest then
    ⟨x.isNegative, (parts digits (place + 1)).1, (parts digits (place + 1)).2, none⟩
  else ⟨x.isNegative, digits.take 1, digits.drop 1, some place⟩

theorem parts_ne_nil {digits : List Char} (hdigits : digits ≠ []) (point : Int) :
    (parts digits point).1 ≠ [] ∧ (parts digits point).2 ≠ [] := by
  have hlength := List.length_pos_iff.2 hdigits
  unfold parts
  split
  · exact ⟨List.cons_ne_nil _ _, fun h => hdigits (List.append_eq_nil_iff.1 h).2⟩
  · split
    · exact ⟨fun h => hdigits (List.append_eq_nil_iff.1 h).1, List.cons_ne_nil _ _⟩
    · refine ⟨fun h => ?_, fun h => ?_⟩
      · rcases List.take_eq_nil_iff.1 h with h | h
        · omega
        · exact hdigits h
      · rw [List.drop_eq_nil_iff] at h
        omega

theorem isDigit_of_mem_parts {digits : List Char} (hdigits : ∀ c ∈ digits, isDigit c = true)
    (point : Int) : ∀ c ∈ (parts digits point).1 ++ (parts digits point).2, isDigit c = true := by
  have hzeros : ∀ n, ∀ c ∈ List.replicate n '0', isDigit c = true := by
    intro n c hc
    rw [List.eq_of_mem_replicate hc]
    rfl
  unfold parts
  split
  · simp only [List.forall_mem_append, List.forall_mem_singleton]
    exact ⟨rfl, hzeros _, hdigits⟩
  · split
    · simp only [List.forall_mem_append, List.forall_mem_singleton]
      exact ⟨⟨hdigits, hzeros _⟩, rfl⟩
    · rw [List.take_append_drop]
      exact hdigits

theorem noLeadingZero_parts {digits : List Char} {point : Int} (hdigits : digits ≠ [])
    (h : digits.head? = some '0' → digits = ['0'] ∧ point = 1) :
    NoLeadingZero (parts digits point).1 := by
  obtain ⟨c, run, rfl⟩ := List.exists_cons_of_ne_nil hdigits
  by_cases hzero : c = '0'
  · subst hzero
    obtain ⟨hrun, rfl⟩ := h rfl
    rw [hrun]
    exact fun _ => rfl
  · unfold parts
    split
    · exact fun _ => rfl
    · rename_i hpoint
      split
      · exact fun hhead => absurd (Option.some.inj hhead) hzero
      · obtain ⟨n, hn⟩ : ∃ n, point.toNat = n + 1 := ⟨point.toNat - 1, by omega⟩
        rw [hn, List.take_succ_cons]
        exact fun hhead => absurd (Option.some.inj hhead) hzero

theorem wellFormed_ofReal (x : Double) : (ofReal x).WellFormed := by
  have hdigits := Number.toDigits_ne_nil x.shortest.coefficient
  have hall : ∀ c ∈ toDigits x.shortest.coefficient, isDigit c = true :=
    fun _ => Number.isDigit_of_mem_toDigits
  unfold ofReal
  simp only
  split
  · refine ⟨(parts_ne_nil hdigits _).1, noLeadingZero_parts hdigits ?_, isDigit_of_mem_parts hall _⟩
    intro hhead
    have hzero : x.shortest.coefficient = 0 := by
      by_contra hne
      exact Number.head?_toDigits hne hhead
    refine ⟨Number.noLeadingZero_toDigits _ hhead, ?_⟩
    rw [x.plain_shortest hzero, hzero]
    rfl
  · obtain ⟨c, run, hrun⟩ := List.exists_cons_of_ne_nil hdigits
    rw [hrun] at hall ⊢
    refine ⟨List.cons_ne_nil _ _, fun hhead => ?_, hall⟩
    cases Option.some.inj hhead
    rfl

end Spelled

theorem positional_eq {digits : List Char} (hdigits : digits ≠ []) (point : Int) :
    positional digits point = (Spelled.parts digits point).1 ++
      Spelled.fractionText (Spelled.parts digits point).2 := by
  rw [Spelled.fractionText, List.isEmpty_eq_false_iff.2 (Spelled.parts_ne_nil hdigits point).2]
  unfold positional Spelled.parts
  split
  · rfl
  · split <;> rfl

theorem realText_eq (x : Double) : realText x = (Spelled.ofReal x).text := by
  have hdigits := Number.toDigits_ne_nil x.shortest.coefficient
  unfold realText Spelled.ofReal
  simp only
  generalize toDigits x.shortest.coefficient = digits at hdigits
  generalize x.shortest.exponent + digits.length - 1 = place
  by_cases hplace : Layout.number.lowest ≤ place ∧ place ≤ Layout.number.highest
  · rw [if_pos hplace, if_pos hplace, positional_eq hdigits]
    cases x.isNegative <;> simp [Spelled.text, Spelled.exponentText]
  · rw [if_neg hplace, if_neg hplace]
    cases x.isNegative <;>
      simp [scientific, Spelled.text, Spelled.exponentText, Spelled.fractionText]

/-! ## Numbers that are read -/

namespace Spelled

variable {spelled : Spelled} {x : Double}

theorem isFinite_of_real? (h : spelled.real? = some (.real x)) : x.isFinite = true := by
  obtain ⟨magnitude, hread, hx⟩ := Option.map_eq_some_iff.1 h
  cases hx
  exact Double.isFinite_ofMagnitude _
    (Decimal.approximate?_lt_infinite (Decimal.coefficient_ofDigits_lt ..) hread)

/-- **No number is read as infinite.** -/
theorem isFinite_of_value? (h : spelled.value? = some (.real x)) : x.isFinite = true := by
  unfold value? at h
  dsimp only at h
  repeat' split at h
  all_goals first
    | exact isFinite_of_real? h
    | cases h

/-- A text without a value: its digits are those of the greatest number, and scaling them gives
infinity. -/
example : (parse? "1.7976931348623158e308").isNone := by decide +kernel

end Spelled

end Json

end DocumentQuery
