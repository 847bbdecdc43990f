import DocumentQuery.Text.LowerCase.Table

/-!
# Lower case

The lower-case form of a text by the Unicode rules that hang on no language. Every character has
a form of its own, except the capital sigma: at the end of a word it becomes the final sigma.

* `LowerCase.ofChar` : the form of one character, out of context;
* `lowerCase`        : the form of a text;
* `lowerCase_ascii`  : only the letters from A to Z change in a text of ASCII characters.
-/

namespace DocumentQuery.Text

namespace LowerCase

/-- The run holds the code point. -/
def Run.holds (r : Run) (n : Nat) : Bool :=
  r.first ≤ n && n ≤ r.last && (n - r.first) % r.stride == 0

def inRanges (ranges : List Range) (n : Nat) : Bool :=
  ranges.any fun r => r.1 ≤ n && n ≤ r.2

def isCased (c : Char) : Bool := inRanges casedRanges c.toNat

def isIgnorable (c : Char) : Bool := inRanges ignorableRanges c.toNat

/-- The form of one character. The capital I with dot above is the one that needs two. -/
def ofChar (c : Char) : List Char :=
  if c.toNat = 0x130 then ['i', '\u0307']
  else
    match lowerRuns.find? (·.holds c.toNat) with
    | some r => [Char.ofNat (c.toNat + r.distance).toNat]
    | none => [c]

/-- The next character that is not ignorable is cased. -/
def casedNext (s : List Char) : Bool :=
  match s.dropWhile isIgnorable with
  | c :: _ => isCased c
  | [] => false

/-- `afterCased` says that the last character read that is not ignorable is cased. -/
def convert (afterCased : Bool) : List Char → List Char
  | [] => []
  | c :: rest =>
    let after := if isIgnorable c then afterCased else isCased c
    if c = 'Σ' then
      (if afterCased && !casedNext rest then 'ς' else 'σ') :: convert after rest
    else ofChar c ++ convert after rest

/-- The first run is that of the letters from A to Z, and the others start later. -/
theorem find?_lowerRuns_ascii {n : Nat} (h : n < 128) :
    lowerRuns.find? (·.holds n) = if 65 ≤ n ∧ n ≤ 90 then some ⟨65, 90, 1, 32⟩ else none := by
  have hfirst : ∀ r ∈ lowerRuns.tail, 128 ≤ r.first := by decide +kernel
  have hrest : lowerRuns.tail.find? (·.holds n) = none := by
    refine List.find?_eq_none.2 fun r hr hholds => ?_
    simp only [Run.holds, Bool.and_eq_true, decide_eq_true_eq] at hholds
    have hlater := hfirst r hr
    omega
  have hholds : Run.holds ⟨65, 90, 1, 32⟩ n = decide (65 ≤ n ∧ n ≤ 90) := by
    simp [Run.holds, Nat.mod_one]
  rw [show lowerRuns = ⟨65, 90, 1, 32⟩ :: lowerRuns.tail from rfl, List.find?_cons, hrest, hholds]
  by_cases hletter : 65 ≤ n ∧ n ≤ 90 <;> simp [hletter]

theorem ofChar_ascii {c : Char} (h : c.toNat < 128) : ofChar c = [c.toLower] := by
  have hascii : ∀ n < 128, (if 65 ≤ n ∧ n ≤ 90 then Char.ofNat (n + 32) else Char.ofNat n) =
      (Char.ofNat n).toLower := by decide +kernel
  have hc := hascii c.toNat h
  rw [Char.ofNat_toNat] at hc
  rw [ofChar, if_neg (by omega), find?_lowerRuns_ascii h, ← hc]
  by_cases hletter : 65 ≤ c.toNat ∧ c.toNat ≤ 90
  · rw [if_pos hletter, if_pos hletter]
    rfl
  · rw [if_neg hletter, if_neg hletter]

theorem convert_ascii {s : List Char} (h : ∀ c ∈ s, c.toNat < 128) (afterCased : Bool) :
    convert afterCased s = s.map Char.toLower := by
  induction s generalizing afterCased with
  | nil => rfl
  | cons c rest ih =>
    obtain ⟨hc, hrest⟩ := List.forall_mem_cons.1 h
    have hsigma : c ≠ 'Σ' := by
      rintro rfl
      exact absurd hc (by decide)
    rw [convert, if_neg hsigma, ofChar_ascii hc, ih hrest]
    rfl

end LowerCase

/-- The lower-case form of a text. -/
def lowerCase (s : String) : String := String.ofList (LowerCase.convert false s.toList)

theorem lowerCase_ascii {s : String} (h : ∀ c ∈ s.toList, c.toNat < 128) :
    lowerCase s = s.toLower := by
  rw [lowerCase, LowerCase.convert_ascii h, ← String.toList_map, String.ofList_toList]
  rfl

end DocumentQuery.Text
