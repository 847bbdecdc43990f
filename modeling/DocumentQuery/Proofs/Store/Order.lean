import DocumentQuery.Cursor.RowKey

/-!
# The order of a store

A store orders the values of a field, and rows by a sort document: by the first entry, among ties
by the second one, and so on.

* `ValueOrder`          : an order of the values;
* `ValueOrder.ahead`    : a value comes before another one, in a direction;
* `ValueOrder.precedes` : a row comes before another one, by a sort document.

Principal results: `precedes_asymm` and `precedes_split`, the order of rows is a strict one in which
ties are transitive, and `precedes_or_precedes`, rows tie exactly if they tie by every entry.
-/

namespace DocumentQuery

/-- An order in which any two values can be compared. Two values may tie without being the same,
as one number of two types does. -/
structure ValueOrder where
  le : Value → Value → Bool
  total : ∀ a b, le a b = true ∨ le b a = true
  trans : ∀ a b c, le a b = true → le b c = true → le a c = true

namespace Direction

/-- The operator that compares in a direction: a row after another one has the greater value where
the direction is ascending. -/
def operator : Direction → String
  | ascending => "$gt"
  | descending => "$lt"

/-- The direction of an entry of a sort document. -/
def ofValue : Value → Direction
  | .int32 n => if n < 0 then descending else ascending
  | _ => ascending

theorem ofValue_sign (d : Direction) : ofValue (.int32 d.sign) = d := by
  cases d <;> rfl

end Direction

/-- The value of a row at a path; null where it has none. -/
def Cursor.Row.valueAt (row : Document) (field : String) : Value := (lookup? row field).getD .null

namespace ValueOrder

open Cursor.Row (valueAt)

/-- The order of values by a number. -/
def ofRank (rank : Value → Int) : ValueOrder where
  le a b := decide (rank a ≤ rank b)
  total a b := by
    rw [decide_eq_true_eq, decide_eq_true_eq]
    exact Int.le_total _ _
  trans a b c hab hbc := by
    rw [decide_eq_true_eq] at hab hbc ⊢
    exact Int.le_trans hab hbc

variable (order : ValueOrder)

/-! ## Values -/

def less (a b : Value) : Bool := !order.le b a

theorem less_asymm {a b : Value} (h : order.less a b = true) : order.less b a = false := by
  unfold less at h ⊢
  rcases order.total a b with hab | hba
  · rw [hab]
    rfl
  · rw [hba] at h
    cases h

/-- Whatever lies anywhere lies on one of the sides of two values. -/
theorem less_split {a c : Value} (b : Value) (h : order.less a c = true) :
    order.less a b = true ∨ order.less b c = true := by
  unfold less at h ⊢
  cases hba : order.le b a with
  | false => exact .inl rfl
  | true =>
    cases hcb : order.le c b with
    | false => exact .inr rfl
    | true =>
      rw [order.trans c b a hcb hba] at h
      cases h

/-- The first value comes before the second one, in a direction. -/
def ahead : Direction → Value → Value → Bool
  | .ascending, a, b => order.less a b
  | .descending, a, b => order.less b a

theorem ahead_asymm {d : Direction} {a b : Value} (h : order.ahead d a b = true) :
    order.ahead d b a = false := by
  cases d with
  | ascending => exact order.less_asymm h
  | descending => exact order.less_asymm h

theorem ahead_self (d : Direction) (a : Value) : order.ahead d a a = false := by
  rw [← Bool.not_eq_true]
  intro h
  have hback := order.ahead_asymm h
  rw [h] at hback
  cases hback

theorem ahead_split {d : Direction} {a c : Value} (b : Value) (h : order.ahead d a c = true) :
    order.ahead d a b = true ∨ order.ahead d b c = true := by
  cases d with
  | ascending => exact order.less_split b h
  | descending => exact (order.less_split b h).symm

/-- Neither comes before the other. -/
def ties (a b : Value) : Prop := order.less a b = false ∧ order.less b a = false

instance (a b : Value) : Decidable (order.ties a b) :=
  inferInstanceAs (Decidable (order.less a b = false ∧ order.less b a = false))

theorem ahead_or_ahead {a b : Value} (d : Direction) (h : ¬order.ties a b) :
    order.ahead d a b = true ∨ order.ahead d b a = true := by
  unfold ties at h
  cases d <;> cases hab : order.less a b <;> cases hba : order.less b a <;>
    simp_all [ahead]

theorem not_ties_of_ahead {d : Direction} {a b : Value} (h : order.ahead d a b = true) :
    ¬order.ties a b := by
  rintro ⟨hab, hba⟩
  cases d with
  | ascending =>
    rw [ahead, hab] at h
    cases h
  | descending =>
    rw [ahead, hba] at h
    cases h

theorem ahead_of_ties {d : Direction} {a b : Value} (h : order.ties a b) :
    order.ahead d a b = false := by
  rw [← Bool.not_eq_true]
  intro hahead
  exact order.not_ties_of_ahead hahead h

theorem ties_symm {a b : Value} (h : order.ties a b) : order.ties b a := h.symm

/-- No two values tie. -/
def Linear : Prop := ∀ a b, order.le a b = true → order.le b a = true → a = b

theorem Linear.eq_of_ties {order : ValueOrder} (h : order.Linear) {a b : Value}
    (hties : order.ties a b) : a = b := by
  simp only [ties, less, Bool.not_eq_false'] at hties
  exact h a b hties.2 hties.1

/-! ## Rows -/

/-- The first row comes before the second one in the order of a sort document. -/
def precedes : Document → Document → Document → Bool
  | [], _, _ => false
  | (field, way) :: rest, r, s =>
    order.ahead (.ofValue way) (valueAt r field) (valueAt s field) ||
      (!order.ahead (.ofValue way) (valueAt s field) (valueAt r field) && precedes rest r s)

variable {order}

theorem precedes_cons {field : String} {way : Value} {rest r s : Document} :
    order.precedes ((field, way) :: rest) r s = true ↔
      order.ahead (.ofValue way) (valueAt r field) (valueAt s field) = true ∨
        order.ahead (.ofValue way) (valueAt s field) (valueAt r field) = false ∧
          order.precedes rest r s = true := by
  simp only [precedes, Bool.or_eq_true, Bool.and_eq_true, Bool.not_eq_true']

theorem precedes_asymm {sort r s : Document} (h : order.precedes sort r s = true) :
    order.precedes sort s r = false := by
  induction sort with
  | nil => rfl
  | cons entry rest ih =>
    obtain ⟨field, way⟩ := entry
    rw [← Bool.not_eq_true, precedes_cons]
    rcases precedes_cons.1 h with hahead | ⟨hback, hrest⟩
    · rintro (hback | ⟨hnot, _⟩)
      · rw [order.ahead_asymm hahead] at hback
        cases hback
      · rw [hahead] at hnot
        cases hnot
    · rintro (hback' | ⟨_, hrest'⟩)
      · rw [hback] at hback'
        cases hback'
      · rw [ih hrest] at hrest'
        cases hrest'

theorem precedes_split {sort r t : Document} (s : Document) (h : order.precedes sort r t = true) :
    order.precedes sort r s = true ∨ order.precedes sort s t = true := by
  induction sort with
  | nil => cases h
  | cons entry rest ih =>
    obtain ⟨field, way⟩ := entry
    rw [precedes_cons, precedes_cons]
    rcases precedes_cons.1 h with hahead | ⟨hback, hrest⟩
    · exact (order.ahead_split (valueAt s field) hahead).imp .inl .inl
    -- `r` and `t` may tie by this entry; `s` then ties with both or lies on one side of both.
    · rcases ih hrest with hrs | hst
      · cases hsr : order.ahead (.ofValue way) (valueAt s field) (valueAt r field) with
        | false => exact .inl (.inr ⟨rfl, hrs⟩)
        | true =>
          rcases order.ahead_split (valueAt t field) hsr with hst | htr
          · exact .inr (.inl hst)
          · rw [hback] at htr
            cases htr
      · cases hts : order.ahead (.ofValue way) (valueAt t field) (valueAt s field) with
        | false => exact .inr (.inr ⟨rfl, hst⟩)
        | true =>
          rcases order.ahead_split (valueAt r field) hts with htr | hrs
          · rw [hback] at htr
            cases htr
          · exact .inl (.inl hrs)

/-- Rows that do not tie by the first entry are ordered by it. -/
theorem precedes_first {field : String} {way : Value} {rest r s : Document}
    (h : ¬order.ties (valueAt r field) (valueAt s field)) :
    order.precedes ((field, way) :: rest) r s =
      order.ahead (.ofValue way) (valueAt r field) (valueAt s field) := by
  rw [Bool.eq_iff_iff, precedes_cons]
  constructor
  · rintro (hahead | ⟨hback, _⟩)
    · exact hahead
    · rcases order.ahead_or_ahead (.ofValue way) h with hahead | hback'
      · exact hahead
      · rw [hback] at hback'
        cases hback'
  · exact .inl

/-- Rows that tie by the first entry are ordered by the others. -/
theorem precedes_rest {field : String} {way : Value} {rest r s : Document}
    (h : order.ties (valueAt r field) (valueAt s field)) :
    order.precedes ((field, way) :: rest) r s = order.precedes rest r s := by
  simp [precedes, order.ahead_of_ties h, order.ahead_of_ties (order.ties_symm h)]

/-- One of two rows comes before the other exactly if they do not tie by some entry. -/
theorem precedes_or_precedes {sort r s : Document} :
    (order.precedes sort r s = true ∨ order.precedes sort s r = true) ↔
      ∃ field ∈ Entries.keys sort, ¬order.ties (valueAt r field) (valueAt s field) := by
  induction sort with
  | nil => simp [precedes, Entries.keys]
  | cons entry rest ih =>
    obtain ⟨field, way⟩ := entry
    have hkeys : Entries.keys ((field, way) :: rest) = field :: Entries.keys rest := rfl
    rw [hkeys]
    by_cases hties : order.ties (valueAt r field) (valueAt s field)
    · rw [precedes_rest hties, precedes_rest (order.ties_symm hties), ih]
      simp [hties]
    · have hback : ¬order.ties (valueAt s field) (valueAt r field) :=
        fun h => hties (order.ties_symm h)
      rw [precedes_first hties, precedes_first hback]
      simp [hties, order.ahead_or_ahead (.ofValue way) hties]

/-- Of two rows that do not tie by some entry, exactly one comes before the other. -/
theorem precedes_swap {sort r s : Document} {field : String} (hfield : field ∈ Entries.keys sort)
    (h : ¬order.ties (valueAt r field) (valueAt s field)) :
    order.precedes sort s r = !order.precedes sort r s := by
  rcases precedes_or_precedes.2 ⟨field, hfield, h⟩ with hrs | hsr
  · rw [hrs, precedes_asymm hrs]
    rfl
  · rw [hsr, precedes_asymm hsr]
    rfl

end ValueOrder

end DocumentQuery
