import DocumentQuery.Proofs.Filter.Meaning
import DocumentQuery.Proofs.Filter.Rejection
import DocumentQuery.Proofs.SortedMap
import DocumentQuery.Proofs.Store.Order

/-!
# What a range selects

A range is written in operators of the store, past the table that a configuration may change. It
still means the two comparisons with its bounds, wherever that table has the standard entries for
these. A range that is not negated runs from one bound to the other. A negated one asks for a value
below the lower and above the upper bound: there is none, unless the bounds are in reverse order.

* `Config.Overrides`    : a configuration says itself what an operator stands for;
* `Comparison.ordering` : the operators that compare by order, with those of the store;
* `Places`              : the order of a store says which comparisons with a value are true;
* `judgement`           : the comparisons that are true by an order;
* `Between`             : what it takes to be in a range, and in a negated one;
* `RangeExtent`         : what the two ranges with some bounds mean for a field.

Principal result: `Filter.extent_of_range`.
-/

namespace DocumentQuery

/-! ## The table of operators -/

/-- A name that is not among the new entries keeps its operator. -/
theorem Filter.OperatorTable.native?_override (table : OperatorTable) {entries : Entries String}
    {name : String} (h : ∀ entry ∈ entries, Text.lowerCase entry.1 ≠ name) :
    (table.override entries).native? name = table.native? name := by
  have hnone : Entries.get? name
      (entries.map fun entry => (Text.lowerCase entry.1, entry.2)).reverse = none := by
    rw [Entries.get?_eq_none_iff, Entries.keys, List.map_reverse, List.mem_reverse, List.map_map]
    intro hmem
    obtain ⟨entry, hentry, hname⟩ := List.mem_map.1 hmem
    exact h entry hentry hname
  exact (SortedMap.get?_insertAll_reverse _ _ name).trans (by rw [hnone]; rfl)

/-- The configuration has an entry of its own for the operator. -/
def Config.Overrides (config : Config) (operator : Filter.Operator) : Prop :=
  ∃ entry ∈ config.operators.toList, Text.lowerCase entry.1 = operator.name

instance (config : Config) (operator : Filter.Operator) : Decidable (config.Overrides operator) :=
  inferInstanceAs (Decidable (∃ entry ∈ config.operators.toList,
    Text.lowerCase entry.1 = operator.name))

theorem Config.native?_of_not_overrides {config : Config} {operator : Filter.Operator}
    (h : ¬config.Overrides operator) :
    config.operatorTable.native? operator.name =
      Filter.OperatorTable.standard.native? operator.name :=
  Filter.OperatorTable.native?_override _ fun entry hentry hname => h ⟨entry, hentry, hname⟩

/-! ## Comparisons by order -/

namespace Filter

open Predicate (Assignment)

/-- The operators that compare by order, with those of the store. -/
def Comparison.ordering : List (Operator × String) :=
  [(.greaterEqual, "$gte"), (.lessEqual, "$lte"), (.greater, "$gt"), (.less, "$lt")]

/-- Brings a value to the type of a field, given by its name in the request. -/
abbrev coerced (collection : Collection) (field : String) (value : Value) : Value :=
  collection.coerce (collection.config.resolve field) value

/-- Where the value that was found in the field is compared with another one, by any of the four
operators, the order says whether the comparison is true. -/
structure Places (order : ValueOrder) (truth : Assignment) (field : String)
    (found value : Value) : Prop where
  atLeast : truth field "$gte" value = order.le value found
  atMost : truth field "$lte" value = order.le found value
  above : truth field "$gt" value = order.less value found
  below : truth field "$lt" value = order.less found value

/-- The comparisons that are true, by the order, of a value that was found. -/
def judgement (order : ValueOrder) (found : Value) : Assignment := fun _ operator value =>
  if operator = "$gte" then order.le value found
  else if operator = "$lte" then order.le found value
  else if operator = "$gt" then order.less value found
  else if operator = "$lt" then order.less found value
  else false

theorem places_judgement (order : ValueOrder) (field : String) (found value : Value) :
    Places order (judgement order found) field found value := ⟨rfl, rfl, rfl, rfl⟩

variable {collection : Collection} {field native : String} {operator : Operator} {bounds : Document}
  {lower upper : Value}

/-- An operator that compares by order takes any value. -/
theorem Comparison.compile_ordering (hordering : (operator, native) ∈ ordering)
    (hown : ¬collection.config.Overrides operator) (value : Value) :
    compile collection field ⟨operator, value⟩ =
      .ok [(collection.config.resolve field,
        .document [(native, coerced collection field value)])] := by
  have hstandard : operator.isRange = false ∧ operator.requiresList = false ∧
      OperatorTable.standard.native? operator.name = some native := by
    simp only [ordering, List.mem_cons, List.not_mem_nil, or_false, Prod.mk.injEq] at hordering
    rcases hordering with ⟨rfl, rfl⟩ | ⟨rfl, rfl⟩ | ⟨rfl, rfl⟩ | ⟨rfl, rfl⟩ <;>
    exact ⟨rfl, rfl, rfl⟩
  obtain ⟨hrange, hlist, hnative⟩ := hstandard
  refine compile_eq_ok.2 ⟨_, rfl, .inr ⟨hrange, native, ?_, ?_, rfl⟩⟩
  · rw [Config.native?_of_not_overrides hown, hnative]
  · simp [checkShape, hlist]

theorem comparisonHolds_ordering (truth : Assignment)
    (hordering : (operator, native) ∈ Comparison.ordering)
    (hown : ¬collection.config.Overrides operator) (value : Value) :
    comparisonHolds collection truth field ⟨operator, value⟩ =
      truth (collection.config.resolve field) native (coerced collection field value) := by
  rw [comparisonHolds, Comparison.compile_ordering hordering hown]
  exact Predicate.holds_comparison _ _ _ _

theorem Comparison.bound_eq_ok {stored name : String} {which : Bound} {value : Value}
    (hvalue : Entries.get? which.key bounds = some value) (hnull : value ≠ .null) :
    bound collection stored name bounds which = .ok (collection.coerce stored value) := by
  unfold bound
  rw [hvalue]
  cases value with
  | null => exact absurd rfl hnull
  | _ => rfl

section Bounds

variable (hlower : Entries.get? Bound.lower.key bounds = some lower) (hlowerNull : lower ≠ .null)
  (hupper : Entries.get? Bound.upper.key bounds = some upper) (hupperNull : upper ≠ .null)
include hlower hlowerNull hupper hupperNull

/-- The bounds of a range are brought to the type of the field like any other value. -/
theorem Comparison.compile_range (hrange : operator.isRange = true) :
    compile collection field ⟨operator, .document bounds⟩ =
      .ok [(collection.config.resolve field, .document (rangeConditions (operator == .notBetween)
        (coerced collection field lower) (coerced collection field upper)))] := by
  refine compile_eq_ok.2 ⟨_, rfl, .inl ⟨hrange, _, _, ?_, rfl⟩⟩
  exact bind_eq_ok.2 ⟨_, bound_eq_ok hlower hlowerNull,
    bind_eq_ok.2 ⟨_, bound_eq_ok hupper hupperNull, rfl⟩⟩

theorem comparisonHolds_between (truth : Assignment) :
    comparisonHolds collection truth field ⟨.between, .document bounds⟩ =
      (truth (collection.config.resolve field) "$gte" (coerced collection field lower) &&
        truth (collection.config.resolve field) "$lte" (coerced collection field upper)) := by
  rw [comparisonHolds, Comparison.compile_range hlower hlowerNull hupper hupperNull rfl]
  simp [Comparison.rangeConditions, Predicate.holds, Predicate.entryHolds]

theorem comparisonHolds_notBetween (truth : Assignment) :
    comparisonHolds collection truth field ⟨.notBetween, .document bounds⟩ =
      (truth (collection.config.resolve field) "$lt" (coerced collection field lower) &&
        truth (collection.config.resolve field) "$gt" (coerced collection field upper)) := by
  rw [comparisonHolds, Comparison.compile_range hlower hlowerNull hupper hupperNull rfl]
  simp [Comparison.rangeConditions, Predicate.holds, Predicate.entryHolds]

end Bounds

/-- A range is refused if it has no document of bounds, or if one of them is missing. -/
theorem Comparison.compile_range_error {value : Value} (hrange : operator.isRange = true)
    (hmissing : ∀ bounds, value.document? = some bounds →
      Missing .lower bounds ∨ Missing .upper bounds) :
    ∃ reason, compile collection field ⟨operator, value⟩ =
      .error (.invalidValue (collection.config.resolve field) operator.name reason) := by
  cases hvalue : value.document? with
  | none => exact ⟨_, compile_eq_error.2 (.notARange hrange hvalue)⟩
  | some bounds =>
    by_cases hlower : Missing .lower bounds
    · exact ⟨_, compile_eq_error.2 (.lower hrange hvalue hlower)⟩
    · have hupper := (hmissing bounds hvalue).resolve_left hlower
      exact ⟨_, compile_eq_error.2 (.upper hrange hvalue hlower hupper)⟩

/-! ## Ranges -/

/-- What it takes for a value to be in a range and in the negated range with the same bounds. -/
structure Between (order : ValueOrder) (lower upper found : Value) (inside outside : Bool) :
    Prop where
  /-- A range has both its bounds. -/
  closed : inside = true ↔ order.le lower found = true ∧ order.le found upper = true
  /-- Nothing is below the lower and above the upper of two bounds in order. -/
  empty : order.le lower upper = true → outside = false
  /-- In reverse order, the bounds have that between them which is neither. -/
  reversed : order.le lower upper = false →
    (outside = true ↔ order.less upper found = true ∧ order.less found lower = true)

/-- What the two ranges with the bounds mean for a field. -/
structure RangeExtent (collection : Collection) (field : String) (bounds : Document)
    (lower upper : Value) : Prop where
  /-- Both ranges have a predicate, and so have the comparisons with their bounds. -/
  compiles : ∀ comparison ∈ ([⟨.between, .document bounds⟩, ⟨.notBetween, .document bounds⟩,
      ⟨.greaterEqual, lower⟩, ⟨.lessEqual, upper⟩, ⟨.less, lower⟩, ⟨.greater, upper⟩] :
        List Comparison),
    ∃ document, Comparison.compile collection field comparison = .ok document
  /-- A range means both comparisons, whichever comparisons are true. -/
  between : ∀ truth,
    comparisonHolds collection truth field ⟨.between, .document bounds⟩ =
      (comparisonHolds collection truth field ⟨.greaterEqual, lower⟩ &&
        comparisonHolds collection truth field ⟨.lessEqual, upper⟩)
  /-- So does a negated range, with the comparisons that leave the bounds out. -/
  notBetween : ∀ truth,
    comparisonHolds collection truth field ⟨.notBetween, .document bounds⟩ =
      (comparisonHolds collection truth field ⟨.less, lower⟩ &&
        comparisonHolds collection truth field ⟨.greater, upper⟩)
  /-- By the order of a store, a range has the values between its bounds, as the field has them. -/
  extent : ∀ order truth found,
    Places order truth (collection.config.resolve field) found (coerced collection field lower) →
    Places order truth (collection.config.resolve field) found (coerced collection field upper) →
    Between order (coerced collection field lower) (coerced collection field upper) found
      (comparisonHolds collection truth field ⟨.between, .document bounds⟩)
      (comparisonHolds collection truth field ⟨.notBetween, .document bounds⟩)

/-- A value that is below the lower and above the upper bound shows them to be in reverse order. -/
theorem between_of_order (order : ValueOrder) (lower upper found : Value) :
    Between order lower upper found (order.le lower found && order.le found upper)
      (order.less found lower && order.less upper found) where
  closed := by rw [Bool.and_eq_true]
  empty hle := by
    rw [Bool.and_eq_false_iff, or_iff_not_imp_left, Bool.not_eq_false, ← Bool.not_eq_true]
    intro hbelow habove
    -- The lower bound lies on one side of the upper one and of the value, against one or the other.
    rcases order.less_split lower habove with hreverse | hnotBelow
    · rw [ValueOrder.less, hle] at hreverse
      cases hreverse
    · rw [order.less_asymm hbelow] at hnotBelow
      cases hnotBelow
  reversed _ := by rw [Bool.and_eq_true, and_comm]

/-- **A range means the comparisons with its bounds**, and is refused if it has no document of
bounds or a bound is missing. -/
theorem extent_of_range (collection : Collection) (field : String) :
    (∀ bounds lower upper,
      (∀ entry ∈ Comparison.ordering, ¬collection.config.Overrides entry.1) →
      Entries.get? "lower" bounds = some lower → lower ≠ .null →
      Entries.get? "upper" bounds = some upper → upper ≠ .null →
      RangeExtent collection field bounds lower upper) ∧
    ∀ operator value, operator.isRange = true →
      (∀ bounds, value.document? = some bounds →
        Comparison.Missing .lower bounds ∨ Comparison.Missing .upper bounds) →
      ∃ reason, Comparison.compile collection field ⟨operator, value⟩ =
        .error (.invalidValue (collection.config.resolve field) operator.name reason) := by
  constructor
  · intro bounds lower upper hown hlower hlowerNull hupper hupperNull
    have hgte : (.greaterEqual, "$gte") ∈ Comparison.ordering := by simp [Comparison.ordering]
    have hlte : (.lessEqual, "$lte") ∈ Comparison.ordering := by simp [Comparison.ordering]
    have hgt : (.greater, "$gt") ∈ Comparison.ordering := by simp [Comparison.ordering]
    have hlt : (.less, "$lt") ∈ Comparison.ordering := by simp [Comparison.ordering]
    refine ⟨?_, fun truth => ?_, fun truth => ?_, fun order truth found hatLower hatUpper => ?_⟩
    · intro comparison hcomparison
      simp only [List.mem_cons, List.not_mem_nil, or_false] at hcomparison
      rcases hcomparison with rfl | rfl | rfl | rfl | rfl | rfl
      · exact ⟨_, Comparison.compile_range hlower hlowerNull hupper hupperNull rfl⟩
      · exact ⟨_, Comparison.compile_range hlower hlowerNull hupper hupperNull rfl⟩
      · exact ⟨_, Comparison.compile_ordering hgte (hown _ hgte) lower⟩
      · exact ⟨_, Comparison.compile_ordering hlte (hown _ hlte) upper⟩
      · exact ⟨_, Comparison.compile_ordering hlt (hown _ hlt) lower⟩
      · exact ⟨_, Comparison.compile_ordering hgt (hown _ hgt) upper⟩
    · rw [comparisonHolds_between hlower hlowerNull hupper hupperNull,
        comparisonHolds_ordering truth hgte (hown _ hgte),
        comparisonHolds_ordering truth hlte (hown _ hlte)]
    · rw [comparisonHolds_notBetween hlower hlowerNull hupper hupperNull,
        comparisonHolds_ordering truth hlt (hown _ hlt),
        comparisonHolds_ordering truth hgt (hown _ hgt)]
    · rw [comparisonHolds_between hlower hlowerNull hupper hupperNull,
        comparisonHolds_notBetween hlower hlowerNull hupper hupperNull,
        hatLower.atLeast, hatUpper.atMost, hatLower.below, hatUpper.above]
      exact between_of_order order _ _ found
  · exact fun _ _ => Comparison.compile_range_error

/-- Bounds in reverse order, as texts, for a field of numbers; the configuration has an operator of
its own. -/
theorem extent_of_range_reversed :
    let collection : Collection :=
      ⟨.ofFields [("age", .int)], { operators := .ofList [("Near", "$near")] }⟩
    let bounds := [("lower", .string "24"), ("upper", .string "18")]
    let order := ValueOrder.ofRank fun
      | .int32 n => n.toInt
      | _ => 0
    RangeExtent collection "age" bounds (.string "24") (.string "18") ∧
      comparisonHolds collection (judgement order (.int32 20)) "age"
        ⟨.notBetween, .document bounds⟩ = true ∧
      ∃ reason, Comparison.compile collection "id"
          ⟨.notBetween, .document [("lower", .string "18"), ("upper", .null)]⟩ =
        .error (.invalidValue "_id" "notbetween" reason) := by
  intro collection bounds order
  have hextent : RangeExtent collection "age" bounds (.string "24") (.string "18") :=
    (extent_of_range _ _).1 _ _ _ (by decide) rfl (by simp) rfl (by simp)
  refine ⟨hextent, ?_, (extent_of_range _ _).2 .notBetween _ rfl fun _ hbounds => .inr ?_⟩
  · have hplaced := hextent.extent order _ (.int32 20) (places_judgement _ _ _ _)
      (places_judgement _ _ _ _)
    exact (hplaced.reversed (by decide)).2 ⟨by decide, by decide⟩
  · cases hbounds
    intro value hvalue
    cases hvalue
    rfl

end Filter

end DocumentQuery
