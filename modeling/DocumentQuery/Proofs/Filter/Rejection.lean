import DocumentQuery.Proofs.Filter.Comparison
import DocumentQuery.Proofs.Filter.Recursion

/-!
# Rejected filters

A filter is rejected for one of its comparisons, and a comparison for its operator or for the shape
of its value. The catalog has no part in it: whether a value can be brought to the type of its field
makes no difference to what is accepted.

* `Comparison.Rejects` : the error of a comparison, by its operator and the shape of its value;
* `Makes`              : a comparison that a filter makes, at any depth;
* `comparisons`        : all of them, in the order in which their errors count.

Principal results: `Comparison.compile_eq_error`, `sameError_compile`, and `rejected_for_first`, all
that there is to the rejection of a filter.
-/

namespace DocumentQuery.Filter

/-! ## One comparison -/

namespace Comparison

/-- A bound of a range is missing if it is not there, or null. -/
def Missing (which : Bound) (bounds : Document) : Prop :=
  ∀ value, Entries.get? which.key bounds = some value → value = .null

/-- What is wrong with a comparison on a field. Errors of a range name the field by its stored name,
all others by the name in the request. -/
inductive Rejects (config : Config) (field : String) (comparison : Comparison) :
    QueryError → Prop where
  | notARange (hrange : comparison.operator.isRange = true)
      (hvalue : comparison.value.document? = none) :
      Rejects config field comparison
        (.invalidValue (config.resolve field) comparison.operator.name .notARange)
  | lower {bounds : Document} (hrange : comparison.operator.isRange = true)
      (hvalue : comparison.value.document? = some bounds) (hlower : Missing .lower bounds) :
      Rejects config field comparison
        (.invalidValue (config.resolve field) comparison.operator.name (.missing .lower))
  | upper {bounds : Document} (hrange : comparison.operator.isRange = true)
      (hvalue : comparison.value.document? = some bounds) (hlower : ¬Missing .lower bounds)
      (hupper : Missing .upper bounds) :
      Rejects config field comparison
        (.invalidValue (config.resolve field) comparison.operator.name (.missing .upper))
  | unknown (hrange : comparison.operator.isRange = false)
      (hnative : config.operatorTable.native? comparison.operator.name = none) :
      Rejects config field comparison (.unknownOperator field comparison.operator.name)
  | notAList {native : String} (hrange : comparison.operator.isRange = false)
      (hnative : config.operatorTable.native? comparison.operator.name = some native)
      (hlist : comparison.operator.requiresList = true)
      (hvalue : comparison.value.array? = none) :
      Rejects config field comparison
        (.invalidValue field comparison.operator.name (.notAList comparison.value.typeName))

variable {collection : Collection} {field : String} {comparison : Comparison} {error : QueryError}

theorem bound_eq_error {operator : String} {entries : Document} {which : Bound} :
    bound collection field operator entries which = .error error ↔
      Missing which entries ∧ error = .invalidValue field operator (.missing which) := by
  unfold bound Missing
  split
  · rename_i hnone
    simp [hnone, eq_comm]
  · rename_i hnull
    simp [hnull, eq_comm]
  · rename_i value hvalue hsome
    constructor
    · intro h
      cases h
    · rintro ⟨hmissing, -⟩
      exact absurd (hmissing value hsome) hvalue

theorem exists_bound {operator : String} {entries : Document} {which : Bound} :
    (∃ value, bound collection field operator entries which = .ok value) ↔
      ¬Missing which entries := by
  rw [exists_eq_ok_iff]
  simp [bound_eq_error]

/-- The lower bound is looked at before the upper one. -/
theorem bounds_eq_error :
    bounds collection field comparison = .error error ↔
      (comparison.value.document? = none ∧
        error = .invalidValue field comparison.operator.name .notARange) ∨
      ∃ entries, comparison.value.document? = some entries ∧
        (Missing .lower entries ∧
            error = .invalidValue field comparison.operator.name (.missing .lower) ∨
          ¬Missing .lower entries ∧ Missing .upper entries ∧
            error = .invalidValue field comparison.operator.name (.missing .upper)) := by
  unfold bounds
  dsimp only
  split
  · rename_i hnone
    simp [hnone, eq_comm]
  · rename_i entries hsome
    simp only [bind_eq_error, bound_eq_error, hsome, reduceCtorEq, and_false, exists_false,
      or_false, false_and, false_or, Option.some.injEq, exists_eq_left', exists_and_right,
      exists_bound]

theorem checkShape_eq_error :
    checkShape field comparison = .error error ↔
      comparison.operator.requiresList = true ∧ comparison.value.array? = none ∧
        error = .invalidValue field comparison.operator.name
          (.notAList comparison.value.typeName) := by
  unfold checkShape
  split
  · rename_i h
    simp only [Bool.and_eq_true, Option.isNone_iff_eq_none] at h
    simp [h, eq_comm]
  · rename_i h
    simp only [Bool.and_eq_true, Option.isNone_iff_eq_none] at h
    simp only [reduceCtorEq, false_iff]
    exact fun hfault => h ⟨hfault.1, hfault.2.1⟩

/-- **A comparison is rejected for its operator or for the shape of its value.** -/
theorem compile_eq_error :
    compile collection field comparison = .error error ↔
      Rejects collection.config field comparison error := by
  unfold compile
  dsimp only
  split
  · rename_i hrange
    rw [bind_eq_error, bounds_eq_error]
    constructor
    · rintro ((⟨hvalue, rfl⟩ | ⟨entries, hvalue, ⟨hlower, rfl⟩ | ⟨hlower, hupper, rfl⟩⟩) |
        ⟨_, _, h⟩)
      · exact .notARange hrange hvalue
      · exact .lower hrange hvalue hlower
      · exact .upper hrange hvalue hlower hupper
      · cases h
    · intro h
      left
      cases h with
      | notARange _ hvalue => exact .inl ⟨hvalue, rfl⟩
      | lower _ hvalue hlower => exact .inr ⟨_, hvalue, .inl ⟨hlower, rfl⟩⟩
      | upper _ hvalue hlower hupper => exact .inr ⟨_, hvalue, .inr ⟨hlower, hupper, rfl⟩⟩
      | unknown hplain | notAList hplain => exact absurd hrange (Bool.eq_false_iff.1 hplain)
  · rename_i hrange
    have hplain := Bool.eq_false_iff.2 hrange
    split
    · rename_i hnative
      constructor
      · intro h
        cases h
        exact .unknown hplain hnative
      · intro h
        cases h with
        | unknown => rfl
        | notAList _ hsome =>
          rw [hnative] at hsome
          cases hsome
        | notARange htrue | lower htrue | upper htrue => exact absurd htrue hrange
    · rename_i native hnative
      rw [bind_eq_error, checkShape_eq_error]
      constructor
      · rintro (⟨hlist, hvalue, rfl⟩ | ⟨_, _, h⟩)
        · exact .notAList hplain hnative hlist hvalue
        · cases h
      · intro h
        left
        cases h with
        | notAList _ _ hlist hvalue => exact ⟨hlist, hvalue, rfl⟩
        | unknown _ hnone =>
          rw [hnative] at hnone
          cases hnone
        | notARange htrue | lower htrue | upper htrue => exact absurd htrue hrange

end Comparison

/-! ## All comparisons of a filter -/

/-- The filter makes the comparison on the field, itself or within its groups. -/
inductive Makes : Filter → String × Comparison → Prop where
  | own {filter : Filter} {own : FieldComparisons} {comparison : Comparison}
      (hown : own ∈ fields filter) (hcomparison : comparison ∈ own.comparisons) :
      Makes filter (own.field, comparison)
  | conjunct {filter part : Filter} {made : String × Comparison}
      (hpart : part ∈ conjuncts filter) (h : Makes part made) : Makes filter made
  | alternative {filter part : Filter} {made : String × Comparison}
      (hpart : part ∈ alternatives filter) (h : Makes part made) : Makes filter made

/-- The comparisons that a filter makes, those within its conjuncts first, then those within its
alternatives, and then its own ones, field by field. -/
def comparisons (filter : Filter) : List (String × Comparison) :=
  (conjuncts filter).attach.flatMap (fun part => comparisons part.1) ++
    (alternatives filter).attach.flatMap (fun part => comparisons part.1) ++
    (fields filter).flatMap fun own => own.comparisons.map (Prod.mk own.field)
termination_by sizeOf filter
decreasing_by
  · exact sizeOf_lt_of_mem_conjuncts part.2
  · exact sizeOf_lt_of_mem_alternatives part.2

theorem comparisons_eq (filter : Filter) :
    comparisons filter =
      (conjuncts filter).flatMap comparisons ++ (alternatives filter).flatMap comparisons ++
        (fields filter).flatMap fun own => own.comparisons.map (Prod.mk own.field) := by
  rw [comparisons]
  simp [List.flatMap_subtype]

theorem mem_comparisons {filter : Filter} {made : String × Comparison} :
    made ∈ comparisons filter ↔ Makes filter made := by
  induction filter using Filter.induction with
  | step filter ihall ihany =>
    rw [comparisons_eq, List.mem_append, List.mem_append, List.mem_flatMap, List.mem_flatMap,
      List.mem_flatMap]
    constructor
    · rintro ((⟨part, hpart, hmade⟩ | ⟨part, hpart, hmade⟩) | ⟨own, hown, hmade⟩)
      · exact .conjunct hpart ((ihall part hpart).1 hmade)
      · exact .alternative hpart ((ihany part hpart).1 hmade)
      · obtain ⟨comparison, hcomparison, rfl⟩ := List.mem_map.1 hmade
        exact .own hown hcomparison
    · intro h
      cases h with
      | own hown hcomparison => exact .inr ⟨_, hown, List.mem_map_of_mem hcomparison⟩
      | conjunct hpart h => exact .inl (.inl ⟨_, hpart, (ihall _ hpart).2 h⟩)
      | alternative hpart h => exact .inl (.inr ⟨_, hpart, (ihany _ hpart).2 h⟩)

variable {collection : Collection}

/-- A comparison that a filter makes, on its own. -/
def compileMade (collection : Collection) (made : String × Comparison) :
    Except QueryError Document :=
  Comparison.compile collection made.1 made.2

theorem sameError_compileField (own : FieldComparisons) :
    SameError (compileField collection own)
      ((own.comparisons.map (Prod.mk own.field)).mapM (compileMade collection)) := by
  rw [compileField, List.mapM_map]
  exact .then_ok (.refl _)

theorem sameError_compileFields (fields : List FieldComparisons) :
    SameError (compileFields collection fields)
      ((fields.flatMap fun own => own.comparisons.map (Prod.mk own.field)).mapM
        (compileMade collection)) :=
  .then_ok (.mapM_flatMap fun own _ => sameError_compileField own)

/-- **A filter fails as its comparisons do, one after the other.** -/
theorem sameError_compile (filter : Filter) :
    SameError (compile collection filter) ((comparisons filter).mapM (compileMade collection)) := by
  induction filter using Filter.induction with
  | step filter ihall ihany =>
    rw [compile_eq, comparisons_eq, List.mapM_append, List.mapM_append]
    simp only [bind_assoc, pure_bind]
    exact (SameError.mapM_flatMap ihall).bind fun _ _ =>
      (SameError.mapM_flatMap ihany).bind fun _ _ =>
        (sameError_compileFields _).bind fun _ _ => .ok _ _

theorem exists_compile_eq_error {filter : Filter} :
    (∃ error, compile collection filter = .error error) ↔
      ∃ field comparison, Makes filter (field, comparison) ∧
        ∃ error, Comparison.compile collection field comparison = .error error := by
  rw [exists_congr (sameError_compile filter), exists_mapM_eq_error, Prod.exists]
  simp only [mem_comparisons, compileMade]

/-- The catalog makes no difference to the errors of a filter. -/
theorem sameError_of_catalog (config : Config) (catalog other : Schema.Catalog) (filter : Filter) :
    SameError (compile ⟨catalog, config⟩ filter) (compile ⟨other, config⟩ filter) := by
  have hmade : SameError ((comparisons filter).mapM (compileMade ⟨catalog, config⟩))
      ((comparisons filter).mapM (compileMade ⟨other, config⟩)) := by
    refine .mapM fun made _ error => ?_
    rw [compileMade, compileMade, Comparison.compile_eq_error, Comparison.compile_eq_error]
  exact (sameError_compile filter).trans (hmade.trans (sameError_compile filter).symm)

/-- **A filter is rejected for its first comparison that is rejected.** That is so if there is any,
at any depth; groups that come to nothing hide none. The error is that of the first one in order,
whatever the catalog says of the fields: it depends on operators and the shapes of values alone. -/
theorem rejected_for_first (config : Config) (catalog : Schema.Catalog) (filter : Filter) :
    ((∃ error, compile ⟨catalog, config⟩ filter = .error error) ↔
      ∃ field comparison, Makes filter (field, comparison) ∧
        ∃ error, Comparison.compile ⟨catalog, config⟩ field comparison = .error error) ∧
    (∀ error, compile ⟨catalog, config⟩ filter = .error error ↔
      ∃ before field comparison after,
        comparisons filter = before ++ (field, comparison) :: after ∧
        (∀ made ∈ before, ∃ document,
          Comparison.compile ⟨catalog, config⟩ made.1 made.2 = .ok document) ∧
        Comparison.compile ⟨catalog, config⟩ field comparison = .error error) ∧
    (∀ other, SameError (compile ⟨catalog, config⟩ filter) (compile ⟨other, config⟩ filter)) ∧
    ∀ field comparison error,
      Comparison.compile ⟨catalog, config⟩ field comparison = .error error ↔
        Comparison.Rejects config field comparison error := by
  refine ⟨exists_compile_eq_error, fun error => ?_, fun other => ?_,
    fun field comparison error => ?_⟩
  · rw [sameError_compile filter error, mapM_eq_error]
    simp only [Prod.exists, compileMade]
  · exact sameError_of_catalog config catalog other filter
  · exact Comparison.compile_eq_error

/-- What is wrong in a group comes before what is wrong in the filter's own comparisons. -/
example :
    let own : Clause := .field ⟨"age", [⟨.isIn, .int32 18⟩]⟩
    let group : Clause := .anyOf [[], [.field ⟨"place", [⟨.custom "near", .null⟩]⟩]]
    compile ⟨.empty, {}⟩ [own, group] = .error (.unknownOperator "place" "near") := rfl

end DocumentQuery.Filter
