import DocumentQuery.Filter.Predicate
import DocumentQuery.Proofs.FirstError

/-!
# Recursion over filters

The filters in the groups of a filter are smaller than it, and its predicate is made of theirs.

* `Filter.induction` : induction over a filter and the filters in its groups;
* `Filter.compile_eq` : the predicate of a filter by those of the filters in its groups;
* `Filter.compile_eq_ok` : what a filter with a predicate consists of.
-/

namespace DocumentQuery.Filter

variable {collection : Collection}

/-! ## Induction -/

theorem sizeOf_lt_of_mem_conjuncts {part filter : Filter} (h : part ∈ conjuncts filter) :
    sizeOf part < sizeOf filter := by
  obtain ⟨clause, hclause, hpart⟩ := List.mem_flatMap.1 h
  have hlt := List.sizeOf_lt_of_mem hclause
  cases clause with
  | allOf filters =>
    have hlt' : sizeOf part < sizeOf filters := List.sizeOf_lt_of_mem hpart
    simp only [Clause.allOf.sizeOf_spec] at hlt
    omega
  | anyOf filters => simp at hpart
  | field own => simp at hpart

theorem sizeOf_lt_of_mem_alternatives {part filter : Filter} (h : part ∈ alternatives filter) :
    sizeOf part < sizeOf filter := by
  obtain ⟨clause, hclause, hpart⟩ := List.mem_flatMap.1 h
  have hlt := List.sizeOf_lt_of_mem hclause
  cases clause with
  | anyOf filters =>
    have hlt' : sizeOf part < sizeOf filters := List.sizeOf_lt_of_mem hpart
    simp only [Clause.anyOf.sizeOf_spec] at hlt
    omega
  | allOf filters => simp at hpart
  | field own => simp at hpart

/-- What holds of a filter whenever it holds of the filters in its groups holds of all. -/
@[elab_as_elim]
theorem induction {motive : Filter → Prop}
    (step : ∀ filter, (∀ part ∈ conjuncts filter, motive part) →
      (∀ part ∈ alternatives filter, motive part) → motive filter) :
    ∀ filter, motive filter := by
  intro filter
  induction hn : sizeOf filter using Nat.strongRecOn generalizing filter with
  | ind n ih =>
    subst hn
    refine step filter (fun part hpart => ?_) (fun part hpart => ?_)
    · exact ih _ (sizeOf_lt_of_mem_conjuncts hpart) part rfl
    · exact ih _ (sizeOf_lt_of_mem_alternatives hpart) part rfl

/-! ## The predicate of a filter -/

theorem compileAll_eq (filters : List Filter) :
    compileAll collection filters = filters.mapM (compile collection) := by
  induction filters with
  | nil => rfl
  | cons filter rest ih =>
    simp only [compileAll, compile, List.mapM_cons, bind_assoc, ih]
    rfl

theorem bind_append_nothing (others : Except QueryError (List Document)) :
    (others >>= fun found => .ok ([] ++ found)) = others := by
  cases others <;> rfl

theorem compileConjuncts_eq (filter : Filter) :
    compileConjuncts collection filter = (conjuncts filter).mapM (compile collection) := by
  induction filter with
  | nil => rfl
  | cons clause rest ih =>
    cases clause with
    | allOf filters =>
      have hparts : conjuncts (.allOf filters :: rest) = filters ++ conjuncts rest := rfl
      rw [hparts, List.mapM_append, ← ih, ← compileAll_eq]
      rfl
    | anyOf filters => rw [compileConjuncts, ih]; exact bind_append_nothing _
    | field own => rw [compileConjuncts, ih]; exact bind_append_nothing _

theorem compileAlternatives_eq (filter : Filter) :
    compileAlternatives collection filter =
      (alternatives filter).mapM (compile collection) := by
  induction filter with
  | nil => rfl
  | cons clause rest ih =>
    cases clause with
    | anyOf filters =>
      have hparts : alternatives (.anyOf filters :: rest) = filters ++ alternatives rest := rfl
      rw [hparts, List.mapM_append, ← ih, ← compileAll_eq]
      rfl
    | allOf filters => rw [compileAlternatives, ih]; exact bind_append_nothing _
    | field own => rw [compileAlternatives, ih]; exact bind_append_nothing _

/-- **The predicate of a filter is made of those of the filters in its groups**, in the order in
which their errors count. -/
theorem compile_eq (filter : Filter) :
    compile collection filter = (do
      let all ← (conjuncts filter).mapM (compile collection)
      let any ← (alternatives filter).mapM (compile collection)
      let own ← compileFields collection (fields filter)
      .ok (predicate all any own)) := by
  rw [compile, compileConjuncts_eq, compileAlternatives_eq]

theorem compile_eq_ok {filter : Filter} {document : Document} :
    compile collection filter = .ok document ↔
      ∃ all any own, (conjuncts filter).mapM (compile collection) = .ok all ∧
        (alternatives filter).mapM (compile collection) = .ok any ∧
        compileFields collection (fields filter) = .ok own ∧
        document = predicate all any own := by
  rw [compile_eq, bind_eq_ok]
  constructor
  · rintro ⟨all, hall, h⟩
    obtain ⟨any, hany, h⟩ := bind_eq_ok.1 h
    obtain ⟨own, hown, h⟩ := bind_eq_ok.1 h
    cases h
    exact ⟨all, any, own, hall, hany, hown, rfl⟩
  · rintro ⟨all, any, own, hall, hany, hown, rfl⟩
    exact ⟨all, hall, bind_eq_ok.2 ⟨any, hany, bind_eq_ok.2 ⟨own, hown, rfl⟩⟩⟩

end DocumentQuery.Filter
