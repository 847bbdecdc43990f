import DocumentQuery.Filter.Parser
import DocumentQuery.Proofs.FirstError
import DocumentQuery.Proofs.Value.OfJson

/-!
# The grammar of filters

Which JSON values are filters, and which filter each of them is, said apart from how they are read.

* `IsFilterObject` : the values that are filters;
* `Mirrors`        : a filter has a clause for each member, a filter for each item of a group, and a
  comparison for each operator, in the same order;
* `groupInduction` : induction over the objects in groups;
* `isFilterObject_iff_mirrors` : the filters are the values that some filter mirrors.

Principal result: `ofObject_eq_ok`, an object is read as the filter that mirrors it.
-/

namespace DocumentQuery.Filter

/-! ## The grammar -/

mutual

/-- An object of clauses. -/
inductive IsFilterObject : Json → Prop where
  | object {members : List (String × Json)} (hclauses : ∀ m ∈ members, IsClause m) :
      IsFilterObject (.object members)

/-- A group with a list of filters, or a field with an object of operators. -/
inductive IsClause : String × Json → Prop where
  | group {key : String} {items : List Json} (hkey : key = "and" ∨ key = "or")
      (hitems : ∀ item ∈ items, IsFilterObject item) : IsClause (key, .array items)
  | field {key : String} {operators : List (String × Json)} (hand : key ≠ "and")
      (hor : key ≠ "or") : IsClause (key, .object operators)

end

/-- The names that are not kept as they are. -/
def Operator.standardNames : List String :=
  ["eq", "neq", "gt", "gte", "lt", "lte", "in", "notin", "is", "isnot", "between", "notbetween"]

/-- The operator of a name: it has the name in lower case, and is one of the standard operators if
it can. -/
structure Operator.Named (name : String) (operator : Operator) : Prop where
  name_eq : operator.name = Text.lowerCase name
  standard : operator.isCustom = true → Text.lowerCase name ∉ standardNames

/-- The comparison has the operator of the name, and the value of the JSON value. -/
structure Comparison.Mirrors (entry : String × Json) (comparison : Comparison) : Prop where
  operator : comparison.operator.Named entry.1
  value : Value.StandsFor entry.2 comparison.value

mutual

/-- One clause for each member, in order. -/
inductive Mirrors : Json → Filter → Prop where
  | object {members : List (String × Json)} {clauses : List Clause}
      (hclauses : List.Forall₂ ClauseMirrors members clauses) :
      Mirrors (.object members) clauses

/-- One filter for each item of a group, and one comparison for each operator of a field, in
order. -/
inductive ClauseMirrors : String × Json → Clause → Prop where
  | allOf {items : List Json} {filters : List (List Clause)}
      (hfilters : List.Forall₂ Mirrors items filters) :
      ClauseMirrors ("and", .array items) (.allOf filters)
  | anyOf {items : List Json} {filters : List (List Clause)}
      (hfilters : List.Forall₂ Mirrors items filters) :
      ClauseMirrors ("or", .array items) (.anyOf filters)
  | field {key : String} {operators : List (String × Json)} {comparisons : List Comparison}
      (hand : key ≠ "and") (hor : key ≠ "or")
      (hcomparisons : List.Forall₂ Comparison.Mirrors operators comparisons) :
      ClauseMirrors (key, .object operators) (.field ⟨key, comparisons⟩)

end

/-! ## Operators -/

namespace Operator

theorem name_ofLowerCase (name : String) : (ofLowerCase name).name = name := by
  unfold ofLowerCase
  split <;> rfl

theorem not_mem_of_isCustom {name : String} (h : (ofLowerCase name).isCustom = true) :
    name ∉ standardNames := by
  unfold ofLowerCase at h
  split at h
  all_goals cases h
  unfold standardNames
  simp only [List.mem_cons, List.not_mem_nil, or_false, not_or]
  refine ⟨?_, ?_, ?_, ?_, ?_, ?_, ?_, ?_, ?_, ?_, ?_, ?_⟩ <;> assumption

theorem named_parse (name : String) : (parse name).Named name where
  name_eq := name_ofLowerCase _
  standard := not_mem_of_isCustom

theorem ofLowerCase_custom {own : String} (h : own ∉ standardNames) :
    ofLowerCase own = .custom own := by
  unfold ofLowerCase
  split
  all_goals first | rfl | exact absurd (by decide) h

/-- There is one operator of each name. -/
theorem eq_of_named {name : String} {operator : Operator} (h : operator.Named name) :
    operator = parse name := by
  obtain ⟨hname, hstandard⟩ := h
  unfold parse
  rw [← hname] at hstandard ⊢
  cases operator with
  | custom own => exact (ofLowerCase_custom (hstandard rfl)).symm
  | _ => rfl

end Operator

theorem comparisons_mirror_iff {operators : List (String × Json)} {comparisons : List Comparison} :
    List.Forall₂ Comparison.Mirrors operators comparisons ↔
      comparisons = operators.map fun (name, raw) => ⟨Operator.parse name, Value.ofJson raw⟩ := by
  induction operators generalizing comparisons with
  | nil => exact List.forall₂_nil_left_iff
  | cons entry operators ih =>
    rw [List.forall₂_cons_left_iff]
    constructor
    · rintro ⟨⟨operator, value⟩, others, ⟨hoperator, hvalue⟩, hothers, rfl⟩
      rw [ih.1 hothers, List.map_cons]
      congr
      · exact Operator.eq_of_named hoperator
      · exact Value.standsFor_iff.1 hvalue
    · rintro rfl
      have hentry : Comparison.Mirrors entry ⟨Operator.parse entry.1, Value.ofJson entry.2⟩ :=
        ⟨Operator.named_parse entry.1, Value.standsFor_ofJson entry.2⟩
      exact ⟨_, _, hentry, ih.2 rfl, rfl⟩

/-! ## Lists -/

section Lists

variable {α β : Type}

theorem forall₂_iff_of_mem {R S : α → β → Prop} {xs : List α} {ys : List β}
    (h : ∀ x ∈ xs, ∀ y, R x y ↔ S x y) : List.Forall₂ R xs ys ↔ List.Forall₂ S xs ys := by
  induction xs generalizing ys with
  | nil => rw [List.forall₂_nil_left_iff, List.forall₂_nil_left_iff]
  | cons x xs ih =>
    obtain ⟨hx, hxs⟩ := List.forall_mem_cons.1 h
    rw [List.forall₂_cons_left_iff, List.forall₂_cons_left_iff]
    simp only [hx, ih hxs]

theorem forall_exists_iff {R : α → β → Prop} {xs : List α} :
    (∀ x ∈ xs, ∃ y, R x y) ↔ ∃ ys, List.Forall₂ R xs ys := by
  induction xs with
  | nil => exact ⟨fun _ => ⟨[], .nil⟩, fun _ _ h => by cases h⟩
  | cons x xs ih =>
    rw [List.forall_mem_cons, ih]
    constructor
    · rintro ⟨⟨y, hy⟩, ys, hys⟩
      exact ⟨y :: ys, .cons hy hys⟩
    · rintro ⟨ys, hys⟩
      obtain ⟨y, others, hy, hothers, rfl⟩ := List.forall₂_cons_left_iff.1 hys
      exact ⟨⟨y, hy⟩, others, hothers⟩

end Lists

/-! ## Groups -/

/-- What holds of an object whenever it holds of the items of the lists in it, and of all other
values, holds of all. -/
@[elab_as_elim]
theorem groupInduction {motive : Json → Prop}
    (object : ∀ members : List (String × Json),
      (∀ m ∈ members, ∀ items, m.2 = .array items → ∀ item ∈ items, motive item) →
        motive (.object members))
    (other : ∀ json : Json, json.object? = none → motive json) : ∀ json, motive json := by
  intro json
  induction hn : sizeOf json using Nat.strongRecOn generalizing json with
  | ind n ih =>
    subst hn
    cases json with
    | object members =>
      apply object
      intro m hm items hitems item hitem
      -- An item is smaller than its list, the list than the member, and the member than the object.
      refine ih _ ?_ item rfl
      have hmember := List.sizeOf_lt_of_mem hm
      have hvalue := List.sizeOf_lt_of_mem hitem
      obtain ⟨key, value⟩ := m
      cases hitems
      simp only [Prod.mk.sizeOf_spec, Json.array.sizeOf_spec] at hmember
      simp only [Json.object.sizeOf_spec]
      omega
    | _ => exact other _ rfl

theorem isFilterObject_iff {members : List (String × Json)} :
    IsFilterObject (.object members) ↔ ∀ m ∈ members, IsClause m := by
  constructor
  · intro h
    cases h with
    | object hclauses => exact hclauses
  · exact .object

theorem mirrors_iff {members : List (String × Json)} {clauses : List Clause} :
    Mirrors (.object members) clauses ↔ List.Forall₂ ClauseMirrors members clauses := by
  constructor
  · intro h
    cases h with
    | object hclauses => exact hclauses
  · exact .object

theorem not_mirrors {json : Json} {filter : Filter} (h : json.object? = none) :
    ¬Mirrors json filter := by
  intro hmirrors
  cases hmirrors
  cases h

theorem not_isFilterObject {json : Json} (h : json.object? = none) : ¬IsFilterObject json := by
  intro hobject
  cases hobject
  cases h

/-- A clause is one that some clause of a filter mirrors, if the filters in its list are. -/
theorem isClause_iff_mirrors {member : String × Json}
    (h : ∀ items, member.2 = .array items → ∀ item ∈ items,
      (IsFilterObject item ↔ ∃ filter, Mirrors item filter)) :
    IsClause member ↔ ∃ clause, ClauseMirrors member clause := by
  constructor
  · intro hclause
    cases hclause with
    | group hkey hitems =>
      have hmirrored := fun item hitem => (h _ rfl item hitem).1 (hitems item hitem)
      obtain ⟨filters, hfilters⟩ := forall_exists_iff.1 hmirrored
      rcases hkey with rfl | rfl
      · exact ⟨_, .allOf hfilters⟩
      · exact ⟨_, .anyOf hfilters⟩
    | field hand hor => exact ⟨_, .field hand hor (comparisons_mirror_iff.2 rfl)⟩
  · rintro ⟨clause, hclause⟩
    cases hclause with
    | allOf hfilters =>
      have hmirrored := forall_exists_iff.2 ⟨_, hfilters⟩
      exact .group (.inl rfl) fun item hitem => (h _ rfl item hitem).2 (hmirrored item hitem)
    | anyOf hfilters =>
      have hmirrored := forall_exists_iff.2 ⟨_, hfilters⟩
      exact .group (.inr rfl) fun item hitem => (h _ rfl item hitem).2 (hmirrored item hitem)
    | field hand hor _ => exact .field hand hor

/-- A value is a filter exactly if some filter mirrors it. -/
theorem isFilterObject_iff_mirrors (json : Json) :
    IsFilterObject json ↔ ∃ filter, Mirrors json filter := by
  induction json using groupInduction with
  | object members ih =>
    rw [isFilterObject_iff]
    simp only [mirrors_iff]
    rw [← forall_exists_iff]
    exact forall₂_congr fun m hm => isClause_iff_mirrors (ih m hm)
  | other json hjson =>
    constructor
    · intro h
      exact absurd h (not_isFilterObject hjson)
    · rintro ⟨filter, h⟩
      exact absurd h (not_mirrors hjson)

/-! ## What is read -/

/-- The clause of a member that lies at `path`. -/
def ofClause (path : List Step) (key : String) (json : Json) : Except Malformed Clause :=
  if key = conjunctionKey then (ofGroup path json).map .allOf
  else if key = disjunctionKey then (ofGroup path json).map .anyOf
  else (ofOperators path key json).map .field

theorem ofMembers_eq (path : List Step) (members : List (String × Json)) :
    ofMembers path members =
      members.mapM fun m => ofClause (path ++ [.member m.1]) m.1 m.2 := by
  induction members with
  | nil => rfl
  | cons m members ih =>
    obtain ⟨key, json⟩ := m
    rw [ofMembers, List.mapM_cons, ← ih]
    unfold ofClause
    split
    · rfl
    · split
      · rfl
      · rfl

theorem ofItems_eq (path : List Step) (index : Nat) (items : List Json) :
    ofItems path index items =
      (items.zipIdx index).mapM fun item => ofObject (path ++ [.item item.2]) item.1 := by
  induction items generalizing index with
  | nil => rfl
  | cons json items ih =>
    rw [ofItems, List.zipIdx_cons, List.mapM_cons, ← ih]
    rfl

theorem ofOperators_eq_ok {path : List Step} {key : String} {json : Json}
    {own : FieldComparisons} :
    ofOperators path key json = .ok own ↔
      ∃ operators comparisons, json = .object operators ∧
        List.Forall₂ Comparison.Mirrors operators comparisons ∧ own = ⟨key, comparisons⟩ := by
  unfold ofOperators
  constructor
  · intro h
    split at h
    · rename_i operators
      cases h
      exact ⟨operators, _, rfl, comparisons_mirror_iff.2 rfl, rfl⟩
    · cases h
  · rintro ⟨operators, comparisons, rfl, hcomparisons, rfl⟩
    rw [comparisons_mirror_iff.1 hcomparisons]

/-- A list of objects that are read as the filters that mirror them is read so too. -/
theorem ofGroup_eq_ok {json : Json}
    (h : ∀ items, json = .array items → ∀ item ∈ items, ∀ path filter,
      ofObject path item = .ok filter ↔ Mirrors item filter)
    {path : List Step} {filters : List (List Clause)} :
    ofGroup path json = .ok filters ↔
      ∃ items, json = .array items ∧ List.Forall₂ Mirrors items filters := by
  cases json with
  | array items =>
    have hitem : ∀ item ∈ items.zipIdx 0, ∀ filter,
        ofObject (path ++ [.item item.2]) item.1 = .ok filter ↔ Mirrors item.1 filter := by
      intro item hitem filter
      exact h items rfl item.1 (List.fst_mem_of_mem_zipIdx hitem) _ filter
    rw [ofGroup, ofItems_eq, mapM_eq_ok, forall₂_iff_of_mem hitem, ← List.forall₂_map_left_iff,
      List.zipIdx_map_fst]
    simp
  | _ =>
    constructor
    · intro hread
      cases hread
    · rintro ⟨_, hjson, _⟩
      cases hjson

theorem ofClause_eq_ok {key : String} {json : Json}
    (h : ∀ items, json = .array items → ∀ item ∈ items, ∀ path filter,
      ofObject path item = .ok filter ↔ Mirrors item filter)
    {path : List Step} {clause : Clause} :
    ofClause path key json = .ok clause ↔ ClauseMirrors (key, json) clause := by
  unfold ofClause conjunctionKey disjunctionKey
  constructor
  · intro hread
    split at hread
    · rename_i hand
      obtain ⟨filters, hfilters, rfl⟩ := map_eq_ok.1 hread
      obtain ⟨items, rfl, hmirrors⟩ := (ofGroup_eq_ok h).1 hfilters
      rw [hand]
      exact .allOf hmirrors
    · rename_i hand
      split at hread
      · rename_i hor
        obtain ⟨filters, hfilters, rfl⟩ := map_eq_ok.1 hread
        obtain ⟨items, rfl, hmirrors⟩ := (ofGroup_eq_ok h).1 hfilters
        rw [hor]
        exact .anyOf hmirrors
      · rename_i hor
        obtain ⟨own, hown, rfl⟩ := map_eq_ok.1 hread
        obtain ⟨operators, comparisons, rfl, hmirrors, rfl⟩ := ofOperators_eq_ok.1 hown
        exact .field hand hor hmirrors
  · intro hmirrors
    cases hmirrors with
    | allOf hfilters => exact map_eq_ok.2 ⟨_, (ofGroup_eq_ok h).2 ⟨_, rfl, hfilters⟩, rfl⟩
    | anyOf hfilters => exact map_eq_ok.2 ⟨_, (ofGroup_eq_ok h).2 ⟨_, rfl, hfilters⟩, rfl⟩
    | field hand hor hcomparisons =>
      rw [if_neg hand, if_neg hor]
      exact map_eq_ok.2 ⟨_, ofOperators_eq_ok.2 ⟨_, _, rfl, hcomparisons, rfl⟩, rfl⟩

/-- **An object is read as the filter that mirrors it.** -/
theorem ofObject_eq_ok (json : Json) :
    ∀ path filter, ofObject path json = .ok filter ↔ Mirrors json filter := by
  induction json using groupInduction with
  | object members ih =>
    intro path filter
    rw [ofObject, ofMembers_eq, mapM_eq_ok, mirrors_iff]
    apply forall₂_iff_of_mem
    intro m hm clause
    exact ofClause_eq_ok fun items hitems item hitem => ih m hm items hitems item hitem
  | other json hjson =>
    intro path filter
    constructor
    · intro h
      cases json with
      | object members => cases hjson
      | _ => cases h
    · intro h
      exact absurd h (not_mirrors hjson)

end DocumentQuery.Filter
