import DocumentQuery.Proofs.Filter.OwnOperators

/-!
# The form of predicates

The store refuses a list of predicates that is empty. Whatever a filter has in it that says nothing,
groups without filters, filters without clauses, fields without comparisons, its predicate has no
such list. What has only one part is written as that part.

* `Predicate.Conditions` : the conditions on a field, an operator or the two bounds of a range;
* `Predicate.Formed`     : the grammar of predicates;
* `Filter.Native`        : the operators of the store that a configuration has names for;
* `Filter.Wraps`         : a filter that is one comparison, within groups of one;
* `Filter.compile_wraps` : such a filter has the predicate of its comparison.

Principal result: `Filter.compile_form`.
-/

namespace DocumentQuery

/-! ## The grammar -/

namespace Predicate

/-- One operator with its value, or the bounds of a range, from inside or from outside. -/
inductive Conditions (operators : String → Prop) : Document → Prop where
  | single {operator : String} (h : operators operator) (value : Value) :
      Conditions operators [(operator, value)]
  | within (lower upper : Value) : Conditions operators [("$gte", lower), ("$lte", upper)]
  | outside (lower upper : Value) : Conditions operators [("$lt", lower), ("$gt", upper)]

/-- Predicates as the store takes them. No list is empty, and a single predicate stands under `$and`
only where an `$or` stands beside it. -/
inductive Formed (operators : String → Prop) : Document → Prop where
  | everything : Formed operators []
  | field {name : String} {conditions : Document} (hname : ¬BeginsWithDollar name)
      (h : Conditions operators conditions) : Formed operators [(name, .document conditions)]
  | all {parts : List Document} (hparts : 2 ≤ parts.length)
      (h : ∀ part ∈ parts, Formed operators part) :
      Formed operators [("$and", .array (parts.map .document))]
  | any {parts : List Document} (hparts : parts ≠ [])
      (h : ∀ part ∈ parts, Formed operators part) :
      Formed operators [("$or", .array (parts.map .document))]
  | both {parts others : List Document} (hparts : parts ≠ []) (hothers : others ≠ [])
      (h : ∀ part ∈ parts, Formed operators part)
      (hother : ∀ part ∈ others, Formed operators part) :
      Formed operators
        [("$and", .array (parts.map .document)), ("$or", .array (others.map .document))]

namespace Formed

variable {operators : String → Prop}

theorem combine {operator : String} (hoperator : operator = "$and" ∨ operator = "$or")
    {parts : List Document} (h : ∀ part ∈ parts, Formed operators part) :
    Formed operators (Filter.combine operator parts) := by
  rcases parts with _ | ⟨first, _ | ⟨second, rest⟩⟩
  · exact everything
  · exact h first List.mem_cons_self
  · rcases hoperator with rfl | rfl
    · exact all (Nat.le_add_left 2 rest.length) h
    · exact any (List.cons_ne_nil first (second :: rest)) h

theorem predicate {conjuncts alternatives : List Document} {own : Document}
    (hall : ∀ part ∈ conjuncts, Formed operators part)
    (hany : ∀ part ∈ alternatives, Formed operators part) (hown : Formed operators own) :
    Formed operators (Filter.predicate conjuncts alternatives own) := by
  have hall' : ∀ part ∈ if own.isEmpty then conjuncts else conjuncts ++ [own],
      Formed operators part := by
    split
    · exact hall
    · exact List.forall_mem_append.2 ⟨hall, List.forall_mem_singleton.2 hown⟩
  simp only [Filter.predicate]
  generalize (if own.isEmpty then conjuncts else conjuncts ++ [own]) = parts at hall'
  cases alternatives with
  | nil =>
    rcases parts with _ | ⟨first, _ | ⟨second, rest⟩⟩
    · exact everything
    · exact hall' first List.mem_cons_self
    · exact all (Nat.le_add_left 2 rest.length) hall'
  | cons other others =>
    have hothers := List.cons_ne_nil other others
    rcases parts with _ | ⟨first, _ | ⟨second, rest⟩⟩
    · exact any hothers hany
    · exact both (List.cons_ne_nil first []) hothers hall' hany
    · exact both (List.cons_ne_nil first (second :: rest)) hothers hall' hany

end Formed

end Predicate

namespace Filter

open Predicate (BeginsWithDollar Conditions Formed)

variable {collection : Collection}

/-- The operator of the store has a name in the configuration. -/
def Native (config : Config) (operator : String) : Prop :=
  ∃ name, config.operatorTable.native? name = some operator

theorem conditions_rangeConditions (operators : String → Prop) (negated : Bool)
    (lower upper : Value) :
    Conditions operators (Comparison.rangeConditions negated lower upper) := by
  cases negated with
  | false => exact .within lower upper
  | true => exact .outside lower upper

theorem formed_comparison {field : String} {comparison : Comparison} {document : Document}
    (hname : ¬BeginsWithDollar (collection.config.resolve field))
    (h : Comparison.compile collection field comparison = .ok document) :
    Formed (Native collection.config) document := by
  obtain ⟨conditions, rfl, hconditions⟩ := Comparison.compile_eq_ok.1 h
  refine .field hname ?_
  rcases hconditions with ⟨_, lower, upper, _, rfl⟩ | ⟨_, native, hnative, _, rfl⟩
  · exact conditions_rangeConditions _ _ lower upper
  · exact .single ⟨_, hnative⟩ _

theorem formed_compileField {own : FieldComparisons} {document : Document}
    (hname : own.comparisons ≠ [] → ¬BeginsWithDollar (collection.config.resolve own.field))
    (h : compileField collection own = .ok document) :
    Formed (Native collection.config) document := by
  obtain ⟨compiled, hcompiled, h⟩ := bind_eq_ok.1 h
  cases h
  refine .combine (.inr rfl) fun part hpart => ?_
  obtain ⟨comparison, hcomparison, hresult⟩ := exists_left_of_mem (mapM_eq_ok.1 hcompiled) hpart
  exact formed_comparison (hname (List.ne_nil_of_mem hcomparison)) hresult

theorem formed_compileFields {filter : Filter} {document : Document}
    (hnames : ∀ name, Compares filter name → ¬BeginsWithDollar (collection.config.resolve name))
    (h : compileFields collection (fields filter) = .ok document) :
    Formed (Native collection.config) document := by
  obtain ⟨compiled, hcompiled, h⟩ := bind_eq_ok.1 h
  cases h
  refine .combine (.inl rfl) fun part hpart => ?_
  obtain ⟨own, hown, hresult⟩ := exists_left_of_mem (mapM_eq_ok.1 hcompiled) hpart
  exact formed_compileField (fun hcomparisons =>
    hnames _ (compares_iff.2 (.inl ⟨own, hown, hcomparisons, rfl⟩))) hresult

/-- **The predicate of a filter is in the grammar.** -/
theorem formed_compile {filter : Filter} {document : Document}
    (hnames : ∀ name, Compares filter name → ¬BeginsWithDollar (collection.config.resolve name))
    (h : compile collection filter = .ok document) :
    Formed (Native collection.config) document := by
  induction filter using Filter.induction generalizing document with
  | step filter ihall ihany =>
    obtain ⟨all, any, own, hall, hany, hown, rfl⟩ := compile_eq_ok.1 h
    refine .predicate (fun part hpart => ?_) (fun part hpart => ?_)
      (formed_compileFields hnames hown)
    · obtain ⟨inner, hinner, hresult⟩ := exists_left_of_mem (mapM_eq_ok.1 hall) hpart
      exact ihall inner hinner (fun name hname =>
        hnames name (compares_iff.2 (.inr (.inl ⟨inner, hinner, hname⟩)))) hresult
    · obtain ⟨inner, hinner, hresult⟩ := exists_left_of_mem (mapM_eq_ok.1 hany) hpart
      exact ihany inner hinner (fun name hname =>
        hnames name (compares_iff.2 (.inr (.inr ⟨inner, hinner, hname⟩)))) hresult

/-! ## Filters of one part -/

variable {filter part : Filter} {field : String} {comparison : Comparison}

theorem compile_of_part (hall : conjuncts filter = [part]) (hany : alternatives filter = [])
    (hfields : fields filter = []) : compile collection filter = compile collection part := by
  rw [compile_eq, hall, hany, hfields, List.mapM_cons, List.mapM_nil]
  cases compile collection part <;> rfl

theorem compileFields_single (collection : Collection) (field : String) (comparison : Comparison) :
    compileFields collection [⟨field, [comparison]⟩] =
      Comparison.compile collection field comparison := by
  rw [compileFields, List.mapM_cons, List.mapM_nil, compileField, List.mapM_cons, List.mapM_nil]
  cases Comparison.compile collection field comparison <;> rfl

theorem compile_of_comparison (hall : conjuncts filter = []) (hany : alternatives filter = [])
    (hfields : fields filter = [⟨field, [comparison]⟩]) :
    compile collection filter = Comparison.compile collection field comparison := by
  rw [compile_eq, hall, hany, hfields, compileFields_single, List.mapM_nil]
  cases hcompiled : Comparison.compile collection field comparison with
  | error error => rfl
  | ok document =>
    -- The own part is left out only where it is empty, which a comparison never is.
    obtain ⟨conditions, rfl, _⟩ := Comparison.compile_eq_ok.1 hcompiled
    rfl

/-- The filter is that comparison and nothing else, within any number of groups of one. -/
inductive Wraps : Filter → String → Comparison → Prop where
  | bare {filter : Filter} {field : String} {comparison : Comparison}
      (hall : conjuncts filter = []) (hany : alternatives filter = [])
      (hfields : fields filter = [⟨field, [comparison]⟩]) : Wraps filter field comparison
  | nested {filter part : Filter} {field : String} {comparison : Comparison}
      (hall : conjuncts filter = [part]) (hany : alternatives filter = [])
      (hfields : fields filter = []) (h : Wraps part field comparison) :
      Wraps filter field comparison

theorem compile_wraps (h : Wraps filter field comparison) :
    compile collection filter = Comparison.compile collection field comparison := by
  induction h with
  | bare hall hany hfields => exact compile_of_comparison hall hany hfields
  | nested hall hany hfields _ ih => exact (compile_of_part hall hany hfields).trans ih

/-- The predicate of a filter is in the grammar if no field that it compares has a stored name with
a dollar sign. A filter that is one filter or one comparison has the predicate of that one, and so
has a comparison within any number of groups. -/
theorem compile_form (collection : Collection) (filter : Filter) :
    (∀ document, compile collection filter = .ok document →
      (∀ name, Compares filter name → ¬BeginsWithDollar (collection.config.resolve name)) →
        Formed (Native collection.config) document) ∧
    (alternatives filter = [] →
      (∀ part, conjuncts filter = [part] → fields filter = [] →
        compile collection filter = compile collection part) ∧
      ∀ field comparison, conjuncts filter = [] → fields filter = [⟨field, [comparison]⟩] →
        compile collection filter = Comparison.compile collection field comparison) ∧
    ∀ field comparison, Wraps filter field comparison →
      compile collection filter = Comparison.compile collection field comparison := by
  refine ⟨fun document hcompile hnames => formed_compile hnames hcompile, fun hany => ⟨?_, ?_⟩, ?_⟩
  · intro part hall hfields
    exact compile_of_part hall hany hfields
  · intro field comparison hall hfields
    exact compile_of_comparison hall hany hfields
  · intro field comparison hwraps
    exact compile_wraps hwraps

/-- Groups that say nothing, beside groups of one around a range. -/
theorem compile_form_empty :
    let collection : Collection := ⟨.ofFields [("age", .int)], {}⟩
    let range : Value := .document [("lower", .int32 18), ("upper", .string "24")]
    let between : Comparison := ⟨.between, range⟩
    let wrapped : Filter := [.allOf [], .allOf [[.anyOf [], .allOf [[.field ⟨"age", [between]⟩]]]]]
    let filter : Filter := [.allOf [[], wrapped], .field ⟨"name", []⟩, .anyOf [[.anyOf []]]]
    let bounds : Document := [("age", .document [("$gte", .int32 18), ("$lte", .int32 24)])]
    let document : Document :=
      [("$and", .array [.document [], .document bounds]), ("$or", .array [.document []])]
    compile collection filter = .ok document ∧ Formed (Native collection.config) document ∧
      Wraps wrapped "age" between ∧
      compile collection wrapped = Comparison.compile collection "age" between ∧
      Comparison.compile collection "age" between = .ok bounds := by
  intro collection range between wrapped filter bounds document
  have hnames : ∀ name, Compares filter name →
      ¬BeginsWithDollar (collection.config.resolve name) := by
    intro name hname
    have hage : "age" = name := by
      simpa [filter, wrapped, between] using hname
    rw [← hage]
    decide
  obtain ⟨hformed, -, -⟩ := compile_form collection filter
  obtain ⟨-, -, hwraps⟩ := compile_form collection wrapped
  have hwrapped : Wraps wrapped "age" between :=
    .nested rfl rfl rfl (.nested rfl rfl rfl (.bare rfl rfl rfl))
  exact ⟨rfl, hformed document rfl hnames, hwrapped, hwraps _ _ hwrapped, rfl⟩

end Filter

end DocumentQuery
