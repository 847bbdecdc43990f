import DocumentQuery.Proofs.Filter.Comparison
import DocumentQuery.Proofs.Filter.Malformed
import DocumentQuery.Proofs.Filter.Recursion

/-!
# Keys of predicates

A predicate document has its own operators `$and` and `$or` among the names of fields, and the store
takes any key that begins with a dollar sign for an operator. A filter may name such a field. Its
name then stands in the predicate as it is, over a document of conditions, where an own operator
always has a list of predicates.

* `Predicate.Occurs`    : an entry at some place where a predicate stands;
* `Predicate.IsGroup`   : an own operator with its predicates;
* `Filter.NamesField`   : a JSON filter has operators for a field, at any depth;
* `Filter.Compares`     : so has the filter that it is read as;
* `Predicate.MadeOf`    : a predicate has the entries of its parts, and groups besides;
* `Filter.Keyed`        : it has the fields of those names, and groups besides.

Principal results: `Filter.keyed_compile` and, for names with a dollar sign, `Filter.dollar_keys`.
-/

namespace DocumentQuery

/-! ## Places of predicates -/

namespace Predicate

/-- The entry stands in the document, or in a predicate of a list under `$and` or `$or` in it. -/
inductive Occurs : Document → String × Value → Prop where
  | here {document : Document} {entry : String × Value} (h : entry ∈ document) :
      Occurs document entry
  | within {document inner : Document} {key : String} {items : List Value}
      {entry : String × Value} (hkey : key = "$and" ∨ key = "$or")
      (hitems : (key, .array items) ∈ document) (hinner : .document inner ∈ items)
      (h : Occurs inner entry) : Occurs document entry

/-- One of the own operators, with a list of predicates. -/
def IsGroup (entry : String × Value) : Prop :=
  (entry.1 = "$and" ∨ entry.1 = "$or") ∧
    ∃ parts : List Document, parts ≠ [] ∧ entry.2 = .array (parts.map .document)

/-- What the store takes for an operator. -/
def BeginsWithDollar (key : String) : Prop := key.toList.head? = some '$'

instance (key : String) : Decidable (BeginsWithDollar key) :=
  inferInstanceAs (Decidable (key.toList.head? = some '$'))

/-- The entries of the document are those of its parts and groups. -/
structure MadeOf (document : Document) (parts : List Document) : Prop where
  occurs : ∀ entry, Occurs document entry → IsGroup entry ∨ ∃ part ∈ parts, Occurs part entry
  keeps : ∀ part ∈ parts, ∀ entry, Occurs part entry → Occurs document entry

theorem not_occurs_nil (entry : String × Value) : ¬Occurs [] entry := by
  intro h
  cases h with
  | here h => cases h
  | within _ hitems => cases hitems

theorem Occurs.append_left {first : Document} {entry : String × Value} (h : Occurs first entry)
    (second : Document) : Occurs (first ++ second) entry := by
  cases h with
  | here h => exact .here (List.mem_append_left _ h)
  | within hkey hitems hinner h => exact .within hkey (List.mem_append_left _ hitems) hinner h

theorem Occurs.append_right {second : Document} {entry : String × Value} (first : Document)
    (h : Occurs second entry) : Occurs (first ++ second) entry := by
  cases h with
  | here h => exact .here (List.mem_append_right _ h)
  | within hkey hitems hinner h => exact .within hkey (List.mem_append_right _ hitems) hinner h

theorem occurs_append {first second : Document} {entry : String × Value}
    (h : Occurs (first ++ second) entry) : Occurs first entry ∨ Occurs second entry := by
  cases h with
  | here h => exact (List.mem_append.1 h).imp .here .here
  | within hkey hitems hinner h =>
    rcases List.mem_append.1 hitems with hitems | hitems
    · exact .inl (.within hkey hitems hinner h)
    · exact .inr (.within hkey hitems hinner h)

namespace MadeOf

theorem nothing : MadeOf [] [] where
  occurs := fun entry h => absurd h (not_occurs_nil entry)
  keeps := by simp

theorem single (document : Document) : MadeOf document [document] where
  occurs := fun entry h => .inr ⟨document, by simp, h⟩
  keeps := by simp

theorem append {first second : Document} {parts others : List Document}
    (h : MadeOf first parts) (hsecond : MadeOf second others) :
    MadeOf (first ++ second) (parts ++ others) where
  occurs := by
    intro entry hentry
    rcases occurs_append hentry with hentry | hentry
    · rcases h.occurs entry hentry with hgroup | ⟨part, hpart, hentry⟩
      · exact .inl hgroup
      · exact .inr ⟨part, List.mem_append_left _ hpart, hentry⟩
    · rcases hsecond.occurs entry hentry with hgroup | ⟨part, hpart, hentry⟩
      · exact .inl hgroup
      · exact .inr ⟨part, List.mem_append_right _ hpart, hentry⟩
  keeps := by
    intro part hpart entry hentry
    rcases List.mem_append.1 hpart with hpart | hpart
    · exact (h.keeps part hpart entry hentry).append_left second
    · exact (hsecond.keeps part hpart entry hentry).append_right first

/-- A list of predicates under an own operator. -/
theorem listed {operator : String} (hoperator : operator = "$and" ∨ operator = "$or")
    {parts : List Document} (hparts : parts ≠ []) :
    MadeOf [(operator, .array (parts.map .document))] parts where
  occurs := by
    intro entry h
    cases h with
    | here h =>
      rw [List.mem_singleton.1 h]
      exact .inl ⟨hoperator, parts, hparts, rfl⟩
    | within _ hitems hinner h =>
      cases List.mem_singleton.1 hitems
      simp only [List.mem_map, Value.document.injEq, exists_eq_right] at hinner
      exact .inr ⟨_, hinner, h⟩
  keeps := by
    intro part hpart entry h
    exact .within hoperator List.mem_cons_self (List.mem_map_of_mem hpart) h

theorem group {operator : String} (hoperator : operator = "$and" ∨ operator = "$or")
    (parts : List Document) : MadeOf (Filter.group operator parts) parts := by
  cases parts with
  | nil => exact nothing
  | cons part parts => exact listed hoperator (List.cons_ne_nil _ _)

theorem combine {operator : String} (hoperator : operator = "$and" ∨ operator = "$or")
    (parts : List Document) : MadeOf (Filter.combine operator parts) parts := by
  match parts with
  | [] => exact nothing
  | [document] => exact single document
  | first :: second :: rest => exact listed hoperator (List.cons_ne_nil _ _)

/-- In an empty part nothing occurs. -/
theorem add_empty {document : Document} {parts others : List Document}
    (h : MadeOf document (parts ++ others)) : MadeOf document (parts ++ [[]] ++ others) where
  occurs := by
    intro entry hentry
    refine (h.occurs entry hentry).imp_right ?_
    rintro ⟨part, hpart, hentry⟩
    exact ⟨part, by simp at hpart ⊢; tauto, hentry⟩
  keeps := by
    intro part hpart entry hentry
    have hnonempty : part ≠ [] := by
      rintro rfl
      exact not_occurs_nil entry hentry
    exact h.keeps part (by simp at hpart ⊢; tauto) entry hentry

theorem predicate (all any : List Document) (own : Document) :
    MadeOf (Filter.predicate all any own) (all ++ [own] ++ any) := by
  have hown : ∀ {document : Document},
      MadeOf document ((if own.isEmpty then all else all ++ [own]) ++ any) →
        MadeOf document (all ++ [own] ++ any) := by
    intro document h
    split at h
    · rename_i hempty
      rw [List.isEmpty_iff.1 hempty]
      exact h.add_empty
    · exact h
  apply hown
  simp only [Filter.predicate]
  generalize (if own.isEmpty then all else all ++ [own]) = conjuncts
  split
  · exact single _
  · exact (group (.inl rfl) conjuncts).append (group (.inr rfl) any)

end MadeOf

end Predicate

/-! ## Fields of filters -/

namespace Filter

open Predicate (Occurs IsGroup BeginsWithDollar MadeOf)

/-- Some filter in the object has operators for a field of that name. -/
inductive NamesField : Json → String → Prop where
  | own {members operators : List (String × Json)} {name : String}
      (hmember : (name, .object operators) ∈ members) (hand : name ≠ "and") (hor : name ≠ "or")
      (hoperators : operators ≠ []) : NamesField (.object members) name
  | group {members : List (String × Json)} {key name : String} {items : List Json} {item : Json}
      (hkey : key = "and" ∨ key = "or") (hmember : (key, .array items) ∈ members)
      (hitem : item ∈ items) (h : NamesField item name) : NamesField (.object members) name

/-- The filter, or some filter in its groups, compares a field of that name. -/
inductive Compares : List Clause → String → Prop where
  | own {filter : List Clause} {own : FieldComparisons} (hclause : .field own ∈ filter)
      (hcomparisons : own.comparisons ≠ []) : Compares filter own.field
  | allOf {filter part : List Clause} {filters : List (List Clause)} {name : String}
      (hclause : .allOf filters ∈ filter) (hpart : part ∈ filters) (h : Compares part name) :
      Compares filter name
  | anyOf {filter part : List Clause} {filters : List (List Clause)} {name : String}
      (hclause : .anyOf filters ∈ filter) (hpart : part ∈ filters) (h : Compares part name) :
      Compares filter name

/-- What the object names the filter compares. -/
theorem compares_of_namesField {json : Json} {name : String} (h : NamesField json name) :
    ∀ {filter : Filter}, Mirrors json filter → Compares filter name := by
  induction h with
  | own hmember hand hor hoperators =>
    intro filter hmirrors
    obtain ⟨clause, hclause, hmirror⟩ := exists_right_of_mem (mirrors_iff.1 hmirrors) hmember
    cases hmirror with
    | field _ _ hcomparisons =>
      refine .own hclause ?_
      rintro rfl
      exact hoperators (List.forall₂_nil_right_iff.1 hcomparisons)
  | group hkey hmember hitem _ ih =>
    intro filter hmirrors
    obtain ⟨clause, hclause, hmirror⟩ := exists_right_of_mem (mirrors_iff.1 hmirrors) hmember
    cases hmirror with
    | allOf hfilters =>
      obtain ⟨part, hpart, hmirror⟩ := exists_right_of_mem hfilters hitem
      exact .allOf hclause hpart (ih hmirror)
    | anyOf hfilters =>
      obtain ⟨part, hpart, hmirror⟩ := exists_right_of_mem hfilters hitem
      exact .anyOf hclause hpart (ih hmirror)

/-- What the filter compares the object names. -/
theorem namesField_of_compares {filter : Filter} {name : String} (h : Compares filter name) :
    ∀ {json : Json}, Mirrors json filter → NamesField json name := by
  induction h with
  | own hclause hcomparisons =>
    rintro _ ⟨hclauses⟩
    obtain ⟨member, hmember, hmirror⟩ := exists_left_of_mem hclauses hclause
    cases hmirror with
    | field hand hor hoperators =>
      refine .own hmember hand hor ?_
      rintro rfl
      exact hcomparisons (List.forall₂_nil_left_iff.1 hoperators)
  | allOf hclause hpart _ ih =>
    rintro _ ⟨hclauses⟩
    obtain ⟨member, hmember, hmirror⟩ := exists_left_of_mem hclauses hclause
    cases hmirror with
    | allOf hfilters =>
      obtain ⟨item, hitem, hmirror⟩ := exists_left_of_mem hfilters hpart
      exact .group (.inl rfl) hmember hitem (ih hmirror)
  | anyOf hclause hpart _ ih =>
    rintro _ ⟨hclauses⟩
    obtain ⟨member, hmember, hmirror⟩ := exists_left_of_mem hclauses hclause
    cases hmirror with
    | anyOf hfilters =>
      obtain ⟨item, hitem, hmirror⟩ := exists_left_of_mem hfilters hpart
      exact .group (.inr rfl) hmember hitem (ih hmirror)

/-- The fields of a JSON filter are those of the filter that it is read as. -/
theorem namesField_iff {json : Json} {filter : Filter} (h : ofJson json = .ok filter)
    (name : String) : NamesField json name ↔ Compares filter name := by
  by_cases hnull : json = .null
  · subst hnull
    cases h
    constructor
    · intro hname
      cases hname
    · intro hname
      cases hname <;> contradiction
  · rw [ofJson_of_ne_null hnull, ofObject_eq_ok] at h
    exact ⟨fun hname => compares_of_namesField hname h, fun hname => namesField_of_compares hname h⟩

/-! ## Predicates of filters -/

/-- Besides groups, the entries of the document are the fields of those names, each under its stored
name and with its conditions. -/
structure Keyed (config : Config) (names : String → Prop) (document : Document) : Prop where
  occurs : ∀ entry, Occurs document entry → IsGroup entry ∨
    ∃ name, names name ∧ ∃ conditions : Document, entry = (config.resolve name, .document conditions)
  keeps : ∀ name, names name →
    ∃ conditions : Document, Occurs document (config.resolve name, .document conditions)

theorem Keyed.of_parts {config : Config} {names : String → Prop} {document : Document}
    {parts : List Document} (hmade : MadeOf document parts)
    (hfrom : ∀ part ∈ parts, ∃ own, Keyed config own part ∧ ∀ name, own name → names name)
    (hto : ∀ name, names name → ∃ part ∈ parts, ∃ own, Keyed config own part ∧ own name) :
    Keyed config names document where
  occurs := by
    intro entry hentry
    rcases hmade.occurs entry hentry with hgroup | ⟨part, hpart, hentry⟩
    · exact .inl hgroup
    · obtain ⟨own, hkeyed, hnames⟩ := hfrom part hpart
      refine (hkeyed.occurs entry hentry).imp_right ?_
      rintro ⟨name, hname, hconditions⟩
      exact ⟨name, hnames name hname, hconditions⟩
  keeps := by
    intro name hname
    obtain ⟨part, hpart, own, hkeyed, hown⟩ := hto name hname
    obtain ⟨conditions, hoccurs⟩ := hkeyed.keeps name hown
    exact ⟨conditions, hmade.keeps part hpart _ hoccurs⟩

/-- Parts that are made of the items of a list, each with its own names. -/
theorem Keyed.of_mapM {α ε : Type} {config : Config} {document : Document}
    {parts : List Document} {xs : List α} {names : α → String → Prop} {f : α → Except ε Document}
    (hmade : MadeOf document parts) (hparts : xs.mapM f = .ok parts)
    (h : ∀ x ∈ xs, ∀ part, f x = .ok part → Keyed config (names x) part) :
    Keyed config (fun name => ∃ x ∈ xs, names x name) document := by
  have hresults := mapM_eq_ok.1 hparts
  apply Keyed.of_parts hmade
  · intro part hpart
    obtain ⟨x, hx, hresult⟩ := exists_left_of_mem hresults hpart
    exact ⟨names x, h x hx part hresult, fun name hname => ⟨x, hx, hname⟩⟩
  · rintro name ⟨x, hx, hname⟩
    obtain ⟨part, hpart, hresult⟩ := exists_right_of_mem hresults hx
    exact ⟨part, hpart, names x, h x hx part hresult, hname⟩

variable {collection : Collection}

theorem keyed_comparison {field : String} {comparison : Comparison} {document : Document}
    (h : Comparison.compile collection field comparison = .ok document) :
    Keyed collection.config (field = ·) document := by
  obtain ⟨conditions, rfl, _⟩ := Comparison.compile_eq_ok.1 h
  constructor
  · intro entry hentry
    cases hentry with
    | here hentry => exact .inr ⟨field, rfl, conditions, List.mem_singleton.1 hentry⟩
    | within _ hitems => cases List.mem_singleton.1 hitems
  · rintro name rfl
    exact ⟨conditions, .here List.mem_cons_self⟩

theorem keyed_compileField {own : FieldComparisons} {document : Document}
    (h : compileField collection own = .ok document) :
    Keyed collection.config (fun name => ∃ _ ∈ own.comparisons, own.field = name) document := by
  obtain ⟨compiled, hcompiled, h⟩ := bind_eq_ok.1 h
  cases h
  exact .of_mapM (.combine (.inr rfl) compiled) hcompiled fun _ _ _ => keyed_comparison

theorem keyed_compileFields {filter : Filter} {document : Document}
    (h : compileFields collection (fields filter) = .ok document) :
    Keyed collection.config
      (fun name => ∃ own ∈ fields filter, ∃ _ ∈ own.comparisons, own.field = name) document := by
  obtain ⟨compiled, hcompiled, h⟩ := bind_eq_ok.1 h
  cases h
  exact .of_mapM (.combine (.inl rfl) compiled) hcompiled fun _ _ _ => keyed_compileField

theorem mem_fields {filter : Filter} {own : FieldComparisons} :
    own ∈ fields filter ↔ .field own ∈ filter := by
  unfold fields
  rw [List.mem_filterMap]
  constructor
  · rintro ⟨clause, hclause, hown⟩
    cases clause <;> simp_all
  · intro hclause
    exact ⟨_, hclause, rfl⟩

theorem mem_conjuncts {filter part : Filter} :
    part ∈ conjuncts filter ↔ ∃ filters, .allOf filters ∈ filter ∧ part ∈ filters := by
  unfold conjuncts
  rw [List.mem_flatMap]
  constructor
  · rintro ⟨clause, hclause, hpart⟩
    cases clause <;> simp_all
    exact ⟨_, hclause, hpart⟩
  · rintro ⟨filters, hclause, hpart⟩
    exact ⟨_, hclause, hpart⟩

theorem mem_alternatives {filter part : Filter} :
    part ∈ alternatives filter ↔ ∃ filters, .anyOf filters ∈ filter ∧ part ∈ filters := by
  unfold alternatives
  rw [List.mem_flatMap]
  constructor
  · rintro ⟨clause, hclause, hpart⟩
    cases clause <;> simp_all
    exact ⟨_, hclause, hpart⟩
  · rintro ⟨filters, hclause, hpart⟩
    exact ⟨_, hclause, hpart⟩

/-- The fields that a filter compares are its own and those of the filters in its groups. -/
theorem compares_iff {filter : Filter} {name : String} :
    Compares filter name ↔
      (∃ own ∈ fields filter, own.comparisons ≠ [] ∧ own.field = name) ∨
        (∃ part ∈ conjuncts filter, Compares part name) ∨
          ∃ part ∈ alternatives filter, Compares part name := by
  constructor
  · intro h
    cases h with
    | own hclause hcomparisons => exact .inl ⟨_, mem_fields.2 hclause, hcomparisons, rfl⟩
    | allOf hclause hpart h => exact .inr (.inl ⟨_, mem_conjuncts.2 ⟨_, hclause, hpart⟩, h⟩)
    | anyOf hclause hpart h => exact .inr (.inr ⟨_, mem_alternatives.2 ⟨_, hclause, hpart⟩, h⟩)
  · rintro (⟨own, hown, hcomparisons, rfl⟩ | ⟨part, hpart, h⟩ | ⟨part, hpart, h⟩)
    · exact .own (mem_fields.1 hown) hcomparisons
    · obtain ⟨filters, hclause, hmem⟩ := mem_conjuncts.1 hpart
      exact .allOf hclause hmem h
    · obtain ⟨filters, hclause, hmem⟩ := mem_alternatives.1 hpart
      exact .anyOf hclause hmem h

@[simp]
theorem not_compares_nil {name : String} : ¬Compares [] name := by
  intro h
  cases h <;> contradiction

/-- The fields that a filter compares, clause by clause. -/
@[simp]
theorem compares_cons {clause : Clause} {rest : List Clause} {name : String} :
    Compares (clause :: rest) name ↔
      (match clause with
        | .field own => own.comparisons ≠ [] ∧ own.field = name
        | .allOf filters => ∃ part ∈ filters, Compares part name
        | .anyOf filters => ∃ part ∈ filters, Compares part name) ∨ Compares rest name := by
  constructor
  · intro h
    cases h with
    | own hclause hcomparisons =>
      rcases List.mem_cons.1 hclause with rfl | hclause
      · exact .inl ⟨hcomparisons, rfl⟩
      · exact .inr (.own hclause hcomparisons)
    | allOf hclause hpart h =>
      rcases List.mem_cons.1 hclause with rfl | hclause
      · exact .inl ⟨_, hpart, h⟩
      · exact .inr (.allOf hclause hpart h)
    | anyOf hclause hpart h =>
      rcases List.mem_cons.1 hclause with rfl | hclause
      · exact .inl ⟨_, hpart, h⟩
      · exact .inr (.anyOf hclause hpart h)
  · rintro (hfirst | hrest)
    · cases clause with
      | field own =>
        obtain ⟨hcomparisons, rfl⟩ := hfirst
        exact .own List.mem_cons_self hcomparisons
      | allOf filters =>
        obtain ⟨part, hpart, h⟩ := hfirst
        exact .allOf List.mem_cons_self hpart h
      | anyOf filters =>
        obtain ⟨part, hpart, h⟩ := hfirst
        exact .anyOf List.mem_cons_self hpart h
    · cases hrest with
      | own hclause hcomparisons => exact .own (List.mem_cons_of_mem _ hclause) hcomparisons
      | allOf hclause hpart h => exact .allOf (List.mem_cons_of_mem _ hclause) hpart h
      | anyOf hclause hpart h => exact .anyOf (List.mem_cons_of_mem _ hclause) hpart h

/-- **The predicate of a filter has groups, and the fields that are compared.** -/
theorem keyed_compile {filter : Filter} {document : Document}
    (h : compile collection filter = .ok document) :
    Keyed collection.config (Compares filter) document := by
  induction filter using Filter.induction generalizing document with
  | step filter ihall ihany =>
    obtain ⟨all, any, own, hall, hany, hown, rfl⟩ := compile_eq_ok.1 h
    have hown := keyed_compileFields hown
    rw [mapM_eq_ok] at hall hany
    apply Keyed.of_parts (.predicate all any own)
    · intro part hpart
      rw [List.mem_append, List.mem_append, List.mem_singleton] at hpart
      rcases hpart with (hpart | rfl) | hpart
      · obtain ⟨inner, hinner, hresult⟩ := exists_left_of_mem hall hpart
        exact ⟨_, ihall inner hinner hresult, fun name hname =>
          compares_iff.2 (.inr (.inl ⟨inner, hinner, hname⟩))⟩
      · refine ⟨_, hown, ?_⟩
        rintro name ⟨field, hfield, comparison, hcomparison, rfl⟩
        exact compares_iff.2 (.inl ⟨field, hfield, List.ne_nil_of_mem hcomparison, rfl⟩)
      · obtain ⟨inner, hinner, hresult⟩ := exists_left_of_mem hany hpart
        exact ⟨_, ihany inner hinner hresult, fun name hname =>
          compares_iff.2 (.inr (.inr ⟨inner, hinner, hname⟩))⟩
    · intro name hname
      rcases compares_iff.1 hname with
        ⟨field, hfield, hcomparisons, rfl⟩ | ⟨inner, hinner, hname⟩ | ⟨inner, hinner, hname⟩
      · obtain ⟨comparison, hcomparison⟩ := List.exists_mem_of_ne_nil _ hcomparisons
        exact ⟨own, by simp, _, hown, field, hfield, comparison, hcomparison, rfl⟩
      · obtain ⟨part, hpart, hresult⟩ := exists_right_of_mem hall hinner
        exact ⟨part, by simp [hpart], _, ihall inner hinner hresult, hname⟩
      · obtain ⟨part, hpart, hresult⟩ := exists_right_of_mem hany hinner
        exact ⟨part, by simp [hpart], _, ihany inner hinner hresult, hname⟩

/-! ## Names that begin with a dollar sign -/

/-- The alias does not get in the way of a name with a dollar sign, nor does a stored name. -/
theorem resolve_dollar {config : Config} (hfield : ¬BeginsWithDollar config.idField)
    (halias : ¬BeginsWithDollar config.idAlias) (name : String) :
    BeginsWithDollar (config.resolve name) ↔ BeginsWithDollar name := by
  unfold Config.resolve
  split
  · rename_i hname
    subst hname
    simp [hfield, halias]
  · rfl

/-- Where the identifier has no dollar sign in its names, such a key is an own operator with its
predicates, or a field of the filter under its own name, with conditions and not with predicates.
So all of them are own operators exactly if the filter names no such field. -/
theorem dollar_keys {json : Json} {filter : Filter} {document : Document}
    (hfield : ¬BeginsWithDollar collection.config.idField)
    (halias : ¬BeginsWithDollar collection.config.idAlias)
    (hread : ofJson json = .ok filter) (hcompile : compile collection filter = .ok document) :
    (∀ entry, Occurs document entry → BeginsWithDollar entry.1 →
      IsGroup entry ∨
        NamesField json entry.1 ∧ ∃ conditions : Document, entry.2 = .document conditions) ∧
    ((∀ entry, Occurs document entry → BeginsWithDollar entry.1 → IsGroup entry) ↔
      ∀ name, NamesField json name → ¬BeginsWithDollar name) := by
  have hkeyed := keyed_compile hcompile
  have hnames := namesField_iff hread
  have hdollar := resolve_dollar hfield halias
  have hsame {name : String} (hname : BeginsWithDollar name) :
      collection.config.resolve name = name := by
    refine if_neg ?_
    rintro rfl
    exact halias hname
  have hkeys : ∀ entry, Occurs document entry → BeginsWithDollar entry.1 →
      IsGroup entry ∨
        NamesField json entry.1 ∧ ∃ conditions : Document, entry.2 = .document conditions := by
    intro entry hentry hbegins
    refine (hkeyed.occurs entry hentry).imp_right ?_
    rintro ⟨name, hname, conditions, rfl⟩
    rw [hsame ((hdollar name).1 hbegins)]
    exact ⟨(hnames name).2 hname, conditions, rfl⟩
  refine ⟨hkeys, ?_, ?_⟩
  · intro hgroups name hname hbegins
    obtain ⟨conditions, hentry⟩ := hkeyed.keeps name ((hnames name).1 hname)
    obtain ⟨_, parts, _, hlist⟩ := hgroups _ hentry ((hdollar name).2 hbegins)
    cases hlist
  · intro hnone entry hentry hbegins
    rcases hkeys entry hentry hbegins with hgroup | ⟨hname, _⟩
    · exact hgroup
    · exact absurd hbegins (hnone entry.1 hname)

/-- A field that is called `$or`, in one of two alternatives. -/
theorem dollar_keys_nested :
    let collection : Collection := ⟨.empty, {}⟩
    let json : Json := .object [("or", .array [.object [("$or", .object [("eq", .integer 1)])],
      .object [("id", .object [("is", .bool true)])]])]
    let document : Document := [("$or", .array
      [.document [("$or", .document [("$eq", .int32 1)])],
        .document [("_id", .document [("$eq", .bool true)])]])]
    ¬BeginsWithDollar collection.config.idField ∧ ¬BeginsWithDollar collection.config.idAlias ∧
      ∃ filter, ofJson json = .ok filter ∧ compile collection filter = .ok document ∧
        (∀ entry, Occurs document entry → BeginsWithDollar entry.1 →
          IsGroup entry ∨
            NamesField json entry.1 ∧ ∃ conditions : Document, entry.2 = .document conditions) ∧
        ((∀ entry, Occurs document entry → BeginsWithDollar entry.1 → IsGroup entry) ↔
          ∀ name, NamesField json name → ¬BeginsWithDollar name) := by
  intro collection json document
  have hfield : ¬BeginsWithDollar collection.config.idField := by decide
  have halias : ¬BeginsWithDollar collection.config.idAlias := by decide
  exact ⟨hfield, halias, _, rfl, rfl, dollar_keys hfield halias rfl rfl⟩

/-- A field that is called `$where` is compared under that name. -/
theorem emits_dollar_field :
    ¬∀ (collection : Collection) (json : Json) (filter : Filter) (document : Document),
      collection.config.validate = .ok () → ¬BeginsWithDollar collection.config.idField →
        ¬BeginsWithDollar collection.config.idAlias → ofJson json = .ok filter →
          compile collection filter = .ok document →
            ∀ entry, Occurs document entry → BeginsWithDollar entry.1 → IsGroup entry := by
  intro h
  have hgroup := h ⟨.empty, {}⟩ (.object [("$where", .object [("eq", .integer 1)])]) _ _
    rfl (by decide) (by decide) rfl rfl ("$where", .document [("$eq", .int32 1)])
    (.here List.mem_cons_self) (by decide)
  obtain ⟨hkey | hkey, _⟩ := hgroup
  · exact absurd hkey (by decide)
  · exact absurd hkey (by decide)

end Filter

end DocumentQuery
