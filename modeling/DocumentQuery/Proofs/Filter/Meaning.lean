import DocumentQuery.Proofs.Filter.Recursion

/-!
# The meaning of filters and of predicates

Whether a predicate document holds depends on which comparisons are true, and so does whether a
filter holds. Both meanings are given for any choice of the true comparisons.

* `Predicate.holds` : the meaning of a predicate document;
* `Filter.holds`    : the meaning of a filter.

Principal result: `Filter.holds_compile`, the predicate that a filter compiles to means what the
filter means.
-/

namespace DocumentQuery

/-! ## Predicate documents -/

namespace Predicate

open DocumentQuery.Filter (andKey orKey combine group)

/-- Which comparisons are true: of a field, by an operator of the store, with a value. -/
abbrev Assignment := String → String → Value → Bool

mutual

/-- All entries hold. -/
def holds (truth : Assignment) : List (String × Value) → Bool
  | [] => true
  | (key, value) :: rest => entryHolds truth key value && holds truth rest

/-- Of the list under `$and` all elements hold, of that under `$or` some. Any other entry is a
field with its conditions, all of which are true. -/
def entryHolds (truth : Assignment) (key : String) : Value → Bool
  | .array items =>
    if key = andKey then allHold truth items
    else if key = orKey then anyHolds truth items
    else false
  | .document conditions => conditions.all fun condition => truth key condition.1 condition.2
  | _ => false

def elementHolds (truth : Assignment) : Value → Bool
  | .document predicate => holds truth predicate
  | _ => false

def allHold (truth : Assignment) : List Value → Bool
  | [] => true
  | item :: rest => elementHolds truth item && allHold truth rest

def anyHolds (truth : Assignment) : List Value → Bool
  | [] => false
  | item :: rest => elementHolds truth item || anyHolds truth rest

end

variable (truth : Assignment)

theorem allHold_eq (items : List Value) :
    allHold truth items = items.all (elementHolds truth) := by
  induction items with
  | nil => rfl
  | cons item rest ih => rw [allHold, ih, List.all_cons]

theorem anyHolds_eq (items : List Value) :
    anyHolds truth items = items.any (elementHolds truth) := by
  induction items with
  | nil => rfl
  | cons item rest ih => rw [anyHolds, ih, List.any_cons]

theorem holds_append (first second : Document) :
    holds truth (first ++ second) = (holds truth first && holds truth second) := by
  induction first with
  | nil => simp [holds]
  | cons entry rest ih => simp [holds, ih, Bool.and_assoc]

@[simp]
theorem holds_all (items : List Value) :
    holds truth [(andKey, .array items)] = items.all (elementHolds truth) := by
  simp [holds, entryHolds, allHold_eq]

@[simp]
theorem holds_any (items : List Value) :
    holds truth [(orKey, .array items)] = items.any (elementHolds truth) := by
  simp [holds, entryHolds, anyHolds_eq, andKey, orKey]

@[simp]
theorem holds_comparison (field operator : String) (value : Value) :
    holds truth [(field, .document [(operator, value)])] = truth field operator value := by
  simp [holds, entryHolds]

theorem all_elementHolds (documents : List Document) :
    (documents.map Value.document).all (elementHolds truth) = documents.all (holds truth) := by
  rw [List.all_map]
  rfl

theorem any_elementHolds (documents : List Document) :
    (documents.map Value.document).any (elementHolds truth) = documents.any (holds truth) := by
  rw [List.any_map]
  rfl

theorem holds_group_and (documents : List Document) :
    holds truth (group andKey documents) = documents.all (holds truth) := by
  unfold group
  split
  · rename_i hempty
    rw [List.isEmpty_iff.1 hempty]
    rfl
  · rw [holds_all, all_elementHolds]

theorem holds_group_or (documents : List Document) :
    holds truth (group orKey documents) =
      (documents.isEmpty || documents.any (holds truth)) := by
  unfold group
  split
  · rename_i hempty
    rw [hempty]
    rfl
  · rename_i hnonempty
    rw [holds_any, any_elementHolds, Bool.eq_false_iff.2 hnonempty, Bool.false_or]

/-- A list of one is its own conjunction, so that only longer ones are written as a group. -/
theorem holds_combine_and (documents : List Document) :
    holds truth (combine andKey documents) = documents.all (holds truth) := by
  match documents with
  | [] => rfl
  | [single] => simp [combine]
  | first :: second :: rest =>
    have hwritten : combine andKey (first :: second :: rest) =
        [(andKey, .array ((first :: second :: rest).map .document))] := rfl
    rw [hwritten, holds_all, all_elementHolds]

theorem holds_combine_or (documents : List Document) :
    holds truth (combine orKey documents) =
      (documents.isEmpty || documents.any (holds truth)) := by
  match documents with
  | [] => rfl
  | [single] => simp [combine]
  | first :: second :: rest =>
    have hwritten : combine orKey (first :: second :: rest) =
        [(orKey, .array ((first :: second :: rest).map .document))] := rfl
    rw [hwritten, holds_any, any_elementHolds]
    rfl

/-- The parts of a predicate all hold. What is left out of it, an empty own part or an empty
group, holds anyway. -/
theorem holds_predicate (all any : List Document) (own : Document) :
    holds truth (Filter.predicate all any own) =
      (all.all (holds truth) && holds truth own &&
        (any.isEmpty || any.any (holds truth))) := by
  have hown : (if own.isEmpty then all else all ++ [own]).all (holds truth) =
      (all.all (holds truth) && holds truth own) := by
    split
    · rename_i hempty
      rw [List.isEmpty_iff.1 hempty]
      simp [holds]
    · simp
  rw [← hown]
  simp only [Filter.predicate]
  generalize (if own.isEmpty then all else all ++ [own]) = conjuncts
  split
  · simp
  · rw [holds_append, holds_group_and, holds_group_or]

end Predicate

/-! ## Filters -/

namespace Filter

open Predicate (Assignment)

variable (collection : Collection) (truth : Assignment)

/-- The predicate of a comparison holds. -/
def comparisonHolds (field : String) (comparison : Comparison) : Bool :=
  match Comparison.compile collection field comparison with
  | .ok document => Predicate.holds truth document
  | .error _ => false

/-- Some comparison of the field holds, unless it has none. -/
def fieldHolds (own : FieldComparisons) : Bool :=
  own.comparisons.isEmpty || own.comparisons.any (comparisonHolds collection truth own.field)

/-- The filters of the groups that must hold all hold, so do the filter's own fields, and of the
filters of the other groups some holds, unless there is none. -/
def holds (filter : Filter) : Bool :=
  (conjuncts filter).attach.all (fun part => holds part.1) &&
    (fields filter).all (fieldHolds collection truth) &&
    ((alternatives filter).isEmpty ||
      (alternatives filter).attach.any fun part => holds part.1)
  termination_by sizeOf filter
  decreasing_by
  · exact sizeOf_lt_of_mem_conjuncts part.2
  · exact sizeOf_lt_of_mem_alternatives part.2

theorem holds_eq (filter : Filter) :
    holds collection truth filter =
      ((conjuncts filter).all (holds collection truth) &&
        (fields filter).all (fieldHolds collection truth) &&
        ((alternatives filter).isEmpty ||
          (alternatives filter).any (holds collection truth))) := by
  rw [holds, List.all_subtype (fun _ _ => rfl), List.any_subtype (fun _ _ => rfl)]
  simp

variable {collection}

theorem holds_compileField {own : FieldComparisons} {document : Document}
    (h : compileField collection own = .ok document) :
    Predicate.holds truth document = fieldHolds collection truth own := by
  obtain ⟨compiled, hcompiled, h⟩ := bind_eq_ok.1 h
  cases h
  have hmeaning : ∀ comparison ∈ own.comparisons, ∀ document,
      Comparison.compile collection own.field comparison = .ok document →
      Predicate.holds truth document = comparisonHolds collection truth own.field comparison := by
    intro comparison _ document hdocument
    rw [comparisonHolds, hdocument]
  rw [Predicate.holds_combine_or, isEmpty_of_mapM hcompiled, any_of_mapM hcompiled hmeaning]
  rfl

theorem holds_compileFields {fields : List FieldComparisons} {document : Document}
    (h : compileFields collection fields = .ok document) :
    Predicate.holds truth document = fields.all (fieldHolds collection truth) := by
  obtain ⟨compiled, hcompiled, h⟩ := bind_eq_ok.1 h
  cases h
  rw [Predicate.holds_combine_and]
  exact all_of_mapM hcompiled fun own _ document => holds_compileField truth

/-- **The predicate that a filter compiles to means what the filter means**, whichever
comparisons are true. -/
theorem holds_compile {filter : Filter} {document : Document}
    (h : compile collection filter = .ok document) :
    Predicate.holds truth document = holds collection truth filter := by
  induction filter using Filter.induction generalizing document with
  | step filter ihall ihany =>
    obtain ⟨all, any, own, hall, hany, hown, rfl⟩ := compile_eq_ok.1 h
    have hany' : any.any (Predicate.holds truth) =
        (alternatives filter).any (holds collection truth) :=
      any_of_mapM hany fun part hpart _ => ihany part hpart
    rw [Predicate.holds_predicate, holds_eq, holds_compileFields truth hown,
      all_of_mapM hall fun part hpart _ => ihall part hpart, isEmpty_of_mapM hany, hany']

/-- Two conjuncts, one of them empty, beside an alternative and a field without comparisons. -/
theorem holds_compile_nested :
    let collection : Collection := ⟨.ofFields [("age", .int)], {}⟩
    let filter : Filter :=
      [.allOf [[], [.field ⟨"age", [⟨.greater, .int32 60⟩, ⟨.less, .string "18"⟩]⟩]],
        .field ⟨"name", []⟩, .anyOf [], .anyOf [[.field ⟨"id", [⟨.equal, .int32 1⟩]⟩]]]
    let document : Document :=
      [("$and", .array [.document [], .document [("$or", .array
          [.document [("age", .document [("$gt", .int32 60)])],
            .document [("age", .document [("$lt", .int32 18)])]])]]),
        ("$or", .array [.document [("_id", .document [("$eq", .int32 1)])]])]
    compile collection filter = .ok document ∧
      ∀ truth, Predicate.holds truth document = holds collection truth filter :=
  ⟨rfl, fun truth => holds_compile truth rfl⟩

end Filter

end DocumentQuery
