import DocumentQuery.Proofs.CommandLine.Descriptor
import DocumentQuery.Proofs.Filter.Form
import DocumentQuery.Proofs.Value.Rendering

/-!
# Values of fields without a type

A value that is compared with a field which the catalog does not list is written as it was read: the
descriptor of the request has it under the operator of the store, with its keys in order and its
numbers of the same kind.

* `plainOperators` : the operators that take any value.

Principal result: `Descriptor.untyped_value_survives`.
-/

namespace DocumentQuery

namespace Filter

/-- The operators that take any value, with those of the store that they stand for. -/
def plainOperators : Entries String :=
  [("eq", "$eq"), ("neq", "$ne"), ("gt", "$gt"), ("gte", "$gte"), ("lt", "$lt"), ("lte", "$lte"),
    ("is", "$eq"), ("isnot", "$ne")]

theorem native_plainOperators {name native : String} (h : (name, native) ∈ plainOperators) :
    (Operator.ofLowerCase name).isRange = false ∧
      (Operator.ofLowerCase name).requiresList = false ∧
      ({} : Config).operatorTable.native? (Operator.ofLowerCase name).name = some native := by
  simp only [plainOperators, List.mem_cons, List.not_mem_nil, or_false, Prod.mk.injEq] at h
  rcases h with ⟨rfl, rfl⟩ | ⟨rfl, rfl⟩ | ⟨rfl, rfl⟩ | ⟨rfl, rfl⟩ | ⟨rfl, rfl⟩ | ⟨rfl, rfl⟩ |
    ⟨rfl, rfl⟩ | ⟨rfl, rfl⟩ <;>
  exact ⟨rfl, rfl, rfl⟩

/-- The comparison with a value, as it is read. -/
def comparisonOf (field name : String) (json : Json) : Filter :=
  [.field ⟨field, [⟨Operator.parse name, Value.ofJson json⟩]⟩]

theorem ofJson_comparison {field : String} (hand : field ≠ "and") (hor : field ≠ "or")
    (name : String) (json : Json) :
    ofJson (.object [(field, .object [(name, json)])]) = .ok (comparisonOf field name json) := by
  have hand : field ≠ conjunctionKey := hand
  have hor : field ≠ disjunctionKey := hor
  simp only [ofJson, ofObject, ofMembers, if_neg hand, if_neg hor]
  rfl

/-- A comparison with a field of no type takes the value as it is. -/
theorem compile_comparisonOf {catalog : Schema.Catalog} {field name native : String}
    (hidentifier : ({} : Config).isIdentifier field = false) (hfield : catalog.kind? field = none)
    (hoperator : (Text.lowerCase name, native) ∈ plainOperators) (json : Json) :
    compile ⟨catalog, {}⟩ (comparisonOf field name json) =
      .ok [(field, .document [(native, Value.ofJson json)])] := by
  obtain ⟨hrange, hlist, hnative⟩ := native_plainOperators hoperator
  have hresolve : ({} : Config).resolve field = field := by
    simp only [Config.isIdentifier, Bool.or_eq_false_iff, beq_eq_false_iff_ne] at hidentifier
    exact if_neg hidentifier.2
  have hcoerce : (⟨catalog, {}⟩ : Collection).coerce field (Value.ofJson json) =
      Value.ofJson json := by
    unfold Collection.coerce
    rw [hidentifier, if_neg Bool.false_ne_true, hfield]
  rw [compile_of_comparison rfl rfl rfl, Comparison.compile_eq_ok]
  refine ⟨_, by rw [hresolve], .inr ⟨hrange, native, hnative, ?_, by rw [hresolve, hcoerce]⟩⟩
  unfold Comparison.checkShape Operator.parse
  rw [hlist]
  rfl

end Filter

/-- The filter comes first in a query. -/
theorem Find.exists_toDocument (find : Find) :
    ∃ rest, find.toDocument = part "filter" (some (.document find.filter)) ++ rest :=
  ⟨_, by simp only [toDocument, List.append_assoc]; rfl⟩

namespace CommandLine.Descriptor

open DocumentQuery.Filter (comparisonOf plainOperators)

/-- The request for the rows that meet one comparison. -/
def comparisonRequest (field name : String) (json : Json) : Json :=
  .object [("filter", .object [(field, .object [(name, json)])])]

variable {catalog : Schema.Catalog} {field name native : String} {json : Json}

/-- The filter is the first part of a document; the comparison in it is written as it was read. -/
theorem get?_filter (hjson : json.Exact) (rest : Document) :
    ∃ members, Document.toJson
        (Find.part "filter" (some (.document [(field, .document [(native, .ofJson json)])])) ++
          rest) = .object members ∧
      Entries.get? "filter" members = some (.object [(field, .object [(native, json)])]) := by
  refine ⟨_, rfl, ?_⟩
  simp only [Find.part, List.cons_append, List.nil_append, Value.entriesToJson, Value.toJson,
    Value.toJson_ofJson json hjson, Entries.get?, if_true]

/-- A request with nothing but a comparison compiles to a document that begins with it. -/
theorem compiles_comparisonRequest (hand : field ≠ "and") (hor : field ≠ "or")
    (hcompile : Filter.compile ⟨catalog, {}⟩ (comparisonOf field name json) =
      .ok [(field, .document [(native, .ofJson json)])])
    {kind : Compilation.Kind} (hkind : kind ≠ .aggregate) :
    ∃ rest, Compiles ⟨catalog, {}⟩ (comparisonRequest field name json) kind
      (Find.part "filter" (some (.document [(field, .document [(native, .ofJson json)])])) ++
        rest) := by
  have hread := Filter.ofJson_comparison hand hor name json
  cases kind with
  | aggregate => exact absurd rfl hkind
  | query =>
    have hrequest : FindRequest.ofJson (comparisonRequest field name json) =
        .ok { filter := comparisonOf field name json } := by
      simp only [comparisonRequest, FindRequest.ofJson, Request.readMembers, List.foldlM_cons,
        List.foldlM_nil, FindRequest.member, Request.readFilter, hread]
      rfl
    have hfind : Find.ofRequest ⟨catalog, {}⟩ { filter := comparisonOf field name json } =
        .ok { filter := [(field, .document [(native, .ofJson json)])] } := by
      rw [Find.ofRequest, hcompile]
      rfl
    exact ⟨[], .query hrequest hfind⟩
  | cursor =>
    have hrequest : CursorRequest.ofJson (comparisonRequest field name json) =
        .ok { filter := comparisonOf field name json } := by
      simp only [comparisonRequest, CursorRequest.ofJson, Request.readFlat, Request.readMembers,
        List.foldlM_cons, List.foldlM_nil, CursorRequest.member, Request.readFilter, hread]
      rfl
    have hquery : ∃ query,
        CursorQuery.ofRequest ⟨catalog, {}⟩ { filter := comparisonOf field name json } =
          .ok query ∧ query.find.filter = [(field, .document [(native, .ofJson json)])] := by
      rw [CursorQuery.ofRequest, Cursor.Start.ofRequest, hcompile]
      exact ⟨_, rfl, rfl⟩
    obtain ⟨query, hquery, hfilter⟩ := hquery
    obtain ⟨rest, hrest⟩ := Find.exists_toDocument query.find
    refine ⟨rest ++ [("reverse", .bool query.reverse)], ?_⟩
    have h := Compiles.cursor hrequest hquery
    rwa [CursorQuery.toDocument, hrest, hfilter, List.append_assoc] at h

/-- **A value that is compared with a field of no type is written as it was read.** The request may
be for rows or for a page; one for groups has to ask for more than a comparison. -/
theorem untyped_value_survives (hand : field ≠ "and") (hor : field ≠ "or")
    (hidentifier : ({} : Config).isIdentifier field = false) (hfield : catalog.kind? field = none)
    (hoperator : (Text.lowerCase name, native) ∈ plainOperators) (hjson : json.Exact)
    {kind : Compilation.Kind} (hkind : kind ≠ .aggregate) :
    ∃ members, (ofRequest kind ⟨catalog, {}⟩ (comparisonRequest field name json)).result =
        .ok (.object members) ∧
      Entries.get? "filter" members = some (.object [(field, .object [(native, json)])]) := by
  have hcompile := Filter.compile_comparisonOf hidentifier hfield hoperator json
  obtain ⟨rest, hcompiles⟩ := compiles_comparisonRequest hand hor hcompile hkind
  obtain ⟨members, hmembers, hfilter⟩ := get?_filter hjson rest
  exact ⟨members, ofRequest_eq_ok.2 ⟨_, hcompiles, hmembers.symm⟩, hfilter⟩

/-- Whole numbers at the ends of the integer types, one as a real number, and keys that are out of
order or have a meaning elsewhere. -/
theorem untyped_value_survives_nested :
    let catalog := Schema.Catalog.ofFields [("title", .string)]
    let json : Json := .object
      [("b", .array [.integer 2147483648, .integer (-9223372036854775808),
          .real ⟨0x3FF0000000000000⟩]),
        ("a", .object [("$date", .null), ("and", .array [])])]
    catalog.kind? "payload" = none ∧ json.Exact ∧
      ∃ members, (ofRequest .query ⟨catalog, {}⟩ (comparisonRequest "payload" "GTE" json)).result =
          .ok (.object members) ∧
        Entries.get? "filter" members =
          some (.object [("payload", .object [("$gte", json)])]) := by
  intro catalog json
  have hjson : json.Exact := by
    refine .object (by decide) ?_
    simp only [List.forall_mem_cons, List.not_mem_nil, false_implies, implies_true, and_true]
    refine ⟨.array ?_, .object (by decide) ?_⟩
    · simp only [List.forall_mem_cons, List.not_mem_nil, false_implies, implies_true, and_true]
      exact ⟨.integer rfl, .integer rfl, .real rfl⟩
    · simp only [List.forall_mem_cons, List.not_mem_nil, false_implies, implies_true, and_true]
      exact ⟨.null, .array (by simp)⟩
  exact ⟨rfl, hjson, untyped_value_survives (by decide) (by decide) rfl rfl (by decide) hjson
    (by decide)⟩

end CommandLine.Descriptor

end DocumentQuery
