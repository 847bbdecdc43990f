import DocumentQuery.Aggregate.Pipeline
import DocumentQuery.Cursor.Query
import DocumentQuery.Proofs.Filter.Recursion

/-!
# The two names of the identifier

The identifier has a stored name and a public one, its alias. A request may use either of them, and
both in different places: it compiles to the same query.

* `Config.Renames`, `Config.RenamesToken` : a name or a token, with the alias replaced or kept;
* `Filter.Renames`, `FindRequest.Renames`, `CursorRequest.Renames`, `AggregateRequest.Renames` : a
  request in which the alias is replaced in any of the places where it stands;
* `Filter.compile_renames`  : the predicate of a renamed filter.

Principal result: `Collection.alias_transparent`.
-/

namespace DocumentQuery

/-! ## Renamed requests -/

namespace Config

variable (config : Config)

/-- The same name, or the stored name of the identifier for its alias. -/
def Renames (name other : String) : Prop :=
  other = name ∨ name = config.idAlias ∧ other = config.idField

/-- The same token, or that of the stored name for that of the alias. It keeps its mark; without a
mark it takes a `+`, as the stored name may itself begin with one. -/
inductive RenamesToken : String → String → Prop where
  | same (token : String) : RenamesToken token token
  | minus : RenamesToken ("-" ++ config.idAlias) ("-" ++ config.idField)
  | plus : RenamesToken ("+" ++ config.idAlias) ("+" ++ config.idField)
  | unmarked (hminus : config.idAlias.toList.head? ≠ some '-')
      (hplus : config.idAlias.toList.head? ≠ some '+') :
      RenamesToken config.idAlias ("+" ++ config.idField)

end Config

namespace Filter

/-- The same clause, with the alias replaced in some places. -/
inductive Clause.Renames (config : Config) : Clause → Clause → Prop where
  | field {name other : String} {comparisons : List Comparison}
      (hname : config.Renames name other) :
      Renames config (.field ⟨name, comparisons⟩) (.field ⟨other, comparisons⟩)
  | allOf {filters others : List (List Clause)}
      (hfilters : List.Forall₂ (List.Forall₂ (Renames config)) filters others) :
      Renames config (.allOf filters) (.allOf others)
  | anyOf {filters others : List (List Clause)}
      (hfilters : List.Forall₂ (List.Forall₂ (Renames config)) filters others) :
      Renames config (.anyOf filters) (.anyOf others)

/-- The same filter, with the alias replaced in some places. -/
def Renames (config : Config) (filter other : Filter) : Prop :=
  List.Forall₂ (Clause.Renames config) filter other

end Filter

structure FindRequest.Renames (config : Config) (request other : FindRequest) : Prop where
  filter : Filter.Renames config request.filter other.filter
  sort : List.Forall₂ config.RenamesToken request.sort other.sort
  fields : List.Forall₂ config.RenamesToken request.fields other.fields
  paging : other.paging = request.paging

structure CursorRequest.Renames (config : Config) (request other : CursorRequest) : Prop where
  filter : Filter.Renames config request.filter other.filter
  sort : List.Forall₂ config.RenamesToken request.sort other.sort
  fields : List.Forall₂ config.RenamesToken request.fields other.fields
  cursor : other.cursor = request.cursor
  side : other.side = request.side
  limit : other.limit = request.limit

structure AggregateRequest.Renames (config : Config) (request other : AggregateRequest) : Prop where
  filter : Filter.Renames config request.filter other.filter
  aggregation : other.aggregation = request.aggregation

/-! ## Names and tokens -/

namespace Config

variable {config : Config}

theorem resolve_idField : config.resolve config.idField = config.idField := by
  unfold resolve
  split <;> rfl

theorem resolve_of_renames {name other : String} (h : config.Renames name other) :
    config.resolve other = config.resolve name := by
  rcases h with rfl | ⟨rfl, rfl⟩
  · rfl
  · rw [resolve_idField, resolve, if_pos rfl]

end Config

namespace SortField

theorem parse_minus (field : String) : parse ("-" ++ field) = ⟨field, .descending⟩ := by
  simp [parse]

theorem parse_plus (field : String) : parse ("+" ++ field) = ⟨field, .ascending⟩ := by
  simp [parse]

theorem parse_unmarked {field : String} (hminus : field.toList.head? ≠ some '-')
    (hplus : field.toList.head? ≠ some '+') : parse field = ⟨field, .ascending⟩ := by
  unfold parse
  split <;> simp_all

theorem ofToken_of_renames {config : Config} {token other : String}
    (h : config.RenamesToken token other) : ofToken config other = ofToken config token := by
  have hfield : config.resolve config.idField = config.resolve config.idAlias :=
    Config.resolve_of_renames (.inr ⟨rfl, rfl⟩)
  unfold ofToken
  cases h with
  | same => rfl
  | minus => simp only [parse_minus, hfield]
  | plus => simp only [parse_plus, hfield]
  | unmarked hminus hplus => simp only [parse_plus, parse_unmarked hminus hplus, hfield]

end SortField

namespace ProjectionField

/-- The mark of a token is read as that of a field to sort by is. -/
theorem parse_eq (token : String) :
    parse token =
      ⟨(SortField.parse token).field, (SortField.parse token).direction = .ascending⟩ := by
  unfold parse SortField.parse
  split <;> simp_all

theorem ofToken_eq (config : Config) (token : String) :
    ofToken config token =
      ⟨(SortField.ofToken config token).field,
        (SortField.ofToken config token).direction = .ascending⟩ := by
  unfold ofToken SortField.ofToken
  rw [parse_eq]

theorem ofToken_of_renames {config : Config} {token other : String}
    (h : config.RenamesToken token other) : ofToken config other = ofToken config token := by
  rw [ofToken_eq, ofToken_eq, SortField.ofToken_of_renames h]

end ProjectionField

section Tokens

variable {collection : Collection} {tokens others : List String}

/-- What is read off each token alike is read off all of them alike. -/
theorem map_of_renames {α : Type} {config : Config} {read : String → α}
    (h : List.Forall₂ config.RenamesToken tokens others)
    (hread : ∀ {token other}, config.RenamesToken token other → read other = read token) :
    others.map read = tokens.map read := by
  induction h with
  | nil => rfl
  | cons htoken _ ih => rw [List.map_cons, List.map_cons, hread htoken, ih]

theorem SortOrder.compile_renames (h : List.Forall₂ collection.config.RenamesToken tokens others) :
    compile collection others = compile collection tokens := by
  have hsort := map_of_renames h SortField.ofToken_of_renames
  cases h with
  | nil => rfl
  | cons =>
    unfold compile
    rw [hsort]
    rfl

theorem Projection.compile_renames
    (h : List.Forall₂ collection.config.RenamesToken tokens others) :
    compile collection others = compile collection tokens := by
  have hfields := map_of_renames h ProjectionField.ofToken_of_renames
  cases h with
  | nil => rfl
  | cons =>
    unfold compile
    rw [hfields]
    rfl

theorem Cursor.Keyset.effectiveSort_renames {config : Config}
    (h : List.Forall₂ config.RenamesToken tokens others) :
    effectiveSort config others = effectiveSort config tokens := by
  unfold effectiveSort
  rw [map_of_renames h SortField.ofToken_of_renames]

end Tokens

/-! ## Filters -/

namespace Filter

variable {collection : Collection}

theorem Comparison.checkShape_same (name other : String) (comparison : Comparison) :
    SameResult (checkShape name comparison) (checkShape other comparison) := by
  unfold checkShape
  split
  · exact .of_errors _ _
  · exact .refl _

/-- The name of a field shows in an error and nowhere else. -/
theorem Comparison.compile_renames {name other : String}
    (h : collection.config.Renames name other) (comparison : Comparison) :
    SameResult (compile collection name comparison) (compile collection other comparison) := by
  unfold compile
  rw [Config.resolve_of_renames h]
  dsimp only
  split
  · exact .refl _
  · split
    · exact .of_errors _ _
    · exact (checkShape_same name other comparison).bind fun _ => .refl _

/-- The comparisons of a field under either name. -/
def FieldRenames (config : Config) (own other : FieldComparisons) : Prop :=
  config.Renames own.field other.field ∧ other.comparisons = own.comparisons

theorem fields_renames {config : Config} {filter other : Filter} (h : Renames config filter other) :
    List.Forall₂ (FieldRenames config) (fields filter) (fields other) := by
  induction h with
  | nil => exact .nil
  | cons hclause _ ih =>
    cases hclause with
    | field hname => exact .cons ⟨hname, rfl⟩ ih
    | allOf _ => exact ih
    | anyOf _ => exact ih

theorem conjuncts_renames {config : Config} {filter other : Filter}
    (h : Renames config filter other) :
    List.Forall₂ (Renames config) (conjuncts filter) (conjuncts other) := by
  induction h with
  | nil => exact .nil
  | cons hclause _ ih =>
    cases hclause with
    | field _ => exact ih
    | allOf hfilters => exact List.rel_append hfilters ih
    | anyOf _ => exact ih

theorem alternatives_renames {config : Config} {filter other : Filter}
    (h : Renames config filter other) :
    List.Forall₂ (Renames config) (alternatives filter) (alternatives other) := by
  induction h with
  | nil => exact .nil
  | cons hclause _ ih =>
    cases hclause with
    | field _ => exact ih
    | allOf _ => exact ih
    | anyOf hfilters => exact List.rel_append hfilters ih

theorem compileField_renames {own other : FieldComparisons}
    (h : FieldRenames collection.config own other) :
    SameResult (compileField collection own) (compileField collection other) := by
  obtain ⟨name, comparisons⟩ := own
  obtain ⟨otherName, otherComparisons⟩ := other
  obtain ⟨hname, rfl⟩ := h
  unfold compileField
  refine SameResult.bind ?_ fun _ => .refl _
  apply SameResult.mapM (List.forall₂_same.2 fun _ _ => rfl)
  rintro comparison _ _ rfl
  exact Comparison.compile_renames hname comparison

/-- **The predicate of a renamed filter is that of the filter**, or neither has one. -/
theorem compile_renames {filter other : Filter} (h : Renames collection.config filter other) :
    SameResult (compile collection filter) (compile collection other) := by
  induction filter using Filter.induction generalizing other with
  | step filter ihall ihany =>
    have hown : SameResult (compileFields collection (fields filter))
        (compileFields collection (fields other)) := by
      unfold compileFields
      refine SameResult.bind ?_ fun _ => .refl _
      exact SameResult.mapM (fields_renames h) fun _ _ _ => compileField_renames
    rw [compile_eq, compile_eq]
    apply SameResult.bind
    · exact SameResult.mapM (conjuncts_renames h) fun part hpart _ => ihall part hpart
    · intro all
      apply SameResult.bind
      · exact SameResult.mapM (alternatives_renames h) fun part hpart _ => ihany part hpart
      · intro any
        exact hown.bind fun _ => .refl _

end Filter

/-! ## Requests -/

variable {collection : Collection}

theorem Find.ofRequest_renames {request other : FindRequest}
    (h : request.Renames collection.config other) :
    SameResult (ofRequest collection request) (ofRequest collection other) := by
  unfold ofRequest
  rw [SortOrder.compile_renames h.sort, Projection.compile_renames h.fields, h.paging]
  exact (Filter.compile_renames h.filter).bind fun _ => .refl _

theorem Cursor.Start.ofRequest_renames {request other : CursorRequest}
    (h : request.Renames collection.config other) :
    SameResult (ofRequest collection request) (ofRequest collection other) := by
  unfold ofRequest
  rw [Keyset.effectiveSort_renames h.sort, h.cursor]
  exact (Filter.compile_renames h.filter).bind fun _ => .refl _

theorem CursorQuery.ofRequest_renames {request other : CursorRequest}
    (h : request.Renames collection.config other) :
    SameResult (ofRequest collection request) (ofRequest collection other) := by
  unfold ofRequest
  refine (Cursor.Start.ofRequest_renames h).bind fun start => ?_
  unfold ofStart
  rw [Projection.compile_renames h.fields, h.side, h.limit]
  exact .refl _

theorem Aggregate.Pipeline.ofRequest_renames {request other : AggregateRequest}
    (h : request.Renames collection.config other) :
    SameResult (ofRequest collection request) (ofRequest collection other) := by
  unfold ofRequest
  rw [h.aggregation]
  exact (Filter.compile_renames h.filter).bind fun _ => .refl _

namespace Collection

/-- **The alias of the identifier is transparent.** A request compiles exactly if it does with the
alias replaced by the stored name, in whichever of the places where it stands, and then to the same
query. -/
theorem alias_transparent (collection : Collection) :
    (∀ request other : FindRequest, request.Renames collection.config other →
        ∀ find, Find.ofRequest collection request = .ok find ↔
          Find.ofRequest collection other = .ok find) ∧
      (∀ request other : CursorRequest, request.Renames collection.config other →
        ∀ query, CursorQuery.ofRequest collection request = .ok query ↔
          CursorQuery.ofRequest collection other = .ok query) ∧
      ∀ request other : AggregateRequest, request.Renames collection.config other →
        ∀ pipeline, Aggregate.Pipeline.ofRequest collection request = .ok pipeline ↔
          Aggregate.Pipeline.ofRequest collection other = .ok pipeline := by
  refine ⟨?_, ?_, ?_⟩
  · intro request other h
    exact Find.ofRequest_renames h
  · intro request other h
    exact CursorQuery.ofRequest_renames h
  · intro request other h
    exact Aggregate.Pipeline.ofRequest_renames h

/-- The alias under a group, to sort by and to select; one place keeps it. -/
theorem alias_transparent_nested :
    let collection : Collection := ⟨.ofFields [("age", .int)], {}⟩
    let text : Filter.Comparison := ⟨.equal, .string "507f1f77bcf86cd799439011"⟩
    let filter : Filter := [.anyOf [[], [.field ⟨"id", [text]⟩]], .field ⟨"id", [⟨.is, .null⟩]⟩]
    let renamed : Filter := [.anyOf [[], [.field ⟨"_id", [text]⟩]], .field ⟨"id", [⟨.is, .null⟩]⟩]
    let tokens := ["-id", "age"]
    let renamedTokens := ["-_id", "age"]
    let request : FindRequest := { filter := filter, sort := tokens, fields := ["id"] }
    let other : FindRequest := { filter := renamed, sort := renamedTokens, fields := ["+_id"] }
    let pageRequest : CursorRequest := { filter := filter, sort := tokens, fields := ["id"] }
    let otherPage : CursorRequest :=
      { filter := renamed, sort := renamedTokens, fields := ["+_id"] }
    let groups : AggregateRequest := { filter := filter, aggregation := { count := ["age"] } }
    let otherGroups : AggregateRequest := { filter := renamed, aggregation := { count := ["age"] } }
    (request.Renames collection.config other ∧
        ∃ find, Find.ofRequest collection request = .ok find ∧
          Find.ofRequest collection other = .ok find) ∧
      (pageRequest.Renames collection.config otherPage ∧
        ∃ query, CursorQuery.ofRequest collection pageRequest = .ok query ∧
          CursorQuery.ofRequest collection otherPage = .ok query) ∧
      groups.Renames collection.config otherGroups ∧
        ∃ pipeline, Aggregate.Pipeline.ofRequest collection groups = .ok pipeline ∧
          Aggregate.Pipeline.ofRequest collection otherGroups = .ok pipeline := by
  intro collection text filter renamed tokens renamedTokens request other pageRequest otherPage
    groups otherGroups
  have hfilter : Filter.Renames collection.config filter renamed :=
    .cons (.anyOf (.cons .nil (.cons (.cons (.field (.inr ⟨rfl, rfl⟩)) .nil) .nil)))
      (.cons (.field (.inl rfl)) .nil)
  have htokens : List.Forall₂ collection.config.RenamesToken tokens renamedTokens :=
    .cons .minus (.cons (.same "age") .nil)
  have hfields : List.Forall₂ collection.config.RenamesToken ["id"] ["+_id"] :=
    .cons (.unmarked (by decide) (by decide)) .nil
  have hrequest : request.Renames collection.config other := ⟨hfilter, htokens, hfields, rfl⟩
  have hpage : pageRequest.Renames collection.config otherPage :=
    ⟨hfilter, htokens, hfields, rfl, rfl, rfl⟩
  have hgroups : groups.Renames collection.config otherGroups := ⟨hfilter, rfl⟩
  have htransparent := alias_transparent collection
  exact ⟨⟨hrequest, _, rfl, (htransparent.1 _ _ hrequest _).1 rfl⟩,
    ⟨hpage, _, rfl, (htransparent.2.1 _ _ hpage _).1 rfl⟩,
    hgroups, _, rfl, (htransparent.2.2 _ _ hgroups _).1 rfl⟩

end Collection

end DocumentQuery
