import DocumentQuery.Aggregate.Pipeline
import DocumentQuery.Proofs.Cursor.Compilation
import DocumentQuery.Proofs.Filter.Recursion

/-!
# Strict fields

A collection with strict fields refuses the fields that it does not know, in sort orders and in
projections. It does nothing else: a request compiles to the same query as without strict fields, or
it is refused for its first unknown field, unless it has an error that has nothing to do with
strictness.

* `Collection.withStrict` : the collection in either mode;
* `Collection.knows`      : the field is the identifier or in the catalog;
* `Checked`               : a computation in both modes, with the fields that the strict one checks;
* `OnlyRefuses`           : what checking fields comes to;
* `KnowsAll`              : no field is refused.

Principal result: `Collection.strict_only_refuses`.
-/

namespace DocumentQuery

variable {α β : Type}

namespace Collection

/-- The collection in one of the two modes. -/
def withStrict (collection : Collection) (strict : Bool) : Collection :=
  { collection with config := { collection.config with strict := strict } }

/-- The field is the identifier or in the catalog. -/
def knows (collection : Collection) (field : String) : Bool :=
  collection.config.isIdentifier field || collection.catalog.contains field

/-- The first field that the collection does not know. -/
def firstUnknown (collection : Collection) (fields : List String) : Option String :=
  fields.find? fun field => !collection.knows field

/-- A result, unless there is an unknown field. -/
def unlessUnknown (collection : Collection) (fields : List String) (result : α) :
    Except QueryError α :=
  match collection.firstUnknown fields with
  | none => .ok result
  | some field => .error (.unknownField field)

variable {collection : Collection}

theorem check_lenient (field : String) : (collection.withStrict false).check field = .ok () := by
  simp [check, withStrict]

theorem check_strict (field : String) :
    (collection.withStrict true).check field =
      if collection.knows field then .ok () else .error (.unknownField field) := by
  have hidentifier : (collection.withStrict true).config.isIdentifier field =
      collection.config.isIdentifier field := rfl
  unfold check knows
  rw [hidentifier]
  cases collection.config.isIdentifier field <;>
    cases hlisted : collection.catalog.contains field <;>
      simp [withStrict, hlisted]

/-- Strict validation accepts no field that the collection does not know. -/
theorem knows_of_check (hstrict : collection.config.strict = true) {field : String}
    (h : collection.check field = .ok ()) : collection.knows field = true := by
  have hsame : collection.withStrict true = collection := by
    rw [withStrict, ← hstrict]
  by_contra hunknown
  rw [← hsame, check_strict, if_neg hunknown] at h
  cases h

theorem firstUnknown_eq_none_iff {fields : List String} :
    collection.firstUnknown fields = none ↔ ∀ field ∈ fields, collection.knows field = true := by
  unfold firstUnknown
  rw [List.find?_eq_none]
  simp

theorem firstUnknown_append (fields others : List String) :
    collection.firstUnknown (fields ++ others) =
      (collection.firstUnknown fields).or (collection.firstUnknown others) :=
  List.find?_append

end Collection

/-! ## Computations in both modes -/

/-- A computation with strict fields, and without. Where the lenient one succeeds, the strict one
has the same result unless one of the fields is unknown; where it fails, the strict one fails in the
same way or has come upon an unknown field before. -/
structure Checked (collection : Collection) (fields : List String)
    (strict lenient : Except QueryError α) : Prop where
  ok : ∀ result, lenient = .ok result → strict = collection.unlessUnknown fields result
  error : ∀ e, lenient = .error e →
    strict = .error e ∨ ∃ field, strict = .error (.unknownField field)

namespace Checked

variable {collection : Collection} {fields others : List String}
  {strict lenient : Except QueryError α}

/-- What does not depend on the mode. -/
theorem refl (computation : Except QueryError α) :
    Checked collection [] computation computation where
  ok := by
    intro result h
    exact h
  error := by
    intro e h
    exact .inl h

/-- One computation after another checks the fields of both. The second one may take the fields of
the first one for known. -/
theorem bind {strictRest lenientRest : α → Except QueryError β}
    (h : Checked collection fields strict lenient)
    (hrest : ∀ result, lenient = .ok result → (∀ field ∈ fields, collection.knows field = true) →
      Checked collection others (strictRest result) (lenientRest result)) :
    Checked collection (fields ++ others) (strict >>= strictRest) (lenient >>= lenientRest) := by
  cases hlenient : lenient with
  | error e =>
    constructor
    · intro result hresult
      cases hresult
    · intro e' he'
      cases he'
      rcases h.error e hlenient with hstrict | ⟨field, hstrict⟩
      · exact .inl (by rw [hstrict]; rfl)
      · exact .inr ⟨field, by rw [hstrict]; rfl⟩
  | ok first =>
    -- The second computation is reached only if all fields of the first one are known.
    have hfirst := h.ok first hlenient
    unfold Collection.unlessUnknown at hfirst
    split at hfirst
    · rename_i hnone
      have hchecked := hrest first hlenient (Collection.firstUnknown_eq_none_iff.1 hnone)
      rw [hfirst]
      constructor
      · intro result hresult
        have hsecond : strictRest first = collection.unlessUnknown others result :=
          hchecked.ok result hresult
        unfold Collection.unlessUnknown
        rw [Collection.firstUnknown_append, hnone]
        exact hsecond
      · exact hchecked.error
    · rename_i field hfield
      rw [hfirst]
      constructor
      · intro result _
        unfold Collection.unlessUnknown
        rw [Collection.firstUnknown_append, hfield]
        rfl
      · intro _ _
        exact .inr ⟨field, rfl⟩

/-- What comes of a result in either mode checks no more. -/
theorem map (h : Checked collection fields strict lenient) (f : α → β) :
    Checked collection fields (strict >>= fun result => .ok (f result))
      (lenient >>= fun result => .ok (f result)) := by
  have hbind : Checked collection (fields ++ []) _ _ :=
    h.bind fun result _ _ => refl (.ok (f result))
  rw [List.append_nil] at hbind
  exact hbind

/-- A computation after one that does not depend on the mode. -/
theorem after {computation : Except QueryError α} {strictRest lenientRest : α → Except QueryError β}
    (h : ∀ result, Checked collection fields (strictRest result) (lenientRest result)) :
    Checked collection fields (computation >>= strictRest) (computation >>= lenientRest) :=
  (refl computation).bind fun result _ _ => h result

/-- The fields are checked one after the other. -/
theorem forM (collection : Collection) (field : α → String) (items : List α) :
    Checked collection (items.map field)
      (items.forM fun item => (collection.withStrict true).check (field item))
      (items.forM fun item => (collection.withStrict false).check (field item)) := by
  induction items with
  | nil => exact refl (.ok ())
  | cons item items ih =>
    rw [List.forM_eq_forM] at ih ⊢
    rw [List.forM_cons, List.forM_cons]
    show Checked collection ([field item] ++ items.map field) _ _
    refine bind ?_ fun _ _ _ => ih
    constructor
    · intro result _
      rw [Collection.check_strict]
      unfold Collection.unlessUnknown Collection.firstUnknown
      cases hknown : collection.knows (field item) <;> simp [hknown]
    · intro e he
      rw [Collection.check_lenient] at he
      cases he

end Checked

/-- What checking the fields comes to. -/
structure OnlyRefuses (collection : Collection) (fields : List String)
    (strict lenient : Except QueryError α) : Prop where
  /-- What compiles with strict fields compiles to the same without. -/
  same : ∀ result, strict = .ok result → lenient = .ok result
  /-- What has another error has it with strict fields too, if it has no unknown field before. -/
  fails : ∀ e, lenient = .error e →
    strict = .error e ∨ ∃ field, strict = .error (.unknownField field)
  /-- What compiles without strict fields is refused with them exactly if a field is unknown. -/
  refused_iff : ∀ result, lenient = .ok result →
    ((∃ e, strict = .error e) ↔ ∃ field ∈ fields, collection.knows field = false)
  /-- It is refused for the first unknown field. -/
  first : ∀ result e, lenient = .ok result → strict = .error e →
    ∃ field, collection.firstUnknown fields = some field ∧ e = .unknownField field

theorem Checked.onlyRefuses {collection : Collection} {fields : List String}
    {strict lenient : Except QueryError α} (h : Checked collection fields strict lenient) :
    OnlyRefuses collection fields strict lenient where
  same := by
    intro result hresult
    cases hlenient : lenient with
    | error e =>
      rcases h.error e hlenient with hstrict | ⟨field, hstrict⟩
      · rw [hresult] at hstrict
        cases hstrict
      · rw [hresult] at hstrict
        cases hstrict
    | ok other =>
      have hstrict := h.ok other hlenient
      unfold Collection.unlessUnknown at hstrict
      split at hstrict
      · rw [← hstrict, hresult]
      · rw [hresult] at hstrict
        cases hstrict
  fails := h.error
  refused_iff := by
    intro result hresult
    have hunknown : (∃ field ∈ fields, collection.knows field = false) ↔
        ¬collection.firstUnknown fields = none := by
      rw [Collection.firstUnknown_eq_none_iff]
      simp
    rw [h.ok result hresult, hunknown]
    unfold Collection.unlessUnknown
    cases collection.firstUnknown fields with
    | none => simp
    | some field => simp
  first := by
    intro result e hresult hstrict
    rw [h.ok result hresult] at hstrict
    unfold Collection.unlessUnknown at hstrict
    split at hstrict
    · cases hstrict
    · rename_i field hfield
      exact ⟨field, hfield, (Except.error.inj hstrict).symm⟩

/-! ## Requests in both modes -/

namespace Collection

variable {collection : Collection}

/-- The predicate of a filter does not depend on the mode. -/
theorem compile_withStrict (strict : Bool) (filter : Filter) :
    Filter.compile (collection.withStrict strict) filter = Filter.compile collection filter := by
  induction filter using Filter.induction with
  | step filter hall hany =>
    have hfields : Filter.compileFields (collection.withStrict strict) (Filter.fields filter) =
        Filter.compileFields collection (Filter.fields filter) := rfl
    rw [Filter.compile_eq, Filter.compile_eq, mapM_congr hall, mapM_congr hany, hfields]

/-- Nor do the groups of an aggregation. -/
theorem pipeline_withStrict (strict : Bool) (request : AggregateRequest) :
    Aggregate.Pipeline.ofRequest (collection.withStrict strict) request =
      Aggregate.Pipeline.ofRequest collection request := by
  unfold Aggregate.Pipeline.ofRequest
  rw [compile_withStrict]

end Collection

namespace SortOrder

/-- The fields of tokens, under their stored names. -/
def fieldsOf (config : Config) (tokens : List String) : List String :=
  tokens.map fun token => (SortField.ofToken config token).field

theorem checked_compile (collection : Collection) (tokens : List String) :
    Checked collection (fieldsOf collection.config tokens)
      (compile (collection.withStrict true) tokens)
      (compile (collection.withStrict false) tokens) := by
  cases tokens with
  | nil => exact .refl (.ok none)
  | cons token tokens =>
    have hchecks := Checked.forM collection SortField.field
      ((token :: tokens).map (SortField.ofToken collection.config))
    rw [List.map_map] at hchecks
    exact hchecks.map fun _ =>
      some (document ((token :: tokens).map (SortField.ofToken collection.config)))

end SortOrder

namespace Projection

/-- The fields of tokens, under their stored names. -/
def fieldsOf (config : Config) (tokens : List String) : List String :=
  tokens.map fun token => (ProjectionField.ofToken config token).field

theorem checked_compile (collection : Collection) (tokens : List String) :
    Checked collection (fieldsOf collection.config tokens)
      (compile (collection.withStrict true) tokens)
      (compile (collection.withStrict false) tokens) := by
  cases tokens with
  | nil => exact .refl (.ok none)
  | cons token tokens =>
    have hchecks := Checked.forM collection ProjectionField.field
      ((token :: tokens).map (ProjectionField.ofToken collection.config))
    rw [List.map_map] at hchecks
    exact hchecks.map fun _ =>
      some (document ((token :: tokens).map (ProjectionField.ofToken collection.config)))

end Projection

namespace Find

/-- The fields that a request names, to sort by and then to select. -/
def fieldsOf (config : Config) (request : FindRequest) : List String :=
  SortOrder.fieldsOf config request.sort ++ Projection.fieldsOf config request.fields

theorem checked_ofRequest (collection : Collection) (request : FindRequest) :
    Checked collection (fieldsOf collection.config request)
      (ofRequest (collection.withStrict true) request)
      (ofRequest (collection.withStrict false) request) := by
  unfold ofRequest
  rw [Collection.compile_withStrict, Collection.compile_withStrict]
  apply Checked.after
  intro filter
  apply (SortOrder.checked_compile collection request.sort).bind
  intro sort _ _
  exact (Projection.checked_compile collection request.fields).map fun projection =>
    Find.mk filter sort projection request.paging.window

end Find

namespace Cursor

open Keyset (effectiveSort)

/-- A sort order of known fields has the same boundaries in either mode. -/
theorem Keyset.boundary_strict {collection : Collection} {sort : SortOrder}
    (h : ∀ field ∈ sort.map SortField.field, collection.knows field = true) (values : List Value)
    (side : Side) :
    boundary (collection.withStrict true) sort values side =
      boundary (collection.withStrict false) sort values side := by
  have hstrict : (sort.forM fun s => (collection.withStrict true).check s.field) = .ok () := by
    rw [forM_eq_ok]
    intro s hs
    rw [Collection.check_strict, h s.field (List.mem_map_of_mem hs)]
    rfl
  have hlenient : (sort.forM fun s => (collection.withStrict false).check s.field) = .ok () := by
    rw [forM_eq_ok]
    intro s _
    exact Collection.check_lenient s.field
  unfold boundary
  rw [hstrict, hlenient]
  rfl

theorem Start.checked_ofRequest (collection : Collection) (request : CursorRequest) :
    Checked collection ((effectiveSort collection.config request.sort).map SortField.field)
      (ofRequest (collection.withStrict true) request)
      (ofRequest (collection.withStrict false) request) := by
  unfold ofRequest
  rw [Collection.compile_withStrict, Collection.compile_withStrict]
  apply Checked.after
  intro filter
  have hchecks := Checked.forM collection SortField.field
    (effectiveSort collection.config request.sort)
  rw [← List.append_nil ((effectiveSort collection.config request.sort).map SortField.field)]
  apply hchecks.bind
  intro _ _ _
  exact .refl _

end Cursor

namespace CursorQuery

open Cursor (Start)
open Cursor.Keyset (effectiveSort)

/-- The fields that a request names, to sort by, with the identifier, and then to select. -/
def fieldsOf (config : Config) (request : CursorRequest) : List String :=
  (effectiveSort config request.sort).map SortField.field ++
    Projection.fieldsOf config request.fields

theorem start_sort {collection : Collection} {request : CursorRequest} {start : Start}
    (h : Start.ofRequest collection request = .ok start) :
    start.sort = effectiveSort collection.config request.sort := by
  unfold Start.ofRequest at h
  obtain ⟨filter, _, h⟩ := bind_eq_ok.1 h
  obtain ⟨_, _, h⟩ := bind_eq_ok.1 h
  obtain ⟨values?, _, h⟩ := bind_eq_ok.1 h
  cases h
  rfl

theorem checked_ofRequest (collection : Collection) (request : CursorRequest) :
    Checked collection (fieldsOf collection.config request)
      (ofRequest (collection.withStrict true) request)
      (ofRequest (collection.withStrict false) request) := by
  apply (Start.checked_ofRequest collection request).bind
  intro start hstart hknown
  have hsort := start_sort hstart
  have hsame : effectiveSort (collection.withStrict false).config request.sort =
      effectiveSort collection.config request.sort := rfl
  rw [← hsame, ← hsort] at hknown
  unfold ofStart
  simp only [Cursor.Keyset.boundary_strict hknown]
  apply Checked.after
  intro boundary
  exact (Projection.checked_compile collection request.fields).map _

end CursorQuery

/-! ## Fields that are not refused -/

/-- No field is refused as unknown. -/
def KnowsAll (computation : Except QueryError α) : Prop :=
  ∀ field, computation ≠ .error (.unknownField field)

namespace KnowsAll

theorem ok (result : α) : KnowsAll (.ok result) := by
  intro field h
  cases h

theorem bind {computation : Except QueryError α} {rest : α → Except QueryError β}
    (h : KnowsAll computation) (hrest : ∀ result, KnowsAll (rest result)) :
    KnowsAll (computation >>= rest) := by
  intro field herror
  rcases bind_eq_error.1 herror with hfirst | ⟨result, _, hsecond⟩
  · exact h field hfirst
  · exact hrest result field hsecond

theorem mapM {f : α → Except QueryError β} {items : List α}
    (h : ∀ item ∈ items, KnowsAll (f item)) : KnowsAll (items.mapM f) := by
  intro field herror
  obtain ⟨item, hitem, hfield⟩ := exists_of_mapM_error herror
  exact h item hitem field hfield

theorem of_forM_ok {collection : Collection} {items : List α} {field : α → String}
    {rest : Unit → Except QueryError β} (h : KnowsAll (rest ())) :
    KnowsAll
      (items.forM (fun item => (collection.withStrict false).check (field item)) >>= rest) := by
  have hchecks : (items.forM fun item => (collection.withStrict false).check (field item)) =
      .ok () := by
    rw [forM_eq_ok]
    intro item _
    exact Collection.check_lenient (field item)
  rw [hchecks]
  exact h

end KnowsAll

namespace Filter

variable {collection : Collection}

theorem Comparison.knowsAll_bound (field operator : String) (bounds : Document) (which : Bound) :
    KnowsAll (bound collection field operator bounds which) := by
  intro unknown herror
  unfold bound at herror
  split at herror <;> cases herror

theorem Comparison.knowsAll_compile (field : String) (comparison : Comparison) :
    KnowsAll (Comparison.compile collection field comparison) := by
  unfold Comparison.compile
  dsimp only
  split
  · apply KnowsAll.bind
    · unfold Comparison.bounds
      dsimp only
      split
      · intro unknown herror
        cases herror
      · apply (Comparison.knowsAll_bound _ _ _ _).bind
        intro lower
        apply (Comparison.knowsAll_bound _ _ _ _).bind
        intro upper
        exact .ok _
    · intro bounds
      exact .ok _
  · split
    · intro unknown herror
      cases herror
    · apply KnowsAll.bind
      · intro unknown herror
        unfold Comparison.checkShape at herror
        split at herror <;> cases herror
      · intro _
        exact .ok _

/-- The fields of a filter are not checked. -/
theorem knowsAll_compile (filter : Filter) : KnowsAll (compile collection filter) := by
  induction filter using Filter.induction with
  | step filter hall hany =>
    rw [compile_eq]
    apply (KnowsAll.mapM hall).bind
    intro all
    apply (KnowsAll.mapM hany).bind
    intro any
    apply KnowsAll.bind
    · unfold compileFields
      apply KnowsAll.bind
      · apply KnowsAll.mapM
        intro own _
        unfold compileField
        apply KnowsAll.bind
        · exact KnowsAll.mapM fun comparison _ => Comparison.knowsAll_compile own.field comparison
        · intro compiled
          exact .ok _
      · intro compiled
        exact .ok _
    · intro own
      exact .ok _

end Filter

namespace Collection

variable {collection : Collection}

theorem knowsAll_sort (tokens : List String) :
    KnowsAll (SortOrder.compile (collection.withStrict false) tokens) := by
  unfold SortOrder.compile
  split
  · exact .ok _
  · exact .of_forM_ok (.ok _)

theorem knowsAll_projection (tokens : List String) :
    KnowsAll (Projection.compile (collection.withStrict false) tokens) := by
  unfold Projection.compile
  split
  · exact .ok _
  · exact .of_forM_ok (.ok _)

theorem knowsAll_find (request : FindRequest) :
    KnowsAll (Find.ofRequest (collection.withStrict false) request) := by
  apply (Filter.knowsAll_compile request.filter).bind
  intro filter
  apply (knowsAll_sort request.sort).bind
  intro sort
  apply (knowsAll_projection request.fields).bind
  intro projection
  exact .ok _

theorem knowsAll_tokenValues (config : Config) (cursor : Option String) :
    KnowsAll (Cursor.tokenValues config cursor) := by
  intro field herror
  unfold Cursor.tokenValues at herror
  split at herror
  · cases herror
  · split at herror
    · cases herror
    · rename_i token _
      cases hdecode : Cursor.Token.decode config.maxTokenLength token with
      | ok values =>
        rw [hdecode] at herror
        cases herror
      | error e =>
        rw [hdecode] at herror
        cases herror
        obtain ⟨fault, hfault⟩ := Cursor.Token.exists_fault_of_decode hdecode
        cases hfault

theorem knowsAll_boundary (sort : SortOrder) (values : List Value) (side : Side) :
    KnowsAll (Cursor.Keyset.boundary (collection.withStrict false) sort values side) := by
  unfold Cursor.Keyset.boundary
  split
  · exact .ok _
  · split
    · intro field herror
      cases herror
    · apply KnowsAll.of_forM_ok
      split <;> exact .ok _

theorem knowsAll_cursor (request : CursorRequest) :
    KnowsAll (CursorQuery.ofRequest (collection.withStrict false) request) := by
  apply KnowsAll.bind
  · apply (Filter.knowsAll_compile request.filter).bind
    intro filter
    apply KnowsAll.of_forM_ok
    apply (knowsAll_tokenValues _ request.cursor).bind
    intro values
    exact .ok _
  · intro start
    apply (knowsAll_boundary _ _ _).bind
    intro boundary
    apply (knowsAll_projection request.fields).bind
    intro projection
    exact .ok _

/-! ## Strictness -/

/-- **Strict fields only ever refuse, and exactly the requests that name an unknown field.** A
request for rows or for a page that compiles with strict fields compiles to the same query without,
and what compiles without is refused only for its first unknown field, those to sort by before those
to select. Without strict fields none is refused, and for groups the mode makes no difference. -/
theorem strict_only_refuses (collection : Collection) :
    (∀ request : FindRequest,
      OnlyRefuses collection (Find.fieldsOf collection.config request)
          (Find.ofRequest (collection.withStrict true) request)
          (Find.ofRequest (collection.withStrict false) request) ∧
        KnowsAll (Find.ofRequest (collection.withStrict false) request)) ∧
      (∀ request : CursorRequest,
        OnlyRefuses collection (CursorQuery.fieldsOf collection.config request)
            (CursorQuery.ofRequest (collection.withStrict true) request)
            (CursorQuery.ofRequest (collection.withStrict false) request) ∧
          KnowsAll (CursorQuery.ofRequest (collection.withStrict false) request)) ∧
      ∀ request : AggregateRequest,
        Aggregate.Pipeline.ofRequest (collection.withStrict true) request =
          Aggregate.Pipeline.ofRequest (collection.withStrict false) request := by
  refine ⟨?_, ?_, ?_⟩
  · intro request
    exact ⟨(Find.checked_ofRequest collection request).onlyRefuses, knowsAll_find request⟩
  · intro request
    exact ⟨(CursorQuery.checked_ofRequest collection request).onlyRefuses, knowsAll_cursor request⟩
  · intro request
    rw [pipeline_withStrict, pipeline_withStrict]

end Collection

end DocumentQuery
