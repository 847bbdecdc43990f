import DocumentQuery.Cursor.Query
import DocumentQuery.Proofs.Cursor.Token
import DocumentQuery.Proofs.FirstError

/-!
# Compiled cursor requests

What a request for a page consists of once it is compiled.

* `Keyset.Leads`                : the identifier is the first field to sort by, and no other is;
* `Cursor.Parts`                : the parts of a compiled request, with their origin;
* `CursorQuery.ofRequest_eq_ok` : a request compiles exactly if it has parts, and to what they give;
* `Keyset.boundary_cons_eq_ok`, `Parts.isSome_boundary` : when there is a boundary, and which.
-/

namespace DocumentQuery

namespace Cursor.Keyset

/-! ## Sort orders -/

/-- The sort order names the identifier. -/
theorem exists_identifier (config : Config) (tokens : List String) :
    ∃ s ∈ effectiveSort config tokens, s.field = config.idField := by
  simp only [effectiveSort]
  split
  · rename_i h
    obtain ⟨s, hs, hfield⟩ := List.any_eq_true.1 h
    exact ⟨s, hs, of_decide_eq_true hfield⟩
  · exact ⟨_, List.mem_cons_self, rfl⟩

theorem effectiveSort_ne_nil (config : Config) (tokens : List String) :
    effectiveSort config tokens ≠ [] := by
  obtain ⟨s, hs, _⟩ := exists_identifier config tokens
  exact List.ne_nil_of_mem hs

/-- The identifier is the first field to sort by, in a direction, and no other is. -/
structure Leads (config : Config) (tokens : List String) (d : Direction) (rest : SortOrder) :
    Prop where
  sort_eq : effectiveSort config tokens = ⟨config.idField, d⟩ :: rest
  others : ∀ s ∈ rest, s.field ≠ config.idField

/-- An identifier that is named first, or not at all, leads. -/
theorem exists_leads {config : Config} {tokens : List String}
    (h : ∀ token ∈ tokens.tail, (SortField.ofToken config token).field ≠ config.idField) :
    ∃ d rest, Leads config tokens d rest := by
  have htail : ∀ s ∈ tokens.tail.map (SortField.ofToken config), s.field ≠ config.idField := by
    intro s hs
    obtain ⟨token, htoken, rfl⟩ := List.mem_map.1 hs
    exact h token htoken
  by_cases hany : (tokens.map (SortField.ofToken config)).any (·.field = config.idField) = true
  · have hsort : effectiveSort config tokens = tokens.map (SortField.ofToken config) :=
      if_pos hany
    cases tokens with
    | nil => cases hany
    | cons token tokens =>
      obtain ⟨s, hs, hfield⟩ := List.any_eq_true.1 hany
      rcases List.mem_cons.1 hs with rfl | hs
      · refine ⟨(SortField.ofToken config token).direction, _, hsort.trans ?_, htail⟩
        rw [List.map_cons, ← of_decide_eq_true hfield]
        rfl
      · exact absurd (of_decide_eq_true hfield) (htail s hs)
  · refine ⟨.ascending, _, if_neg hany, fun s hs hfield => hany ?_⟩
    exact List.any_eq_true.2 ⟨s, hs, decide_eq_true hfield⟩

/-- The identifier is known without being listed. -/
theorem check_effectiveSort {collection : Collection} {tokens : List String}
    (h : ∀ token ∈ tokens,
      collection.check (SortField.ofToken collection.config token).field = .ok ()) :
    ∀ s ∈ effectiveSort collection.config tokens, collection.check s.field = .ok () := by
  have hgiven : ∀ s ∈ tokens.map (SortField.ofToken collection.config),
      collection.check s.field = .ok () := by
    intro s hs
    obtain ⟨token, htoken, rfl⟩ := List.mem_map.1 hs
    exact h token htoken
  simp only [effectiveSort]
  split
  · exact hgiven
  · rw [List.forall_mem_cons]
    refine ⟨?_, hgiven⟩
    simp [Collection.check, Config.isIdentifier]

/-! ## Boundaries -/

/-- The conditions of a boundary, one for each field. -/
def conditions (collection : Collection) (operator : String) (sort : SortOrder)
    (values : List Value) : List Value :=
  sort.zipWith (fun s value => condition collection operator s.field value) values

/-- The predicate that compares by an operator. -/
def seek (collection : Collection) (operator : String) (sort : SortOrder) (values : List Value) :
    Document :=
  [("$or", .array (alternatives (conditions collection operator sort values)))]

theorem boundary_nil (collection : Collection) (sort : SortOrder) (side : Side) :
    boundary collection sort [] side = .ok none := rfl

/-- With values there is a boundary only if there is one for each field, and no field is
unknown. -/
theorem boundary_cons_eq_ok {collection : Collection} {first : SortField} {rest : SortOrder}
    {values : List Value} {side : Side} {found : Option Document} (hvalues : values ≠ []) :
    boundary collection (first :: rest) values side = .ok found ↔
      values.length = (first :: rest).length ∧
        (∀ s ∈ first :: rest, collection.check s.field = .ok ()) ∧
        found = some (seek collection (operator side first.direction) (first :: rest) values) := by
  unfold boundary
  rw [if_neg (by simpa using hvalues)]
  split
  · rename_i hlength
    constructor
    · intro h
      cases h
    · rintro ⟨h, _⟩
      exact absurd h hlength
  · rename_i hlength
    rw [bind_eq_ok]
    constructor
    · rintro ⟨_, hcheck, h⟩
      cases h
      exact ⟨by simpa using hlength, forM_eq_ok.1 hcheck, rfl⟩
    · rintro ⟨_, hcheck, rfl⟩
      exact ⟨(), forM_eq_ok.2 hcheck, rfl⟩

/-- A value for each known field is enough for a boundary. -/
theorem exists_boundary {collection : Collection} {sort : SortOrder} {values : List Value}
    (side : Side) (hvalues : values ≠ []) (hlength : values.length = sort.length)
    (hknown : ∀ s ∈ sort, collection.check s.field = .ok ()) :
    ∃ found, boundary collection sort values side = .ok (some found) := by
  cases sort with
  | nil => exact absurd (List.length_eq_zero_iff.1 hlength) hvalues
  | cons first rest =>
    exact ⟨_, (boundary_cons_eq_ok hvalues).2 ⟨hlength, hknown, rfl⟩⟩

end Cursor.Keyset

/-! ## Requests -/

namespace Cursor

/-- The values of a token; without a token there are none. -/
def valuesOf (config : Config) (cursor : Option String) : Except QueryError (List Value) :=
  (tokenValues config cursor).map (·.getD [])

theorem valuesOf_none (config : Config) : valuesOf config none = .ok [] := rfl

theorem valuesOf_token {config : Config} {token : String} {values : List Value}
    (hvalues : values ≠ []) (h : Token.decode config.maxTokenLength token = .ok values) :
    valuesOf config (some token) = .ok values := by
  have hblank : ¬Token.isBlank token = true := by
    intro hblank
    rw [Token.decode_blank hblank] at h
    exact hvalues (Except.ok.inj h).symm
  rw [valuesOf, tokenValues, if_neg hblank, h]
  rfl

/-- The parts of a compiled request, each with what it comes from. -/
structure Parts (collection : Collection) (request : CursorRequest) where
  filter : Document
  values : List Value
  boundary : Option Document
  projection : Option Document
  filter_eq : Filter.compile collection request.filter = .ok filter
  known : ∀ s ∈ Keyset.effectiveSort collection.config request.sort,
    collection.check s.field = .ok ()
  values_eq : valuesOf collection.config request.cursor = .ok values
  boundary_eq : Keyset.boundary collection (Keyset.effectiveSort collection.config request.sort)
    values request.side = .ok boundary
  projection_eq : Projection.compile collection request.fields = .ok projection

/-- The query that parts give. -/
def Parts.query {collection : Collection} {request : CursorRequest}
    (parts : Parts collection request) : CursorQuery :=
  let sort := Keyset.effectiveSort collection.config request.sort
  { find :=
      { filter := CursorQuery.bound parts.boundary parts.filter
        sort := some (SortOrder.document (CursorQuery.storeSort request.side sort))
        projection := parts.projection
        window := ⟨none, some (Number.saturatingAdd request.limit 1)⟩ }
    sort := sort
    limit := request.limit
    side := request.side
    reverse := request.side = .before
    bounded := parts.boundary.isSome }

/-- There is a boundary exactly if the token has values. -/
theorem Parts.isSome_boundary {collection : Collection} {request : CursorRequest}
    (parts : Parts collection request) : parts.boundary.isSome = !parts.values.isEmpty := by
  have hboundary := parts.boundary_eq
  obtain ⟨first, rest, hsort⟩ := List.exists_cons_of_ne_nil
    (Keyset.effectiveSort_ne_nil collection.config request.sort)
  cases hvalues : parts.values with
  | nil =>
    rw [hvalues, Keyset.boundary_nil] at hboundary
    rw [← Except.ok.inj hboundary]
    rfl
  | cons value values =>
    rw [hvalues, hsort, Keyset.boundary_cons_eq_ok (List.cons_ne_nil value values)]
      at hboundary
    rw [hboundary.2.2]
    rfl

end Cursor

namespace CursorQuery

open Cursor

/-- **A request compiles exactly if all its parts do.** -/
theorem ofRequest_eq_ok {collection : Collection} {request : CursorRequest}
    {query : CursorQuery} :
    ofRequest collection request = .ok query ↔
      ∃ parts : Parts collection request, parts.query = query := by
  constructor
  · intro h
    obtain ⟨start, hstart, h⟩ := bind_eq_ok.1 h
    obtain ⟨filter, hfilter, hstart⟩ := bind_eq_ok.1 hstart
    obtain ⟨_, hknown, hstart⟩ := bind_eq_ok.1 hstart
    obtain ⟨values?, hvalues, hstart⟩ := bind_eq_ok.1 hstart
    cases hstart
    obtain ⟨boundary, hboundary, h⟩ := bind_eq_ok.1 h
    obtain ⟨projection, hprojection, h⟩ := bind_eq_ok.1 h
    cases h
    exact ⟨⟨filter, values?.getD [], boundary, projection, hfilter, forM_eq_ok.1 hknown,
      map_eq_ok.2 ⟨values?, hvalues, rfl⟩, hboundary, hprojection⟩, rfl⟩
  · rintro ⟨parts, rfl⟩
    obtain ⟨values?, hvalues, hget⟩ := map_eq_ok.1 parts.values_eq
    have hstart : Start.ofRequest collection request =
        .ok ⟨parts.filter, Keyset.effectiveSort collection.config request.sort, values?⟩ :=
      bind_eq_ok.2 ⟨_, parts.filter_eq, bind_eq_ok.2 ⟨(), forM_eq_ok.2 parts.known,
        bind_eq_ok.2 ⟨_, hvalues, rfl⟩⟩⟩
    refine bind_eq_ok.2 ⟨_, hstart, bind_eq_ok.2 ⟨parts.boundary, ?_,
      bind_eq_ok.2 ⟨_, parts.projection_eq, rfl⟩⟩⟩
    simpa only [hget] using parts.boundary_eq

end CursorQuery

end DocumentQuery
