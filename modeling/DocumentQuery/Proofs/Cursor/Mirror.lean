import DocumentQuery.Proofs.Cursor.Compilation
import DocumentQuery.Proofs.Cursor.Page

/-!
# Mirrored requests

A request is mirrored when every direction in it is turned: that of each field to sort by, and the
side on which the page lies. As the request turns the order of the rows twice, it asks the store for
the same rows, and only the page is turned.

* `SortField.oppositeToken` : the token of the same field with the opposite direction;
* `CursorRequest.mirrored`, `CursorQuery.mirrored`, `Page.mirrored` : mirrored requests, with their
  queries and pages;
* `CursorQuery.ofRequest_mirrored` : what a mirrored request compiles to;
* `Page.ofRows_mirrored`           : the page of a mirrored query;
* `Repository.page_mirrored`       : the answer to a mirrored request.

Principal result: `CursorQuery.before_mirrors_after`.
-/

namespace DocumentQuery

/-! ## Directions and sides -/

theorem Direction.reversed_reversed (d : Direction) : d.reversed.reversed = d := by
  cases d <;> rfl

namespace SortField

/-- The token of the same field with the opposite direction, which it spells out. -/
def oppositeToken (token : String) : String :=
  match token.toList with
  | '-' :: field => String.ofList ('+' :: field)
  | '+' :: field => String.ofList ('-' :: field)
  | field => String.ofList ('-' :: field)

theorem parse_oppositeToken (token : String) :
    parse (oppositeToken token) = (parse token).reversed := by
  unfold oppositeToken
  split
  · rename_i field htoken
    unfold parse
    rw [String.toList_ofList, htoken]
    rfl
  · rename_i field htoken
    unfold parse
    rw [String.toList_ofList, htoken]
    rfl
  · rename_i hminus hplus
    have hparse : parse token = ⟨token, .ascending⟩ := by
      unfold parse
      split
      · rename_i field htoken
        exact absurd htoken (hminus field)
      · rename_i field htoken
        exact absurd htoken (hplus field)
      · rfl
    rw [hparse, parse, String.toList_ofList]
    simp only [String.ofList_toList]
    rfl

theorem ofToken_oppositeToken (config : Config) (token : String) :
    ofToken config (oppositeToken token) = (ofToken config token).reversed := by
  unfold ofToken
  rw [parse_oppositeToken]
  rfl

theorem reversed_reversed (s : SortField) : s.reversed.reversed = s := by
  unfold reversed
  rw [Direction.reversed_reversed]

end SortField

/-! ## Requests, queries and pages -/

/-- The request with every direction turned. -/
def CursorRequest.mirrored (request : CursorRequest) : CursorRequest :=
  { request with
    sort := request.sort.map SortField.oppositeToken
    side := request.side.opposite }

/-- The query with the rows of its pages turned. What it asks of the store is the same. -/
def CursorQuery.mirrored (query : CursorQuery) : CursorQuery :=
  { query with
    sort := query.sort.map SortField.reversed
    side := query.side.opposite
    reverse := !query.reverse }

/-- The page from its last row to its first. -/
def Page.mirrored (page : Page) : Page where
  rows := page.rows.reverse
  hasNext := page.hasPrevious
  hasPrevious := page.hasNext
  startCursor := page.endCursor
  endCursor := page.startCursor

/-! ## Compilation -/

namespace Cursor.Keyset

/-- The identifier is among the fields of the tokens. -/
def NamesIdentifier (config : Config) (tokens : List String) : Prop :=
  ∃ token ∈ tokens, (SortField.ofToken config token).field = config.idField

theorem effectiveSort_of_names {config : Config} {tokens : List String}
    (h : NamesIdentifier config tokens) :
    effectiveSort config tokens = tokens.map (SortField.ofToken config) := by
  obtain ⟨token, htoken, hfield⟩ := h
  apply if_pos
  rw [List.any_map, List.any_eq_true]
  exact ⟨token, htoken, decide_eq_true hfield⟩

theorem effectiveSort_opposite {config : Config} {tokens : List String}
    (h : NamesIdentifier config tokens) :
    effectiveSort config (tokens.map SortField.oppositeToken) =
      (effectiveSort config tokens).map SortField.reversed := by
  have hmirrored : NamesIdentifier config (tokens.map SortField.oppositeToken) := by
    obtain ⟨token, htoken, hfield⟩ := h
    refine ⟨_, List.mem_map_of_mem htoken, ?_⟩
    rw [SortField.ofToken_oppositeToken]
    exact hfield
  rw [effectiveSort_of_names h, effectiveSort_of_names hmirrored, List.map_map, List.map_map]
  apply List.map_congr_left
  intro token _
  exact SortField.ofToken_oppositeToken config token

/-- Where both the side and the direction are turned, the operator stays. -/
theorem operator_opposite (side : Side) (first : Direction) :
    operator side.opposite first.reversed = operator side first := by
  cases side <;> cases first <;> rfl

theorem forM_check_reversed (collection : Collection) (sort : SortOrder) :
    ((sort.map SortField.reversed).forM fun s => collection.check s.field) =
      sort.forM fun s => collection.check s.field := by
  induction sort with
  | nil => rfl
  | cons s sort ih =>
    rw [List.forM_eq_forM] at ih ⊢
    rw [List.map_cons, List.forM_cons, List.forM_cons, ih]
    rfl

theorem boundary_opposite (collection : Collection) (sort : SortOrder) (values : List Value)
    (side : Side) :
    boundary collection (sort.map SortField.reversed) values side.opposite =
      boundary collection sort values side := by
  unfold boundary
  rw [List.length_map, forM_check_reversed]
  cases sort with
  | nil => rfl
  | cons first rest =>
    have hconditions : ∀ operator,
        ((first :: rest).map SortField.reversed).zipWith
          (fun s value => condition collection operator s.field value) values =
        (first :: rest).zipWith
          (fun s value => condition collection operator s.field value) values := by
      intro operator
      rw [List.zipWith_map_left]
      rfl
    have hoperator : operator side.opposite first.reversed.direction =
        operator side first.direction := operator_opposite side first.direction
    simp only [List.map_cons] at hconditions ⊢
    rw [hoperator, hconditions]

end Cursor.Keyset

namespace CursorQuery

open Cursor (Start)
open Cursor.Keyset (NamesIdentifier boundary_opposite effectiveSort_opposite forM_check_reversed)

/-- Turned on both sides, the order of the store stays. -/
theorem storeSort_opposite (side : Side) (sort : SortOrder) :
    storeSort side.opposite (sort.map SortField.reversed) = storeSort side sort := by
  cases side with
  | before => rfl
  | after =>
    have htwice : sort.map (SortField.reversed ∘ SortField.reversed) = sort.map id := by
      apply List.map_congr_left
      intro s _
      exact s.reversed_reversed
    rw [List.map_id, ← List.map_map] at htwice
    exact htwice

theorem start_mirrored {collection : Collection} {request : CursorRequest}
    (h : NamesIdentifier collection.config request.sort) :
    Start.ofRequest collection request.mirrored =
      (Start.ofRequest collection request).map fun start =>
        { start with sort := start.sort.map SortField.reversed } := by
  have hsort : Cursor.Keyset.effectiveSort collection.config request.mirrored.sort = _ :=
    effectiveSort_opposite h
  have hfilter : request.mirrored.filter = request.filter := rfl
  have hcursor : request.mirrored.cursor = request.cursor := rfl
  unfold Start.ofRequest
  rw [hfilter, hcursor]
  simp only [hsort, forM_check_reversed]
  cases Filter.compile collection request.filter with
  | error e => rfl
  | ok filter =>
    cases (Cursor.Keyset.effectiveSort collection.config request.sort).forM fun s =>
        collection.check s.field with
    | error e => rfl
    | ok _ => cases Cursor.tokenValues collection.config request.cursor <;> rfl

theorem ofStart_mirrored (collection : Collection) (request : CursorRequest) (start : Start) :
    ofStart collection request.mirrored { start with sort := start.sort.map SortField.reversed } =
      (ofStart collection request start).map mirrored := by
  have hside : request.mirrored.side = request.side.opposite := rfl
  have hfields : request.mirrored.fields = request.fields := rfl
  have hreverse : decide (request.side.opposite = .before) = !decide (request.side = .before) := by
    cases request.side <;> rfl
  unfold ofStart
  simp only [hside, hfields, boundary_opposite, storeSort_opposite, hreverse]
  cases Cursor.Keyset.boundary collection start.sort (start.values?.getD []) request.side with
  | error e => rfl
  | ok boundary => cases Projection.compile collection request.fields <;> rfl

/-- A mirrored request has the same error, or the mirrored query. -/
theorem ofRequest_mirrored {collection : Collection} {request : CursorRequest}
    (h : NamesIdentifier collection.config request.sort) :
    ofRequest collection request.mirrored = (ofRequest collection request).map mirrored := by
  unfold ofRequest
  rw [start_mirrored h]
  cases Start.ofRequest collection request with
  | error e => rfl
  | ok start => exact ofStart_mirrored collection request start

end CursorQuery

/-! ## Pages -/

namespace Page

open Cursor (Row.key)

variable (query : CursorQuery) (rows : List Document)

theorem kept_mirrored : kept query.mirrored rows = (kept query rows).reverse := by
  have hlimit : query.mirrored.limit = query.limit := rfl
  have hreverse : query.mirrored.reverse = !query.reverse := rfl
  unfold kept
  rw [hlimit, hreverse]
  cases query.reverse with
  | false => rfl
  | true => exact (List.reverse_reverse _).symm

/-- The key of a row does not depend on the directions. -/
theorem cursor_reversed (sort : SortOrder) (row : Option Document) :
    cursor (sort.map SortField.reversed) row = cursor sort row := by
  cases row with
  | none => rfl
  | some row =>
    have hkey : Row.key (sort.map SortField.reversed) row = Row.key sort row := by
      unfold Row.key
      rw [List.map_map]
      rfl
    unfold cursor
    simp only [hkey]

/-- A row whose key cannot be written has no cursor, for that reason alone. -/
theorem error_of_cursor {sort : SortOrder} {row : Option Document} {e : QueryError}
    (h : cursor sort row = .error e) : e = .invalidCursor .unencodable := by
  cases row with
  | none => cases h
  | some row =>
    unfold cursor Cursor.Token.encode at h
    dsimp only at h
    split at h
    · cases h
    · cases h
      rfl

theorem withCursors_mirrored (first last : Option String) :
    withCursors query.mirrored rows last first = (withCursors query rows first last).mirrored := by
  have hside : query.mirrored.side = query.side.opposite := rfl
  unfold withCursors
  rw [hside, kept_mirrored]
  cases query.side <;> rfl

/-- **The page of the mirrored query is the mirrored page**, whatever rows the store returns. -/
theorem ofRows_mirrored :
    ofRows query.mirrored rows = (ofRows query rows).map mirrored := by
  have hsort : query.mirrored.sort = query.sort.map SortField.reversed := rfl
  rw [ofRows_eq, ofRows_eq, kept_mirrored, hsort, cursor_reversed, cursor_reversed,
    List.head?_reverse, List.getLast?_reverse]
  cases hfirst : cursor query.sort (kept query rows).head? with
  | error e =>
    cases hlast : cursor query.sort (kept query rows).getLast? with
    -- The last row is the first one to fail in the mirror image, but rows fail for one reason only.
    | error e' =>
      rw [error_of_cursor hfirst, error_of_cursor hlast]
      rfl
    | ok last => rfl
  | ok first =>
    cases hlast : cursor query.sort (kept query rows).getLast? with
    | error e => rfl
    | ok last => exact congrArg Except.ok (withCursors_mirrored query rows first last)

end Page

/-- A repository answers a mirrored request with the mirrored page. -/
theorem Repository.page_mirrored {repository : Repository} {request : CursorRequest}
    (h : Cursor.Keyset.NamesIdentifier repository.collection.config request.sort) :
    (repository.page request.mirrored).result =
      (repository.page request).result.map Page.mirrored := by
  have hcompiled := CursorQuery.ofRequest_mirrored h
  rw [← Compilation.page_result, ← Compilation.page_result] at hcompiled
  unfold page send
  rw [hcompiled]
  cases (Compilation.page repository.collection request).result with
  | error e => rfl
  | ok query =>
    have hfind : query.mirrored.find = query.find := rfl
    simp only [Except.map, conclude, hfind]
    cases repository.store.find query.find with
    | error failure => rfl
    | ok rows =>
      simp only [Page.ofRows_mirrored]
      cases Page.ofRows query rows <;> rfl

namespace CursorQuery

open Cursor (Parts)
open Cursor.Keyset (NamesIdentifier)

/-- **Before is the mirror image of after.** A request that names the identifier and its mirror
image have the same error, or ask the store for the same rows, and from any rows that it returns
they make the same page, once from its first row to its last and once the other way round. -/
theorem before_mirrors_after {collection : Collection} {request : CursorRequest}
    (h : NamesIdentifier collection.config request.sort) :
    (∀ e, ofRequest collection request.mirrored = .error e ↔
      ofRequest collection request = .error e) ∧
      ∀ query, ofRequest collection request = .ok query →
        ∃ other, ofRequest collection request.mirrored = .ok other ∧
          other.find = query.find ∧
          other.bounded = query.bounded ∧
          ∀ rows, Page.ofRows other rows = (Page.ofRows query rows).map Page.mirrored := by
  have hmirrored := ofRequest_mirrored h
  constructor
  · intro e
    rw [hmirrored]
    cases ofRequest collection request with
    | error e' => rfl
    | ok query =>
      constructor
      · intro herror
        cases herror
      · intro herror
        cases herror
  · intro query hquery
    rw [hquery] at hmirrored
    refine ⟨query.mirrored, hmirrored, rfl, rfl, ?_⟩
    intro rows
    exact Page.ofRows_mirrored query rows

/-- The rows behind one of age 36 in descending order are those before it in ascending order. -/
theorem before_mirrors_after_age :
    let collection : Collection := ⟨.ofFields [], {}⟩
    let request : CursorRequest :=
      { sort := ["-age", "id"], cursor := some "GwAAAAR2ABMAAAAQMAAkAAAAEDEAAQAAAAAA" }
    ∃ query other, request.mirrored.sort = ["+age", "-id"] ∧ request.mirrored.side = .before ∧
      ofRequest collection request = .ok query ∧ ofRequest collection request.mirrored = .ok other ∧
      other.find = query.find ∧
      query.find.sort = some [("age", .int32 (-1)), ("_id", .int32 1)] ∧
      ∀ rows, Page.ofRows other rows = (Page.ofRows query rows).map Page.mirrored := by
  intro collection request
  have hbytes : Text.Base64.decodeUrl? "GwAAAAR2ABMAAAAQMAAkAAAAEDEAAQAAAAAA".toList =
      some [27, 0, 0, 0, 4, 118, 0, 19, 0, 0, 0, 16, 48, 0, 36, 0, 0, 0, 16, 49, 0, 1, 0, 0, 0, 0,
        0] := rfl
  have hvalues : Cursor.valuesOf collection.config request.cursor = .ok [.int32 36, .int32 1] :=
    Cursor.valuesOf_token (List.cons_ne_nil _ _)
      (Cursor.Token.decode_of_payload rfl (by decide) hbytes rfl rfl)
  let parts : Parts collection request := ⟨_, _, _, _, rfl, forM_eq_ok.1 rfl, hvalues, rfl, rfl⟩
  have hquery : ofRequest collection request = .ok parts.query := ofRequest_eq_ok.2 ⟨parts, rfl⟩
  have hnames : NamesIdentifier collection.config request.sort := ⟨"id", by decide, rfl⟩
  obtain ⟨other, hother, hfind, -, hpages⟩ := (before_mirrors_after hnames).2 parts.query hquery
  exact ⟨parts.query, other, rfl, rfl, hquery, hother, hfind, rfl, hpages⟩

end CursorQuery

end DocumentQuery
