import DocumentQuery.Proofs.Cursor.Compilation
import DocumentQuery.Proofs.Cursor.Page
import DocumentQuery.Proofs.Query.Selection

/-!
# Pages of selected rows

The cursors of a page are made of its rows as the store returns them, that is, of what the
projection leaves of each row. The fields of a request are taken as they are: none is added for the
sake of the sort order. A field to sort by that is not selected is null in the cursors.

* `Page.ofRows_map` : a page of changed rows that have kept their keys;
* `Page.flags_map`  : its flags are the same whether or not they have.

Principal result: `CursorQuery.keeps_iff_same_keys`.
-/

namespace DocumentQuery

open Cursor (pathKeys Row.key Token.encode)

namespace Page

variable {query : CursorQuery} {rows : List Document} {f : Document → Document}

theorem kept_map (query : CursorQuery) (rows : List Document) (f : Document → Document) :
    kept query (rows.map f) = (kept query rows).map f := by
  unfold kept
  split
  · rw [← List.map_take, List.map_reverse]
  · rw [List.map_take]

theorem withCursors_map (first last : Option String) :
    withCursors query (rows.map f) first last =
      { withCursors query rows first last with
        rows := (withCursors query rows first last).rows.map f } := by
  rw [withCursors_rows]
  unfold withCursors
  rw [kept_map, List.length_map]
  split <;> rfl

theorem cursor_map {sort : SortOrder} {row? : Option Document}
    (h : ∀ row, row? = some row → Row.key sort (f row) = Row.key sort row) :
    cursor sort (row?.map f) = cursor sort row? := by
  cases row? with
  | none => rfl
  | some row => rw [Option.map_some, cursor, cursor, h row rfl]

/-- Rows that keep their keys have the same page, but for what else is changed of them. -/
theorem ofRows_map (h : ∀ row ∈ rows, Row.key query.sort (f row) = Row.key query.sort row) :
    ofRows query (rows.map f) =
      (ofRows query rows).map fun page => { page with rows := page.rows.map f } := by
  have hfirst : cursor query.sort (kept query (rows.map f)).head? =
      cursor query.sort (kept query rows).head? := by
    rw [kept_map, List.head?_map]
    exact cursor_map fun row hrow => h row (mem_of_mem_kept (List.mem_of_head? hrow))
  have hlast : cursor query.sort (kept query (rows.map f)).getLast? =
      cursor query.sort (kept query rows).getLast? := by
    rw [kept_map, List.getLast?_map]
    exact cursor_map fun row hrow => h row (mem_of_mem_kept (List.mem_of_getLast? hrow))
  rw [ofRows_eq, ofRows_eq, hfirst, hlast]
  cases cursor query.sort (kept query rows).head? with
  | error error => rfl
  | ok first =>
    cases cursor query.sort (kept query rows).getLast? with
    | error error => rfl
    | ok last => exact congrArg Except.ok (withCursors_map first last)

/-- Whether there are more rows does not depend on what the rows hold. -/
theorem flags_map {page selected : Page} (hpage : ofRows query rows = .ok page)
    (hselected : ofRows query (rows.map f) = .ok selected) :
    selected.hasNext = page.hasNext ∧ selected.hasPrevious = page.hasPrevious := by
  obtain ⟨_, _, _, _, rfl⟩ := ofRows_eq_ok.1 hpage
  obtain ⟨_, _, _, _, rfl⟩ := ofRows_eq_ok.1 hselected
  rw [withCursors_map]
  unfold withCursors
  split <;> exact ⟨rfl, rfl⟩

end Page

namespace CursorQuery

open Cursor (Parts)
open Cursor.Keyset (effectiveSort)

/-- **The projection of a request keeps the keys of all rows exactly if it keeps every field to
sort by.** It is made of the fields of the request alone. If it keeps the keys, the page of the
selected rows is that of the whole rows, with the same cursors; whether there are more rows is the
same in any case. -/
theorem keeps_iff_same_keys {collection : Collection} {request : CursorRequest}
    {query : CursorQuery} (h : ofRequest collection request = .ok query) :
    query.sort = effectiveSort collection.config request.sort ∧
      Projection.compile collection request.fields = .ok query.find.projection ∧
      let selection := Selection.ofProjection collection.config query.find.projection
      ((∀ s ∈ query.sort, selection.Keeps (pathKeys s.field)) ↔
        ∀ row, Value.Distinct (.document row) →
          Row.key query.sort (selection.entries row) = Row.key query.sort row) ∧
      ((∀ s ∈ query.sort, selection.Keeps (pathKeys s.field)) →
        ∀ rows : List Document, (∀ row ∈ rows, Value.Distinct (.document row)) →
          Page.ofRows query (rows.map selection.entries) =
            (Page.ofRows query rows).map fun page =>
              { page with rows := page.rows.map selection.entries }) ∧
      ∀ rows page selected, Page.ofRows query rows = .ok page →
        Page.ofRows query (rows.map selection.entries) = .ok selected →
          selected.hasNext = page.hasNext ∧ selected.hasPrevious = page.hasPrevious := by
  obtain ⟨parts, rfl⟩ := ofRequest_eq_ok.1 h
  refine ⟨rfl, parts.projection_eq, ?_⟩
  intro selection
  have hkeys := selection.keeps_key_iff parts.query.sort
  refine ⟨hkeys, fun hkeeps rows hrows => ?_, fun rows page selected => Page.flags_map⟩
  exact Page.ofRows_map fun row hrow => hkeys.1 hkeeps row (hrows row hrow)

/-- A field to sort by that is asked for, and another one that is not. -/
theorem keeps_iff_same_keys_age :
    let collection : Collection := ⟨.ofFields [], {}⟩
    let request : CursorRequest := { sort := ["-age", "id"], fields := ["age"], limit := 1 }
    let selection : Selection := .ofProjection {} (some [("age", .int32 1)])
    let rows : List Document :=
      [[("_id", .int32 1), ("name", .string "Ada"), ("age", .int32 36)],
        [("_id", .int32 2), ("name", .string "Alan"), ("age", .int32 30)]]
    ∃ query page, ofRequest collection request = .ok query ∧
      rows.map selection.entries =
        [[("_id", .int32 1), ("age", .int32 36)], [("_id", .int32 2), ("age", .int32 30)]] ∧
      Page.ofRows query rows = .ok page ∧
      page.endCursor = some "GwAAAAR2ABMAAAAQMAAkAAAAEDEAAQAAAAAA" ∧
      Page.ofRows query (rows.map selection.entries) =
        .ok { page with rows := page.rows.map selection.entries } := by
  intro collection request selection rows
  let parts : Parts collection request :=
    ⟨_, _, _, _, rfl, forM_eq_ok.1 rfl, rfl, rfl, rfl⟩
  have hquery : ofRequest collection request = .ok parts.query := ofRequest_eq_ok.2 ⟨parts, rfl⟩
  have hsort : parts.query.sort = [⟨"age", .descending⟩, ⟨"_id", .ascending⟩] := rfl
  have hwhole := @ofRows_of_kept_single parts.query rows _ [.int32 36, .int32 1]
    "GwAAAAR2ABMAAAAQMAAkAAAAEDEAAQAAAAAA" rfl (by rw [hsort]; rfl) rfl
  have hdistinct : ∀ row ∈ rows, Value.Distinct (.document row) := by
    have hother : ∀ row ∈ rows, ∀ e ∈ row, e.2.document? = none := by decide
    have hkeys : ∀ row ∈ rows, (Entries.keys row).Nodup := by decide
    exact fun row hrow => .document (hkeys row hrow) fun e he => .other (hother row hrow e he)
  have hkeeps : ∀ s ∈ parts.query.sort, selection.Keeps (pathKeys s.field) := by decide
  obtain ⟨-, -, -, hpage, -⟩ := keeps_iff_same_keys hquery
  have hselected : Page.ofRows parts.query (rows.map selection.entries) = _ :=
    hpage hkeeps rows hdistinct
  rw [hwhole] at hselected
  exact ⟨parts.query, _, hquery, rfl, hwhole, rfl, hselected⟩

/-- The same request for another field: it sorts by age, and the cursors of the page that the store
returns say nothing of the age. -/
theorem loses_sort_field :
    let collection : Collection := ⟨.ofFields [], {}⟩
    let request : CursorRequest := { sort := ["-age", "id"], fields := ["name"], limit := 1 }
    let selection : Selection := .ofProjection {} (some [("name", .int32 1)])
    let rows : List Document :=
      [[("_id", .int32 1), ("name", .string "Ada"), ("age", .int32 36)],
        [("_id", .int32 2), ("name", .string "Alan"), ("age", .int32 30)]]
    ∃ query page selected,
      ofRequest collection request = .ok query ∧
      query.find.projection = some [("name", .int32 1)] ∧
      rows.map selection.entries =
        [[("_id", .int32 1), ("name", .string "Ada")],
          [("_id", .int32 2), ("name", .string "Alan")]] ∧
      Page.ofRows query rows = .ok page ∧
      Page.ofRows query (rows.map selection.entries) = .ok selected ∧
      Token.encode [.int32 36, .int32 1] = .ok "GwAAAAR2ABMAAAAQMAAkAAAAEDEAAQAAAAAA" ∧
      page.endCursor = some "GwAAAAR2ABMAAAAQMAAkAAAAEDEAAQAAAAAA" ∧
      Token.encode [.null, .int32 1] = .ok "FwAAAAR2AA8AAAAKMAAQMQABAAAAAAA" ∧
      selected.endCursor = some "FwAAAAR2AA8AAAAKMAAQMQABAAAAAAA" := by
  intro collection request selection rows
  let parts : Parts collection request :=
    ⟨_, _, _, _, rfl, forM_eq_ok.1 rfl, rfl, rfl, rfl⟩
  have hquery : ofRequest collection request = .ok parts.query := ofRequest_eq_ok.2 ⟨parts, rfl⟩
  have hsort : parts.query.sort = [⟨"age", .descending⟩, ⟨"_id", .ascending⟩] := rfl
  have hwhole := @ofRows_of_kept_single parts.query rows _ [.int32 36, .int32 1]
    "GwAAAAR2ABMAAAAQMAAkAAAAEDEAAQAAAAAA" rfl (by rw [hsort]; rfl) rfl
  have hselected := @ofRows_of_kept_single parts.query (rows.map selection.entries) _
    [.null, .int32 1] "FwAAAAR2AA8AAAAKMAAQMQABAAAAAAA" rfl (by rw [hsort]; rfl) rfl
  exact ⟨parts.query, _, _, hquery, rfl, rfl, hwhole, hselected, rfl, rfl, rfl, rfl⟩

end CursorQuery

end DocumentQuery
