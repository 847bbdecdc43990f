import DocumentQuery.Proofs.Cursor.Compilation
import DocumentQuery.Proofs.Cursor.Page
import DocumentQuery.Proofs.Cursor.Token

/-!
# Neighbours of a page

A page says on which sides of it there are more rows, and has a cursor to go on from on either side.
The rows that the store returns tell whether there are more on the side that the page lies on. On
the other side there are some whenever there was a boundary, whatever the store returns, while the
cursors are those of the page's own rows. So a page without rows may announce a neighbour on the
side that its cursor came from, and have no cursor to get back to it.

* `Page.announces`    : the page says that there are rows on a side;
* `Page.cursorToward` : the cursor to go on from on a side;
* `Page.Reaches`      : the page has that cursor if it says that there are rows.

Principal result: `CursorQuery.reaches_neighbours`.
-/

namespace DocumentQuery

/-! ## Flags and cursors -/

namespace Page

/-- The page says that there are rows on that side of it. -/
def announces (page : Page) : Side → Bool
  | .before => page.hasPrevious
  | .after => page.hasNext

/-- The cursor to go on from on that side: of the first row backwards, of the last row forwards. -/
def cursorToward (page : Page) : Side → Option String
  | .before => page.startCursor
  | .after => page.endCursor

/-- Rows on that side are not announced without the cursor to reach them. -/
def Reaches (page : Page) (side : Side) : Prop :=
  page.announces side = true → (page.cursorToward side).isSome = true

variable {query : CursorQuery} {rows : List Document} {page : Page}

theorem announces_withCursors (query : CursorQuery) (rows : List Document)
    (first last : Option String) (side : Side) :
    (withCursors query rows first last).announces side =
      if side = query.side then decide (query.limit.toNat < rows.length) else query.bounded := by
  cases hside : query.side with
  | before =>
    rw [withCursors_before hside]
    cases side <;> rfl
  | after =>
    rw [withCursors_after hside]
    cases side <;> rfl

theorem isSome_cursor {sort : SortOrder} {row? : Option Document} {found : Option String}
    (h : cursor sort row? = .ok found) : found.isSome = row?.isSome := by
  cases row? with
  | none =>
    cases h
    rfl
  | some row =>
    obtain ⟨token, _, rfl⟩ := map_eq_ok.1 h
    rfl

theorem cursorToward_withCursors (query : CursorQuery) (rows : List Document)
    (first last : Option String) (side : Side) :
    (withCursors query rows first last).cursorToward side =
      match side with
      | .before => first
      | .after => last := by
  unfold withCursors
  cases side <;> split <;> rfl

/-- A page has both cursors or none: they are those of its first and last row. -/
theorem isSome_cursorToward (h : ofRows query rows = .ok page) (side : Side) :
    (page.cursorToward side).isSome = true ↔ page.rows ≠ [] := by
  obtain ⟨first, last, hfirst, hlast, rfl⟩ := ofRows_eq_ok.1 h
  rw [cursorToward_withCursors, withCursors_rows]
  cases side with
  | before =>
    rw [isSome_cursor hfirst]
    exact List.isSome_head?
  | after =>
    rw [isSome_cursor hlast]
    exact List.getLast?_isSome

theorem kept_ne_nil (hlimit : query.limit ≠ 0) (hrows : rows ≠ []) : kept query rows ≠ [] := by
  have htake : rows.take query.limit.toNat ≠ [] := by
    rw [Ne, List.take_eq_nil_iff, not_or]
    exact ⟨fun hzero => hlimit (UInt64.toNat_inj.1 hzero), hrows⟩
  unfold kept
  split
  · exact fun hnil => htake (List.reverse_eq_nil_iff.1 hnil)
  · exact htake

/-- If there is a row too many, then there is one that the page keeps. -/
theorem reaches_side (hlimit : query.limit ≠ 0) (h : ofRows query rows = .ok page) :
    page.Reaches query.side := by
  intro hannounces
  rw [isSome_cursorToward h]
  obtain ⟨first, last, _, _, rfl⟩ := ofRows_eq_ok.1 h
  rw [announces_withCursors, if_pos rfl, decide_eq_true_eq] at hannounces
  rw [withCursors_rows]
  exact kept_ne_nil hlimit (List.length_pos_iff.1 (Nat.zero_lt_of_lt hannounces))

/-- On the other side it is the boundary that counts, and not the rows. -/
theorem reaches_opposite_iff (h : ofRows query rows = .ok page) :
    page.Reaches query.side.opposite ↔ page.rows ≠ [] ∨ query.bounded = false := by
  have hannounces : page.announces query.side.opposite = query.bounded := by
    obtain ⟨first, last, _, _, rfl⟩ := ofRows_eq_ok.1 h
    rw [announces_withCursors, if_neg (by cases query.side <;> nofun)]
  rw [Reaches, hannounces, isSome_cursorToward h]
  cases query.bounded <;> simp

end Page

/-! ## Requests -/

namespace CursorQuery

open Cursor (Parts valuesOf)

/-- **A page with rows has both cursors.** A page of at least one row does not announce more rows
on the side that it lies on without the cursor to reach them. On the side that its cursor came from
it does so exactly if there are no rows on it and the request has a token with values. -/
theorem reaches_neighbours {collection : Collection} {request : CursorRequest}
    {query : CursorQuery} {rows : List Document} {page : Page}
    (hquery : ofRequest collection request = .ok query)
    (hpage : Page.ofRows query rows = .ok page) :
    (page.rows ≠ [] → page.startCursor.isSome = true ∧ page.endCursor.isSome = true) ∧
    (request.limit ≠ 0 → page.Reaches request.side) ∧
    (page.Reaches request.side.opposite ↔
      page.rows ≠ [] ∨ valuesOf collection.config request.cursor = .ok []) := by
  obtain ⟨parts, rfl⟩ := ofRequest_eq_ok.1 hquery
  refine ⟨fun hrows => ?_, fun hlimit => Page.reaches_side hlimit hpage, ?_⟩
  · exact ⟨(Page.isSome_cursorToward hpage .before).2 hrows,
      (Page.isSome_cursorToward hpage .after).2 hrows⟩
  · have hbounded : parts.query.bounded = false ↔
        valuesOf collection.config request.cursor = .ok [] := by
      rw [parts.values_eq, Except.ok.injEq, ← List.isEmpty_iff]
      show parts.boundary.isSome = false ↔ _
      rw [parts.isSome_boundary, Bool.not_eq_false']
    rw [← hbounded]
    exact Page.reaches_opposite_iff hpage

/-- The token of the number one. -/
theorem valuesOf_one :
    valuesOf {} (some "FAAAAAR2AAwAAAAQMAABAAAAAAA") = .ok [.int32 1] := by
  have hbytes : Text.Base64.decodeUrl? "FAAAAAR2AAwAAAAQMAABAAAAAAA".toList =
      some [20, 0, 0, 0, 4, 118, 0, 12, 0, 0, 0, 16, 48, 0, 1, 0, 0, 0, 0, 0] := rfl
  exact Cursor.valuesOf_token (List.cons_ne_nil _ _)
    (Cursor.Token.decode_of_payload rfl (by decide) hbytes rfl rfl)

/-- One row before that with identifier 1, and a row too many: there are rows on both sides. -/
theorem reaches_neighbours_before :
    let collection : Collection := ⟨.ofFields [], {}⟩
    let request : CursorRequest :=
      { cursor := some "FAAAAAR2AAwAAAAQMAABAAAAAAA", side := .before, limit := 1 }
    let rows : List Document := [[("_id", .int32 0)], [("_id", .int32 (-1))]]
    let token := some "FAAAAAR2AAwAAAAQMAAAAAAAAAA"
    let page : Page := ⟨[[("_id", .int32 0)]], true, true, token, token⟩
    ∃ query, ofRequest collection request = .ok query ∧ Page.ofRows query rows = .ok page ∧
      page.Reaches .before ∧ page.Reaches .after := by
  intro collection request rows token page
  let parts : Parts collection request :=
    ⟨_, _, _, _, rfl, forM_eq_ok.1 rfl, valuesOf_one, rfl, rfl⟩
  have hquery : ofRequest collection request = .ok parts.query := ofRequest_eq_ok.2 ⟨parts, rfl⟩
  have hsort : parts.query.sort = [⟨"_id", .ascending⟩] := rfl
  have hpage : Page.ofRows parts.query rows = .ok page :=
    @ofRows_of_kept_single parts.query rows _ [.int32 0] _ rfl (by rw [hsort]; rfl) rfl
  obtain ⟨-, hside, hopposite⟩ := reaches_neighbours hquery hpage
  exact ⟨parts.query, hquery, hpage, hside (by decide), hopposite.2 (.inl (List.cons_ne_nil _ _))⟩

/-- Behind the row with identifier 1 the store has no more rows. The page says that there are some
before it, and has no cursor. -/
theorem announces_without_cursor :
    ¬∀ (collection : Collection) (request : CursorRequest) (query : CursorQuery)
      (rows : List Document) (page : Page), ofRequest collection request = .ok query →
        Page.ofRows query rows = .ok page →
          (page.hasNext = true → page.endCursor.isSome = true) ∧
            (page.hasPrevious = true → page.startCursor.isSome = true) := by
  intro h
  let collection : Collection := ⟨.ofFields [], {}⟩
  let request : CursorRequest := { cursor := some "FAAAAAR2AAwAAAAQMAABAAAAAAA" }
  let parts : Parts collection request :=
    ⟨_, _, _, _, rfl, forM_eq_ok.1 rfl, valuesOf_one, rfl, rfl⟩
  have hquery : ofRequest collection request = .ok parts.query := ofRequest_eq_ok.2 ⟨parts, rfl⟩
  have hpage : Page.ofRows parts.query [] = .ok ⟨[], false, true, none, none⟩ := rfl
  have hstart := (h collection request parts.query [] _ hquery hpage).2 rfl
  cases hstart

end CursorQuery

end DocumentQuery
