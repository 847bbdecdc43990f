import DocumentQuery.Proofs.Compilation
import DocumentQuery.Proofs.FirstError
import DocumentQuery.Repository

/-!
# Pages of a repository

* `Page.kept`              : the rows of the page, in the order that was asked for;
* `Page.ofRows_eq_ok`      : there is a page exactly if its first and last row have cursors;
* `Repository.page_result` : the page of a request, by way of its query and the store's answer;
* `Repository.page_eq_ok`  : there is a page only that way.
-/

namespace DocumentQuery

namespace Page

/-- The rows without the one that is too many, in the order that was asked for. -/
def kept (query : CursorQuery) (rows : List Document) : List Document :=
  if query.reverse then (rows.take query.limit.toNat).reverse else rows.take query.limit.toNat

/-- The page of those rows, with cursors. -/
def withCursors (query : CursorQuery) (rows : List Document) (first last : Option String) : Page :=
  let hasMore := decide (query.limit.toNat < rows.length)
  match query.side with
  | .after => ⟨kept query rows, hasMore, query.bounded, first, last⟩
  | .before => ⟨kept query rows, query.bounded, hasMore, first, last⟩

theorem kept_forward {query : CursorQuery} (h : query.reverse = false) (rows : List Document) :
    kept query rows = rows.take query.limit.toNat := by
  rw [kept, h]
  rfl

/-- One row more than the page has does not belong to it. -/
theorem kept_take {query : CursorQuery} (h : query.reverse = false) (rows : List Document) :
    kept query (rows.take (query.limit.toNat + 1)) = rows.take query.limit.toNat := by
  rw [kept_forward h, List.take_take, Nat.min_eq_left (Nat.le_succ _)]

theorem kept_backward {query : CursorQuery} (h : query.reverse = true) (rows : List Document) :
    kept query rows = (rows.take query.limit.toNat).reverse := by
  rw [kept, h]
  rfl

/-- Of rows in reverse it is the last ones that a page keeps. -/
theorem kept_take_reverse {query : CursorQuery} (h : query.reverse = true)
    (rows : List Document) :
    kept query (rows.reverse.take (query.limit.toNat + 1)) =
      rows.drop (rows.length - query.limit.toNat) := by
  rw [kept_backward h, List.take_take, Nat.min_eq_left (Nat.le_succ _), List.take_reverse,
    List.reverse_reverse]

theorem withCursors_before {query : CursorQuery} (h : query.side = .before)
    (rows : List Document) (first last : Option String) :
    withCursors query rows first last =
      ⟨kept query rows, query.bounded, decide (query.limit.toNat < rows.length), first, last⟩ := by
  rw [withCursors, h]

theorem withCursors_rows (query : CursorQuery) (rows : List Document)
    (first last : Option String) : (withCursors query rows first last).rows = kept query rows := by
  unfold withCursors
  split <;> rfl

theorem withCursors_after {query : CursorQuery} (h : query.side = .after) (rows : List Document)
    (first last : Option String) :
    withCursors query rows first last =
      ⟨kept query rows, decide (query.limit.toNat < rows.length), query.bounded, first, last⟩ := by
  rw [withCursors, h]

theorem ofRows_eq (query : CursorQuery) (rows : List Document) :
    ofRows query rows =
      (cursor query.sort (kept query rows).head?).bind fun first =>
        (cursor query.sort (kept query rows).getLast?).bind fun last =>
          .ok (withCursors query rows first last) := by
  unfold withCursors
  cases hside : query.side <;> simp only [ofRows, hside] <;> rfl

theorem ofRows_eq_ok {query : CursorQuery} {rows : List Document} {page : Page} :
    ofRows query rows = .ok page ↔
      ∃ first last, cursor query.sort (kept query rows).head? = .ok first ∧
        cursor query.sort (kept query rows).getLast? = .ok last ∧
        page = withCursors query rows first last := by
  rw [ofRows_eq]
  constructor
  · intro h
    obtain ⟨first, hfirst, h⟩ := bind_eq_ok.1 h
    obtain ⟨last, hlast, h⟩ := bind_eq_ok.1 h
    exact ⟨first, last, hfirst, hlast, (Except.ok.inj h).symm⟩
  · rintro ⟨first, last, hfirst, hlast, rfl⟩
    exact bind_eq_ok.2 ⟨first, hfirst, bind_eq_ok.2 ⟨last, hlast, rfl⟩⟩

theorem mem_of_mem_kept {query : CursorQuery} {rows : List Document} {row : Document}
    (h : row ∈ kept query rows) : row ∈ rows := by
  unfold kept at h
  split at h
  · exact List.mem_of_mem_take (List.mem_reverse.1 h)
  · exact List.mem_of_mem_take h

/-- A row has a cursor if its key can be written. -/
theorem exists_cursor {sort : SortOrder} {row? : Option Document}
    (h : ∀ row, row? = some row →
      ∃ token, Cursor.Token.encode (Cursor.Row.key sort row) = .ok token) :
    ∃ token, cursor sort row? = .ok token := by
  cases row? with
  | none => exact ⟨none, rfl⟩
  | some row =>
    obtain ⟨token, htoken⟩ := h row rfl
    exact ⟨some token, map_eq_ok.2 ⟨token, htoken, rfl⟩⟩

theorem exists_ofRows (query : CursorQuery) (rows : List Document)
    (h : ∀ row ∈ rows,
      ∃ token, Cursor.Token.encode (Cursor.Row.key query.sort row) = .ok token) :
    ∃ first last, ofRows query rows = .ok (withCursors query rows first last) ∧
      cursor query.sort (kept query rows).head? = .ok first ∧
      cursor query.sort (kept query rows).getLast? = .ok last := by
  obtain ⟨first, hfirst⟩ := exists_cursor fun row hrow =>
    h row (mem_of_mem_kept (List.mem_of_head? hrow))
  obtain ⟨last, hlast⟩ := exists_cursor fun row hrow =>
    h row (mem_of_mem_kept (List.mem_of_getLast? hrow))
  exact ⟨first, last, ofRows_eq_ok.2 ⟨first, last, hfirst, hlast, rfl⟩, hfirst, hlast⟩

end Page

/-- The page of rows of which it keeps one. -/
theorem CursorQuery.ofRows_of_kept_single {query : CursorQuery} {rows : List Document} {row : Document}
    {values : List Value} {token : String} (hkept : Page.kept query rows = [row])
    (hkey : Cursor.Row.key query.sort row = values) (htoken : Cursor.Token.encode values = .ok token) :
    Page.ofRows query rows = .ok (Page.withCursors query rows (some token) (some token)) := by
  have hcursor : Page.cursor query.sort (some row) = .ok (some token) :=
    map_eq_ok.2 ⟨token, hkey ▸ htoken, rfl⟩
  refine Page.ofRows_eq_ok.2 ⟨_, _, ?_, ?_, rfl⟩
  · rw [hkept]
    exact hcursor
  · rw [hkept]
    exact hcursor

/-! ## Requests -/

theorem Repository.page_result {repository : Repository} {request : CursorRequest}
    {query : CursorQuery} {rows : List Document} {page : Page}
    (hquery : CursorQuery.ofRequest repository.collection request = .ok query)
    (hrows : repository.store.find query.find = .ok rows)
    (hpage : Page.ofRows query rows = .ok page) :
    (repository.page request).result = .ok page := by
  have hcompiled := (Compilation.page_result repository.collection request).trans hquery
  rw [Repository.page, send, hcompiled]
  simp only [conclude, hrows, hpage]
  rfl

/-- A page is that of the rows which the store answers to the query of the request. -/
theorem Repository.page_eq_ok {repository : Repository} {request : CursorRequest} {page : Page} :
    (repository.page request).result = .ok page ↔
      ∃ query rows, CursorQuery.ofRequest repository.collection request = .ok query ∧
        repository.store.find query.find = .ok rows ∧ Page.ofRows query rows = .ok page := by
  constructor
  · intro h
    have hcompiled := Compilation.page_result repository.collection request
    rw [Repository.page, send] at h
    split at h
    · cases h
    · rename_i query hquery
      rw [hcompiled] at hquery
      simp only [conclude] at h
      split at h
      · cases h
      · rename_i rows hrows
        refine ⟨query, rows, hquery, hrows, ?_⟩
        cases hpage : Page.ofRows query rows with
        | error error =>
          rw [hpage] at h
          cases h
        | ok found =>
          rw [hpage] at h
          rw [Except.ok.inj h]
  · rintro ⟨query, rows, hquery, hrows, hpage⟩
    exact page_result hquery hrows hpage

/-- The cursors of a page are those of its own first and last row. -/
theorem Repository.cursors_of_page {repository : Repository} {request : CursorRequest}
    {page : Page} (h : (repository.page request).result = .ok page) :
    ∃ query, CursorQuery.ofRequest repository.collection request = .ok query ∧
      Page.cursor query.sort page.rows.head? = .ok page.startCursor ∧
      Page.cursor query.sort page.rows.getLast? = .ok page.endCursor := by
  obtain ⟨query, rows, hquery, _, hpage⟩ := page_eq_ok.1 h
  obtain ⟨first, last, hfirst, hlast, rfl⟩ := Page.ofRows_eq_ok.1 hpage
  refine ⟨query, hquery, ?_⟩
  rw [Page.withCursors_rows, hfirst, hlast]
  unfold Page.withCursors
  split <;> exact ⟨rfl, rfl⟩

end DocumentQuery
