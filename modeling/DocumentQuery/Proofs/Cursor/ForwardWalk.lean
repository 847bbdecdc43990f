import DocumentQuery.Proofs.Cursor.Page
import DocumentQuery.Proofs.Cursor.Remaining

/-!
# Walks through all pages

A caller asks for the first page, and as long as there is a next one, for the page behind the last
cursor. The pages are a division of the rows that match: what a cursor leaves is the rest of them,
and every page takes its rows off the front.

* `Walk`                  : the pages that the caller gets;
* `Walkable.forward_page` : a page takes its rows off what the cursor leaves;
* `Walkable.exists_walk`  : the pages from a cursor on.

Principal result: `Walkable.forward_walk`.
-/

namespace DocumentQuery

open Cursor (Row.key Row.lookup? Row.valueAt Token.decode Token.encode)
open Cursor.Keyset (effectiveSort exists_leads)

/-- The pages from a cursor on, up to one without a next page. -/
inductive Walk (repository : Repository) (request : CursorRequest) :
    Option String → List Page → Prop where
  | last {cursor : Option String} {page : Page}
      (hpage : (repository.page (request.beside .after cursor)).result = .ok page)
      (hnext : page.hasNext = false) : Walk repository request cursor [page]
  | next {cursor : Option String} {page : Page} {pages : List Page}
      (hpage : (repository.page (request.beside .after cursor)).result = .ok page)
      (hnext : page.hasNext = true) (hrest : Walk repository request page.endCursor pages) :
      Walk repository request cursor (page :: pages)

namespace Walk

variable {repository : Repository} {request : CursorRequest} {cursor : Option String}
  {pages : List Page}

theorem ne_nil (h : Walk repository request cursor pages) : pages ≠ [] := by
  cases h <;> exact List.cons_ne_nil _ _

/-- There is one walk at most. -/
theorem unique (h : Walk repository request cursor pages) {others : List Page}
    (hothers : Walk repository request cursor others) : others = pages := by
  induction h generalizing others with
  | last hpage hnext =>
    cases hothers with
    | last hpage' _ => rw [Except.ok.inj (hpage'.symm.trans hpage)]
    | next hpage' hnext' _ =>
      rw [Except.ok.inj (hpage'.symm.trans hpage), hnext] at hnext'
      cases hnext'
  | next hpage hnext _ ih =>
    cases hothers with
    | last hpage' hnext' =>
      rw [Except.ok.inj (hpage'.symm.trans hpage), hnext] at hnext'
      cases hnext'
    | next hpage' _ hrest' =>
      rw [Except.ok.inj (hpage'.symm.trans hpage)] at hrest' ⊢
      rw [ih hrest']

end Walk

/-! ## Pages in a row -/

namespace Page

/-- Pages that follow one another, behind a boundary or not: one has a next page unless it is the
last, and a previous one unless it is the first and there is no boundary. All but the last are
full. -/
def Consecutive (limit : Nat) (bounded : Bool) (pages : List Page) : Prop :=
  ∀ before page after, pages = before ++ page :: after →
    page.hasNext = !after.isEmpty ∧
    page.hasPrevious = (bounded || !before.isEmpty) ∧
    (after ≠ [] → page.rows.length = limit)

namespace Consecutive

variable {limit : Nat} {bounded : Bool} {page : Page} {pages : List Page}

theorem single (hnext : page.hasNext = false) (hprevious : page.hasPrevious = bounded) :
    Consecutive limit bounded [page] := by
  intro before other after hsplit
  cases before with
  | nil =>
    obtain ⟨rfl, rfl⟩ := List.cons.inj hsplit
    refine ⟨hnext, ?_, fun hne => absurd rfl hne⟩
    rw [hprevious, List.isEmpty_nil, Bool.not_true, Bool.or_false]
  | cons first before =>
    have hlengths := congrArg List.length hsplit
    simp only [List.length_cons, List.length_append, List.length_nil] at hlengths
    omega

theorem cons (hrest : Consecutive limit true pages) (hpages : pages ≠ [])
    (hnext : page.hasNext = true) (hprevious : page.hasPrevious = bounded)
    (hfull : page.rows.length = limit) : Consecutive limit bounded (page :: pages) := by
  intro before other after hsplit
  cases before with
  | nil =>
    obtain ⟨rfl, rfl⟩ := List.cons.inj hsplit
    refine ⟨?_, ?_, fun _ => hfull⟩
    · rw [hnext, List.isEmpty_eq_false_iff.2 hpages]
      rfl
    · rw [hprevious, List.isEmpty_nil, Bool.not_true, Bool.or_false]
  | cons first before =>
    obtain ⟨rfl, htail⟩ := List.cons.inj hsplit
    obtain ⟨hnext', hprevious', hfull'⟩ := hrest before other after htail
    refine ⟨hnext', ?_, hfull'⟩
    rw [hprevious', Bool.true_or, List.isEmpty_cons, Bool.not_false, Bool.or_true]

end Consecutive

end Page

namespace Walkable

variable {engine : Engine} {rows : List Document} {collection : Collection} {store : Store}
  {request : CursorRequest} {filter : Document} {ordered : List Document}

/-! ## One page -/

theorem exists_getLast?_take {count : Nat} {rows : List Document} (hpositive : 1 ≤ count)
    (hlength : count < rows.length) : ∃ row, (rows.take count).getLast? = some row := by
  cases hrow : (rows.take count).getLast? with
  | some row => exact ⟨row, rfl⟩
  | none =>
    have hempty := congrArg List.length (List.getLast?_eq_none_iff.1 hrow)
    rw [List.length_take, List.length_nil] at hempty
    omega

/-- **A page takes its rows off what the cursor leaves**, and its last cursor leaves the rest. -/
theorem forward_page (h : Walkable engine rows collection store request)
    (hfilter : Filter.compile collection request.filter = .ok filter)
    (hordered : engine.Arranges rows filter
      (SortOrder.document (effectiveSort collection.config request.sort)) ordered)
    {cursor : Option String} {remaining : List Document}
    (hremaining : Remaining collection.config (effectiveSort collection.config request.sort)
      ordered cursor remaining) :
    ∃ page, ((Repository.mk collection store).page (request.beside .after cursor)).result =
        .ok page ∧
      page.rows = remaining.take request.limit.toNat ∧
      page.hasNext = decide (request.limit.toNat < remaining.length) ∧
      page.hasPrevious = cursor.isSome ∧
      (page.hasNext = true → page.endCursor.isSome = true ∧
        Remaining collection.config (effectiveSort collection.config request.sort) ordered
          page.endCursor (remaining.drop request.limit.toNat)) := by
  obtain ⟨parts, hbounded, hanswer⟩ := h.find_answer .after hfilter hordered hremaining
  have hreadable := h.readable_remaining hordered hremaining
  obtain ⟨first, last, hpage, -, hlast⟩ :=
    Page.exists_ofRows parts.query (remaining.take (request.limit.toNat + 1)) fun row hrow =>
      (hreadable row (List.mem_of_mem_take hrow)).imp fun _ => And.left
  have hkept : Page.kept parts.query (remaining.take (request.limit.toNat + 1)) =
      remaining.take request.limit.toNat := Page.kept_take rfl remaining
  have hmore : decide (request.limit.toNat <
      (remaining.take (request.limit.toNat + 1)).length) =
        decide (request.limit.toNat < remaining.length) := by
    rw [List.length_take]
    exact decide_eq_decide.2 (by omega)
  rw [Page.withCursors_after rfl, hkept] at hpage
  rw [hkept] at hlast
  refine ⟨_, Repository.page_result (CursorQuery.ofRequest_eq_ok.2 ⟨parts, rfl⟩) hanswer hpage,
    rfl, hmore, hbounded, fun hnext => ?_⟩
  -- With a next page this one is full, so that it has a last row.
  have hlength : request.limit.toNat < remaining.length :=
    of_decide_eq_true (hmore.symm.trans hnext)
  obtain ⟨row, hrow⟩ := exists_getLast?_take h.positive hlength
  obtain ⟨token, hencode, hdecode⟩ :=
    hreadable row (List.mem_of_mem_take (List.mem_of_getLast? hrow))
  have hwritten : Page.cursor parts.query.sort (some row) = .ok (some token) :=
    map_eq_ok.2 ⟨token, hencode, rfl⟩
  rw [hrow, hwritten] at hlast
  rw [← Except.ok.inj hlast]
  exact ⟨rfl, hremaining.drop hrow hdecode⟩

/-! ## All pages -/

/-- **From any cursor on there is a walk**, and it gives the rows that the cursor leaves. -/
theorem exists_walk (h : Walkable engine rows collection store request)
    (hfilter : Filter.compile collection request.filter = .ok filter)
    (hordered : engine.Arranges rows filter
      (SortOrder.document (effectiveSort collection.config request.sort)) ordered)
    {cursor : Option String} {remaining : List Document}
    (hremaining : Remaining collection.config (effectiveSort collection.config request.sort)
      ordered cursor remaining) :
    ∃ pages, Walk ⟨collection, store⟩ request cursor pages ∧
      pages.flatMap Page.rows = remaining ∧
      Page.Consecutive request.limit.toNat cursor.isSome pages ∧
      (remaining ≠ [] → ∀ page ∈ pages, page.rows ≠ []) := by
  induction hn : remaining.length using Nat.strongRecOn generalizing cursor remaining with
  | ind n ih =>
    subst hn
    have hpositive := h.positive
    obtain ⟨page, hpage, hrows, hnext, hprevious, hrest⟩ :=
      h.forward_page hfilter hordered hremaining
    have hnonempty : remaining ≠ [] → page.rows ≠ [] := by
      intro hne hnil
      rw [hrows, List.take_eq_nil_iff] at hnil
      rcases hnil with hzero | hnil
      · omega
      · exact hne hnil
    by_cases hmore : request.limit.toNat < remaining.length
    · have hnext' : page.hasNext = true := hnext.trans (decide_eq_true hmore)
      have hfull : page.rows.length = request.limit.toNat := by
        rw [hrows, List.length_take]
        omega
      have hless : (remaining.drop request.limit.toNat).length < remaining.length := by
        rw [List.length_drop]
        omega
      have hleft : remaining.drop request.limit.toNat ≠ [] := by
        rw [Ne, List.drop_eq_nil_iff]
        omega
      obtain ⟨hsome, hleaves⟩ := hrest hnext'
      obtain ⟨pages, hwalk, hflat, hconsecutive, hfilled⟩ := ih _ hless hleaves rfl
      rw [hsome] at hconsecutive
      refine ⟨page :: pages, .next hpage hnext' hwalk, ?_,
        hconsecutive.cons hwalk.ne_nil hnext' hprevious hfull, fun hne => ?_⟩
      · rw [List.flatMap_cons, hrows, hflat, List.take_append_drop]
      · exact List.forall_mem_cons.2 ⟨hnonempty hne, hfilled hleft⟩
    · have hnext' : page.hasNext = false := hnext.trans (decide_eq_false hmore)
      refine ⟨[page], .last hpage hnext', ?_, .single hnext' hprevious, fun hne => ?_⟩
      · rw [List.flatMap_cons, List.flatMap_nil, List.append_nil, hrows,
          List.take_of_length_le (Nat.le_of_not_lt hmore)]
      · exact List.forall_mem_singleton.2 (hnonempty hne)

/-- **A walk through all pages is exact.** There is one, and only one; its pages are together the
rows that match, each once and in the order of the sort document. A page has a next one unless it
is the last, and a previous one unless it is the first; all but the last are full, and none is
empty unless no row matches. -/
theorem forward_walk (h : Walkable engine rows collection store request) :
    ∃ pages filter, Filter.compile collection request.filter = .ok filter ∧
      (∀ found, Walk ⟨collection, store⟩ request none found ↔ found = pages) ∧
      engine.Arranges rows filter
        (SortOrder.document (effectiveSort collection.config request.sort))
        (pages.flatMap Page.rows) ∧
      (pages.flatMap Page.rows).Pairwise (fun r s => engine.order.precedes
        (SortOrder.document (effectiveSort collection.config request.sort)) r s = true) ∧
      Page.Consecutive request.limit.toNat false pages ∧
      (pages.flatMap Page.rows ≠ [] → ∀ page ∈ pages, page.rows ≠ []) := by
  obtain ⟨filter, hfilter⟩ := h.compiles
  have hordered := engine.arranges_sorted rows filter
    (SortOrder.document (effectiveSort collection.config request.sort))
  obtain ⟨pages, hwalk, hflat, hconsecutive, hfilled⟩ :=
    h.exists_walk hfilter hordered .all
  refine ⟨pages, filter, hfilter, fun found => ⟨hwalk.unique, ?_⟩, ?_, ?_, hconsecutive, ?_⟩
  · rintro rfl
    exact hwalk
  · rw [hflat]
    exact hordered
  · obtain ⟨d, rest, hleads⟩ := exists_leads h.leading
    have hby := h.orderedBy_identifier hleads .after hordered
    obtain ⟨others, hothers⟩ := exists_document hleads .after
    have hdocument : SortOrder.document (effectiveSort collection.config request.sort) =
        (collection.config.idField, .int32 d.sign) :: others := hothers
    rw [hflat]
    refine hby.imp fun hrs => ?_
    rw [hdocument, ValueOrder.precedes_cons, Direction.ofValue_sign]
    exact .inl hrs
  · rw [hflat]
    exact hfilled

/-- Two pages of one row each, of three rows in no order. -/
theorem forward_walk_two :
    let collection : Collection := ⟨.ofFields [], {}⟩
    let engine : Engine := .ofOrder (.ofRank fun value =>
      match value with
      | .int32 n => n.toInt
      | _ => 0)
    let rows : List Document := [[("_id", .int32 2)], [("_id", .int32 3)], [("_id", .int32 1)]]
    let request : CursorRequest :=
      { filter := [.field ⟨"id", [⟨.greater, .int32 1⟩]⟩], limit := 1 }
    ∃ pages, Walk ⟨collection, engine.store rows⟩ request none pages ∧
      (pages.flatMap Page.rows).Perm [[("_id", .int32 2)], [("_id", .int32 3)]] ∧
      Page.Consecutive 1 false pages := by
  intro collection engine rows request
  have hpresent : ∀ row ∈ rows, ∃ value, Row.lookup? row "_id" = some value :=
    List.forall_mem_cons.2 ⟨⟨_, rfl⟩, List.forall_mem_cons.2 ⟨⟨_, rfl⟩,
      List.forall_mem_singleton.2 ⟨_, rfl⟩⟩⟩
  have hreadable : ∀ row ∈ rows, ∃ token,
      Token.encode (Row.key [⟨"_id", .ascending⟩] row) = .ok token ∧
      Token.decode 8192 token = .ok (Row.key [⟨"_id", .ascending⟩] row) := by
    have htwo : Text.Base64.decodeUrl? "FAAAAAR2AAwAAAAQMAACAAAAAAA".toList =
        some [20, 0, 0, 0, 4, 118, 0, 12, 0, 0, 0, 16, 48, 0, 2, 0, 0, 0, 0, 0] := rfl
    have hthree : Text.Base64.decodeUrl? "FAAAAAR2AAwAAAAQMAADAAAAAAA".toList =
        some [20, 0, 0, 0, 4, 118, 0, 12, 0, 0, 0, 16, 48, 0, 3, 0, 0, 0, 0, 0] := rfl
    have hone : Text.Base64.decodeUrl? "FAAAAAR2AAwAAAAQMAABAAAAAAA".toList =
        some [20, 0, 0, 0, 4, 118, 0, 12, 0, 0, 0, 16, 48, 0, 1, 0, 0, 0, 0, 0] := rfl
    refine List.forall_mem_cons.2 ⟨⟨"FAAAAAR2AAwAAAAQMAACAAAAAAA", rfl, ?_⟩,
      List.forall_mem_cons.2 ⟨⟨"FAAAAAR2AAwAAAAQMAADAAAAAAA", rfl, ?_⟩,
        List.forall_mem_singleton.2 ⟨"FAAAAAR2AAwAAAAQMAABAAAAAAA", rfl, ?_⟩⟩⟩
    · exact Cursor.Token.decode_of_payload rfl (by decide) htwo rfl rfl
    · exact Cursor.Token.decode_of_payload rfl (by decide) hthree rfl rfl
    · exact Cursor.Token.decode_of_payload rfl (by decide) hone rfl rfl
  have hwalkable : Walkable engine rows collection (engine.store rows) request :=
    { serves := engine.serves_store rows
      identifies := ⟨hpresent, by decide⟩
      untimed := fun _ hkind => by cases hkind
      compiles := ⟨_, rfl⟩
      known := fun _ htoken => by cases htoken
      leading := fun _ htoken => by cases htoken
      whole := rfl
      positive := by decide
      limited := by decide
      readable := hreadable }
  obtain ⟨pages, filter, hfilter, hwalk, harranges, -, hconsecutive, -⟩ :=
    forward_walk hwalkable
  refine ⟨pages, (hwalk pages).2 rfl, ?_, hconsecutive⟩
  have hcompiled : Filter.compile collection request.filter =
      .ok [("_id", .document [("$gt", .int32 1)])] := rfl
  have hmatching : rows.filter (engine.satisfies [("_id", .document [("$gt", .int32 1)])]) =
      [[("_id", .int32 2)], [("_id", .int32 3)]] := rfl
  rw [← hmatching, Except.ok.inj (hcompiled.symm.trans hfilter)]
  exact harranges.perm

end Walkable

end DocumentQuery
