import DocumentQuery.Proofs.Cursor.ForwardWalk
import DocumentQuery.Proofs.Cursor.TokenRoundTrip

/-!
# Pages before a cursor

The rows before a cursor's row are those behind it in the reverse order, and it is in this order
that the store returns them. Of these the page keeps the nearest ones and turns them round. A
caller who walked forward and asks for the page before the first row of the page he is on gets the
page he came from.

* `Walkable.arranges_reverse` : the order of the store for pages before a cursor;
* `Walkable.backward_page`    : a page before a row has the last rows that precede it;
* `Walkable.hasNext_unlimited` : with the greatest limit there is only one page.

Principal result: `Walkable.page_back`.
-/

namespace DocumentQuery

open Cursor (Parts Row.key Row.lookup? Row.valueAt Token.decode Token.encode)
open Cursor.Keyset (effectiveSort exists_leads)

/-! ## The reverse order -/

theorem ValueOrder.ahead_reversed (order : ValueOrder) (d : Direction) (a b : Value) :
    order.ahead d.reversed a b = order.ahead d b a := by
  cases d <;> rfl

theorem Engine.OrderedBy.reverse {engine : Engine} {field : String} {d : Direction}
    {rows : List Document} (h : engine.OrderedBy field d rows) :
    engine.OrderedBy field d.reversed rows.reverse := by
  rw [OrderedBy, List.pairwise_reverse]
  refine List.Pairwise.imp ?_ h
  intro r s hrs
  rw [ValueOrder.ahead_reversed]
  exact hrs

/-! ## Pages of a walk -/

namespace Walk

variable {repository : Repository} {request : CursorRequest} {cursor : Option String}
  {pages : List Page}

/-- Every page of a walk is one that was asked for. -/
theorem exists_cursor (h : Walk repository request cursor pages) {page : Page}
    (hpage : page ∈ pages) :
    ∃ cursor, (repository.page (request.beside .after cursor)).result = .ok page := by
  induction h with
  | last hfound _ =>
    rw [List.mem_singleton] at hpage
    exact ⟨_, hpage ▸ hfound⟩
  | next hfound _ _ ih =>
    rcases List.mem_cons.1 hpage with rfl | hpage
    · exact ⟨_, hfound⟩
    · exact ih hpage

theorem hasNext_of_split (h : Walk repository request cursor pages) {before after : List Page}
    {previous page : Page} (hsplit : pages = before ++ previous :: page :: after) :
    previous.hasNext = true := by
  induction h generalizing before with
  | last _ _ =>
    have hlength := congrArg List.length hsplit
    simp only [List.length_append, List.length_cons, List.length_nil] at hlength
    omega
  | next _ hnext _ ih =>
    cases before with
    | nil =>
      obtain ⟨rfl, _⟩ := List.cons.inj hsplit
      exact hnext
    | cons first before => exact ih (List.cons.inj hsplit).2

end Walk

/-- The request with another limit. -/
def CursorRequest.limitedTo (request : CursorRequest) (limit : UInt64) : CursorRequest :=
  { request with limit }

namespace Walkable

variable {engine : Engine} {rows : List Document} {collection : Collection} {store : Store}
  {request : CursorRequest} {filter : Document} {ordered : List Document}

theorem limitedTo (h : Walkable engine rows collection store request) {limit : UInt64}
    (hpositive : 1 ≤ limit.toNat) (hlimited : limit.toNat < Number.maxCount) :
    Walkable engine rows collection store (request.limitedTo limit) :=
  { h with positive := hpositive, limited := hlimited }

/-! ## One page -/

/-- For a page before a cursor the store returns the rows in the reverse order. -/
theorem arranges_reverse (h : Walkable engine rows collection store request)
    (hordered : engine.Arranges rows filter
      (SortOrder.document (effectiveSort collection.config request.sort)) ordered) :
    engine.Arranges rows filter (SortOrder.document (CursorQuery.storeSort .before
      (effectiveSort collection.config request.sort))) ordered.reverse := by
  obtain ⟨d, rest, hleads⟩ := exists_leads h.leading
  have hsorted := engine.arranges_sorted rows filter (SortOrder.document
    (CursorQuery.storeSort .before (effectiveSort collection.config request.sort)))
  have hforward := h.orderedBy_identifier hleads .after hordered
  have hbackward := h.orderedBy_identifier hleads .before hsorted
  have hsame : ordered.reverse = engine.sorted rows filter (SortOrder.document
      (CursorQuery.storeSort .before (effectiveSort collection.config request.sort))) :=
    hforward.reverse.eq_of_perm hbackward
      ((List.reverse_perm ordered).trans (hordered.perm.trans hsorted.perm.symm))
  rw [hsame]
  exact hsorted

/-- **A page before a row has the last rows that precede it**, in the order that was asked for. -/
theorem backward_page (h : Walkable engine rows collection store request)
    (hfilter : Filter.compile collection request.filter = .ok filter)
    (hordered : engine.Arranges rows filter
      (SortOrder.document (effectiveSort collection.config request.sort)) ordered)
    {front behind : List Document} {row : Document} {token : String}
    (hsplit : ordered = front ++ row :: behind)
    (htoken : Token.decode collection.config.maxTokenLength token =
      .ok (Row.key (effectiveSort collection.config request.sort) row)) :
    ∃ page, ((Repository.mk collection store).page (request.beside .before (some token))).result =
        .ok page ∧
      page.rows = front.drop (front.length - request.limit.toNat) ∧
      page.hasNext = true ∧
      page.hasPrevious = decide (request.limit.toNat < front.length) := by
  have hreverse : ordered.reverse = behind.reverse ++ row :: front.reverse := by
    rw [hsplit, List.reverse_append, List.reverse_cons, List.append_assoc]
    rfl
  have hremaining : Remaining collection.config
      (effectiveSort collection.config request.sort) ordered.reverse (some token) front.reverse :=
    .behind hreverse htoken
  have harranges := h.arranges_reverse hordered
  obtain ⟨parts, hbounded, hanswer⟩ := h.find_answer .before hfilter harranges hremaining
  have hreadable := h.readable_remaining harranges hremaining
  obtain ⟨first, last, hpage, -, -⟩ :=
    Page.exists_ofRows parts.query (front.reverse.take (request.limit.toNat + 1)) fun row hrow =>
      (hreadable row (List.mem_of_mem_take hrow)).imp fun _ => And.left
  have hkept : Page.kept parts.query (front.reverse.take (request.limit.toNat + 1)) =
      front.drop (front.length - request.limit.toNat) := Page.kept_take_reverse rfl front
  have hmore : decide (request.limit.toNat <
      (front.reverse.take (request.limit.toNat + 1)).length) =
        decide (request.limit.toNat < front.length) := by
    rw [List.length_take, List.length_reverse]
    exact decide_eq_decide.2 (by omega)
  rw [Page.withCursors_before rfl, hkept] at hpage
  exact ⟨_, Repository.page_result (CursorQuery.ofRequest_eq_ok.2 ⟨parts, rfl⟩) hanswer hpage, rfl,
    hbounded, hmore⟩

/-- There is no sentinel row beyond the greatest limit, so that no page has a next one. -/
theorem hasNext_unlimited (h : Walkable engine rows collection store request) {limit : UInt64}
    (hlimit : Number.maxCount ≤ limit.toNat) {cursor : Option String} {page : Page}
    (hpage : ((Repository.mk collection store).page
      ((request.limitedTo limit).beside .after cursor)).result = .ok page) :
    page.hasNext = false := by
  obtain ⟨query, answer, hquery, hfind, hofRows⟩ := Repository.page_eq_ok.1 hpage
  obtain ⟨parts, rfl⟩ := CursorQuery.ofRequest_eq_ok.1 hquery
  have hprojection : parts.query.find.projection = none := by
    have hcompiled := parts.projection_eq
    have hwhole : ((request.limitedTo limit).beside .after cursor).fields = [] := h.whole
    rw [hwhole] at hcompiled
    exact (Except.ok.inj hcompiled).symm
  obtain ⟨found, hfound, sorted, -, rfl⟩ := h.serves parts.query.find hprojection
  have hwindow : parts.query.find.window.apply sorted =
      sorted.take (Number.saturatingAdd limit 1).toNat := Window.apply_limit _ _
  have hsentinel : (Number.saturatingAdd limit 1).toNat ≤ limit.toNat := by
    rw [Number.saturatingAdd, Number.toNat_saturate]
    omega
  rw [Except.ok.inj (hfind.symm.trans hfound), hwindow] at hofRows
  obtain ⟨first, last, -, -, rfl⟩ := Page.ofRows_eq_ok.1 hofRows
  rw [Page.withCursors_after rfl]
  refine decide_eq_false ?_
  have hshort := List.length_take_le (Number.saturatingAdd limit 1).toNat sorted
  have hsame : parts.query.limit = limit := rfl
  rw [hsame]
  omega

/-! ## Forward and back -/

/-- The cursors of a page are those of its first and last row, on either side. -/
theorem cursors_of_page {side : Side} {cursor : Option String} {page : Page}
    (h : ((Repository.mk collection store).page (request.beside side cursor)).result = .ok page) :
    Page.cursor (effectiveSort collection.config request.sort) page.rows.head? =
        .ok page.startCursor ∧
      Page.cursor (effectiveSort collection.config request.sort) page.rows.getLast? =
        .ok page.endCursor := by
  obtain ⟨query, hquery, hcursors⟩ := Repository.cursors_of_page h
  obtain ⟨parts, rfl⟩ := CursorQuery.ofRequest_eq_ok.1 hquery
  exact hcursors

/-- A page that is not empty has the cursor of its first row, and it can be read back. -/
theorem exists_startCursor (h : Walkable engine rows collection store request) {side : Side}
    {cursor : Option String} {page : Page} {row : Document} {rest : List Document}
    (hpage : ((Repository.mk collection store).page (request.beside side cursor)).result =
      .ok page)
    (hrows : page.rows = row :: rest) (hrow : row ∈ rows) :
    ∃ token, page.startCursor = some token ∧
      Token.decode collection.config.maxTokenLength token =
        .ok (Row.key (effectiveSort collection.config request.sort) row) := by
  obtain ⟨hstart, _⟩ := cursors_of_page hpage
  obtain ⟨token, hencode, hdecode⟩ := h.readable row hrow
  have hwritten : Page.cursor (effectiveSort collection.config request.sort) (some row) =
      .ok (some token) := map_eq_ok.2 ⟨token, hencode, rfl⟩
  rw [hrows, List.head?_cons, hwritten] at hstart
  exact ⟨token, (Except.ok.inj hstart).symm, hdecode⟩

/-- Where pages are not empty there are rows before a page exactly if there are pages. -/
theorem lt_length_front_iff {limit : Nat} {before : List Page} {previous : Page}
    (hfull : previous.rows.length = limit) (hfilled : ∀ page ∈ before, page.rows ≠ []) :
    limit < (before.flatMap Page.rows ++ previous.rows).length ↔ before.isEmpty = false := by
  have hlength := @List.length_append _ (before.flatMap Page.rows) previous.rows
  have hsome : (before.flatMap Page.rows).length = 0 ↔ before.isEmpty = true := by
    rw [List.length_eq_zero_iff, List.flatMap_eq_nil_iff, List.isEmpty_iff]
    constructor
    · intro hempty
      cases before with
      | nil => rfl
      | cons first _ =>
        exact absurd (hempty first List.mem_cons_self) (hfilled first List.mem_cons_self)
    · rintro rfl page hpage
      cases hpage
  rw [← Bool.not_eq_true, ← hsome]
  omega

/-- The page before the first row of a page is the one that precedes it in the walk. -/
theorem page_back_limited (h : Walkable engine rows collection store request)
    {pages before after : List Page} {previous page : Page}
    (hwalk : Walk ⟨collection, store⟩ request none pages)
    (hsplit : pages = before ++ previous :: page :: after) :
    page.startCursor.isSome = true ∧
      ((Repository.mk collection store).page (request.beside .before page.startCursor)).result =
          .ok { previous with hasNext := true, hasPrevious := !before.isEmpty } := by
  obtain ⟨filter, hfilter⟩ := h.compiles
  have hordered := engine.arranges_sorted rows filter
    (SortOrder.document (effectiveSort collection.config request.sort))
  obtain ⟨found, hfound, hflat, hconsecutive, hfilled⟩ := h.exists_walk hfilter hordered .all
  rw [← hfound.unique hwalk, hsplit] at hflat hconsecutive hfilled
  obtain ⟨_, _, hfull⟩ := hconsecutive before previous (page :: after) rfl
  have hlength : previous.rows.length = request.limit.toNat := hfull (List.cons_ne_nil _ _)
  have hnonempty : engine.sorted rows filter
      (SortOrder.document (effectiveSort collection.config request.sort)) ≠ [] := by
    have hpositive := h.positive
    rw [← hflat, Ne, List.flatMap_eq_nil_iff]
    intro hempty
    rw [hempty previous (by simp), List.length_nil] at hlength
    omega
  have hrows := hfilled hnonempty
  obtain ⟨row, rest, hrow⟩ := List.exists_cons_of_ne_nil (hrows page (by simp))
  have hfront : engine.sorted rows filter
      (SortOrder.document (effectiveSort collection.config request.sort)) =
        (before.flatMap Page.rows ++ previous.rows) ++ row :: (rest ++ after.flatMap Page.rows) := by
    rw [← hflat]
    simp [hrow]
  have hmem : row ∈ rows := by
    refine (List.mem_filter.1 (hordered.perm.mem_iff.1 ?_)).1
    rw [hfront]
    simp
  obtain ⟨_, hpage⟩ := hwalk.exists_cursor (hsplit ▸ (by simp) : page ∈ pages)
  obtain ⟨_, hprevious⟩ := hwalk.exists_cursor (hsplit ▸ (by simp) : previous ∈ pages)
  obtain ⟨token, htoken, hdecode⟩ := h.exists_startCursor hpage hrow hmem
  obtain ⟨back, hback, hkept, hnext, hmore⟩ := h.backward_page hfilter hordered hfront hdecode
  have hsame : back.rows = previous.rows := by
    rw [hkept, List.length_append, hlength, Nat.add_sub_cancel, List.drop_left]
  have hfirst : back.hasPrevious = !before.isEmpty := by
    have hiff := lt_length_front_iff hlength fun other hother =>
      hrows other (List.mem_append_left _ hother)
    rw [hmore, Bool.eq_iff_iff, decide_eq_true_eq, hiff, Bool.not_eq_true']
  obtain ⟨hstart, hend⟩ := cursors_of_page hback
  obtain ⟨hstart', hend'⟩ := cursors_of_page hprevious
  rw [hsame, hstart'] at hstart
  rw [hsame, hend'] at hend
  refine ⟨by rw [htoken]; rfl, ?_⟩
  rw [htoken, hback, ← hsame, ← hfirst, ← hnext, Except.ok.inj hstart, Except.ok.inj hend]

/-- **Paging back gives the page that paging forward came from**: its rows in their order, and its
cursors. There is a next page, the one that was left, and a previous one unless it is the first. -/
theorem page_back (h : Walkable engine rows collection store request) {limit : UInt64}
    (hlimit : 1 ≤ limit.toNat) {pages before after : List Page} {previous page : Page}
    (hwalk : Walk ⟨collection, store⟩ (request.limitedTo limit) none pages)
    (hsplit : pages = before ++ previous :: page :: after) :
    page.startCursor.isSome = true ∧
      ((Repository.mk collection store).page
        ((request.limitedTo limit).beside .before page.startCursor)).result =
          .ok { previous with hasNext := true, hasPrevious := !before.isEmpty } := by
  by_cases hlimited : limit.toNat < Number.maxCount
  · exact (h.limitedTo hlimit hlimited).page_back_limited hwalk hsplit
  · obtain ⟨_, hprevious⟩ := hwalk.exists_cursor (hsplit ▸ (by simp) : previous ∈ pages)
    have hlast := h.hasNext_unlimited (Nat.le_of_not_lt hlimited) hprevious
    rw [hwalk.hasNext_of_split hsplit] at hlast
    cases hlast

/-- Back from the last of three pages of one row each, in descending order. -/
theorem page_back_second :
    let collection : Collection := ⟨.ofFields [], {}⟩
    let engine : Engine := .ofOrder (.ofRank fun value =>
      match value with
      | .int32 n => n.toInt
      | _ => 0)
    let rows : List Document := [[("_id", .int32 2)], [("_id", .int32 3)], [("_id", .int32 1)]]
    let request : CursorRequest := { sort := ["-id"], limit := 1 }
    ∃ first second third, Walk ⟨collection, engine.store rows⟩ request none [first, second, third] ∧
      second.rows = [[("_id", .int32 2)]] ∧ third.rows = [[("_id", .int32 1)]] ∧
      ((Repository.mk collection (engine.store rows)).page
        (request.beside .before third.startCursor)).result =
          .ok { second with hasNext := true, hasPrevious := true } := by
  intro collection engine rows request
  have hpresent : ∀ row ∈ rows, ∃ value, Row.lookup? row "_id" = some value :=
    List.forall_mem_cons.2 ⟨⟨_, rfl⟩, List.forall_mem_cons.2 ⟨⟨_, rfl⟩,
      List.forall_mem_singleton.2 ⟨_, rfl⟩⟩⟩
  have hreadable : ∀ row ∈ rows, ∃ token,
      Token.encode (Row.key [⟨"_id", .descending⟩] row) = .ok token ∧
      Token.decode 8192 token = .ok (Row.key [⟨"_id", .descending⟩] row) := by
    have hplain : ∀ n : Int32, ∀ value ∈ [Value.int32 n], value.Plain :=
      fun n => List.forall_mem_singleton.2 (.int32 n)
    exact List.forall_mem_cons.2
      ⟨Cursor.Token.exists_readable (hplain 2) rfl (by decide) (by decide),
        List.forall_mem_cons.2
          ⟨Cursor.Token.exists_readable (hplain 3) rfl (by decide) (by decide),
            List.forall_mem_singleton.2
              (Cursor.Token.exists_readable (hplain 1) rfl (by decide) (by decide))⟩⟩
  have hwalkable : Walkable engine rows collection (engine.store rows) request :=
    { serves := engine.serves_store rows
      identifies := ⟨hpresent, by decide⟩
      untimed := fun _ hkind => by cases hkind
      compiles := ⟨_, rfl⟩
      known := List.forall_mem_singleton.2 rfl
      leading := fun _ htoken => by cases htoken
      whole := rfl
      positive := by decide
      limited := by decide
      readable := hreadable }
  have hordered : engine.Arranges rows [] [("_id", .int32 (-1))]
      [[("_id", .int32 3)], [("_id", .int32 2)], [("_id", .int32 1)]] :=
    ⟨.swap _ _ _, by decide⟩
  obtain ⟨first, hfirst, -, hnext, -, hrest⟩ := hwalkable.forward_page rfl hordered .all
  obtain ⟨second, hsecond, hrows, hnext', hprevious, hrest'⟩ :=
    hwalkable.forward_page rfl hordered (hrest hnext).2
  obtain ⟨third, hthird, hrows', hnext'', -, -⟩ :=
    hwalkable.forward_page rfl hordered (hrest' hnext').2
  have hwalk : Walk ⟨collection, engine.store rows⟩ request none [first, second, third] :=
    .next hfirst hnext (.next hsecond hnext' (.last hthird hnext''))
  have hsplit : [first, second, third] = [first] ++ second :: third :: [] := rfl
  obtain ⟨-, hback⟩ := page_back hwalkable (by decide) hwalk hsplit
  exact ⟨first, second, third, hwalk, hrows, hrows', hback⟩

end Walkable

end DocumentQuery
