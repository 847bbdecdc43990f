import DocumentQuery.Proofs.Cursor.Compilation
import DocumentQuery.Proofs.Cursor.Page
import DocumentQuery.Proofs.Cursor.TokenLength

/-!
# Cursors sent back

A page hands out the cursors of its first and last row without regard to how long a token may be,
and whatever the rows hold. So not all of them are accepted when they come back: a token that is too
long is refused, and one with a document that spells nothing cannot be read. These are the only two
reasons.

* `Value.Legible`        : the value can be read once it is written;
* `Token.decode_encoded` : what a token that was written is read as;
* `SentBack`             : a request with a cursor of an earlier page.

Principal result: `Repository.cursor_sent_back`.
-/

namespace DocumentQuery

open Bson (Raw)

/-! ## Legible values -/

/-- The value can be read once it is written: no document in it has a key that spells a value of
another type, with something that does not. -/
def Value.Legible (value : Value) : Prop := (Raw.value? (Raw.ofValue value)).isSome = true

instance (value : Value) : Decidable value.Legible := inferInstanceAs (Decidable (_ = true))

example : ¬(Value.document [("$oid", .string "zz")]).Legible := by decide

theorem Value.Plain.legible {value : Value} (h : Plain value) : value.Legible := by
  show (Raw.value? (Raw.ofValue value)).isSome = true
  rw [Raw.value?_ofValue h]
  rfl

namespace Bson.Raw

variable {values : List Value}

/-- Legible values are all read. -/
theorem exists_items?_of_legible (h : ∀ value ∈ values, value.Legible) :
    ∃ found, items? (ofItems values) = some found ∧ found.length = values.length := by
  induction values with
  | nil => exact ⟨[], rfl, rfl⟩
  | cons value rest ih =>
    obtain ⟨hvalue, hrest⟩ := List.forall_mem_cons.1 h
    obtain ⟨first, hfirst⟩ := Option.isSome_iff_exists.1 hvalue
    obtain ⟨others, hothers, hlength⟩ := ih hrest
    refine ⟨first :: others, ?_, ?_⟩
    · rw [ofItems, items?, hfirst, hothers]
      rfl
    · rw [List.length_cons, List.length_cons, hlength]

/-- Nothing is read where one of the values is not legible. -/
theorem items?_of_illegible (h : ∃ value ∈ values, ¬value.Legible) :
    items? (ofItems values) = none := by
  induction values with
  | nil =>
    obtain ⟨value, hvalue, _⟩ := h
    cases hvalue
  | cons value rest ih =>
    rw [ofItems, items?]
    cases hfirst : value? (ofValue value) with
    | none => rfl
    | some first =>
      obtain ⟨illegible, hmem, hillegible⟩ := h
      rcases List.mem_cons.1 hmem with rfl | hmem
      · refine absurd ?_ hillegible
        show (value? (ofValue illegible)).isSome = true
        rw [hfirst]
        rfl
      · rw [ih ⟨illegible, hmem, hillegible⟩]
        rfl

end Bson.Raw

/-! ## Tokens -/

namespace Cursor.Token

open Text.Base64 (encodeUrl)

variable {values : List Value} {bytes : Bytes} {token : String} {limit : Nat}

/-- The document of a token is read as far as its values are. -/
theorem payload?_eq (h : Bson.encode? (payload values) = some bytes)
    (hsize : bytes.length < Bson.sizeLimit) :
    payload? bytes = (Raw.items? (Raw.ofItems values)).map payload := by
  have hkey : valuesKey.toList.head? ≠ some '$' := by decide
  rw [payload?, Bson.decode?_of_encode? h hsize]
  show (Raw.elements? [] [(valuesKey, .array (Raw.ofItems values))]).bind Value.document? = _
  rw [Raw.elements?_cons hkey, Raw.value?]
  cases Raw.items? (Raw.ofItems values) <;> rfl

theorem trim_encodeUrl (bytes : Bytes) : Text.trim (encodeUrl bytes) = encodeUrl bytes := by
  have hsymbols : ∀ c ∈ encodeUrl bytes, Text.isBlank c = false :=
    Text.Base64.forall_mem_encode Text.Base64.isBlank_symbol_url bytes
  have htrim := @Text.trim_padded [] (encodeUrl bytes) [] rfl rfl hsymbols
  rw [List.nil_append, List.append_nil] at htrim
  exact htrim

theorem decode_tooLong (h : encode values = .ok token) (hlong : limit < token.utf8ByteSize) :
    decode limit token = .error (.invalidCursor (.tooLong token.utf8ByteSize limit)) := by
  obtain ⟨bytes, hbytes, rfl⟩ := exists_bytes h
  have hsymbols : ¬(encodeUrl bytes).isEmpty = true := by
    rw [List.isEmpty_iff]
    exact Text.Base64.encode_ne_nil (bytes_ne_nil hbytes)
  unfold decode
  simp only [String.toList_ofList, trim_encodeUrl]
  rw [if_neg hsymbols, if_pos hlong]

/-- A token that is not too long gives the values that are read. -/
theorem decode_encoded (h : encode values = .ok token) (hshort : token.utf8ByteSize ≤ limit)
    (hsize : token.utf8ByteSize < Bson.sizeLimit) :
    decode limit token =
      match Raw.items? (Raw.ofItems values) with
      | none => .error (.invalidCursor .badPayload)
      | some found => .ok found := by
  obtain ⟨bytes, hbytes, rfl⟩ := exists_bytes h
  have hlength := utf8ByteSize_of_bytes bytes
  have hread : Text.Base64.decodeUrl? (encodeUrl bytes) = some bytes :=
    Text.Base64.decode?_encode Text.Base64.value?_symbol_url bytes
  have hsymbols : ¬(encodeUrl bytes).isEmpty = true := by
    rw [List.isEmpty_iff]
    exact Text.Base64.encode_ne_nil (bytes_ne_nil hbytes)
  unfold decode
  simp only [String.toList_ofList, trim_encodeUrl]
  rw [if_neg hsymbols, if_neg (Nat.not_lt.2 hshort), hread]
  simp only [payload?_eq hbytes (by omega)]
  cases Raw.items? (Raw.ofItems values) <;> rfl

end Cursor.Token

/-! ## Requests -/

open Cursor (Parts Row.key Token.encode Token.decode)
open Cursor.Keyset (effectiveSort)

/-- The next request has the cursor and the same sort order. Side and limit are its own, and so are
the filter and the fields as far as they compile. -/
structure SentBack (collection : Collection) (request next : CursorRequest) (token : String) :
    Prop where
  cursor : next.cursor = some token
  sort : next.sort = request.sort
  filter : ∃ filter, Filter.compile collection next.filter = .ok filter
  fields : ∃ projection, Projection.compile collection next.fields = .ok projection

namespace SentBack

variable {collection : Collection} {request next : CursorRequest} {token : String}

/-- A token that is not read is the only error. -/
theorem ofRequest_eq_error (h : SentBack collection request next token)
    (hknown : ∀ s ∈ effectiveSort collection.config request.sort, collection.check s.field = .ok ())
    {e : QueryError} (hdecode : Token.decode collection.config.maxTokenLength token = .error e) :
    CursorQuery.ofRequest collection next = .error e := by
  obtain ⟨filter, hfilter⟩ := h.filter
  have hblank : ¬Cursor.Token.isBlank token = true := by
    intro hblank
    rw [Cursor.Token.decode_blank hblank] at hdecode
    cases hdecode
  have hvalues : Cursor.tokenValues collection.config next.cursor = .error e := by
    rw [h.cursor, Cursor.tokenValues, if_neg hblank, hdecode]
    rfl
  rw [← h.sort] at hknown
  refine bind_eq_error.2 (.inl (bind_eq_error.2 (.inr ⟨filter, hfilter, ?_⟩)))
  refine bind_eq_error.2 (.inr ⟨(), forM_eq_ok.2 hknown, ?_⟩)
  exact bind_eq_error.2 (.inl hvalues)

/-- With a value for each field of the sort order there is a query, and it has a boundary. -/
theorem exists_ofRequest (h : SentBack collection request next token)
    (hknown : ∀ s ∈ effectiveSort collection.config request.sort, collection.check s.field = .ok ())
    {values : List Value}
    (hdecode : Token.decode collection.config.maxTokenLength token = .ok values)
    (hlength : values.length = (effectiveSort collection.config request.sort).length) :
    ∃ query, CursorQuery.ofRequest collection next = .ok query ∧ query.bounded = true := by
  obtain ⟨filter, hfilter⟩ := h.filter
  obtain ⟨projection, hprojection⟩ := h.fields
  have hvalues : values ≠ [] := by
    rintro rfl
    exact Cursor.Keyset.effectiveSort_ne_nil _ _ (List.length_eq_zero_iff.1 hlength.symm)
  rw [← h.sort] at hknown hlength
  obtain ⟨boundary, hboundary⟩ :=
    Cursor.Keyset.exists_boundary next.side hvalues hlength hknown
  let parts : Parts collection next :=
    ⟨filter, values, some boundary, projection, hfilter, hknown,
      h.cursor ▸ Cursor.valuesOf_token hvalues hdecode, hboundary, hprojection⟩
  exact ⟨parts.query, CursorQuery.ofRequest_eq_ok.2 ⟨parts, rfl⟩, rfl⟩

end SentBack

/-! ## Pages -/

namespace Repository

variable {repository : Repository} {request next : CursorRequest} {page : Page} {token : String}

/-- A cursor of a page carries the key of one of its rows. -/
theorem exists_row_of_cursor (hpage : (repository.page request).result = .ok page)
    (htoken : page.startCursor = some token ∨ page.endCursor = some token) :
    (∀ s ∈ effectiveSort repository.collection.config request.sort,
        repository.collection.check s.field = .ok ()) ∧
      ∃ row ∈ page.rows, Token.encode
        (Row.key (effectiveSort repository.collection.config request.sort) row) = .ok token := by
  obtain ⟨query, hquery, hfirst, hlast⟩ := cursors_of_page hpage
  obtain ⟨parts, rfl⟩ := CursorQuery.ofRequest_eq_ok.1 hquery
  refine ⟨parts.known, ?_⟩
  have hrow : ∀ row?, Page.cursor parts.query.sort row? = .ok (some token) →
      ∃ row, row? = some row ∧ Token.encode (Row.key parts.query.sort row) = .ok token := by
    intro row? h
    cases row? with
    | none => cases h
    | some row =>
      obtain ⟨written, hwritten, hsome⟩ := map_eq_ok.1 h
      cases hsome
      exact ⟨row, rfl, hwritten⟩
  rcases htoken with hstart | hend
  · rw [hstart] at hfirst
    obtain ⟨row, hhead, hencode⟩ := hrow _ hfirst
    exact ⟨row, List.mem_of_head? hhead, hencode⟩
  · rw [hend] at hlast
    obtain ⟨row, hback, hencode⟩ := hrow _ hlast
    exact ⟨row, List.mem_of_getLast? hback, hencode⟩

/-- **Which cursors are accepted back.** The cursor of a page compiles with the sort order that it
was made by, on either side and whatever else is asked for, exactly if its token is not longer than
tokens may be and the values in it can be read; the query has a boundary then. Otherwise the cursor
is invalid for that reason. It never has too few values or too many. -/
theorem cursor_sent_back (hpage : (repository.page request).result = .ok page)
    (htoken : page.startCursor = some token ∨ page.endCursor = some token)
    (hnext : SentBack repository.collection request next token)
    (hsize : token.utf8ByteSize < Bson.sizeLimit) :
    let limit := repository.collection.config.maxTokenLength
    ∃ row ∈ page.rows,
      let key := Row.key (effectiveSort repository.collection.config request.sort) row
      Token.encode key = .ok token ∧
        (limit < token.utf8ByteSize →
          CursorQuery.ofRequest repository.collection next =
            .error (.invalidCursor (.tooLong token.utf8ByteSize limit))) ∧
        (token.utf8ByteSize ≤ limit → (∀ value ∈ key, value.Legible) →
          ∃ query, CursorQuery.ofRequest repository.collection next = .ok query ∧
            query.bounded = true) ∧
        (token.utf8ByteSize ≤ limit → (∃ value ∈ key, ¬value.Legible) →
          CursorQuery.ofRequest repository.collection next =
            .error (.invalidCursor .badPayload)) := by
  intro limit
  obtain ⟨hknown, row, hrow, hencode⟩ := exists_row_of_cursor hpage htoken
  refine ⟨row, hrow, ?_⟩
  intro key
  refine ⟨hencode, ?_, ?_, ?_⟩
  · intro hlong
    exact hnext.ofRequest_eq_error hknown (Cursor.Token.decode_tooLong hencode hlong)
  · intro hshort hlegible
    have hdecode := Cursor.Token.decode_encoded hencode hshort hsize
    obtain ⟨found, hfound, hlength⟩ := Raw.exists_items?_of_legible hlegible
    rw [hfound] at hdecode
    have hfields : found.length =
        (effectiveSort repository.collection.config request.sort).length := by
      rw [hlength]
      exact List.length_map _
    exact hnext.exists_ofRequest hknown hdecode hfields
  · intro hshort hillegible
    have hdecode := Cursor.Token.decode_encoded hencode hshort hsize
    rw [Raw.items?_of_illegible hillegible] at hdecode
    exact hnext.ofRequest_eq_error hknown hdecode

/-- A repository without settings of its own, whose store answers every query with the same row. -/
def ofRow (row : Document) : Repository where
  collection := ⟨.ofFields [], {}⟩
  store := ⟨fun _ => .ok [row], fun _ => .ok [], fun _ => .ok 1⟩

/-- Its only page has the cursor of the row. -/
theorem page_ofRow {row : Document}
    (hencode : Token.encode (Row.key [⟨"_id", .ascending⟩] row) = .ok token) :
    ((ofRow row).page {}).result = .ok ⟨[row], false, false, some token, some token⟩ := by
  let parts : Parts (ofRow row).collection {} :=
    ⟨_, _, _, _, rfl, forM_eq_ok.1 rfl, rfl, rfl, rfl⟩
  have hquery : CursorQuery.ofRequest (ofRow row).collection {} = .ok parts.query :=
    CursorQuery.ofRequest_eq_ok.2 ⟨parts, rfl⟩
  have hcursor : Page.cursor parts.query.sort (some row) = .ok (some token) := by
    show (Token.encode (Row.key [⟨"_id", .ascending⟩] row)).map some = _
    rw [hencode]
    rfl
  have hrows : (ofRow row).store.find parts.query.find = .ok [row] := rfl
  have hpage : Page.ofRows parts.query [row] =
      .ok ⟨[row], false, false, some token, some token⟩ :=
    Page.ofRows_eq_ok.2 ⟨some token, some token, hcursor, hcursor, rfl⟩
  exact page_result hquery hrows hpage

/-- The cursor of the row with identifier 1 is sent back for the rows before it, with fewer rows to
a page and for another field. -/
theorem cursor_sent_back_one :
    let repository := ofRow [("_id", .int32 1)]
    let token := "FAAAAAR2AAwAAAAQMAABAAAAAAA"
    let next : CursorRequest :=
      { cursor := some token, side := .before, limit := 2, fields := ["name"] }
    (repository.page {}).result =
        .ok ⟨[[("_id", .int32 1)]], false, false, some token, some token⟩ ∧
      ∃ query, CursorQuery.ofRequest repository.collection next = .ok query ∧
        query.bounded = true := by
  intro repository token next
  have hpage := @page_ofRow token [("_id", .int32 1)] rfl
  have hnext : SentBack repository.collection {} next token :=
    ⟨rfl, rfl, ⟨_, rfl⟩, ⟨_, rfl⟩⟩
  obtain ⟨row, hrow, -, -, haccepted, -⟩ :=
    cursor_sent_back hpage (.inl rfl) hnext (by decide)
  refine ⟨hpage, haccepted (by decide) ?_⟩
  rw [List.mem_singleton.1 hrow]
  show ∀ value ∈ [Value.int32 1], value.Legible
  exact List.forall_mem_singleton.2 (Value.Plain.int32 1).legible

/-- A row whose identifier is a text of as many letters as a token may have bytes, and the default
settings. The cursor of its page is too long to be sent back. -/
theorem refuses_long_cursor :
    let text := String.ofList (List.replicate 8192 'a')
    let repository := ofRow [("_id", .string text)]
    repository.collection.config.validate = .ok () ∧
      ∃ page token, (repository.page {}).result = .ok page ∧ page.endCursor = some token ∧
        SentBack repository.collection {} { cursor := some token } token ∧
        CursorQuery.ofRequest repository.collection { cursor := some token } =
          .error (.invalidCursor (.tooLong token.utf8ByteSize 8192)) := by
  intro text repository
  have hplain : ∀ value ∈ [Value.string text], value.Plain :=
    List.forall_mem_singleton.2 (.string text)
  obtain ⟨bytes, hbytes⟩ := Bson.exists_encode? (Cursor.Token.plain_payload hplain)
  have hencode := Cursor.Token.encode_eq_ok hbytes
  -- The token itself is never worked out: it is longer than the text in it.
  generalize String.ofList (Text.Base64.encodeUrl bytes) = token at hencode
  have hletters : text.toList.length = 8192 := by
    rw [String.toList_ofList, List.length_replicate]
  have hlong : 8192 < token.utf8ByteSize := by
    have htext := Text.length_le_utf8ByteSize text
    have htoken := Cursor.Token.utf8ByteSize_text_lt List.mem_cons_self hencode
    omega
  have hpage := @page_ofRow token [("_id", .string text)] hencode
  have hnext : SentBack repository.collection {} { cursor := some token } token :=
    ⟨rfl, rfl, ⟨_, rfl⟩, ⟨_, rfl⟩⟩
  refine ⟨rfl, _, token, hpage, rfl, hnext, ?_⟩
  exact hnext.ofRequest_eq_error (forM_eq_ok.1 rfl) (Cursor.Token.decode_tooLong hencode hlong)

end Repository

end DocumentQuery
