import DocumentQuery.Proofs.Cursor.Boundary
import DocumentQuery.Proofs.Query.SortDocument

/-!
# What a cursor leaves

Where rows are ordered by their identifiers, the cursor of a row leaves the rows behind it, and
that is what the store is asked for: these rows, one more than the page has.

* `Walkable`             : what is taken for granted of rows, store and request;
* `Remaining`            : the rows that a cursor leaves of a list;
* `Walkable.find_answer` : the store's answer to a request with a cursor.
-/

namespace DocumentQuery

open Cursor (Parts Row.key Row.lookup? Row.valueAt Token.decode Token.encode valuesOf)
open Cursor.Keyset (Leads coerce effectiveSort exists_leads)

/-- The request with another cursor, on another side. -/
def CursorRequest.beside (request : CursorRequest) (side : Side) (cursor : Option String) :
    CursorRequest :=
  { request with side, cursor }

/-! ## The setting -/

/-- Rows that can be paged through: they can be told apart by the identifier, it is the first
field to sort by and no other, whole rows are asked for, the request compiles without a cursor,
and tokens can be read back. The store is as an engine has it. -/
structure Walkable (engine : Engine) (rows : List Document) (collection : Collection)
    (store : Store) (request : CursorRequest) : Prop where
  serves : engine.Serves rows store
  identifies : engine.Identifies collection.config.idField rows
  untimed : ∀ kind, collection.catalog.kind? collection.config.idField = some kind →
    kind.isTemporal = false
  compiles : ∃ filter, Filter.compile collection request.filter = .ok filter
  known : ∀ token ∈ request.sort,
    collection.check (SortField.ofToken collection.config token).field = .ok ()
  leading : ∀ token ∈ request.sort.tail,
    (SortField.ofToken collection.config token).field ≠ collection.config.idField
  whole : request.fields = []
  positive : 1 ≤ request.limit.toNat
  limited : request.limit.toNat < Number.maxCount
  readable : ∀ row ∈ rows, ∃ token,
    Token.encode (Row.key (effectiveSort collection.config request.sort) row) = .ok token ∧
    Token.decode collection.config.maxTokenLength token =
      .ok (Row.key (effectiveSort collection.config request.sort) row)

/-- The rows that a cursor leaves of a list: all without a cursor, and with that of a row those
behind it. -/
inductive Remaining (config : Config) (sort : SortOrder) (ordered : List Document) :
    Option String → List Document → Prop where
  | all : Remaining config sort ordered none ordered
  | behind {before remaining : List Document} {row : Document} {token : String}
      (hordered : ordered = before ++ row :: remaining)
      (htoken : Token.decode config.maxTokenLength token = .ok (Row.key sort row)) :
      Remaining config sort ordered (some token) remaining

namespace Remaining

variable {config : Config} {sort : SortOrder} {ordered remaining : List Document}
  {cursor : Option String}

theorem exists_before (h : Remaining config sort ordered cursor remaining) :
    ∃ before, ordered = before ++ remaining := by
  cases h with
  | all => exact ⟨[], rfl⟩
  | @behind before _ row _ hordered _ => exact ⟨before ++ [row], by simp [hordered]⟩

/-- The cursor of the last of some rows leaves the others. -/
theorem drop (h : Remaining config sort ordered cursor remaining) {count : Nat} {row : Document}
    {token : String} (hlast : (remaining.take count).getLast? = some row)
    (htoken : Token.decode config.maxTokenLength token = .ok (Row.key sort row)) :
    Remaining config sort ordered (some token) (remaining.drop count) := by
  obtain ⟨before, hbefore⟩ := h.exists_before
  obtain ⟨front, hfront⟩ := List.getLast?_eq_some_iff.1 hlast
  have hsplit : remaining = front ++ row :: remaining.drop count := by
    have htaken := List.take_append_drop count remaining
    rw [hfront, List.append_assoc] at htaken
    exact htaken.symm
  have hordered : ordered = (before ++ front) ++ row :: remaining.drop count := by
    rw [List.append_assoc, ← hsplit]
    exact hbefore
  exact .behind hordered htoken

end Remaining

namespace Walkable

variable {engine : Engine} {rows : List Document} {collection : Collection} {store : Store}
  {request : CursorRequest}

/-! ## The query -/

theorem coerce_identifier (h : Walkable engine rows collection store request) (value : Value) :
    coerce collection collection.config.idField value = value := by
  unfold coerce
  split
  · rename_i kind hkind
    rw [h.untimed kind hkind]
    rfl
  · rfl

theorem toNat_sentinel (h : Walkable engine rows collection store request) :
    (Number.saturatingAdd request.limit 1).toNat = request.limit.toNat + 1 := by
  have hlimited := h.limited
  have hone : (1 : UInt64).toNat = 1 := rfl
  rw [Number.saturatingAdd, Number.toNat_saturate, hone]
  omega

/-- A request compiles with every key for its cursor. -/
theorem exists_parts (h : Walkable engine rows collection store request) {filter : Document}
    (hfilter : Filter.compile collection request.filter = .ok filter) {side : Side}
    {cursor : Option String} {values : List Value}
    (hvalues : valuesOf collection.config cursor = .ok values)
    (hlength : values ≠ [] →
      values.length = (effectiveSort collection.config request.sort).length) :
    ∃ parts : Parts collection (request.beside side cursor),
      parts.filter = filter ∧ parts.values = values ∧ parts.projection = none ∧
        parts.boundary.isSome = !values.isEmpty := by
  have hknown := Cursor.Keyset.check_effectiveSort h.known
  have hprojection : Projection.compile collection request.fields = .ok none := by
    rw [h.whole]
    rfl
  cases values with
  | nil => exact ⟨⟨filter, [], none, none, hfilter, hknown, hvalues, rfl, hprojection⟩,
      rfl, rfl, rfl, rfl⟩
  | cons value values =>
    have hnonempty := List.cons_ne_nil value values
    obtain ⟨boundary, hboundary⟩ :=
      Cursor.Keyset.exists_boundary side hnonempty (hlength hnonempty) hknown
    exact ⟨⟨filter, value :: values, some boundary, none, hfilter, hknown, hvalues, hboundary,
      hprojection⟩, rfl, rfl, rfl, rfl⟩

/-! ## The answer -/

section Answer

variable {d : Direction} {rest : SortOrder} {filter : Document} {side : Side}

/-- The first entry of the sort document is that of the identifier, towards the side. -/
theorem exists_document (hleads : Leads collection.config request.sort d rest) (side : Side) :
    ∃ others, SortOrder.document (CursorQuery.storeSort side
      (effectiveSort collection.config request.sort)) =
        (collection.config.idField, .int32 (side.toward d).sign) :: others := by
  rw [CursorQuery.storeSort_eq, hleads.sort_eq, List.map_cons]
  refine SortOrder.document_cons fun t ht hfield => ?_
  obtain ⟨s, hs, rfl⟩ := List.mem_map.1 ht
  exact absurd hfield (hleads.others s hs)

/-- The order of the store is that of the identifiers, towards the side. -/
theorem orderedBy_identifier (h : Walkable engine rows collection store request)
    (hleads : Leads collection.config request.sort d rest) (side : Side)
    {ordered : List Document}
    (hordered : engine.Arranges rows filter (SortOrder.document (CursorQuery.storeSort side
      (effectiveSort collection.config request.sort))) ordered) :
    engine.OrderedBy collection.config.idField (side.toward d) ordered := by
  obtain ⟨others, hothers⟩ := exists_document hleads side
  rw [hothers] at hordered
  have hby := hordered.orderedBy h.identifies
  rwa [Direction.ofValue_sign] at hby

/-- A row is kept if it meets the filter and its identifier lies behind that of the cursor's
row. -/
theorem satisfies_behind (h : Walkable engine rows collection store request)
    (hleads : Leads collection.config request.sort d rest) {cursor : Option String}
    {start row : Document} (parts : Parts collection (request.beside side cursor))
    (hvalues : parts.values = Row.key (effectiveSort collection.config request.sort) start)
    (hrow : row ∈ rows) :
    engine.satisfies parts.query.find.filter row =
      (engine.satisfies parts.filter row && engine.order.ahead (side.toward d)
        (Row.valueAt start collection.config.idField)
        (Row.valueAt row collection.config.idField)) := by
  obtain ⟨found, hfound⟩ := h.identifies.present row hrow
  have hvalue : Row.valueAt row collection.config.idField = found := by
    rw [Row.valueAt, hfound]
    rfl
  have hkey : Row.key (effectiveSort collection.config request.sort) start =
      Row.valueAt start collection.config.idField :: Row.key rest start := by
    rw [hleads.sort_eq]
    rfl
  have hleading : Cursor.Keyset.leadingHolds collection (engine.truth row)
      (effectiveSort collection.config request.sort) side parts.values =
        engine.truth row collection.config.idField (side.toward d).operator
          (Row.valueAt start collection.config.idField) := by
    rw [hvalues, hkey, hleads.sort_eq, Cursor.Keyset.leadingHolds, List.head?_cons, List.head?_cons]
    simp only [Cursor.Keyset.operator_eq, h.coerce_identifier]
  rw [hvalue, ← engine.truth_operator hfound, ← hleading]
  exact CursorQuery.holds_parts parts (engine.truth row)

/-- The store answers by the rows of the list that it is asked for. -/
theorem find_eq (h : Walkable engine rows collection store request)
    (hleads : Leads collection.config request.sort d rest) {cursor : Option String}
    {remaining : List Document} (parts : Parts collection (request.beside side cursor))
    (hprojection : parts.projection = none)
    (hby : engine.OrderedBy collection.config.idField (side.toward d) remaining)
    (hperm : remaining.Perm (rows.filter (engine.satisfies parts.query.find.filter))) :
    store.find parts.query.find = .ok (remaining.take (request.limit.toNat + 1)) := by
  obtain ⟨answer, hanswer, sorted, hsorted, rfl⟩ := h.serves parts.query.find hprojection
  have hsame : sorted = remaining :=
    (orderedBy_identifier h hleads side hsorted).eq_of_perm hby (hsorted.perm.trans hperm.symm)
  have hwindow : parts.query.find.window.apply sorted =
      sorted.take (request.limit.toNat + 1) := by
    rw [← h.toNat_sentinel]
    exact Window.apply_limit _ _
  rw [hanswer, hwindow, hsame]

/-- **The store is asked for the rows that the cursor leaves**, one more than the page has. -/
theorem find_answer (h : Walkable engine rows collection store request) (side : Side)
    (hfilter : Filter.compile collection request.filter = .ok filter) {ordered : List Document}
    (hordered : engine.Arranges rows filter (SortOrder.document (CursorQuery.storeSort side
      (effectiveSort collection.config request.sort))) ordered)
    {cursor : Option String} {remaining : List Document}
    (hremaining : Remaining collection.config (effectiveSort collection.config request.sort)
      ordered cursor remaining) :
    ∃ parts : Parts collection (request.beside side cursor),
      parts.boundary.isSome = cursor.isSome ∧
      store.find parts.query.find = .ok (remaining.take (request.limit.toNat + 1)) := by
  obtain ⟨d, rest, hleads⟩ := exists_leads h.leading
  have hby := orderedBy_identifier h hleads side hordered
  cases hremaining with
  | all =>
    obtain ⟨parts, hcompiled, hvalues, hprojection, hbounded⟩ :=
      h.exists_parts hfilter (Cursor.valuesOf_none _) fun hne => absurd rfl hne
    refine ⟨parts, hbounded, find_eq h hleads parts hprojection hby ?_⟩
    have hfind : parts.query.find.filter = filter := by
      have hboundary := parts.boundary_eq
      rw [hvalues, Cursor.Keyset.boundary_nil] at hboundary
      have hquery : parts.query.find.filter =
          CursorQuery.bound parts.boundary parts.filter := rfl
      rw [hquery, ← Except.ok.inj hboundary, hcompiled]
      rfl
    rw [hfind]
    exact hordered.perm
  | @behind before remaining start token hsplit htoken =>
    have hkey : Row.key (effectiveSort collection.config request.sort) start ≠ [] := by
      rw [hleads.sort_eq]
      exact List.cons_ne_nil _ _
    obtain ⟨parts, hcompiled, hvalues, hprojection, hbounded⟩ :=
      h.exists_parts hfilter (Cursor.valuesOf_token hkey htoken) fun _ => List.length_map _
    rw [hsplit] at hby
    obtain ⟨_, htail, _⟩ := List.pairwise_append.1 hby
    refine ⟨parts, ?_, find_eq h hleads parts hprojection (List.pairwise_cons.1 htail).2 ?_⟩
    · rw [hbounded, List.isEmpty_eq_false_iff.2 hkey]
      rfl
    · have hkept : rows.filter (engine.satisfies parts.query.find.filter) =
          (rows.filter (engine.satisfies filter)).filter fun row =>
            engine.order.ahead (side.toward d) (Row.valueAt start collection.config.idField)
              (Row.valueAt row collection.config.idField) := by
        rw [List.filter_filter]
        refine List.filter_congr fun row hrow => ?_
        rw [satisfies_behind h hleads parts hvalues hrow, hcompiled, Bool.and_comm]
      have hperm := hordered.perm.filter fun row =>
        engine.order.ahead (side.toward d) (Row.valueAt start collection.config.idField)
          (Row.valueAt row collection.config.idField)
      rw [hsplit, hby.filter_ahead] at hperm
      rw [hkept]
      exact hperm

end Answer

/-- The rows that a cursor leaves have cursors of their own. -/
theorem readable_remaining (h : Walkable engine rows collection store request)
    {filter sort : Document} {ordered remaining : List Document} {cursor : Option String}
    (hordered : engine.Arranges rows filter sort ordered)
    (hremaining : Remaining collection.config (effectiveSort collection.config request.sort)
      ordered cursor remaining) :
    ∀ row ∈ remaining, ∃ token,
      Token.encode (Row.key (effectiveSort collection.config request.sort) row) = .ok token ∧
      Token.decode collection.config.maxTokenLength token =
        .ok (Row.key (effectiveSort collection.config request.sort) row) := by
  intro row hrow
  obtain ⟨before, hbefore⟩ := hremaining.exists_before
  have hmem : row ∈ ordered := by
    rw [hbefore]
    exact List.mem_append_right before hrow
  exact h.readable row (List.mem_filter.1 (hordered.perm.mem_iff.1 hmem)).1

end Walkable

end DocumentQuery
