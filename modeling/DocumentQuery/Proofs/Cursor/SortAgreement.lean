import DocumentQuery.Proofs.Cursor.Boundary
import DocumentQuery.Proofs.Query.SortDocument

/-!
# Boundaries and the order of the store

The operator of a boundary comes from the first field to sort by. The sort document sets the
fields one after the other, so that a repeated field takes its last direction. The two agree
exactly if no field is named with both directions.

* `SortOrder.Consistent` : no field is named with both directions;
* `Cursor.Agrees`        : a sort document and an operator fit a sort order;
* `Cursor.agrees_iff`    : they do exactly if the sort order is consistent.

Principal result: `CursorQuery.agrees_iff_consistent`.
-/

namespace DocumentQuery

namespace Direction

theorem sign_injective {d e : Direction} (h : d.sign = e.sign) : d = e := by
  rw [← ofValue_sign d, h, ofValue_sign]

theorem operator_eq_greater (d : Direction) : d.operator = "$gt" ↔ d.sign = 1 := by
  cases d <;> decide

theorem operator_eq_lesser (d : Direction) : d.operator = "$lt" ↔ d.sign = -1 := by
  cases d <;> decide

end Direction

namespace Side

theorem toward_injective {side : Side} {d e : Direction} (h : side.toward d = side.toward e) :
    d = e := by
  cases side <;> cases d <;> cases e <;> first | rfl | cases h

end Side

/-! ## Consistent sort orders -/

namespace SortOrder

/-- No field is named with both directions. -/
def Consistent (sort : SortOrder) : Prop :=
  ∀ s ∈ sort, ∀ t ∈ sort, s.field = t.field → s.direction = t.direction

instance (sort : SortOrder) : Decidable (Consistent sort) :=
  inferInstanceAs (Decidable (∀ s ∈ sort, ∀ t ∈ sort, s.field = t.field →
    s.direction = t.direction))

end SortOrder

/-! ## Agreement -/

namespace Cursor

open Keyset (coerce seek)
open Row (lookup? valueAt)

/-- A sort document and the operator of a boundary fit a sort order: the document has every field
in order with its direction, the operator is the one of the document's first entry, and the rows
that the boundary keeps are those that the store returns after the boundary's row, but for rows
that tie with it by the first field. -/
structure Agrees (collection : Collection) (side : Side) (sort : SortOrder) (values : List Value)
    (operator : String) (document : Document) : Prop where
  fields : Entries.keys document = (sort.map SortField.field).eraseDups
  directions : ∀ s ∈ sort,
    Entries.get? s.field document = some (.int32 (side.toward s.direction).sign)
  greater : operator = "$gt" ↔ document.head?.map Prod.snd = some (.int32 1)
  lesser : operator = "$lt" ↔ document.head?.map Prod.snd = some (.int32 (-1))
  follows : ∀ (engine : Engine) (start row : Document) (first : SortField) (value found : Value),
    sort.head? = some first → values.head? = some value →
    coerce collection first.field value = valueAt start first.field →
    lookup? row first.field = some found →
    (engine.satisfies (seek collection operator sort values) row = true ↔
      engine.order.precedes document start row = true ∧
        ¬engine.order.ties (valueAt start first.field) found)

variable {collection : Collection} {side : Side} {first : SortField} {rest : SortOrder}
  {value : Value} {values : List Value}

/-- Rows are kept by the comparison of the first field, and it is by the first entry of the
document that those are ordered which do not tie. -/
theorem satisfies_seek_iff (engine : Engine) {start row others : Document} {found : Value}
    (hstart : coerce collection first.field value = valueAt start first.field)
    (hfound : lookup? row first.field = some found) :
    engine.satisfies (seek collection (side.toward first.direction).operator (first :: rest)
        (value :: values)) row = true ↔
      engine.order.precedes
          ((first.field, .int32 (side.toward first.direction).sign) :: others) start row = true ∧
        ¬engine.order.ties (valueAt start first.field) found := by
  have hvalue : valueAt row first.field = found := by
    rw [valueAt, hfound]
    rfl
  rw [Engine.satisfies, Keyset.holds_seek, engine.truth_operator hfound, hstart]
  constructor
  · intro hahead
    have hties := engine.order.not_ties_of_ahead hahead
    rw [ValueOrder.precedes_first (by rwa [hvalue]), Direction.ofValue_sign, hvalue]
    exact ⟨hahead, hties⟩
  · rintro ⟨hprecedes, hties⟩
    rw [ValueOrder.precedes_first (by rwa [hvalue]), Direction.ofValue_sign, hvalue] at hprecedes
    exact hprecedes

/-- The sort document fits exactly if the sort order is consistent. -/
theorem agrees_iff : Agrees collection side (first :: rest) (value :: values)
      (Keyset.operator side first.direction)
      (SortOrder.document (CursorQuery.storeSort side (first :: rest))) ↔
    SortOrder.Consistent (first :: rest) := by
  rw [CursorQuery.storeSort_eq, Keyset.operator_eq]
  constructor
  · intro hagrees s hs t ht hfield
    have hvalue := hagrees.directions t ht
    rw [← hfield, hagrees.directions s hs] at hvalue
    have hsign := Value.int32.inj (Option.some.inj hvalue)
    exact Side.toward_injective (Direction.sign_injective hsign)
  · intro hconsistent
    have hsame : ∀ s ∈ first :: rest,
        ∀ t ∈ (first :: rest).map fun s => SortField.mk s.field (side.toward s.direction),
          t.field = s.field → t.direction = side.toward s.direction := by
      intro s hs t ht hfield
      obtain ⟨u, hu, rfl⟩ := List.mem_map.1 ht
      rw [hconsistent s hs u hu hfield.symm]
    have hdocument : ∃ others, SortOrder.document
        ((first :: rest).map fun s => SortField.mk s.field (side.toward s.direction)) =
          (first.field, .int32 (side.toward first.direction).sign) :: others :=
      SortOrder.document_cons fun t ht =>
        hsame first List.mem_cons_self t (List.mem_cons_of_mem _ ht)
    obtain ⟨others, hothers⟩ := hdocument
    refine ⟨?_, ?_, ?_, ?_, ?_⟩
    · rw [SortOrder.keys_document, List.map_map]
      rfl
    · intro s hs
      exact SortOrder.get?_document (List.mem_map.2 ⟨s, hs, rfl⟩) (hsame s hs)
    · rw [hothers, Direction.operator_eq_greater]
      simp
    · rw [hothers, Direction.operator_eq_lesser]
      simp
    · intro engine start row leading least found hleading hleast hstart hfound
      cases hleading
      cases hleast
      rw [hothers]
      exact satisfies_seek_iff engine hstart hfound

end Cursor

/-! ## Requests -/

namespace CursorQuery

open Cursor (Agrees Parts valuesOf)
open Cursor.Keyset (boundary_cons_eq_ok effectiveSort effectiveSort_ne_nil operator seek)

/-- **The boundary and the order of the store agree exactly if no field is named with both
directions.** -/
theorem agrees_iff_consistent {collection : Collection} {request : CursorRequest}
    {query : CursorQuery} (h : ofRequest collection request = .ok query)
    (hbounded : query.bounded = true) :
    ∃ document filter values operator,
      query.find.sort = some document ∧
      Filter.compile collection request.filter = .ok filter ∧
      valuesOf collection.config request.cursor = .ok values ∧
      query.find.filter =
        bound (some (seek collection operator (effectiveSort collection.config request.sort)
          values)) filter ∧
      (Agrees collection request.side (effectiveSort collection.config request.sort) values
          operator document ↔
        SortOrder.Consistent (effectiveSort collection.config request.sort)) := by
  obtain ⟨parts, rfl⟩ := ofRequest_eq_ok.1 h
  obtain ⟨first, rest, hsort⟩ :=
    List.exists_cons_of_ne_nil (effectiveSort_ne_nil collection.config request.sort)
  have hboundary := parts.boundary_eq
  have hbounded' : parts.boundary.isSome = true := hbounded
  cases hvalues : parts.values with
  | nil =>
    rw [hvalues, Cursor.Keyset.boundary_nil] at hboundary
    rw [← Except.ok.inj hboundary] at hbounded'
    cases hbounded'
  | cons value values =>
    rw [hvalues, hsort, boundary_cons_eq_ok (List.cons_ne_nil value values)] at hboundary
    refine ⟨_, parts.filter, parts.values, operator request.side first.direction, rfl,
      parts.filter_eq, parts.values_eq, ?_, ?_⟩
    · rw [hsort, hvalues, ← hboundary.2.2]
      rfl
    · rw [hsort, hvalues]
      exact Cursor.agrees_iff

/-- The token of the number one, twice. -/
theorem valuesOf_ones : valuesOf {} (some "GwAAAAR2ABMAAAAQMAABAAAAEDEAAQAAAAAA") =
    .ok [.int32 1, .int32 1] := by
  have hbytes : Text.Base64.decodeUrl? "GwAAAAR2ABMAAAAQMAABAAAAEDEAAQAAAAAA".toList =
      some [27, 0, 0, 0, 4, 118, 0, 19, 0, 0, 0, 16, 48, 0, 1, 0, 0, 0, 16, 49, 0, 1, 0, 0, 0, 0,
        0] := rfl
  exact Cursor.valuesOf_token (List.cons_ne_nil _ _)
    (Cursor.Token.decode_of_payload rfl (by decide) hbytes rfl rfl)

/-- A field that is repeated with its own direction does no harm. -/
theorem agrees_iff_consistent_repeated :
    let collection : Collection := ⟨.ofFields [], {}⟩
    let request : CursorRequest :=
      { sort := ["-id", "-_id"], cursor := some "GwAAAAR2ABMAAAAQMAABAAAAEDEAAQAAAAAA" }
    ∃ query document values, ofRequest collection request = .ok query ∧
      query.bounded = true ∧ query.find.sort = some document ∧
      Agrees collection .after (effectiveSort collection.config request.sort) values "$lt"
        document := by
  intro collection request
  let parts : Parts collection request :=
    ⟨_, _, _, _, rfl, forM_eq_ok.1 rfl, valuesOf_ones, rfl, rfl⟩
  have hquery : ofRequest collection request = .ok parts.query := ofRequest_eq_ok.2 ⟨parts, rfl⟩
  obtain ⟨document, filter, values, operator, hsort, _, _, _, hagrees⟩ :=
    agrees_iff_consistent hquery rfl
  have hfits := hagrees.2 (by decide)
  have hlesser : operator = "$lt" := hfits.lesser.2 (by cases hsort; rfl)
  rw [hlesser] at hfits
  exact ⟨parts.query, document, values, hquery, rfl, hsort, hfits⟩

/-- The identifier under both its names, up and down: the rows kept are those after the cursor's
row in ascending order, while the store returns rows in descending order. -/
theorem disagrees_on_identifier :
    let collection : Collection := ⟨.ofFields [], {}⟩
    let request : CursorRequest :=
      { sort := ["id", "-_id"], cursor := some "GwAAAAR2ABMAAAAQMAABAAAAEDEAAQAAAAAA" }
    let greater : Value := .document [("_id", .document [("$gt", .int32 1)])]
    ∃ query, ofRequest collection request = .ok query ∧
      query.bounded = true ∧
      query.find.filter = [("$or", .array
        [.document [("$and", .array [greater])],
          .document [("$and", .array [greater, greater])]])] ∧
      query.find.sort = some [("_id", .int32 (-1))] := by
  intro collection request greater
  let parts : Parts collection request :=
    ⟨_, _, _, _, rfl, forM_eq_ok.1 rfl, valuesOf_ones, rfl, rfl⟩
  exact ⟨parts.query, ofRequest_eq_ok.2 ⟨parts, rfl⟩, rfl, rfl, rfl⟩

end CursorQuery

end DocumentQuery
