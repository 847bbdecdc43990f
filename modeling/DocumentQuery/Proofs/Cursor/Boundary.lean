import DocumentQuery.Proofs.Cursor.Compilation
import DocumentQuery.Proofs.Store.Engine

/-!
# The meaning of boundaries

A boundary is a choice between ever longer lists of conditions, one for each field to sort by. As
the condition on the first field is in each of the lists and makes up one of them, it decides
alone: the fields after the first one select no rows, and neither do their values.

* `Side.toward`          : the direction in which a page lies;
* `Keyset.leadingHolds`  : the comparison of the first field holds;
* `Keyset.holds_seek`    : the meaning of a boundary;
* `CursorQuery.holds_bound` : the meaning of a boundary beside a filter.

Principal result: `CursorQuery.holds_find_filter`.
-/

namespace DocumentQuery

open Predicate (Assignment)

/-- The direction in which the rows of a page follow the cursor's row. -/
def Side.toward : Side → Direction → Direction
  | .after, d => d
  | .before, d => d.reversed

namespace Cursor.Keyset

open Predicate (elementHolds holds)

variable (collection : Collection) (truth : Assignment)

theorem operator_eq (side : Side) (first : Direction) :
    operator side first = (side.toward first).operator := by
  cases side <;> cases first <;> rfl

/-! ## Boundaries -/

/-- Longer lists of conditions hold only if the shortest one does, and that is the first
condition. -/
theorem any_alternatives (first : Value) (rest : List Value) :
    (alternatives (first :: rest)).any (elementHolds truth) = elementHolds truth first := by
  have hlist : ∀ i, elementHolds truth
      (.document [(Filter.andKey, .array ((first :: rest).take (i + 1)))]) =
        (elementHolds truth first && (rest.take i).all (elementHolds truth)) := by
    intro i
    rw [elementHolds, Predicate.holds_all, List.take_succ_cons, List.all_cons]
  rw [Bool.eq_iff_iff, List.any_eq_true]
  constructor
  · rintro ⟨item, hitem, hholds⟩
    obtain ⟨i, _, rfl⟩ := List.mem_map.1 hitem
    exact (Bool.and_eq_true_iff.1 ((hlist i).symm.trans hholds)).1
  · intro hfirst
    refine ⟨_, List.mem_map.2 ⟨0, by simp, rfl⟩, (hlist 0).trans ?_⟩
    rw [hfirst]
    rfl

theorem elementHolds_condition (operator field : String) (value : Value) :
    elementHolds truth (condition collection operator field value) =
      truth field operator (coerce collection field value) := by
  rw [condition, elementHolds, Predicate.holds_comparison]

/-- A boundary compares the first field only. -/
theorem holds_seek (operator : String) (first : SortField) (rest : SortOrder) (value : Value)
    (values : List Value) :
    holds truth (seek collection operator (first :: rest) (value :: values)) =
      truth first.field operator (coerce collection first.field value) := by
  have hconditions : conditions collection operator (first :: rest) (value :: values) =
      condition collection operator first.field value ::
        conditions collection operator rest values := rfl
  have hany := Predicate.holds_any truth
    (alternatives (conditions collection operator (first :: rest) (value :: values)))
  rw [hconditions, any_alternatives, elementHolds_condition] at hany
  exact hany

/-- The comparison of the first field with the first value holds; without values there is
none. -/
def leadingHolds (sort : SortOrder) (side : Side) (values : List Value) : Bool :=
  match sort.head?, values.head? with
  | some first, some value =>
    truth first.field (operator side first.direction) (coerce collection first.field value)
  | _, _ => true

variable {collection}

theorem holds_boundary {sort : SortOrder} {values : List Value} {side : Side}
    {found : Option Document} (hsort : sort ≠ [])
    (h : boundary collection sort values side = .ok found) :
    found.all (holds truth) = leadingHolds collection truth sort side values := by
  obtain ⟨first, rest, rfl⟩ := List.exists_cons_of_ne_nil hsort
  cases values with
  | nil =>
    cases h
    rfl
  | cons value values =>
    obtain ⟨_, _, rfl⟩ := (boundary_cons_eq_ok (List.cons_ne_nil value values)).1 h
    exact holds_seek collection truth _ first rest value values

end Cursor.Keyset

/-! ## Boundaries beside filters -/

namespace CursorQuery

open Cursor (Parts valuesOf)
open Cursor.Keyset (coerce effectiveSort effectiveSort_ne_nil holds_boundary leadingHolds operator)
open Predicate (holds)

/-- The order of the store has the fields of the sort order, turned towards the side. -/
theorem storeSort_eq (side : Side) (sort : SortOrder) :
    storeSort side sort =
      sort.map fun s => ⟨s.field, side.toward s.direction⟩ := by
  cases side with
  | before => rfl
  | after => exact (List.map_id sort).symm

theorem holds_bound (truth : Assignment) (boundary : Option Document) (filter : Document) :
    holds truth (bound boundary filter) =
      (holds truth filter && boundary.all (holds truth)) := by
  cases boundary with
  | none => simp [bound]
  | some boundary =>
    have hwritten : bound (some boundary) filter =
        if filter.isEmpty then boundary
        else [(Filter.andKey, .array [.document boundary, .document filter])] := rfl
    rw [hwritten]
    split
    · rename_i hempty
      rw [List.isEmpty_iff.1 hempty]
      simp [Predicate.holds]
    · rw [Predicate.holds_all]
      simp [Predicate.elementHolds, Bool.and_comm]

theorem holds_parts {collection : Collection} {request : CursorRequest}
    (parts : Parts collection request) (truth : Assignment) :
    holds truth parts.query.find.filter =
      (holds truth parts.filter &&
        leadingHolds collection truth (effectiveSort collection.config request.sort) request.side
          parts.values) := by
  have hboundary := holds_boundary truth (effectiveSort_ne_nil _ _) parts.boundary_eq
  rw [← hboundary, ← holds_bound]
  rfl

/-- **The predicate of a page is the filter with the comparison of the first field.** Requests
that differ in the fields after it, or in their values, select the same rows, and no row that ties
with the cursor's row by the first field is selected, on either side. -/
theorem holds_find_filter {collection : Collection} {request : CursorRequest}
    {query : CursorQuery} (h : ofRequest collection request = .ok query) :
    ∃ filter values,
      Filter.compile collection request.filter = .ok filter ∧
      valuesOf collection.config request.cursor = .ok values ∧
      (∀ truth, holds truth query.find.filter =
        (holds truth filter &&
          leadingHolds collection truth (effectiveSort collection.config request.sort)
            request.side values)) ∧
      (∀ other otherQuery otherValues, ofRequest collection other = .ok otherQuery →
        valuesOf collection.config other.cursor = .ok otherValues →
        other.filter = request.filter → other.side = request.side →
        (effectiveSort collection.config other.sort).head? =
          (effectiveSort collection.config request.sort).head? →
        otherValues.head? = values.head? →
        ∀ truth, holds truth otherQuery.find.filter = holds truth query.find.filter) ∧
      ∀ first value, (effectiveSort collection.config request.sort).head? = some first →
        values.head? = some value →
        ∀ less truth found, Compares less truth first.field found →
          less found (coerce collection first.field value) = false →
          less (coerce collection first.field value) found = false →
          holds truth query.find.filter = false := by
  obtain ⟨parts, rfl⟩ := ofRequest_eq_ok.1 h
  refine ⟨parts.filter, parts.values, parts.filter_eq, parts.values_eq, holds_parts parts, ?_, ?_⟩
  · intro other otherQuery otherValues hother hvalues hfilter hside hsort hhead truth
    obtain ⟨others, rfl⟩ := ofRequest_eq_ok.1 hother
    have hsame : others.filter = parts.filter := by
      have hcompiled := others.filter_eq
      rw [hfilter, parts.filter_eq] at hcompiled
      exact (Except.ok.inj hcompiled).symm
    have hothers : others.values = otherValues :=
      Except.ok.inj (others.values_eq.symm.trans hvalues)
    rw [holds_parts, holds_parts, hsame, leadingHolds, hothers, hsort, hhead, hside]
    rfl
  · intro first value hfirst hvalue less truth found hcompares hfound hback
    rw [holds_parts, leadingHolds, hfirst, hvalue]
    have hfalse : truth first.field (operator request.side first.direction)
        (coerce collection first.field value) = false := by
      rw [Cursor.Keyset.operator_eq]
      cases request.side.toward first.direction with
      | ascending => exact (hcompares.greater _).trans hback
      | descending => exact (hcompares.lesser _).trans hfound
    simp only [hfalse, Bool.and_false]

/-- Rows before one of a given date, the latest first: the identifier in the token plays no
part. -/
theorem holds_find_filter_before :
    let collection : Collection := ⟨.ofFields [("joined", .date)], {}⟩
    let request : CursorRequest :=
      { filter := [.field ⟨"name", [⟨.equal, .string "a"⟩]⟩]
        sort := ["-joined", "id"]
        cursor := some "MAAAAAR2ACgAAAACMAAVAAAAMTk3MC0wMS0wMVQwMDowMDowMFoAEDEABwAAAAAA"
        side := .before }
    ∃ query, ofRequest collection request = .ok query ∧
      ∀ truth, holds truth query.find.filter =
        (truth "name" "$eq" (.string "a") && truth "joined" "$gt" (.date 0)) := by
  intro collection request
  have hbytes : Text.Base64.decodeUrl?
      "MAAAAAR2ACgAAAACMAAVAAAAMTk3MC0wMS0wMVQwMDowMDowMFoAEDEABwAAAAAA".toList =
        some [48, 0, 0, 0, 4, 118, 0, 40, 0, 0, 0, 2, 48, 0, 21, 0, 0, 0, 49, 57, 55, 48, 45, 48,
          49, 45, 48, 49, 84, 48, 48, 58, 48, 48, 58, 48, 48, 90, 0, 16, 49, 0, 7, 0, 0, 0, 0,
          0] := rfl
  have hdecode : Cursor.Token.decode 8192
      "MAAAAAR2ACgAAAACMAAVAAAAMTk3MC0wMS0wMVQwMDowMDowMFoAEDEABwAAAAAA" =
        .ok [.string "1970-01-01T00:00:00Z", .int32 7] :=
    Cursor.Token.decode_of_payload rfl (by decide) hbytes rfl rfl
  have hvalues : valuesOf collection.config request.cursor =
      .ok [.string "1970-01-01T00:00:00Z", .int32 7] :=
    Cursor.valuesOf_token (List.cons_ne_nil _ _) hdecode
  let parts : Parts collection request :=
    ⟨[("name", .document [("$eq", .string "a")])], _, _, _, rfl, forM_eq_ok.1 rfl, hvalues, rfl,
      rfl⟩
  obtain ⟨filter, values, hfilter, hvalues', hmeaning, _⟩ :=
    holds_find_filter (ofRequest_eq_ok.2 ⟨parts, rfl⟩)
  refine ⟨parts.query, ofRequest_eq_ok.2 ⟨parts, rfl⟩, fun truth => ?_⟩
  rw [hmeaning, Except.ok.inj (hfilter.symm.trans parts.filter_eq),
    Except.ok.inj (hvalues'.symm.trans hvalues), Predicate.holds_comparison]
  rfl

end CursorQuery

end DocumentQuery
