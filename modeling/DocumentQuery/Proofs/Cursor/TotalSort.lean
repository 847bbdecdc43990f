import DocumentQuery.Proofs.Cursor.Boundary
import DocumentQuery.Proofs.Cursor.Mirror
import DocumentQuery.Proofs.Query.IdentifierAlias
import DocumentQuery.Proofs.Query.SortDocument
import DocumentQuery.Proofs.Store.Order
import Mathlib.Order.Extension.Linear

/-!
# Rows never tie

The sort document of a page has the identifier among its entries, whatever the request asks for. It
keeps its place and its entry where fields are named by their alias, marked or repeated, so that
the store tells any two rows apart that have different identifiers.

* `SortField.token`             : a field to sort by as a token, with its mark;
* `Keyset.effectiveSort_token`  : the tokens of a sort order stand for that order;
* `Keyset.fields_effectiveSort` : the fields of a sort order;
* `CursorQuery.keys_storeSort`  : the entries of the sort document.

Principal result: `CursorQuery.sort_total`.
-/

namespace DocumentQuery

/-! ## Tokens -/

/-- The mark of a direction before the name of a field. -/
def Direction.mark : Direction → String
  | ascending => "+"
  | descending => "-"

/-- The token of a field to sort by. It spells out its direction. -/
def SortField.token (s : SortField) : String := s.direction.mark ++ s.field

theorem SortField.parse_token (s : SortField) : parse s.token = s := by
  obtain ⟨field, direction⟩ := s
  cases direction with
  | ascending => exact parse_plus field
  | descending => exact parse_minus field

/-- A stored name is its own. -/
theorem Config.resolve_resolve (config : Config) (field : String) :
    config.resolve (config.resolve field) = config.resolve field := by
  by_cases halias : field = config.idAlias
  · have hstored : config.resolve field = config.idField := if_pos halias
    rw [hstored, resolve_idField]
  · have hstored : config.resolve field = field := if_neg halias
    rw [hstored, hstored]

namespace Cursor.Keyset

theorem effectiveSort_of_not_names {config : Config} {tokens : List String}
    (h : ¬NamesIdentifier config tokens) :
    effectiveSort config tokens =
      ⟨config.idField, .ascending⟩ :: tokens.map (SortField.ofToken config) := by
  apply if_neg
  intro hany
  obtain ⟨s, hs, hfield⟩ := List.any_eq_true.1 hany
  obtain ⟨token, htoken, rfl⟩ := List.mem_map.1 hs
  exact h ⟨token, htoken, of_decide_eq_true hfield⟩

variable (config : Config) (tokens : List String)

theorem resolve_of_mem {s : SortField} (hs : s ∈ effectiveSort config tokens) :
    config.resolve s.field = s.field := by
  have hgiven : ∀ token, config.resolve (SortField.ofToken config token).field =
      (SortField.ofToken config token).field := fun _ => config.resolve_resolve _
  simp only [effectiveSort] at hs
  split at hs
  · obtain ⟨token, -, rfl⟩ := List.mem_map.1 hs
    exact hgiven token
  · rcases List.mem_cons.1 hs with rfl | hs
    · exact Config.resolve_idField
    · obtain ⟨token, -, rfl⟩ := List.mem_map.1 hs
      exact hgiven token

theorem ofToken_token {s : SortField} (hs : s ∈ effectiveSort config tokens) :
    SortField.ofToken config s.token = s := by
  unfold SortField.ofToken
  rw [SortField.parse_token]
  simp only [resolve_of_mem config tokens hs]

/-- **The tokens of a sort order stand for that order.** -/
theorem effectiveSort_token :
    effectiveSort config ((effectiveSort config tokens).map SortField.token) =
      effectiveSort config tokens := by
  have hsame : ∀ s ∈ effectiveSort config tokens, SortField.ofToken config s.token = s :=
    fun s hs => ofToken_token config tokens hs
  obtain ⟨first, hfirst, hfield⟩ := exists_identifier config tokens
  have hnames : NamesIdentifier config ((effectiveSort config tokens).map SortField.token) := by
    refine ⟨first.token, List.mem_map_of_mem hfirst, ?_⟩
    rw [hsame first hfirst, hfield]
  rw [effectiveSort_of_names hnames, List.map_map]
  exact (List.map_congr_left hsame).trans (List.map_id _)

/-! ## Fields -/

/-- The fields of the tokens under their stored names, each at its first mention. -/
def namedFields : List String :=
  (tokens.map fun token => config.resolve (SortField.parse token).field).eraseDups

theorem mem_namedFields : config.idField ∈ namedFields config tokens ↔
    NamesIdentifier config tokens := by
  rw [namedFields, List.mem_eraseDups, List.mem_map]
  rfl

/-- The fields of a sort order: the identifier first if it is not named, then the named fields. -/
theorem fields_effectiveSort :
    ((effectiveSort config tokens).map SortField.field).eraseDups =
      if config.idField ∈ namedFields config tokens then namedFields config tokens
      else config.idField :: namedFields config tokens := by
  have hfields : (tokens.map (SortField.ofToken config)).map SortField.field =
      tokens.map fun token => config.resolve (SortField.parse token).field := List.map_map ..
  by_cases hnames : NamesIdentifier config tokens
  · rw [if_pos ((mem_namedFields config tokens).2 hnames), effectiveSort_of_names hnames, hfields]
    rfl
  · have hmem : config.idField ∉ namedFields config tokens :=
      fun h => hnames ((mem_namedFields config tokens).1 h)
    have hothers : config.idField ∉
        tokens.map fun token => config.resolve (SortField.parse token).field :=
      fun h => hmem (List.mem_eraseDups.2 h)
    rw [if_neg hmem, effectiveSort_of_not_names hnames, List.map_cons, hfields,
      List.eraseDups_cons, List.filter_eq_self.2]
    · rfl
    · intro field hfield
      simpa using ne_of_mem_of_not_mem hfield hothers

end Cursor.Keyset

/-! ## Sort documents -/

/-- There is an order in which no two values tie. -/
theorem ValueOrder.exists_linear : ∃ order : ValueOrder, order.Linear := by
  classical
  have hequal : IsPartialOrder Value (· = ·) :=
    { refl := Eq.refl
      trans := fun _ _ _ => Eq.trans
      antisymm := fun _ _ h _ => h }
  obtain ⟨le, hlinear, -⟩ := extend_partialOrder (fun a b : Value => a = b)
  let order : ValueOrder :=
    { le := fun a b => decide (le a b)
      total := fun a b => by simpa using total_of le a b
      trans := fun a b c hab hbc => by
        rw [decide_eq_true_eq] at hab hbc ⊢
        exact trans_of le hab hbc }
  refine ⟨order, fun a b hab hba => ?_⟩
  exact antisymm_of le (of_decide_eq_true hab) (of_decide_eq_true hba)

namespace CursorQuery

open Cursor (Parts)
open Cursor.Keyset (effectiveSort effectiveSort_token exists_identifier fields_effectiveSort
  namedFields)
open Cursor.Row (valueAt)

/-- The sort document has the same fields on either side. -/
theorem keys_storeSort (side : Side) (sort : SortOrder) :
    Entries.keys (SortOrder.document (storeSort side sort)) =
      (sort.map SortField.field).eraseDups := by
  rw [SortOrder.keys_document, storeSort_eq, List.map_map]
  rfl

theorem idField_mem_keys (side : Side) (config : Config) (tokens : List String) :
    config.idField ∈
      Entries.keys (SortOrder.document (storeSort side (effectiveSort config tokens))) := by
  rw [keys_storeSort, List.mem_eraseDups]
  obtain ⟨s, hs, hfield⟩ := exists_identifier config tokens
  exact List.mem_map.2 ⟨s, hs, hfield⟩

/-- **The sort of a page is a total order.** The sort document of a page has the identifier first,
unless it is named, then the named fields in order of their first mention, and no others. Of two
rows with different identifiers exactly one comes before the other, in whatever order of the
values. The sort order spelled out as tokens is the sort order of these tokens. -/
theorem sort_total (collection : Collection) (request : CursorRequest) :
    let config := collection.config
    let named := namedFields config request.sort
    effectiveSort config ((effectiveSort config request.sort).map SortField.token) =
        effectiveSort config request.sort ∧
      ∀ query, ofRequest collection request = .ok query →
        query.sort = effectiveSort config request.sort ∧
        ∃ document, query.find.sort = some document ∧
          Entries.keys document =
            (if config.idField ∈ named then named else config.idField :: named) ∧
          (∀ (order : ValueOrder) (r s : Document),
            ¬order.ties (valueAt r config.idField) (valueAt s config.idField) →
              order.precedes document s r = !order.precedes document r s) ∧
          ∀ order : ValueOrder, order.Linear → ∀ r s : Document,
            valueAt r config.idField ≠ valueAt s config.idField →
              order.precedes document s r = !order.precedes document r s := by
  intro config named
  refine ⟨effectiveSort_token config request.sort, fun query hquery => ?_⟩
  obtain ⟨parts, rfl⟩ := ofRequest_eq_ok.1 hquery
  have hmem := idField_mem_keys request.side config request.sort
  refine ⟨rfl, _, rfl, ?_, ?_, ?_⟩
  · exact (keys_storeSort _ _).trans (fields_effectiveSort config request.sort)
  · intro order r s hties
    exact ValueOrder.precedes_swap hmem hties
  · intro order hlinear r s hdiffer
    exact ValueOrder.precedes_swap hmem fun hties => hdiffer (hlinear.eq_of_ties hties)

/-- Rows before a cursor by age, with the identifier under its alias and age named twice: the
rows of one age are told apart by the identifier. -/
theorem sort_total_age :
    let collection : Collection := ⟨.ofFields [], {}⟩
    let request : CursorRequest := { sort := ["age", "-id", "-age"], side := .before }
    let order : ValueOrder := .ofRank fun
      | .int32 n => n.toInt
      | _ => 0
    ∃ query document, ofRequest collection request = .ok query ∧
      query.find.sort = some document ∧ document = [("age", .int32 1), ("_id", .int32 1)] ∧
      order.precedes document [("_id", .int32 2), ("age", .int32 36)]
        [("_id", .int32 1), ("age", .int32 36)] = false ∧
      order.precedes document [("_id", .int32 1), ("age", .int32 36)]
        [("_id", .int32 2), ("age", .int32 36)] = true ∧
      ∃ linear : ValueOrder, linear.Linear ∧
        linear.precedes document [("_id", .int32 1)] [("_id", .int32 2)] =
          !linear.precedes document [("_id", .int32 2)] [("_id", .int32 1)] := by
  intro collection request order
  let parts : Parts collection request :=
    ⟨_, _, _, _, rfl, forM_eq_ok.1 rfl, Cursor.valuesOf_none _, rfl, rfl⟩
  have hquery : ofRequest collection request = .ok parts.query := ofRequest_eq_ok.2 ⟨parts, rfl⟩
  obtain ⟨-, document, hdocument, -, hties, hdiffer⟩ := (sort_total collection request).2 _ hquery
  obtain rfl : [("age", .int32 1), ("_id", .int32 1)] = document := Option.some.inj hdocument
  have hfirst : order.precedes [("age", .int32 1), ("_id", .int32 1)]
      [("_id", .int32 2), ("age", .int32 36)] [("_id", .int32 1), ("age", .int32 36)] = false := by
    decide
  refine ⟨_, _, hquery, hdocument, rfl, hfirst, ?_, ?_⟩
  · rw [hties order _ _ (by decide), hfirst]
    rfl
  · obtain ⟨linear, hlinear⟩ := ValueOrder.exists_linear
    have hids : valueAt [("_id", .int32 2)] "_id" ≠ valueAt [("_id", .int32 1)] "_id" :=
      fun h => absurd (Value.int32.inj h) (by decide)
    exact ⟨linear, hlinear, hdiffer linear hlinear _ _ hids⟩

end CursorQuery

end DocumentQuery
