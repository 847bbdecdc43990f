import DocumentQuery.Proofs.Filter.Grammar
import DocumentQuery.Query.Error
import Mathlib.Data.List.Induction

/-!
# Malformed filters

Which part of a value that is no filter is found at fault, and how the error names it.

* `FirstFault` : the part that comes first of those without the shape they need;
* `FaultAt`    : the same for a value that lies at a path;
* `Spells`     : how a text names a path.

Principal results: `ofObject_eq_error`, the error of an object is the first fault in it, and
`ofJson_grammar`, all that reading a filter can give.
-/

namespace DocumentQuery.Filter

/-! ## The first fault -/

/-- The shape that the value of a key needs. -/
def shapeOf (key : String) : Shape :=
  if key = "and" ∨ key = "or" then .filterList else .operators

/-- The value has the shape, whatever is in it. -/
def Shape.fits : Shape → Json → Bool
  | .filter, json | .operators, json => json.object?.isSome
  | .filterList, json => json.array?.isSome

/-- A value that needs a shape has its first fault at the end of a path: it has not the shape
itself, or the fault lies in the first member or item that has any. -/
inductive FirstFault : Shape → Json → List Step → Shape → Prop where
  | here {expected : Shape} {json : Json} (hfits : expected.fits json = false) :
      FirstFault expected json [] expected
  | member {before after : List (String × Json)} {key : String} {json : Json} {path : List Step}
      {expected : Shape} (hbefore : ∀ m ∈ before, IsClause m)
      (hfault : FirstFault (shapeOf key) json path expected) :
      FirstFault .filter (.object (before ++ (key, json) :: after)) (.member key :: path) expected
  | item {before after : List Json} {json : Json} {path : List Step} {expected : Shape}
      (hbefore : ∀ item ∈ before, IsFilterObject item)
      (hfault : FirstFault .filter json path expected) :
      FirstFault .filterList (.array (before ++ json :: after)) (.item before.length :: path)
        expected

/-! ## What is at fault -/

/-- The fault lies in a value at `path`, and is the first one there. -/
def FaultAt (expected : Shape) (json : Json) (path : List Step) (fault : Malformed) : Prop :=
  ∃ rest, fault.path = path ++ rest ∧ FirstFault expected json rest fault.expected

/-- A value that has not the shape it needs is at fault itself. -/
theorem eq_error_iff_of_unfit {α : Type} {expected : Shape} {json : Json} {path : List Step}
    {fault : Malformed} {read : Except Malformed α} (hread : read = .error ⟨path, expected⟩)
    (hfits : expected.fits json = false) :
    read = .error fault ↔ FaultAt expected json path fault := by
  obtain ⟨own, shape⟩ := fault
  rw [hread]
  constructor
  · intro h
    cases h
    exact ⟨[], (List.append_nil path).symm, .here hfits⟩
  · rintro ⟨rest, hpath, hfault⟩
    cases hfault with
    | here =>
      rw [List.append_nil] at hpath
      show Except.error _ = Except.error (Malformed.mk own _)
      rw [show own = path from hpath]
    | member => cases hfits
    | item => cases hfits

theorem exists_ofObject_eq_ok {path : List Step} {json : Json} :
    (∃ filter, ofObject path json = .ok filter) ↔ IsFilterObject json := by
  rw [isFilterObject_iff_mirrors]
  exact exists_congr fun filter => ofObject_eq_ok json path filter

theorem exists_ofClause_eq_ok {path : List Step} {key : String} {json : Json} :
    (∃ clause, ofClause path key json = .ok clause) ↔ IsClause (key, json) := by
  rw [isClause_iff_mirrors fun _ _ item _ => isFilterObject_iff_mirrors item]
  exact exists_congr fun clause => ofClause_eq_ok fun _ _ item _ => ofObject_eq_ok item

theorem ofOperators_eq_error {path : List Step} {key : String} {json : Json} {fault : Malformed} :
    ofOperators path key json = .error fault ↔ FaultAt .operators json path fault := by
  cases json with
  | object operators =>
    obtain ⟨own, shape⟩ := fault
    constructor
    · intro h
      cases h
    · rintro ⟨rest, hpath, hfault⟩
      cases hfault with
      | here hfits => cases hfits
  | _ => exact eq_error_iff_of_unfit rfl rfl

/-- The first fault in a list is the one in an item whose predecessors are filters. -/
theorem faultAt_array {items : List Json} {path : List Step} {fault : Malformed} :
    FaultAt .filterList (.array items) path fault ↔
      ∃ before json after, items = before ++ json :: after ∧
        (∀ item ∈ before, IsFilterObject item) ∧
        FaultAt .filter json (path ++ [.item before.length]) fault := by
  obtain ⟨own, shape⟩ := fault
  constructor
  · rintro ⟨rest, hpath, hfault⟩
    cases hfault with
    | here hfits => cases hfits
    | item hbefore hfault =>
      refine ⟨_, _, _, rfl, hbefore, _, ?_, hfault⟩
      rw [hpath, List.append_assoc]
      rfl
  · rintro ⟨before, json, after, rfl, hbefore, rest, hpath, hfault⟩
    refine ⟨_, ?_, .item hbefore hfault⟩
    rw [hpath, List.append_assoc]
    rfl

/-- The first fault in an object is the one in a member whose predecessors are clauses. -/
theorem faultAt_object {members : List (String × Json)} {path : List Step} {fault : Malformed} :
    FaultAt .filter (.object members) path fault ↔
      ∃ before m after, members = before ++ m :: after ∧ (∀ m ∈ before, IsClause m) ∧
        FaultAt (shapeOf m.1) m.2 (path ++ [.member m.1]) fault := by
  obtain ⟨own, shape⟩ := fault
  constructor
  · rintro ⟨rest, hpath, hfault⟩
    cases hfault with
    | here hfits => cases hfits
    | member hbefore hfault =>
      refine ⟨_, _, _, rfl, hbefore, _, ?_, hfault⟩
      rw [hpath, List.append_assoc]
      rfl
  · rintro ⟨before, m, after, rfl, hbefore, rest, hpath, hfault⟩
    refine ⟨_, ?_, .member hbefore hfault⟩
    rw [hpath, List.append_assoc]
    rfl

/-- A list has the first fault in it, if the objects in it have. -/
theorem ofGroup_eq_error {json : Json}
    (h : ∀ items, json = .array items → ∀ item ∈ items, ∀ path fault,
      ofObject path item = .error fault ↔ FaultAt .filter item path fault)
    {path : List Step} {fault : Malformed} :
    ofGroup path json = .error fault ↔ FaultAt .filterList json path fault := by
  cases json with
  | array items =>
    rw [ofGroup, ofItems_eq, mapM_eq_error, faultAt_array]
    simp only [exists_ofObject_eq_ok]
    constructor
    · rintro ⟨before, numbered, after, hsplit, hbefore, herror⟩
      -- The items are read with their places; without them the list falls into the same parts.
      obtain ⟨own, others, rfl, rfl, hothers⟩ := List.zipIdx_eq_append_iff.1 hsplit
      obtain ⟨json, rest, rfl, rfl, -⟩ := List.zipIdx_eq_cons_iff.1 hothers.symm
      refine ⟨own, json, rest, rfl, ?_, ?_⟩
      · intro item hitem
        obtain ⟨numbered, hnumbered, rfl⟩ :=
          List.mem_map.1 ((List.zipIdx_map_fst 0 own).symm ▸ hitem)
        exact hbefore numbered hnumbered
      · rw [← h _ rfl json (by simp)]
        simpa using herror
    · rintro ⟨before, json, after, rfl, hbefore, hfault⟩
      refine ⟨before.zipIdx, (json, before.length), after.zipIdx (before.length + 1), ?_, ?_, ?_⟩
      · rw [List.zipIdx_append, List.zipIdx_cons, Nat.zero_add]
      · intro numbered hnumbered
        exact hbefore _ (List.fst_mem_of_mem_zipIdx hnumbered)
      · exact (h _ rfl json (by simp) _ fault).2 hfault
  | _ => exact eq_error_iff_of_unfit rfl rfl

theorem ofClause_eq_error {key : String} {json : Json}
    (h : ∀ items, json = .array items → ∀ item ∈ items, ∀ path fault,
      ofObject path item = .error fault ↔ FaultAt .filter item path fault)
    {path : List Step} {fault : Malformed} :
    ofClause path key json = .error fault ↔ FaultAt (shapeOf key) json path fault := by
  unfold ofClause conjunctionKey disjunctionKey shapeOf
  by_cases hand : key = "and"
  · rw [if_pos hand, if_pos (.inl hand), map_eq_error]
    exact ofGroup_eq_error h
  · by_cases hor : key = "or"
    · rw [if_neg hand, if_pos hor, if_pos (.inr hor), map_eq_error]
      exact ofGroup_eq_error h
    · rw [if_neg hand, if_neg hor, if_neg (not_or.2 ⟨hand, hor⟩), map_eq_error]
      exact ofOperators_eq_error

/-- **An object that is no filter has the first fault in it.** -/
theorem ofObject_eq_error (json : Json) :
    ∀ path fault, ofObject path json = .error fault ↔ FaultAt .filter json path fault := by
  induction json using groupInduction with
  | object members ih =>
    intro path fault
    rw [ofObject, ofMembers_eq, mapM_eq_error, faultAt_object]
    simp only [exists_ofClause_eq_ok]
    constructor
    · rintro ⟨before, m, after, rfl, hbefore, herror⟩
      exact ⟨before, m, after, rfl, hbefore, (ofClause_eq_error (ih m (by simp))).1 herror⟩
    · rintro ⟨before, m, after, rfl, hbefore, hfault⟩
      exact ⟨before, m, after, rfl, hbefore, (ofClause_eq_error (ih m (by simp))).2 hfault⟩
  | other json hjson =>
    intro path fault
    have hfits : Shape.filter.fits json = false := by
      show json.object?.isSome = false
      rw [hjson]
      rfl
    cases json with
    | object members => cases hjson
    | _ => exact eq_error_iff_of_unfit rfl hfits

theorem faultAt_root {expected : Shape} {json : Json} {fault : Malformed} :
    FaultAt expected json [] fault ↔ FirstFault expected json fault.path fault.expected := by
  constructor
  · rintro ⟨rest, hpath, hfault⟩
    rw [hpath]
    exact hfault
  · intro h
    exact ⟨fault.path, rfl, h⟩

/-! ## Locations -/

/-- The text spells the path: `$` for the root, and then `.key` or `[index]` for each step. -/
inductive Spells : String → List Step → Prop where
  | root : Spells "$" []
  | member {text : String} {path : List Step} {key : String} (hpath : Spells text path) :
      Spells (text ++ "." ++ key) (path ++ [.member key])
  | item {text : String} {path : List Step} {index : Nat} (hpath : Spells text path) :
      Spells (text ++ "[" ++ toString index ++ "]") (path ++ [.item index])

theorem spells_location (fault : Malformed) : Spells fault.location fault.path := by
  obtain ⟨path, expected⟩ := fault
  show Spells ("$" ++ String.join (path.map Step.render)) path
  induction path using List.reverseRecOn with
  | nil => exact .root
  | append_singleton path step ih =>
    rw [List.map_append, String.join_append, ← String.append_assoc, List.map_singleton,
      String.join_cons, String.join_nil, String.append_empty]
    cases step with
    | member key =>
      rw [Step.render, ← String.append_assoc]
      exact .member ih
    | item index =>
      rw [Step.render, ← String.append_assoc, ← String.append_assoc]
      exact .item ih

/-! ## The root -/

theorem ofJson_of_ne_null {json : Json} (h : json ≠ .null) : ofJson json = ofObject [] json := by
  cases json with
  | null => exact absurd rfl h
  | _ => rfl

/-- **The grammar of filters.** Null and the filter objects are accepted, and nothing else is. Null
is the empty filter, and an object the filter that mirrors it. Any other value has the fault that
comes first in it, and the error of a fault spells the way to it. -/
theorem ofJson_grammar (json : Json) :
    ((∃ filter, ofJson json = .ok filter) ↔ json = .null ∨ IsFilterObject json) ∧
      (∀ filter, ofJson json = .ok filter ↔
        json = .null ∧ filter = [] ∨ Mirrors json filter) ∧
      (∀ fault, ofJson json = .error fault ↔
        json ≠ .null ∧ FirstFault .filter json fault.path fault.expected) ∧
      ∀ fault,
        (QueryError.malformedFilter fault).code = "QUERY_INVALID_FILTER" ∧
          ∃ location, Spells location fault.path ∧
            (QueryError.malformedFilter fault).message =
              "invalid filter at \x27" ++ location ++ "\x27: " ++ fault.expected.description := by
  refine ⟨?_, ?_, ?_, fun fault => ⟨rfl, fault.location, spells_location fault, rfl⟩⟩
  · by_cases hnull : json = .null
    · rw [hnull]
      exact ⟨fun _ => .inl rfl, fun _ => ⟨[], rfl⟩⟩
    · rw [ofJson_of_ne_null hnull, exists_ofObject_eq_ok]
      exact (or_iff_right hnull).symm
  · intro filter
    by_cases hnull : json = .null
    · have hmirrors : ¬Mirrors .null filter := not_mirrors rfl
      rw [hnull]
      constructor
      · intro h
        cases h
        exact .inl ⟨rfl, rfl⟩
      · rintro (⟨-, rfl⟩ | h)
        · rfl
        · exact absurd h hmirrors
    · rw [ofJson_of_ne_null hnull, ofObject_eq_ok]
      exact (or_iff_right fun h => hnull h.1).symm
  · intro fault
    by_cases hnull : json = .null
    · rw [hnull]
      constructor
      · intro h
        cases h
      · rintro ⟨h, -⟩
        exact absurd rfl h
    · rw [ofJson_of_ne_null hnull, ofObject_eq_error, faultAt_root]
      exact (and_iff_right hnull).symm

/-- The case of an operator does not count, that of a key does. -/
example : ofJson (.object [("age", .object [("NotBetween", .null)]), ("OR", .object [])]) =
    .ok [.field ⟨"age", [⟨.notBetween, .null⟩]⟩, .field ⟨"OR", []⟩] := by
  rfl

end DocumentQuery.Filter
