import DocumentQuery.Proofs.Cursor.Acceptance
import DocumentQuery.Proofs.Cursor.RowPath
import DocumentQuery.Proofs.Query.StrictFields
import DocumentQuery.Proofs.Schema.Flattening

/-!
# Catalogued paths in rows

A catalog goes through the properties of objects and of the items of lists, and writes both with
dots. A row is looked up from document to document alone. So a complete row has a value at a path of
the catalog, unless the path leads through the items of a list; then there is none, whatever the
items hold, and the cursor of the row has null for that field.

* `Complete`, `Fills`    : a row has all properties of a schema, and none of them is null;
* `ThroughItems`         : names that lead on from a list;
* `Catalog.ThroughItems` : the same of a path of the catalog;
* `Catalog.ReadAs`       : what a cursor has for a field of a complete row.

Principal results: `Complete.exists_descend?`, `Complete.descend?_items` and, for catalogs and the
cursors of pages, `Catalog.read_back_iff`.
-/

namespace DocumentQuery.Schema

open Cursor (pathKeys Row.lookup? Row.descend?)

/-! ## Complete rows -/

mutual

/-- The row has a value for each property of an object. -/
inductive Complete : Entries Json → Document → Prop where
  | intro {owner : Entries Json} {row : Document}
      (h : ∀ name definition, HasProperty owner name definition →
        Fills definition (Entries.get? name row)) : Complete owner row

/-- A value of a property. With properties of its own it is a document, or, if it is that of a list,
a list of documents that is not empty; these are complete in turn. Any other one is not null. -/
inductive Fills : Entries Json → Option Value → Prop where
  | leaf {definition : Entries Json} {value : Value}
      (hleaf : ∀ holder properties, Holder definition holder →
        Entries.get? "properties" holder ≠ some (.object properties))
      (hvalue : value ≠ .null) : Fills definition (some value)
  | document {definition holder : Entries Json} {inner : Document}
      (hholder : Holder definition holder) (htype : ¬DeclaresType definition "array")
      (h : Complete holder inner) : Fills definition (some (.document inner))
  | items {definition holder : Entries Json} {items : List Document}
      (hholder : Holder definition holder) (htype : DeclaresType definition "array")
      (hitems : items ≠ []) (h : ∀ item ∈ items, Complete holder item) :
      Fills definition (some (.array (items.map .document)))

end

theorem Complete.fills {owner definition : Entries Json} {row : Document} {name : String}
    (h : Complete owner row) (hproperty : HasProperty owner name definition) :
    Fills definition (Entries.get? name row) := by
  obtain ⟨h⟩ := h
  exact h name definition hproperty

theorem Fills.exists_value {definition : Entries Json} {found : Option Value}
    (h : Fills definition found) : ∃ value, found = some value ∧ value ≠ .null := by
  cases h with
  | leaf _ hvalue => exact ⟨_, rfl, hvalue⟩
  | document => exact ⟨_, rfl, Value.noConfusion⟩
  | items => exact ⟨_, rfl, Value.noConfusion⟩

/-! ## Names that lead through items -/

section Names

variable {owner definition outer holder : Entries Json} {name : String} {names : List String}

/-- A list stands on the way, before the last name. -/
def ThroughItems (owner : Entries Json) (names : List String) : Prop :=
  ∃ front back, names = front ++ back ∧ back ≠ [] ∧ Catalogued owner front .array

theorem hasKind_array : HasKind definition .array ↔ DeclaresType definition "array" := by
  constructor
  · intro h
    generalize hkind : TypeKind.array = kind at h
    cases h with
    | typed htype => rwa [ofName_eq_array.1 hkind.symm] at htype
    | enumerated => cases hkind
  · exact .typed

theorem Catalogued.ne_nil {kind : TypeKind} (h : Catalogued owner names kind) : names ≠ [] := by
  obtain ⟨definition, hproperty, -⟩ := h
  exact hproperty.ne_nil

theorem not_throughItems_single : ¬ThroughItems owner [name] := by
  rintro ⟨front, back, hnames, hback, hfront⟩
  rcases List.append_eq_singleton_iff.1 hnames.symm with ⟨rfl, -⟩ | ⟨-, rfl⟩
  · exact hfront.ne_nil rfl
  · exact hback rfl

/-- The first name is that of a list, or the others lead through one. -/
theorem throughItems_cons (hproperty : HasProperty owner name outer) (hholder : Holder outer holder)
    (hnames : names ≠ []) :
    ThroughItems owner (name :: names) ↔
      DeclaresType outer "array" ∨ ThroughItems holder names := by
  constructor
  · rintro ⟨front, back, hsplit, hback, definition, hfront, hkind⟩
    cases hfront with
    | own hother =>
      obtain ⟨rfl, rfl⟩ := List.cons.inj hsplit
      cases hproperty.unique hother
      exact .inl (hasKind_array.1 hkind)
    | within hother hotherHolder hinner =>
      obtain ⟨rfl, rfl⟩ := List.cons.inj hsplit
      cases hproperty.unique hother
      cases hholder.unique hotherHolder
      exact .inr ⟨_, back, rfl, hback, definition, hinner, hkind⟩
  · rintro (htype | ⟨front, back, rfl, hback, definition, hfront, hkind⟩)
    · exact ⟨[name], names, rfl, hnames, outer, .own hproperty, hasKind_array.2 htype⟩
    · exact ⟨name :: front, back, rfl, hback, definition, .within hproperty hholder hfront, hkind⟩

theorem Property.has_properties (h : Property owner names definition) :
    ∃ properties, Entries.get? "properties" owner = some (.object properties) := by
  cases h with
  | own hproperty | within hproperty =>
    obtain ⟨properties, hproperties, -⟩ := hproperty
    exact ⟨properties, hproperties⟩

/-- What stands where names lead on is a complete document, or a list. -/
theorem Fills.leads {found : Option Value} (h : Fills outer found) (hholder : Holder outer holder)
    (hinner : Property holder names definition) :
    (¬DeclaresType outer "array" ∧ ∃ inner, found.bind Value.document? = some inner ∧
        Complete holder inner) ∨
      DeclaresType outer "array" ∧ found.bind Value.document? = none := by
  cases h with
  | leaf hleaf =>
    obtain ⟨properties, hproperties⟩ := hinner.has_properties
    exact absurd hproperties (hleaf holder properties hholder)
  | document hother htype h =>
    cases hholder.unique hother
    exact .inl ⟨htype, _, rfl, h⟩
  | items _ htype => exact .inr ⟨htype, rfl⟩

theorem descend?_cons (row : Document) (hnames : names ≠ []) :
    Row.descend? (name :: names) row =
      ((Entries.get? name row).bind Value.document?).bind (Row.descend? names) := by
  obtain ⟨next, rest, rfl⟩ := List.exists_cons_of_ne_nil hnames
  exact Cursor.Row.descend?_cons row next

/-- **A property that is reached from document to document has a value in a complete row.** -/
theorem Complete.exists_descend? {row : Document} (h : Complete owner row)
    (hproperty : Property owner names definition) (hdirect : ¬ThroughItems owner names) :
    ∃ value, Row.descend? names row = some value ∧ value ≠ .null := by
  induction hproperty generalizing row with
  | own hproperty => exact (h.fills hproperty).exists_value
  | within hproperty hholder hinner ih =>
    rw [throughItems_cons hproperty hholder hinner.ne_nil, not_or] at hdirect
    rw [descend?_cons row hinner.ne_nil]
    have hleads := (h.fills hproperty).leads hholder hinner
    rcases hleads with ⟨-, inner, hfound, hcomplete⟩ | ⟨htype, -⟩
    · rw [hfound]
      exact ih hcomplete hdirect.2
    · exact absurd htype hdirect.1

/-- **One that is reached through the items of a list has none, whatever the items hold.** -/
theorem Complete.descend?_items {row : Document} (h : Complete owner row)
    (hproperty : Property owner names definition) (hitems : ThroughItems owner names) :
    Row.descend? names row = none := by
  induction hproperty generalizing row with
  | own => exact absurd hitems not_throughItems_single
  | within hproperty hholder hinner ih =>
    rw [throughItems_cons hproperty hholder hinner.ne_nil] at hitems
    rw [descend?_cons row hinner.ne_nil]
    have hleads := (h.fills hproperty).leads hholder hinner
    rcases hleads with ⟨htype, inner, hfound, hcomplete⟩ | ⟨-, hfound⟩
    · rw [hfound]
      exact ih hcomplete (hitems.resolve_left htype)
    · rw [hfound]
      rfl

end Names

/-! ## Catalogued paths -/

theorem pathKeys_path {names : List String} (hnames : names ≠ [])
    (hplain : ∀ name ∈ names, '.' ∉ name.toList) : pathKeys (".".intercalate names) = names := by
  rw [pathKeys, Cursor.splitDots_eq, splitOn_path hnames hplain, List.map_map]
  simp [Function.comp_def]

namespace Catalog

/-- A part of the path up to a dot is that of a list. -/
def ThroughItems (catalog : Catalog) (path : String) : Prop :=
  ∃ first second, path = first ++ "." ++ second ∧ catalog.kind? first = some .array

theorem throughItems_iff {root : Entries Json} {catalog : Catalog} (hplain : PlainNames root)
    (hflat : Flattens root catalog) {names : List String} {definition : Entries Json}
    (hproperty : Property root names definition) :
    catalog.ThroughItems (".".intercalate names) ↔ Schema.ThroughItems root names := by
  constructor
  · rintro ⟨first, second, hpath, hfirst⟩
    obtain ⟨front, back, rfl, hfront, hback, rfl⟩ :=
      exists_names_of_path hproperty.ne_nil (hplain _ _ hproperty) hpath
    obtain ⟨names, hnames, hsame⟩ := (hflat.kinds _ _).1 hfirst
    obtain ⟨kind, hkind⟩ := hproperty.typed hfront hback
    cases eq_of_path_eq hplain hkind hnames hsame
    exact ⟨front, back, rfl, hback, hnames⟩
  · rintro ⟨front, back, rfl, hback, hfront⟩
    exact ⟨_, _, String.intercalate_append_of_ne_nil hfront.ne_nil hback,
      (hflat.kinds _ _).2 ⟨front, hfront, rfl⟩⟩

/-- What the cursor of a complete row has for a field of the catalog is null exactly for one that is
reached through items. -/
def ReadAs (catalog : Catalog) (field : String) (value : Value) : Prop :=
  catalog.contains field → (value = .null ↔ catalog.ThroughItems field)

/-- What is read of complete rows at the paths of a catalog, and what the cursors of pages have of
them. A field that is accepted and not in the catalog is the identifier. -/
structure ReadsBack (root : Entries Json) (catalog : Catalog) : Prop where
  rows : ∀ row path, Complete root row → catalog.contains path →
    (Row.lookup? row path = none ↔ catalog.ThroughItems path) ∧
      Row.lookup? row path ≠ some .null
  cursors : ∀ (repository : Repository) (request : CursorRequest) (page : Page) (token : String),
    repository.collection.catalog = catalog → repository.collection.config.strict = true →
      (repository.page request).result = .ok page → (∀ row ∈ page.rows, Complete root row) →
        page.startCursor = some token ∨ page.endCursor = some token →
          ∃ values, Cursor.Token.encode values = .ok token ∧
            List.Forall₂ (fun s value => repository.collection.knows s.field = true ∧
                catalog.ReadAs s.field value)
              (Cursor.Keyset.effectiveSort repository.collection.config request.sort) values

theorem lookup?_complete {root : Entries Json} {catalog : Catalog} (hplain : PlainNames root)
    (hflat : Flattens root catalog) {row : Document} {path : String} (hrow : Complete root row)
    (hpath : catalog.contains path) :
    (Row.lookup? row path = none ↔ catalog.ThroughItems path) ∧
      Row.lookup? row path ≠ some .null := by
  obtain ⟨kind, hkind⟩ := contains_iff.1 hpath
  obtain ⟨names, ⟨definition, hproperty, -⟩, rfl⟩ := (hflat.kinds _ _).1 hkind
  rw [throughItems_iff hplain hflat hproperty, Row.lookup?,
    pathKeys_path hproperty.ne_nil (hplain _ _ hproperty)]
  by_cases hitems : Schema.ThroughItems root names
  · rw [hrow.descend?_items hproperty hitems]
    exact ⟨iff_of_true rfl hitems, (Option.some_ne_none _).symm⟩
  · obtain ⟨value, hvalue, hnull⟩ := hrow.exists_descend? hproperty hitems
    rw [hvalue]
    exact ⟨iff_of_false (Option.some_ne_none _) hitems, fun h => hnull (Option.some.inj h)⟩

theorem readsBack_of_flattens {root : Entries Json} {catalog : Catalog} (hplain : PlainNames root)
    (hflat : Flattens root catalog) : ReadsBack root catalog where
  rows _ _ := lookup?_complete hplain hflat
  cursors repository request page token hcatalog hstrict hpage hrows htoken := by
    obtain ⟨hknown, row, hrow, hencode⟩ := Repository.exists_row_of_cursor hpage htoken
    refine ⟨_, hencode, List.forall₂_map_right_iff.2 (List.forall₂_same.2 fun s hs => ?_)⟩
    refine ⟨Collection.knows_of_check hstrict (hknown s hs), fun hfield => ?_⟩
    obtain ⟨hnone, hnull⟩ := lookup?_complete hplain hflat (hrows row hrow) hfield
    rw [← hnone]
    cases hfound : Row.lookup? row s.field with
    | none => exact iff_of_true rfl rfl
    | some value =>
      refine iff_of_false (fun h => hnull ?_) (Option.some_ne_none _)
      exact hfound.trans (congrArg some h)

/-- **A path of the catalog is read back from complete rows exactly if it does not lead through the
items of a list.** Only such a path puts null into the cursor of a page. -/
theorem read_back_iff {schema : Json} {catalog : Catalog} (hdistinct : schema.Distinct)
    (hplain : ∀ root, Root schema root → PlainNames root) (h : ofSchema schema = .ok catalog) :
    ∃ root, Root schema root ∧ ReadsBack root catalog := by
  obtain ⟨root, hroot, hflat⟩ := ofSchema_flattens hdistinct hplain h
  exact ⟨root, hroot, readsBack_of_flattens (hplain root hroot) hflat⟩

/-- A row of tags, with one tag. -/
def taggedRow : Document :=
  [("_id", .int32 1), ("tags", .array [.document [("label", .string "x")]]),
    ("state", .string "new")]

theorem complete_taggedRow {root : Entries Json} (h : Root tagged root) :
    Complete root taggedRow := by
  cases body_eq_ok.2 h
  refine .intro ?_
  rintro name definition ⟨_, hproperties, hdefinition⟩
  cases hproperties
  have hmem := Entries.mem_of_get? hdefinition
  simp only [List.mem_cons, List.not_mem_nil, or_false, Prod.mk.injEq, Json.object.injEq] at hmem
  rcases hmem with ⟨rfl, rfl⟩ | ⟨rfl, rfl⟩
  · refine @Fills.items _ _ [[("label", .string "x")]] (.items (declaredType?_eq_some.1 rfl) rfl)
      (declaredType?_eq_some.1 rfl) (List.cons_ne_nil _ _) ?_
    refine List.forall_mem_singleton.2 (.intro ?_)
    rintro name definition ⟨_, hproperties, hdefinition⟩
    cases hproperties
    cases List.mem_singleton.1 (Entries.mem_of_get? hdefinition)
    refine .leaf (fun holder properties hholder hinner => ?_) Value.noConfusion
    cases hholder.unique (.own (declaredType?_eq_some.1 rfl) (by decide))
    cases hinner
  · refine .leaf (fun holder _ hholder => ?_) Value.noConfusion
    obtain ⟨type, htype⟩ := hholder.declares
    cases declaredType?_eq_some.2 htype

theorem read_back_iff_tagged :
    tagged.Distinct ∧ (∀ root, Root tagged root → PlainNames root) ∧
      ∃ catalog, ofSchema tagged = .ok catalog ∧ ∃ root, Root tagged root ∧
        Complete root taggedRow ∧ ReadsBack root catalog := by
  have hdistinct : tagged.Distinct := by simp [tagged, Entries.keys]
  have hplain : ∀ root, Root tagged root → PlainNames root := fun _ => plainNames_tagged
  obtain ⟨root, hroot, hread⟩ := read_back_iff hdistinct hplain rfl
  exact ⟨hdistinct, hplain, _, rfl, root, hroot, complete_taggedRow hroot, hread⟩

/-- A row has a label for its only tag, and strict validation accepts that field to sort by. The
label is not found, and both cursors of the page have null for it. -/
theorem label_not_read_back :
    let catalog := ofFields [("tags", .array), ("tags.label", .string), ("state", .object)]
    let store : Store := ⟨fun _ => .ok [taggedRow], fun _ => .ok [], fun _ => .ok 1⟩
    let repository : Repository := ⟨⟨catalog, { strict := true }⟩, store⟩
    ∃ root token, Root tagged root ∧ PlainNames root ∧ ofSchema tagged = .ok catalog ∧
      Complete root taggedRow ∧ catalog.contains "tags.label" = true ∧
      Row.lookup? taggedRow "tags.label" = none ∧
      (repository.page { sort := ["tags.label"] }).result =
        .ok ⟨[taggedRow], false, false, some token, some token⟩ ∧
      Cursor.Token.encode [.int32 1, .null] = .ok token := by
  intro catalog store repository
  have hbody : ∃ root, Root tagged root := ⟨_, body_eq_ok.1 rfl⟩
  obtain ⟨root, hroot⟩ := hbody
  refine ⟨root, "FwAAAAR2AA8AAAAQMAABAAAACjEAAAA", hroot, plainNames_tagged hroot, rfl,
    complete_taggedRow hroot, rfl, rfl, ?_, rfl⟩
  let parts : Cursor.Parts repository.collection { sort := ["tags.label"] } :=
    ⟨_, _, _, _, rfl, forM_eq_ok.1 rfl, rfl, rfl, rfl⟩
  have hquery := CursorQuery.ofRequest_eq_ok.2 ⟨parts, rfl⟩
  have hsort : parts.query.sort = [⟨"_id", .ascending⟩, ⟨"tags.label", .ascending⟩] := rfl
  have hpage : Page.ofRows parts.query [taggedRow] = .ok ⟨[taggedRow], false, false, _, _⟩ :=
    @CursorQuery.ofRows_of_kept_single parts.query [taggedRow] _ [.int32 1, .null] _ rfl
      (by rw [hsort]; rfl) rfl
  exact Repository.page_result hquery rfl hpage

end Catalog

end DocumentQuery.Schema
