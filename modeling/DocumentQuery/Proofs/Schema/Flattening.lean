import DocumentQuery.Proofs.FirstError
import DocumentQuery.Proofs.Json.Distinct
import DocumentQuery.Proofs.SortedMap
import DocumentQuery.Schema.Catalog

/-!
# Schemas as catalogs

A schema is a tree: the definition of a property has properties of its own, or, if it is that of a
list, its items have. The catalog has an entry for each property with a kind, under the names on the
way to it, joined by dots. As long as no name has a dot in it, the names can be read off the path,
so no two properties share an entry.

* `NamesType`, `DeclaresType` : the type name of a definition;
* `HasKind`      : the kind of values that a definition stands for;
* `Holder`       : where the properties of a typed definition are found;
* `Property`     : the names on the way to a definition;
* `Catalogued`   : the names on the way to a definition with a kind;
* `PlainNames`   : there is no dot in them;
* `Root`         : the body of a schema, which may be wrapped;
* `Flattens`     : a catalog has the properties of a schema, one entry for each.

Principal results: `Catalog.mem_ownedFields_iff`, `Catalog.ofSchema_flattens` and, for the catalogs
of files, `Catalog.load_flattens`.
-/

namespace DocumentQuery.Schema

open Catalog (typeName? declaredType?)

/-! ## Definitions and properties -/

/-- The value of a type key names a type, which is no empty text. Of a list it is the first text
that is not `null`. -/
inductive NamesType : Json → String → Prop where
  | text {name : String} (hname : name ≠ "") : NamesType (.string name) name
  | listed {before after : List Json} {name : String}
      (hbefore : ∀ text, .string text ∈ before → text = "null") (hnull : name ≠ "null")
      (hname : name ≠ "") : NamesType (.array (before ++ .string name :: after)) name

/-- The type name that a definition declares. Under `type` it counts where there is no
`bsonType`. -/
inductive DeclaresType (definition : Entries Json) (name : String) : Prop where
  | bsonType {type : Json} (htype : Entries.get? "bsonType" definition = some type)
      (hname : NamesType type name) : DeclaresType definition name
  | type {type : Json} (hbsonType : Entries.get? "bsonType" definition = none)
      (htype : Entries.get? "type" definition = some type) (hname : NamesType type name) :
      DeclaresType definition name

/-- The kind of a typed definition is that of its type. One without a type that lists its values
stands for objects. -/
inductive HasKind (definition : Entries Json) : TypeKind → Prop where
  | typed {name : String} (htype : DeclaresType definition name) :
      HasKind definition (.ofName name)
  | enumerated {values : Json} (htype : ∀ name, ¬DeclaresType definition name)
      (henum : Entries.get? "enum" definition = some values) : HasKind definition .object

/-- The object in which a typed definition has its properties: the items of an array, if they are
an object, else the definition itself. -/
inductive Holder (definition : Entries Json) : Entries Json → Prop where
  | own {name : String} (htype : DeclaresType definition name) (hname : name ≠ "array") :
      Holder definition definition
  | items {items : Entries Json} (htype : DeclaresType definition "array")
      (hitems : Entries.get? "items" definition = some (.object items)) : Holder definition items
  | unusable (htype : DeclaresType definition "array")
      (hitems : ∀ items, Entries.get? "items" definition ≠ some (.object items)) :
      Holder definition definition

/-- The object has a property of that name. -/
def HasProperty (owner : Entries Json) (name : String) (definition : Entries Json) : Prop :=
  ∃ properties, Entries.get? "properties" owner = some (.object properties) ∧
    Entries.get? name properties = some (.object definition)

/-- The names lead from an object to the definition of a property. -/
inductive Property : Entries Json → List String → Entries Json → Prop where
  | own {owner definition : Entries Json} {name : String}
      (hproperty : HasProperty owner name definition) : Property owner [name] definition
  | within {owner outer holder definition : Entries Json} {name : String} {names : List String}
      (hproperty : HasProperty owner name outer) (hholder : Holder outer holder)
      (h : Property holder names definition) : Property owner (name :: names) definition

/-- The names lead to a property of that kind. -/
def Catalogued (owner : Entries Json) (names : List String) (kind : TypeKind) : Prop :=
  ∃ definition, Property owner names definition ∧ HasKind definition kind

/-- No name on the way to a property has a dot in it. -/
def PlainNames (owner : Entries Json) : Prop :=
  ∀ names definition, Property owner names definition → ∀ name ∈ names, '.' ∉ name.toList

/-- The body of a schema is the schema, or what it has under `$jsonSchema`. -/
inductive Root : Json → Entries Json → Prop where
  | plain {root : Entries Json} (h : Entries.get? "$jsonSchema" root = none) :
      Root (.object root) root
  | wrapped {schema root : Entries Json}
      (h : Entries.get? "$jsonSchema" schema = some (.object root)) : Root (.object schema) root

/-- The catalog has one entry for each property with a kind, which is found under its path. -/
structure Flattens (root : Entries Json) (catalog : Catalog) : Prop where
  kinds : ∀ path kind, catalog.kind? path = some kind ↔
    ∃ names, Catalogued root names kind ∧ path = ".".intercalate names
  paths : Set.BijOn (".".intercalate ·) {names | ∃ kind, Catalogued root names kind}
    {path | catalog.contains path}
  size : {names | ∃ kind, Catalogued root names kind}.encard = catalog.size
  closed : ∀ first second, catalog.contains (first ++ "." ++ second) → catalog.contains first

/-! ## Types -/

/-- The first text of a list that is not `null`. -/
theorem find?_texts_eq_some {items : List Json} {name : String} :
    (items.filterMap Json.string?).find? (· ≠ "null") = some name ↔
      ∃ before after, items = before ++ .string name :: after ∧
        (∀ text, .string text ∈ before → text = "null") ∧ name ≠ "null" := by
  rw [List.find?_eq_some_iff_append]
  constructor
  · rintro ⟨hname, texts, others, htexts, hnull⟩
    obtain ⟨before, rest, rfl, hbefore, hrest⟩ := List.filterMap_eq_append_iff.1 htexts
    obtain ⟨skipped, item, after, rfl, hskipped, hitem, -⟩ := List.filterMap_eq_cons_iff.1 hrest
    have hstring : item = .string name := by
      cases item <;> cases hitem
      rfl
    subst hstring
    refine ⟨before ++ skipped, after, by simp, ?_, by simpa using hname⟩
    intro text htext
    rcases List.mem_append.1 htext with htext | htext
    · have hmem : text ∈ texts := hbefore ▸ List.mem_filterMap.2 ⟨_, htext, rfl⟩
      simpa using hnull text hmem
    · cases hskipped _ htext
  · rintro ⟨before, after, rfl, hbefore, hname⟩
    refine ⟨by simpa using hname, before.filterMap Json.string?, after.filterMap Json.string?,
      by simp [Json.string?], ?_⟩
    intro text htext
    obtain ⟨item, hitem, hstring⟩ := List.mem_filterMap.1 htext
    cases item <;> cases hstring
    simpa using hbefore text hitem

theorem namesType_iff {type : Json} {name : String} :
    NamesType type name ↔ typeName? type = some name ∧ name ≠ "" := by
  constructor
  · intro h
    cases h with
    | text hname => exact ⟨rfl, hname⟩
    | listed hbefore hnull hname =>
      exact ⟨find?_texts_eq_some.2 ⟨_, _, rfl, hbefore, hnull⟩, hname⟩
  · rintro ⟨htype, hname⟩
    cases type with
    | string text =>
      cases htype
      exact .text hname
    | array items =>
      obtain ⟨before, after, rfl, hbefore, hnull⟩ := find?_texts_eq_some.1 htype
      exact .listed hbefore hnull hname
    | _ => cases htype

theorem declaresType_iff {definition : Entries Json} {name : String} :
    DeclaresType definition name ↔
      ∃ type, (Entries.get? "bsonType" definition).or (Entries.get? "type" definition) =
        some type ∧ NamesType type name := by
  constructor
  · rintro (⟨htype, hname⟩ | ⟨hbsonType, htype, hname⟩)
    · exact ⟨_, by rw [htype, Option.some_or], hname⟩
    · exact ⟨_, by rw [hbsonType, Option.none_or, htype], hname⟩
  · rintro ⟨type, htype, hname⟩
    rcases Option.or_eq_some_iff.1 htype with hbsonType | ⟨hbsonType, htype⟩
    · exact .bsonType hbsonType hname
    · exact .type hbsonType htype hname

theorem declaredType?_eq_some {definition : Entries Json} {name : String} :
    declaredType? definition = some name ↔ DeclaresType definition name := by
  rw [declaresType_iff]
  simp [declaredType?, namesType_iff, Option.bind_eq_some_iff, Option.filter_eq_some_iff]

theorem declaredType?_eq_none {definition : Entries Json} :
    declaredType? definition = none ↔ ∀ name, ¬DeclaresType definition name := by
  simp only [← declaredType?_eq_some, Option.eq_none_iff_forall_ne_some, ne_eq]

theorem DeclaresType.unique {definition : Entries Json} {name other : String}
    (h : DeclaresType definition name) (hother : DeclaresType definition other) : name = other := by
  rw [← declaredType?_eq_some] at h hother
  exact Option.some.inj (h.symm.trans hother)

theorem HasKind.unique {definition : Entries Json} {kind other : TypeKind}
    (h : HasKind definition kind) (hother : HasKind definition other) : kind = other := by
  cases h with
  | typed htype =>
    cases hother with
    | typed hother => rw [htype.unique hother]
    | enumerated hnone => exact absurd htype (hnone _)
  | enumerated hnone =>
    cases hother with
    | typed hother => exact absurd hother (hnone _)
    | enumerated => rfl

/-- Only a typed definition has a holder of properties, and just one. -/
theorem Holder.declares {definition holder : Entries Json} (h : Holder definition holder) :
    ∃ name, DeclaresType definition name := by
  cases h with
  | own htype | items htype | unusable htype => exact ⟨_, htype⟩

theorem Holder.unique {definition holder other : Entries Json} (h : Holder definition holder)
    (hother : Holder definition other) : holder = other := by
  cases h with
  | own htype hname =>
    cases hother with
    | own => rfl
    | items harray => exact absurd (htype.unique harray) hname
    | unusable => rfl
  | items htype hitems =>
    cases hother with
    | own harray hname => exact absurd (harray.unique htype) hname
    | items _ hother =>
      cases hitems.symm.trans hother
      rfl
    | unusable _ hnone => exact absurd hitems (hnone _)
  | unusable htype hnone =>
    cases hother with
    | own => rfl
    | items _ hitems => exact absurd hitems (hnone _)
    | unusable => rfl

theorem ofName_eq_array {name : String} : TypeKind.ofName name = .array ↔ name = "array" := by
  constructor
  · intro h
    unfold TypeKind.ofName at h
    split at h <;> first | rfl | cases h
  · rintro rfl
    rfl

/-! ## Fields -/

namespace Catalog

/-- The fields that an object declares under `properties`, each path beginning with `lead`. -/
def ownedFields (lead : String) (owner : Entries Json) : Entries TypeKind :=
  match Entries.get? "properties" owner with
  | some properties => propertiesFields lead properties
  | none => []

theorem nestedFields_eq (path : String) (owner : Entries Json) :
    nestedFields path owner = ownedFields (path ++ ".") owner := by
  induction owner with
  | nil => rfl
  | cons member rest ih =>
    obtain ⟨key, json⟩ := member
    unfold nestedFields
    by_cases hkey : key = "properties"
    · simp [ownedFields, Entries.get?, hkey]
    · simp only [ownedFields, Entries.get?, hkey, if_false] at ih ⊢
      exact ih

theorem itemFields?_eq (path : String) (definition : Entries Json) :
    itemFields? path definition =
      (Entries.get? "items" definition).bind (objectFields? path) := by
  induction definition with
  | nil => rfl
  | cons member rest ih =>
    obtain ⟨key, json⟩ := member
    unfold itemFields?
    by_cases hkey : key = "items"
    · simp [Entries.get?, hkey]
    · simp only [Entries.get?, hkey, if_false]
      exact ih

variable {field : String × TypeKind}

theorem mem_declaredFields {lead : String} {properties : Entries Json} :
    field ∈ declaredFields lead properties ↔
      ∃ member ∈ properties, field ∈ definitionFields (lead ++ member.1) member.2 := by
  induction properties with
  | nil => simp [declaredFields]
  | cons member rest ih =>
    obtain ⟨name, definition⟩ := member
    simp [declaredFields, ih]

/-- Only what is defined by an object has fields. -/
theorem mem_ownedFields {lead : String} {owner : Entries Json}
    (hdistinct : Json.Distinct (.object owner)) :
    field ∈ ownedFields lead owner ↔
      ∃ name definition, HasProperty owner name definition ∧
        field ∈ definitionFields (lead ++ name) (.object definition) := by
  constructor
  · intro h
    unfold ownedFields at h
    split at h
    · rename_i json hproperties
      cases json with
      | object properties =>
        obtain ⟨hkeys, -⟩ := Json.distinct_object.1 (hdistinct.of_get? hproperties)
        obtain ⟨⟨name, json⟩, hmember, h⟩ := mem_declaredFields.1 h
        cases json with
        | object definition =>
          exact ⟨name, definition,
            ⟨properties, hproperties, (Entries.get?_eq_some_iff hkeys).2 hmember⟩, h⟩
        | _ => cases h
      | _ => cases h
    · cases h
  · rintro ⟨name, definition, ⟨properties, hproperties, hdefinition⟩, h⟩
    unfold ownedFields
    rw [hproperties]
    exact mem_declaredFields.2 ⟨_, Entries.mem_of_get? hdefinition, h⟩

/-- A typed definition declares itself and what its holder has. -/
theorem exists_definitionFields (path : String) {definition : Entries Json} {name : String}
    (htype : DeclaresType definition name) :
    ∃ holder, Holder definition holder ∧ definitionFields path (.object definition) =
      (path, .ofName name) :: ownedFields (path ++ ".") holder := by
  rw [definitionFields, declaredType?_eq_some.2 htype]
  simp only [ofName_eq_array, itemFields?_eq, nestedFields_eq, List.cons.injEq, true_and]
  split
  · rename_i harray
    subst harray
    by_cases hitems : ∃ items, Entries.get? "items" definition = some (.object items)
    · obtain ⟨items, hitems⟩ := hitems
      refine ⟨items, .items htype hitems, ?_⟩
      simp [hitems, objectFields?, nestedFields_eq]
    · have hnone : (Entries.get? "items" definition).bind (objectFields? path) = none := by
        rw [Option.bind_eq_none_iff]
        intro json hjson
        cases json with
        | object items => exact absurd ⟨items, hjson⟩ hitems
        | _ => rfl
      refine ⟨definition, .unusable htype fun items h => hitems ⟨items, h⟩, ?_⟩
      rw [hnone, Option.getD_none]
  · rename_i harray
    exact ⟨definition, .own htype harray, rfl⟩

/-- One without a type declares at most itself. -/
theorem mem_definitionFields_untyped {here path : String} {kind : TypeKind}
    {definition : Entries Json} (htype : ∀ name, ¬DeclaresType definition name) :
    (path, kind) ∈ definitionFields here (.object definition) ↔
      path = here ∧ HasKind definition kind := by
  rw [definitionFields, declaredType?_eq_none.2 htype]
  cases henum : Entries.get? "enum" definition with
  | none =>
    have hkind : ¬HasKind definition kind := by
      intro hkind
      cases hkind with
      | typed hname => exact htype _ hname
      | enumerated _ hvalues => cases henum.symm.trans hvalues
    simp [Entries.contains, henum, hkind]
  | some values =>
    have hobject : HasKind definition .object := .enumerated htype henum
    have hkind : HasKind definition kind ↔ kind = .object :=
      ⟨fun hkind => hkind.unique hobject, fun hkind => hkind ▸ hobject⟩
    simp [Entries.contains, henum, hkind]

theorem mem_definitionFields {here path : String} {kind : TypeKind} {definition : Entries Json} :
    (path, kind) ∈ definitionFields here (.object definition) ↔
      path = here ∧ HasKind definition kind ∨
        ∃ holder, Holder definition holder ∧ (path, kind) ∈ ownedFields (here ++ ".") holder := by
  by_cases htype : ∃ name, DeclaresType definition name
  · obtain ⟨name, htype⟩ := htype
    obtain ⟨holder, hholder, hfields⟩ := exists_definitionFields here htype
    have hkind : HasKind definition kind ↔ kind = .ofName name :=
      ⟨fun hkind => hkind.unique (.typed htype), fun hkind => hkind ▸ .typed htype⟩
    have hbelow : (∃ other, Holder definition other ∧
        (path, kind) ∈ ownedFields (here ++ ".") other) ↔
          (path, kind) ∈ ownedFields (here ++ ".") holder := by
      constructor
      · rintro ⟨other, hother, h⟩
        rw [hholder.unique hother]
        exact h
      · intro h
        exact ⟨holder, hholder, h⟩
    rw [hfields, hkind, hbelow, List.mem_cons, Prod.mk.injEq]
  · have hholder : ¬∃ holder, Holder definition holder ∧
        (path, kind) ∈ ownedFields (here ++ ".") holder := by
      rintro ⟨holder, hholder, -⟩
      exact htype hholder.declares
    rw [mem_definitionFields_untyped (not_exists.1 htype), or_iff_left hholder]

end Catalog

/-! ## Paths of properties -/

theorem sizeOf_lt_of_get? {members inner : Entries Json} {key : String}
    (h : Entries.get? key members = some (.object inner)) : sizeOf inner < sizeOf members := by
  have hlt := List.sizeOf_lt_of_mem (Entries.mem_of_get? h)
  simp only [Prod.mk.sizeOf_spec, Json.object.sizeOf_spec] at hlt
  omega

theorem Holder.sizeOf_le {definition holder : Entries Json} (h : Holder definition holder) :
    sizeOf holder ≤ sizeOf definition := by
  cases h with
  | own | unusable => exact Nat.le_refl _
  | items _ hitems => exact Nat.le_of_lt (sizeOf_lt_of_get? hitems)

/-- What holds of an object whenever it holds of the holders of its properties holds of all. -/
@[elab_as_elim]
theorem ownerInduction {motive : Entries Json → Prop}
    (step : ∀ owner, (∀ name definition holder, HasProperty owner name definition →
      Holder definition holder → motive holder) → motive owner) : ∀ owner, motive owner := by
  intro owner
  induction hn : sizeOf owner using Nat.strongRecOn generalizing owner with
  | ind n ih =>
    subst hn
    apply step
    rintro name definition holder ⟨properties, hproperties, hdefinition⟩ hholder
    have houter := sizeOf_lt_of_get? hproperties
    have hinner := sizeOf_lt_of_get? hdefinition
    have hle := hholder.sizeOf_le
    exact ih _ (by omega) holder rfl

theorem HasProperty.distinct {owner definition : Entries Json} {name : String}
    (h : HasProperty owner name definition) (hdistinct : Json.Distinct (.object owner)) :
    Json.Distinct (.object definition) := by
  obtain ⟨properties, hproperties, hdefinition⟩ := h
  exact (hdistinct.of_get? hproperties).of_get? hdefinition

theorem Holder.distinct {definition holder : Entries Json} (h : Holder definition holder)
    (hdistinct : Json.Distinct (.object definition)) : Json.Distinct (.object holder) := by
  cases h with
  | own | unusable => exact hdistinct
  | items _ hitems => exact hdistinct.of_get? hitems

theorem Root.distinct {schema : Json} {root : Entries Json} (h : Root schema root)
    (hdistinct : schema.Distinct) : Json.Distinct (.object root) := by
  cases h with
  | plain => exact hdistinct
  | wrapped h => exact hdistinct.of_get? h

theorem Property.ne_nil {owner definition : Entries Json} {names : List String}
    (h : Property owner names definition) : names ≠ [] := by
  cases h <;> exact List.cons_ne_nil _ _

theorem HasProperty.unique {owner definition other : Entries Json} {name : String}
    (h : HasProperty owner name definition) (hother : HasProperty owner name other) :
    definition = other := by
  obtain ⟨properties, hproperties, hdefinition⟩ := h
  obtain ⟨others, hothers, hother⟩ := hother
  cases hproperties.symm.trans hothers
  cases hdefinition.symm.trans hother
  rfl

/-- Names lead to one definition at most. -/
theorem Property.unique {owner definition other : Entries Json} {names : List String}
    (h : Property owner names definition) (hother : Property owner names other) :
    definition = other := by
  induction h with
  | own hproperty =>
    cases hother with
    | own hother => exact hproperty.unique hother
    | within _ _ hinner => exact absurd rfl hinner.ne_nil
  | within hproperty hholder hinner ih =>
    cases hother with
    | own => exact absurd rfl hinner.ne_nil
    | within hother hotherHolder hotherInner =>
      cases hproperty.unique hother
      cases hholder.unique hotherHolder
      exact ih hotherInner

theorem Catalogued.unique {owner : Entries Json} {names : List String} {kind other : TypeKind}
    (h : Catalogued owner names kind) (hother : Catalogued owner names other) : kind = other := by
  obtain ⟨definition, hproperty, hkind⟩ := h
  obtain ⟨second, hsecond, hother⟩ := hother
  cases hproperty.unique hsecond
  exact hkind.unique hother

/-- What leads beyond a property leads to it, and it has a type. -/
theorem Property.typed {owner definition : Entries Json} {first second : List String}
    (h : Property owner (first ++ second) definition) (hfirst : first ≠ []) (hsecond : second ≠ []) :
    ∃ kind, Catalogued owner first kind := by
  induction first generalizing owner with
  | nil => exact absurd rfl hfirst
  | cons name rest ih =>
    rw [List.cons_append] at h
    generalize hnames : rest ++ second = names at h
    cases h with
    | own => exact absurd (List.append_eq_nil_iff.1 hnames).2 hsecond
    | within hproperty hholder hinner =>
      subst hnames
      by_cases hrest : rest = []
      · subst hrest
        obtain ⟨type, htype⟩ := hholder.declares
        exact ⟨_, _, .own hproperty, .typed htype⟩
      · obtain ⟨kind, inner, hinner, hkind⟩ := ih hinner hrest
        exact ⟨kind, inner, .within hproperty hholder hinner, hkind⟩

theorem plainNames_iff {owner : Entries Json} :
    PlainNames owner ↔ ∀ name definition, HasProperty owner name definition →
      '.' ∉ name.toList ∧ ∀ holder, Holder definition holder → PlainNames holder := by
  constructor
  · intro h name definition hproperty
    refine ⟨h _ _ (.own hproperty) name List.mem_cons_self, ?_⟩
    intro holder hholder names inner hinner key hkey
    exact h _ _ (.within hproperty hholder hinner) key (List.mem_cons_of_mem _ hkey)
  · intro h names definition hnames
    cases hnames with
    | own hproperty => simpa using (h _ _ hproperty).1
    | within hproperty hholder hinner =>
      obtain ⟨hname, hrest⟩ := h _ _ hproperty
      exact List.forall_mem_cons.2 ⟨hname, hrest _ hholder _ _ hinner⟩

/-! ## Dotted paths -/

theorem path_cons (name : String) {names : List String} (hnames : names ≠ []) :
    ".".intercalate (name :: names) = name ++ "." ++ ".".intercalate names := by
  obtain ⟨second, rest, rfl⟩ := List.exists_cons_of_ne_nil hnames
  rw [String.intercalate_cons_cons, String.append_assoc]

/-- The names are read off a path between its dots. -/
theorem splitOn_path {names : List String} (hnames : names ≠ [])
    (hplain : ∀ name ∈ names, '.' ∉ name.toList) :
    (".".intercalate names).toList.splitOn '.' = names.map String.toList := by
  rw [String.toList_intercalate]
  exact List.splitOn_intercalate '.' (by simpa using hplain) (by simpa using hnames)

theorem path_injective {names others : List String} (hnames : names ≠ []) (hothers : others ≠ [])
    (hplain : ∀ name ∈ names, '.' ∉ name.toList) (hplain' : ∀ name ∈ others, '.' ∉ name.toList)
    (h : ".".intercalate names = ".".intercalate others) : names = others := by
  have hsplit := splitOn_path hnames hplain
  rw [h, splitOn_path hothers hplain'] at hsplit
  exact (List.map_injective_iff.2 (fun _ _ => String.toList_inj.1) hsplit).symm

/-- A path that is cut at a dot is cut between names. -/
theorem exists_names_of_path {names : List String} {first second : String} (hnames : names ≠ [])
    (hplain : ∀ name ∈ names, '.' ∉ name.toList)
    (h : ".".intercalate names = first ++ "." ++ second) :
    ∃ front back, names = front ++ back ∧ front ≠ [] ∧ back ≠ [] ∧
      ".".intercalate front = first := by
  have hsplit : names.map String.toList =
      first.toList.splitOn '.' ++ second.toList.splitOn '.' := by
    rw [← splitOn_path hnames hplain, h]
    simp [List.splitOn_eq_splitOnP, List.splitOnP_append_cons]
  obtain ⟨front, back, rfl, hfront, hback⟩ := List.map_eq_append_iff.1 hsplit
  refine ⟨front, back, rfl, ?_, ?_, ?_⟩
  · rintro rfl
    exact List.splitOn_ne_nil _ _ hfront.symm
  · rintro rfl
    exact List.splitOn_ne_nil _ _ hback.symm
  · rw [← String.toList_inj, String.toList_intercalate, hfront]
    exact List.intercalate_splitOn '.'

/-! ## Catalogs -/

namespace Catalog

/-- **The fields of an object are its properties with a kind, under their paths.** -/
theorem mem_ownedFields_iff {owner : Entries Json} (hdistinct : Json.Distinct (.object owner))
    (lead : String) {path : String} {kind : TypeKind} :
    (path, kind) ∈ ownedFields lead owner ↔
      ∃ names, Catalogued owner names kind ∧ path = lead ++ ".".intercalate names := by
  induction owner using ownerInduction generalizing lead with
  | step owner ih =>
    rw [mem_ownedFields hdistinct]
    constructor
    · rintro ⟨name, definition, hproperty, h⟩
      rcases mem_definitionFields.1 h with ⟨rfl, hkind⟩ | ⟨holder, hholder, h⟩
      · exact ⟨[name], ⟨definition, .own hproperty, hkind⟩, by simp⟩
      · have hinner := hholder.distinct (hproperty.distinct hdistinct)
        obtain ⟨names, ⟨inner, hnames, hkind⟩, rfl⟩ :=
          (ih name definition holder hproperty hholder hinner _).1 h
        refine ⟨name :: names, ⟨inner, .within hproperty hholder hnames, hkind⟩, ?_⟩
        simp only [path_cons name hnames.ne_nil, String.append_assoc]
    · rintro ⟨names, ⟨definition, hnames, hkind⟩, rfl⟩
      cases hnames with
      | own hproperty =>
        refine ⟨_, definition, hproperty, mem_definitionFields.2 (.inl ⟨by simp, hkind⟩)⟩
      | @within _ outer holder _ name names hproperty hholder hinner =>
        refine ⟨name, outer, hproperty, mem_definitionFields.2 (.inr ⟨holder, hholder, ?_⟩)⟩
        have hdistinct := hholder.distinct (hproperty.distinct hdistinct)
        rw [ih name outer holder hproperty hholder hdistinct, path_cons name hinner.ne_nil]
        exact ⟨names, ⟨definition, hinner, hkind⟩, by simp only [String.append_assoc]⟩

theorem contains_iff {catalog : Catalog} {path : String} :
    catalog.contains path ↔ ∃ kind, catalog.kind? path = some kind :=
  Option.isSome_iff_exists

/-- Where each path has one kind among the fields, all of them are in the catalog. -/
theorem kind?_ofFields {fields : Entries TypeKind}
    (hunique : ∀ path kind other, (path, kind) ∈ fields → (path, other) ∈ fields → other = kind)
    {path : String} {kind : TypeKind} :
    (ofFields fields).kind? path = some kind ↔ (path, kind) ∈ fields := by
  unfold kind? ofFields
  rw [SortedMap.get?_ofList]
  constructor
  · intro h
    exact List.mem_reverse.1 (Entries.mem_of_get? h)
  · intro h
    refine Entries.get?_of_same (List.mem_reverse.2 h) fun other hother => ?_
    exact hunique path kind other h (List.mem_reverse.1 hother)

section Owner

variable {root : Entries Json}

/-- Where names have no dots, properties with one path are the same. -/
theorem eq_of_path_eq (hplain : PlainNames root) {names others : List String}
    {kind other : TypeKind} (h : Catalogued root names kind) (hother : Catalogued root others other)
    (hpath : ".".intercalate names = ".".intercalate others) : names = others := by
  obtain ⟨definition, hproperty, -⟩ := h
  obtain ⟨second, hsecond, -⟩ := hother
  exact path_injective hproperty.ne_nil hsecond.ne_nil (hplain _ _ hproperty)
    (hplain _ _ hsecond) hpath

theorem kind?_ownedFields (hdistinct : Json.Distinct (.object root)) (hplain : PlainNames root)
    {path : String} {kind : TypeKind} :
    (ofFields (ownedFields "" root)).kind? path = some kind ↔
      ∃ names, Catalogued root names kind ∧ path = ".".intercalate names := by
  have hfields {path : String} {kind : TypeKind} : (path, kind) ∈ ownedFields "" root ↔
      ∃ names, Catalogued root names kind ∧ path = ".".intercalate names := by
    simpa using mem_ownedFields_iff hdistinct ""
  rw [kind?_ofFields, hfields]
  intro path kind other h hother
  obtain ⟨names, hnames, rfl⟩ := hfields.1 h
  obtain ⟨others, hothers, hpath⟩ := hfields.1 hother
  cases eq_of_path_eq hplain hnames hothers hpath
  exact hothers.unique hnames

theorem contains_ownedFields (hdistinct : Json.Distinct (.object root))
    (hplain : PlainNames root) {path : String} :
    (ofFields (ownedFields "" root)).contains path ↔
      ∃ names kind, Catalogued root names kind ∧ path = ".".intercalate names := by
  rw [contains_iff]
  constructor
  · rintro ⟨kind, hkind⟩
    obtain ⟨names, hnames, hpath⟩ := (kind?_ownedFields hdistinct hplain).1 hkind
    exact ⟨names, kind, hnames, hpath⟩
  · rintro ⟨names, kind, hnames, hpath⟩
    exact ⟨kind, (kind?_ownedFields hdistinct hplain).2 ⟨names, hnames, hpath⟩⟩

theorem bijOn_ownedFields (hdistinct : Json.Distinct (.object root)) (hplain : PlainNames root) :
    Set.BijOn (".".intercalate ·) {names | ∃ kind, Catalogued root names kind}
      {path | (ofFields (ownedFields "" root)).contains path} := by
  refine ⟨?_, ?_, ?_⟩
  · rintro names ⟨kind, hnames⟩
    exact (contains_ownedFields hdistinct hplain).2 ⟨names, kind, hnames, rfl⟩
  · rintro names ⟨kind, hnames⟩ others ⟨other, hothers⟩ hpath
    exact eq_of_path_eq hplain hnames hothers hpath
  · intro path hpath
    obtain ⟨names, kind, hnames, rfl⟩ := (contains_ownedFields hdistinct hplain).1 hpath
    exact ⟨names, ⟨kind, hnames⟩, rfl⟩

theorem closed_ownedFields (hdistinct : Json.Distinct (.object root)) (hplain : PlainNames root)
    {first second : String}
    (h : (ofFields (ownedFields "" root)).contains (first ++ "." ++ second)) :
    (ofFields (ownedFields "" root)).contains first := by
  rw [contains_ownedFields hdistinct hplain] at h ⊢
  obtain ⟨names, -, ⟨definition, hproperty, -⟩, hpath⟩ := h
  obtain ⟨front, back, rfl, hfront, hback, rfl⟩ :=
    exists_names_of_path hproperty.ne_nil (hplain _ _ hproperty) hpath.symm
  obtain ⟨kind, hkind⟩ := hproperty.typed hfront hback
  exact ⟨front, kind, hkind, rfl⟩

/-- The catalog of the fields of an object has its properties, one entry for each. -/
theorem flattens_ownedFields (hdistinct : Json.Distinct (.object root))
    (hplain : PlainNames root) : Flattens root (ofFields (ownedFields "" root)) where
  kinds _ _ := kind?_ownedFields hdistinct hplain
  paths := bijOn_ownedFields hdistinct hplain
  size := by
    have hpaths := bijOn_ownedFields hdistinct hplain
    rw [← hpaths.injOn.encard_image, hpaths.image_eq]
    exact SortedMap.encard_keys _
  closed _ _ := closed_ownedFields hdistinct hplain

end Owner

theorem body_eq_ok {schema : Json} {root : Entries Json} :
    body schema = .ok root ↔ Root schema root := by
  constructor
  · intro h
    unfold body at h
    split at h
    · split at h
      · rename_i hplain
        cases h
        exact .plain hplain
      · rename_i hwrapped
        cases h
        exact .wrapped hwrapped
      · cases h
    · cases h
  · intro h
    cases h with
    | plain h | wrapped h =>
      unfold body
      simp only [h]

theorem ofBody_eq_ok {root : Entries Json} {catalog : Catalog} :
    ofBody root = .ok catalog ↔
      (∀ json, Entries.get? "properties" root = some json → json.object?.isSome) ∧
        catalog = ofFields (ownedFields "" root) := by
  unfold ofBody ownedFields
  cases Entries.get? "properties" root with
  | none =>
    constructor
    · intro h
      cases h
      exact ⟨by simp, rfl⟩
    · rintro ⟨-, rfl⟩
      rfl
  | some json =>
    cases json with
    | object properties =>
      constructor
      · intro h
        cases h
        exact ⟨by simp [Json.object?], rfl⟩
      · rintro ⟨-, rfl⟩
        rfl
    | _ => simp [Json.object?]

/-- A schema has a catalog if its body is there and has no properties, or an object of them. -/
theorem ofSchema_eq_ok {schema : Json} {catalog : Catalog} :
    ofSchema schema = .ok catalog ↔
      ∃ root, Root schema root ∧
        (∀ json, Entries.get? "properties" root = some json → json.object?.isSome) ∧
        catalog = ofFields (ownedFields "" root) := by
  unfold ofSchema
  simp only [bind_eq_ok, body_eq_ok, ofBody_eq_ok]

/-- **A schema without dots in names has a catalog with its properties, one entry for each.** Its
objects hold each key once, as all do that are read from a text. -/
theorem ofSchema_flattens {schema : Json} {catalog : Catalog} (hdistinct : schema.Distinct)
    (hplain : ∀ root, Root schema root → PlainNames root) (h : ofSchema schema = .ok catalog) :
    ∃ root, Root schema root ∧ Flattens root catalog := by
  obtain ⟨root, hroot, -, rfl⟩ := ofSchema_eq_ok.1 h
  exact ⟨root, hroot, flattens_ownedFields (hroot.distinct hdistinct) (hplain root hroot)⟩

/-- Tags with a label, and a state of which only the values are listed. -/
def tagged : Json :=
  .object [("$jsonSchema", .object [("properties", .object
    [("tags", .object [("bsonType", .string "array"), ("items", .object [("properties", .object
        [("label", .object [("type", .array [.string "null", .string "string"])])])])]),
      ("state", .object [("enum", .array [.string "new", .string "old"])])])])]

/-- None of the names is dotted: those of the tags are at their items, the state has no type. -/
theorem plainNames_tagged {root : Entries Json} (h : Root tagged root) : PlainNames root := by
  cases body_eq_ok.2 h
  rw [plainNames_iff]
  rintro name definition ⟨_, hproperties, hdefinition⟩
  cases hproperties
  have hmem := Entries.mem_of_get? hdefinition
  simp only [List.mem_cons, List.not_mem_nil, or_false, Prod.mk.injEq, Json.object.injEq] at hmem
  rcases hmem with ⟨rfl, rfl⟩ | ⟨rfl, rfl⟩
  · refine ⟨by decide, fun holder hholder => ?_⟩
    cases hholder.unique (.items (declaredType?_eq_some.1 rfl) rfl)
    rw [plainNames_iff]
    rintro name definition ⟨_, hproperties, hdefinition⟩
    cases hproperties
    cases List.mem_singleton.1 (Entries.mem_of_get? hdefinition)
    refine ⟨by decide, fun holder hholder => ?_⟩
    cases hholder.unique (.own (declaredType?_eq_some.1 rfl) (by decide))
    rw [plainNames_iff]
    rintro name definition ⟨_, hproperties, -⟩
    cases hproperties
  · refine ⟨by decide, fun holder hholder => ?_⟩
    obtain ⟨name, htype⟩ := hholder.declares
    cases declaredType?_eq_some.2 htype

theorem ofSchema_flattens_tagged :
    tagged.Distinct ∧ (∀ root, Root tagged root → PlainNames root) ∧
      ∃ catalog, ofSchema tagged = .ok catalog ∧
        catalog.toList = [("state", .object), ("tags", .array), ("tags.label", .string)] ∧
        ∃ root, Root tagged root ∧ Flattens root catalog := by
  have hdistinct : tagged.Distinct := by simp [tagged, Entries.keys]
  have hplain : ∀ root, Root tagged root → PlainNames root := fun _ => plainNames_tagged
  exact ⟨hdistinct, hplain, _, rfl, rfl, ofSchema_flattens hdistinct hplain rfl⟩

/-- The keys of a schema that is read from a file are distinct to begin with. -/
theorem load_flattens {path : String} {file : Text.File} {catalog : Catalog}
    (h : load path file = .ok catalog) :
    ∃ text schema root, Text.readFile file = .ok text ∧ Json.parse? text = some schema ∧
      Root schema root ∧ (PlainNames root → Flattens root catalog) := by
  unfold load at h
  split at h
  · cases h
  · rename_i text htext
    split at h
    · cases h
    · rename_i schema hschema
      obtain ⟨root, hroot, -, rfl⟩ := ofSchema_eq_ok.1 h
      have hdistinct := hroot.distinct (Json.distinct_parse? hschema)
      exact ⟨text, schema, root, htext, hschema, hroot, flattens_ownedFields hdistinct⟩

end Catalog

end DocumentQuery.Schema
