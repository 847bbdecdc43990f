import DocumentQuery.Proofs.Cursor.RowPath
import DocumentQuery.Proofs.Entries
import DocumentQuery.Query.Find

/-!
# Rows as a projection selects them

What a store returns of a row for a projection document. A field with a zero is left out. If some
field has a one, then only such fields are kept, and the identifier; else all are.

* `Selection`              : the paths that are kept, and those that are left out of them;
* `Selection.entries`      : the part of a row that is selected;
* `Selection.Keeps`        : what is found at a path is selected as a whole;
* `Selection.descend?_entries` : a path that is kept leads to the same value;
* `Selection.exists_changed`   : any other path leads to another value in some row.

Principal results: `Selection.keeps_iff`, and `Selection.keeps_key_iff` for the keys of rows.
-/

namespace DocumentQuery

open Cursor (pathKeys pathKeys_ne_nil)
open Cursor.Row (descend? descend?_cons)

/-! ## Documents in documents -/

namespace Value

theorem sizeOf_lt_of_mem {entry : String × Value} {entries : Document}
    (h : entry ∈ entries) : sizeOf entry.2 < sizeOf (Value.document entries) := by
  have hlt := List.sizeOf_lt_of_mem h
  obtain ⟨key, value⟩ := entry
  simp only [Prod.mk.sizeOf_spec] at hlt
  simp only [Value.document.sizeOf_spec]
  omega

/-- What holds of a document whenever it holds of the values in it, and of all other values, holds
of all. -/
@[elab_as_elim]
theorem induction {motive : Value → Prop}
    (document : ∀ entries : Document, (∀ entry ∈ entries, motive entry.2) →
      motive (.document entries))
    (other : ∀ value : Value, value.document? = none → motive value) : ∀ value, motive value := by
  intro value
  induction hn : sizeOf value using Nat.strongRecOn generalizing value with
  | ind n ih =>
    subst hn
    cases value with
    | document entries =>
      exact document entries fun entry hentry => ih _ (sizeOf_lt_of_mem hentry) entry.2 rfl
    | _ => exact other _ rfl

theorem eq_of_document? {value : Value} {inner : Document}
    (h : value.document? = some inner) : value = .document inner := by
  cases value with
  | document entries => rw [Option.some.inj h]
  | _ => cases h

/-- Documents hold each key once, also where one is nested in another. -/
inductive Distinct : Value → Prop where
  | document {entries : List (String × Value)} (hkeys : (Entries.keys entries).Nodup)
      (hvalues : ∀ e ∈ entries, Distinct e.2) : Distinct (.document entries)
  | other {value : Value} (h : value.document? = none) : Distinct value

theorem distinct_document {entries : Document} :
    Distinct (.document entries) ↔
      (Entries.keys entries).Nodup ∧ ∀ e ∈ entries, Distinct e.2 := by
  constructor
  · intro h
    cases h with
    | document hkeys hvalues => exact ⟨hkeys, hvalues⟩
    | other h => cases h
  · rintro ⟨hkeys, hvalues⟩
    exact .document hkeys hvalues

end Value

/-- The paths that are kept, and those that are left out of them. A path stands for all that is
found below it, the empty one for everything. -/
structure Selection where
  kept : List (List String)
  dropped : List (List String)

namespace Selection

/-! ## Selecting -/

/-- What is left of a path below a key. One that has ended covers all below it. -/
def below (key : String) : List String → Option (List String)
  | [] => some []
  | k :: rest => if k = key then some rest else none

/-- The selection for the value of a key. -/
def under (selection : Selection) (key : String) : Selection :=
  ⟨selection.kept.filterMap (below key), selection.dropped.filterMap (below key)⟩

mutual

/-- The part of a value that is selected. A document is kept for the sake of what may be kept of
it; other values are kept or left out as a whole. -/
def value? (selection : Selection) : Value → Option Value
  | .document inner =>
    if [] ∈ selection.dropped ∨ selection.kept = [] then none
    else some (.document (entries selection inner))
  | value => if [] ∈ selection.dropped ∨ [] ∉ selection.kept then none else some value

/-- The entries that are selected. -/
def entries (selection : Selection) : List (String × Value) → List (String × Value)
  | [] => []
  | (key, value) :: rest =>
    match value? (selection.under key) value with
    | some found => (key, found) :: entries selection rest
    | none => entries selection rest

end

/-- The paths of a projection document that have a number. -/
def paths (projection : Document) (number : Int32) : List (List String) :=
  projection.filterMap fun (field, value) =>
    match value with
    | .int32 n => if n = number then some (pathKeys field) else none
    | _ => none

/-- The selection of a projection; without one all is kept. -/
def ofProjection (config : Config) : Option Document → Selection
  | none => ⟨[[]], []⟩
  | some projection =>
    let included := paths projection 1
    ⟨if included = [] then [[]] else pathKeys config.idField :: included, paths projection 0⟩

/-! ## Paths that are kept -/

/-- One of two paths leads to the other. -/
def Comparable (first second : List String) : Prop := first <+: second ∨ second <+: first

/-- What is found at a path is kept, and nothing is left out of it. -/
structure Keeps (selection : Selection) (path : List String) : Prop where
  kept : ∃ covering ∈ selection.kept, covering <+: path
  whole : ∀ missing ∈ selection.dropped, ¬Comparable missing path

instance (first second : List String) : Decidable (Comparable first second) :=
  inferInstanceAs (Decidable (first <+: second ∨ second <+: first))

instance (selection : Selection) (path : List String) : Decidable (selection.Keeps path) :=
  decidable_of_iff ((∃ covering ∈ selection.kept, covering <+: path) ∧
      ∀ missing ∈ selection.dropped, ¬Comparable missing path)
    ⟨fun h => ⟨h.1, h.2⟩, fun h => ⟨h.kept, h.whole⟩⟩

variable {selection : Selection} {key : String} {path : List String}

theorem comparable_nil (first : List String) : Comparable first [] := .inr (List.nil_prefix)

theorem comparable_cons {first : List String} :
    Comparable first (key :: path) ↔ ∃ rest, below key first = some rest ∧ Comparable rest path := by
  cases first with
  | nil =>
    exact ⟨fun _ => ⟨[], rfl, .inl List.nil_prefix⟩, fun _ => .inl List.nil_prefix⟩
  | cons k rest =>
    unfold Comparable below
    by_cases hk : k = key
    · simp [hk]
    · simp [hk, Ne.symm hk]

theorem covers_cons {first : List String} :
    first <+: key :: path ↔ ∃ rest, below key first = some rest ∧ rest <+: path := by
  cases first with
  | nil => exact ⟨fun _ => ⟨[], rfl, List.nil_prefix⟩, fun _ => List.nil_prefix⟩
  | cons k rest =>
    unfold below
    by_cases hk : k = key <;> simp [hk]

/-- A path is kept as what is left of it is kept below its first key. -/
theorem keeps_cons : selection.Keeps (key :: path) ↔ (selection.under key).Keeps path := by
  constructor
  · rintro ⟨⟨covering, hcovering, hcovers⟩, hwhole⟩
    obtain ⟨rest, hrest, hcovers⟩ := covers_cons.1 hcovers
    refine ⟨⟨rest, List.mem_filterMap.2 ⟨covering, hcovering, hrest⟩, hcovers⟩, ?_⟩
    intro missing hmissing hcomparable
    obtain ⟨longer, hlonger, hbelow⟩ := List.mem_filterMap.1 hmissing
    exact hwhole longer hlonger (comparable_cons.2 ⟨missing, hbelow, hcomparable⟩)
  · rintro ⟨⟨covering, hcovering, hcovers⟩, hwhole⟩
    obtain ⟨longer, hlonger, hbelow⟩ := List.mem_filterMap.1 hcovering
    refine ⟨⟨longer, hlonger, covers_cons.2 ⟨covering, hbelow, hcovers⟩⟩, ?_⟩
    intro missing hmissing hcomparable
    obtain ⟨rest, hrest, hcomparable⟩ := comparable_cons.1 hcomparable
    exact hwhole rest (List.mem_filterMap.2 ⟨missing, hmissing, hrest⟩) hcomparable

theorem keeps_nil : selection.Keeps [] ↔ [] ∈ selection.kept ∧ selection.dropped = [] := by
  constructor
  · rintro ⟨⟨covering, hcovering, hcovers⟩, hwhole⟩
    rw [List.prefix_nil] at hcovers
    refine ⟨hcovers ▸ hcovering, List.eq_nil_iff_forall_not_mem.2 fun missing hmissing => ?_⟩
    exact hwhole missing hmissing (comparable_nil missing)
  · rintro ⟨hkept, hdropped⟩
    refine ⟨⟨[], hkept, List.nil_prefix⟩, fun missing hmissing => ?_⟩
    rw [hdropped] at hmissing
    cases hmissing

theorem Keeps.not_dropped (h : selection.Keeps path) : [] ∉ selection.dropped :=
  fun hmem => h.whole [] hmem (.inl List.nil_prefix)

theorem Keeps.kept_ne_nil (h : selection.Keeps path) : selection.kept ≠ [] :=
  List.ne_nil_of_mem h.kept.choose_spec.1

/-- What is kept as a whole is kept so below every key. -/
theorem Keeps.under (h : selection.Keeps []) (key : String) : (selection.under key).Keeps [] := by
  obtain ⟨hkept, hdropped⟩ := keeps_nil.1 h
  refine keeps_nil.2 ⟨List.mem_filterMap.2 ⟨[], hkept, rfl⟩, ?_⟩
  rw [Selection.under, hdropped]
  rfl

/-! ## Values at paths -/

theorem value?_document (h : [] ∉ selection.dropped) (hkept : selection.kept ≠ [])
    (inner : Document) :
    value? selection (.document inner) = some (.document (entries selection inner)) := by
  rw [value?, if_neg (not_or.2 ⟨h, hkept⟩)]

theorem value?_other {value : Value} (h : value.document? = none) :
    value? selection value =
      if [] ∈ selection.dropped ∨ [] ∉ selection.kept then none else some value := by
  cases value with
  | document inner => cases h
  | _ =>
    rw [value?]
    rintro _ ⟨⟩

/-- The document in what is kept of a value. -/
theorem document?_value? (h : [] ∉ selection.dropped) (hkept : selection.kept ≠ [])
    (value : Value) :
    (value? selection value).bind Value.document? = value.document?.map (entries selection) := by
  cases hdocument : value.document? with
  | some inner =>
    rw [Value.eq_of_document? hdocument, value?_document h hkept]
    rfl
  | none =>
    rw [value?_other hdocument]
    split
    · rfl
    · exact hdocument

/-- What is kept as a whole stays as it is. -/
theorem value?_of_keeps (h : selection.Keeps []) (value : Value) :
    value? selection value = some value := by
  induction value using Value.induction generalizing selection with
  | document inner ih =>
    have hinner : entries selection inner = inner := by
      induction inner with
      | nil => rw [entries]
      | cons entry rest ihrest =>
        obtain ⟨ihentry, ihothers⟩ := List.forall_mem_cons.1 ih
        rw [entries, ihentry (h.under entry.1), ihrest ihothers]
    rw [value?_document h.not_dropped h.kept_ne_nil, hinner]
  | other value hvalue =>
    have hwhole : ¬([] ∈ selection.dropped ∨ [] ∉ selection.kept) :=
      not_or.2 ⟨h.not_dropped, fun hmissing => hmissing (keeps_nil.1 h).1⟩
    rw [value?_other hvalue, if_neg hwhole]

theorem get?_entries {row : Document} (hkeys : (Entries.keys row).Nodup) :
    Entries.get? key (entries selection row) =
      (Entries.get? key row).bind (value? (selection.under key)) := by
  induction row with
  | nil =>
    rw [entries]
    rfl
  | cons entry rest ih =>
    obtain ⟨k, value⟩ := entry
    obtain ⟨hk, hrest⟩ : k ∉ Entries.keys rest ∧ (Entries.keys rest).Nodup :=
      List.nodup_cons.1 hkeys
    rw [entries]
    by_cases hkey : k = key
    · subst hkey
      have hothers : Entries.get? k (entries selection rest) = none := by
        rw [ih hrest, Entries.get?_eq_none_iff.2 hk]
        rfl
      rw [Entries.get?, if_pos rfl, Option.bind_some]
      cases value? (selection.under k) value with
      | none => exact hothers
      | some found => rw [Entries.get?, if_pos rfl]
    · rw [Entries.get?, if_neg hkey, ← ih hrest]
      cases value? (selection.under k) value with
      | none => rfl
      | some found => rw [Entries.get?, if_neg hkey]

/-- **What is kept is found where it was.** -/
theorem descend?_entries {row : Document} (hpath : path ≠ []) (hrow : Value.Distinct (.document row))
    (hkeeps : selection.Keeps path) : descend? path (entries selection row) = descend? path row := by
  induction path generalizing selection row with
  | nil => exact absurd rfl hpath
  | cons key path ih =>
    have hunder := keeps_cons.1 hkeeps
    obtain ⟨hkeys, hvalues⟩ := Value.distinct_document.1 hrow
    have hget := @get?_entries selection key row hkeys
    cases path with
    | nil =>
      rw [descend?, descend?, hget]
      cases Entries.get? key row with
      | none => rfl
      | some value => exact value?_of_keeps hunder value
    | cons next path =>
      rw [descend?_cons, descend?_cons, hget]
      cases hvalue : Entries.get? key row with
      | none => rfl
      | some value =>
        rw [Option.bind_some, Option.bind_some,
          document?_value? hunder.not_dropped hunder.kept_ne_nil]
        cases hdocument : value.document? with
        | none => rfl
        | some inner =>
          rw [Value.eq_of_document? hdocument] at hvalue
          exact ih (List.cons_ne_nil _ _) (hvalues _ (Entries.mem_of_get? hvalue)) hunder

/-! ## Paths that are not kept -/

/-- A value for a path to lead to. -/
def nested : List String → Value
  | [] => .bool true
  | key :: path => .document [(key, nested path)]

theorem distinct_single {value : Value} (h : value.Distinct) (key : String) :
    (Value.document [(key, value)]).Distinct :=
  .document (List.pairwise_singleton _ _) (List.forall_mem_singleton.2 h)

theorem distinct_nested (path : List String) : (nested path).Distinct := by
  induction path with
  | nil => exact .other rfl
  | cons key path ih => exact distinct_single ih key

theorem nested_ne_null (path : List String) : nested path ≠ .null := by
  cases path <;> exact nofun

theorem get?_entries_single (selection : Selection) (key : String) (value : Value) :
    Entries.get? key (entries selection [(key, value)]) = value? (selection.under key) value := by
  have hkeys : (Entries.keys [(key, value)]).Nodup := List.pairwise_singleton _ _
  rw [get?_entries hkeys, Entries.get?, if_pos rfl, Option.bind_some]

theorem value?_nested (h : path ∈ selection.dropped) :
    value? selection (nested path) ≠ some (nested path) := by
  induction path generalizing selection with
  | nil =>
    rw [value?_other rfl, if_pos (.inl h)]
    exact nofun
  | cons key path ih =>
    intro hsame
    rw [nested, value?] at hsame
    split at hsame
    · cases hsame
    · have hentries := Value.document.inj (Option.some.inj hsame)
      have hvalue := congrArg (Entries.get? key) hentries
      rw [get?_entries_single, Entries.get?, if_pos rfl] at hvalue
      exact ih (List.mem_filterMap.2 ⟨_, h, if_pos rfl⟩) hvalue

/-- What is not kept as a whole is another value in some case. -/
theorem exists_changed_value (h : ¬selection.Keeps []) :
    ∃ value : Value, value.Distinct ∧ value ≠ .null ∧ value? selection value ≠ some value := by
  by_cases hkept : [] ∈ selection.kept
  · have hdropped : selection.dropped ≠ [] := fun hnone => h (keeps_nil.2 ⟨hkept, hnone⟩)
    obtain ⟨missing, hmissing⟩ := List.exists_mem_of_ne_nil _ hdropped
    exact ⟨nested missing, distinct_nested _, nested_ne_null _, value?_nested hmissing⟩
  · refine ⟨nested [], distinct_nested _, nested_ne_null _, ?_⟩
    rw [value?_other rfl, if_pos (.inr hkept)]
    exact nofun

/-- **What is not kept is not found in some row**, or it is another value there. -/
theorem exists_changed (hpath : path ≠ []) (h : ¬selection.Keeps path) :
    ∃ row value, Value.Distinct (.document row) ∧ value ≠ .null ∧
      descend? path row = some value ∧ descend? path (entries selection row) ≠ some value := by
  induction path generalizing selection with
  | nil => exact absurd rfl hpath
  | cons key path ih =>
    rw [keeps_cons] at h
    cases path with
    | nil =>
      obtain ⟨value, hdistinct, hvalue, hchanged⟩ := exists_changed_value h
      refine ⟨[(key, value)], value, distinct_single hdistinct key, hvalue, if_pos rfl, ?_⟩
      rw [descend?, get?_entries_single]
      exact hchanged
    | cons next path =>
      obtain ⟨inner, value, hdistinct, hvalue, hfound, hchanged⟩ := ih (List.cons_ne_nil _ _) h
      refine ⟨[(key, .document inner)], value, distinct_single hdistinct key, hvalue, ?_, ?_⟩
      · rw [descend?_cons, Entries.get?, if_pos rfl]
        exact hfound
      · rw [descend?_cons, get?_entries_single, value?]
        split
        · intro hnone
          cases hnone
        · exact hchanged

/-- **A path is kept exactly if the value there is the same in every row.** -/
theorem keeps_iff (hpath : path ≠ []) :
    selection.Keeps path ↔ ∀ row, Value.Distinct (.document row) →
      (descend? path (entries selection row)).getD .null = (descend? path row).getD .null := by
  constructor
  · intro hkeeps row hrow
    rw [descend?_entries hpath hrow hkeeps]
  · intro hsame
    refine Decidable.byContradiction fun hkeeps => ?_
    obtain ⟨row, value, hrow, hvalue, hfound, hchanged⟩ := exists_changed hpath hkeeps
    have hgiven := hsame row hrow
    rw [hfound, Option.getD_some] at hgiven
    cases hselected : descend? path (entries selection row) with
    | none =>
      rw [hselected] at hgiven
      exact hvalue hgiven.symm
    | some other =>
      rw [hselected] at hgiven
      exact hchanged (hselected.trans (congrArg some hgiven))

/-- Sort fields are kept exactly if every row keeps its key. -/
theorem keeps_key_iff (selection : Selection) (sort : SortOrder) :
    (∀ s ∈ sort, selection.Keeps (pathKeys s.field)) ↔
      ∀ row, Value.Distinct (.document row) →
        Cursor.Row.key sort (entries selection row) = Cursor.Row.key sort row := by
  simp only [Cursor.Row.key, List.map_inj_left]
  constructor
  · intro hkeeps row hrow s hs
    exact (keeps_iff (pathKeys_ne_nil s.field)).1 (hkeeps s hs) row hrow
  · intro hsame s hs
    exact (keeps_iff (pathKeys_ne_nil s.field)).2 fun row hrow => hsame row hrow s hs

end Selection

end DocumentQuery
