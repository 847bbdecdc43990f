import DocumentQuery.Proofs.Aggregate.Places
import DocumentQuery.Proofs.Aggregate.Table

/-!
# Groups read back

A store returns one row for each group: under the labels of the grouping it has the values of the
group keys and those of the functions. Such a row is decoded to these values, each under its own
field, and to nothing else.

* `Aggregation.places`       : what a request asks for, each in its place;
* `Grouping.Produces`        : a row of a grouping with given values;
* `Grouping.resolve_key`, `Grouping.resolve_value` : a label of a grouping is that of its place;
* `Grouping.ofRow_of_produces` : a row is decoded to the values that it was made of.

Principal result: `Grouping.decode_compile`.
-/

namespace DocumentQuery.Aggregate

open Aggregate.Group (Holds Resolves Updates)

variable {aggregation : Aggregation} {grouping : Grouping} {choice : Slot → Value} {row : Document}

namespace Aggregation

/-- What the request asks for. -/
def places (aggregation : Aggregation) : List Slot :=
  aggregation.groupBy.map .key ++ aggregation.columns.map .value

theorem key_mem_places {field : String} :
    Slot.key field ∈ aggregation.places ↔ field ∈ aggregation.groupBy := by
  simp [places]

theorem value_mem_places {column : Column} :
    Slot.value column ∈ aggregation.places ↔
      column.field ∈ aggregation.fields column.function := by
  simp [places, mem_columns]

theorem labels_places : aggregation.places.map Slot.label =
    aggregation.groupBy.map groupLabel ++ aggregation.columns.map Column.label := by
  rw [places, List.map_append, List.map_map, List.map_map]
  rfl

end Aggregation

namespace Grouping

/-- What a row has under the key of group keys, for what the body has there: null if all rows are in
one group, or else the chosen values under the labels of the group keys, in some order. -/
inductive KeysOf (choice : Slot → Value) : Option Value → Option Value → Prop where
  | single : KeysOf choice (some .null) (some .null)
  | keyed {expressions keys : Document}
      (labels : (Entries.keys keys).Perm (Entries.keys expressions))
      (values : Holds choice keys) :
      KeysOf choice (some (.document expressions)) (some (.document keys))

/-- The row has the labels of the body, in some order, with chosen values. -/
structure Produces (grouping : Grouping) (choice : Slot → Value) (row : Document) : Prop where
  labels : (Entries.keys row).Perm (Entries.keys grouping.body)
  keys : KeysOf choice (Entries.get? Group.keysKey grouping.body)
    (Entries.get? Group.keysKey row)
  values : Holds choice row

/-! ## Labels -/

theorem resolve_value (h : compile aggregation = .ok grouping) {column : Column}
    (hcolumn : column ∈ aggregation.columns) :
    grouping.resolve column.label = .ok (.value column) := by
  rw [resolve, (column?_eq_some h).2 ⟨hcolumn, rfl⟩]

theorem resolve_key (h : compile aggregation = .ok grouping) {field : String}
    (hfield : field ≠ "") : grouping.resolve (groupLabel field) = .ok (.key field) := by
  have hnone : grouping.column? (groupLabel field) = none := by
    rw [Option.eq_none_iff_forall_ne_some]
    intro column hcolumn
    obtain ⟨-, hlabel⟩ := (column?_eq_some h).1 hcolumn
    cases @Slot.label_injective (.value column) (.key field) hlabel
  rw [resolve, hnone]
  exact @Slot.parse_label (.key field) hfield

/-! ## Rows -/

theorem exists_keys (h : compile aggregation = .ok grouping) (hnamed : "" ∉ aggregation.groupBy)
    (hrow : grouping.Produces choice row) :
    ∃ found, Group.ofKeys grouping.resolve (Entries.get? Group.keysKey row) = .ok found ∧
      Updates Group.empty choice (aggregation.groupBy.map groupLabel) found := by
  have hkeys := hrow.keys
  rw [get?_body h, keysValue] at hkeys
  generalize Entries.get? Group.keysKey row = value? at hkeys
  split at hkeys
  · rename_i hsingle
    cases hkeys with
    | single =>
      rw [List.isEmpty_iff.1 hsingle]
      exact ⟨Group.empty, rfl, nofun, fun _ _ => rfl⟩
  · cases hkeys with
    | @keyed _ keys labels values =>
      have hlabels : ∀ label,
          label ∈ Entries.keys keys ↔ label ∈ aggregation.groupBy.map groupLabel := by
        intro label
        rw [labels.mem_iff, Entries.keys_ofPairs, List.mem_eraseDups, Entries.keys, List.map_map]
        rfl
      have hresolves : Resolves grouping.resolve (Entries.keys keys) := by
        intro label hlabel
        obtain ⟨field, hfield, rfl⟩ := List.mem_map.1 ((hlabels label).1 hlabel)
        exact ⟨.key field, rfl, resolve_key h fun hempty => hnamed (hempty ▸ hfield)⟩
      obtain ⟨found, hfound, hupdates⟩ := Group.exists_foldlM Group.empty values hresolves
      exact ⟨found, hfound, hupdates.congr fun label => (hlabels label).symm⟩

theorem exists_others (h : compile aggregation = .ok grouping)
    (hrow : grouping.Produces choice row) :
    ∃ found,
      Group.ofColumns grouping.resolve (row.filter fun entry => entry.1 ≠ Group.keysKey) =
        .ok found ∧
      Updates Group.empty choice (aggregation.columns.map Column.label) found := by
  have hlabels : ∀ label,
      label ∈ Entries.keys (row.filter fun entry => entry.1 ≠ Group.keysKey) ↔
        label ∈ aggregation.columns.map Column.label := by
    intro label
    constructor
    · intro hmem
      obtain ⟨entry, hentry, rfl⟩ := List.mem_map.1 hmem
      obtain ⟨hentry, hother⟩ := List.mem_filter.1 hentry
      have hbody := hrow.labels.mem_iff.1 (List.mem_map_of_mem hentry)
      exact ((mem_keys_body h).1 hbody).resolve_left (of_decide_eq_true hother)
    · intro hmem
      have hbody := hrow.labels.mem_iff.2 ((mem_keys_body h).2 (.inr hmem))
      obtain ⟨entry, hentry, hlabel⟩ := List.mem_map.1 hbody
      obtain ⟨column, _, rfl⟩ := List.mem_map.1 hmem
      have hother : entry.1 ≠ Group.keysKey := fun hkey =>
        Slot.label_ne_keysKey (.value column) (hlabel.symm.trans hkey)
      exact List.mem_map.2
        ⟨entry, List.mem_filter.2 ⟨hentry, decide_eq_true hother⟩, hlabel⟩
  have hholds : Holds choice (row.filter fun entry => entry.1 ≠ Group.keysKey) :=
    fun slot value hmem => hrow.values slot value (List.mem_filter.1 hmem).1
  have hresolves : Resolves grouping.resolve
      (Entries.keys (row.filter fun entry => entry.1 ≠ Group.keysKey)) := by
    intro label hlabel
    obtain ⟨column, hcolumn, rfl⟩ := List.mem_map.1 ((hlabels label).1 hlabel)
    exact ⟨.value column, rfl, resolve_value h hcolumn⟩
  obtain ⟨found, hfound, hupdates⟩ := Group.exists_foldlM Group.empty hholds hresolves
  exact ⟨found, hfound, hupdates.congr fun label => (hlabels label).symm⟩

/-- **A row is decoded to the values that it was made of.** -/
theorem ofRow_of_produces (h : compile aggregation = .ok grouping)
    (hnamed : "" ∉ aggregation.groupBy) (hrow : grouping.Produces choice row) :
    Group.ofRow grouping.resolve row = .ok (Group.ofPlaces choice aggregation.places) := by
  obtain ⟨keys, hkeys, hkeyed⟩ := exists_keys h hnamed hrow
  obtain ⟨others, hothers, hvalued⟩ := exists_others h hrow
  have hmerged := hkeyed.merge hvalued
  rw [← Aggregation.labels_places] at hmerged
  rw [Group.ofRow_eq, hmerged.unique (Group.updates_ofPlaces choice aggregation.places)]
  exact bind_eq_ok.2 ⟨keys, hkeys, bind_eq_ok.2 ⟨others, hothers, rfl⟩⟩

/-- **Decoding undoes compiling.** A request for some function of a field has a grouping. Its columns
are the requested ones, its table leads each label to the last of them that has it, and so labels
are found again with their columns. Rows with chosen values are decoded to groups with exactly these
values, one for each row, whatever the names of the fields. -/
theorem decode_compile (hfunctions : ∃ function, aggregation.fields function ≠ [])
    (hnamed : "" ∉ aggregation.groupBy) :
    ∃ (grouping : Grouping) (groupOf : (Slot → Value) → Group),
      compile aggregation = .ok grouping ∧
      grouping.columns = aggregation.columns ∧
      (∀ label place, grouping.lookup.get? label = some place ↔
        LastAt aggregation.columns label place) ∧
      (∀ label column, grouping.column? label = some column ↔
        column.field ∈ aggregation.fields column.function ∧ column.label = label) ∧
      (∀ choice field, (groupOf choice).keys.get? field =
        if field ∈ aggregation.groupBy then some (choice (.key field)) else none) ∧
      (∀ choice function field, (groupOf choice).get? function field =
        if field ∈ aggregation.fields function then some (choice (.value ⟨function, field⟩))
        else none) ∧
      ∀ rows : List ((Slot → Value) × Document), (∀ r ∈ rows, grouping.Produces r.1 r.2) →
        grouping.decode (rows.map Prod.snd) = .ok (rows.map fun r => groupOf r.1) := by
  obtain ⟨function, hfields⟩ := hfunctions
  obtain ⟨field, hfield⟩ := List.exists_mem_of_ne_nil _ hfields
  have hcolumn : Column.mk function field ∈ aggregation.columns :=
    Aggregation.mem_columns.2 hfield
  have hcompile := compile_eq_ok.2 ⟨List.ne_nil_of_mem hcolumn, rfl⟩
  refine ⟨_, fun choice => Group.ofPlaces choice aggregation.places, hcompile,
    columns_of_compile hcompile, fun _ _ => get?_lookup hcompile, ?_, ?_, ?_, ?_⟩
  · intro label column
    rw [column?_eq_some hcompile, Aggregation.mem_columns]
  · intro choice field
    have hplace := Group.at?_ofPlaces choice aggregation.places (.key field)
    simp only [Aggregation.key_mem_places] at hplace
    exact hplace
  · intro choice function field
    have hplace := Group.at?_ofPlaces choice aggregation.places (.value ⟨function, field⟩)
    simp only [Aggregation.value_mem_places] at hplace
    exact hplace
  · intro rows hrows
    exact mapM_map_eq_ok fun r hr => ofRow_of_produces hcompile hnamed (hrows r hr)

/-- Fields that are called like labels, some of them named twice, and a row in another order. The
column that is there twice is found at its second place. -/
theorem decode_compile_labels :
    let aggregation : Aggregation :=
      { groupBy := ["sum_x", "by_y", "sum_x"], count := ["by_y"], sum := ["sum_x", "x", "sum_x"] }
    let choice : Slot → Value := fun slot => .string ("of " ++ slot.label)
    let row : Document :=
      [("sum_x", .string "of sum_x"), ("count_by_y", .string "of count_by_y"),
        ("sum_sum_x", .string "of sum_sum_x"),
        ("_id", .document [("group_by_by_y", .string "of group_by_by_y"),
          ("group_by_sum_x", .string "of group_by_sum_x")])]
    ∃ grouping group, compile aggregation = .ok grouping ∧ grouping.Produces choice row ∧
      grouping.lookup.get? "sum_sum_x" = some 3 ∧
      grouping.column? "sum_sum_x" = some ⟨.sum, "sum_x"⟩ ∧
      grouping.decode [row, row] = .ok [group, group] ∧
      group.keys.get? "sum_x" = some (.string "of group_by_sum_x") ∧
      group.get? .sum "x" = some (.string "of sum_x") ∧ group.get? .sum "by_y" = none := by
  intro aggregation choice row
  obtain ⟨grouping, groupOf, hcompile, -, -, hcolumn, hkeys, hvalues, hdecode⟩ :=
    @decode_compile aggregation ⟨.sum, by decide⟩ (by decide)
  have hgrouping := (compile_eq_ok.1 hcompile).2
  have hkeyed : Holds choice [("group_by_by_y", .string "of group_by_by_y"),
      ("group_by_sum_x", .string "of group_by_sum_x")] :=
    Group.holds_map choice [.key "by_y", .key "sum_x"]
  have hrow : Holds choice row :=
    (Group.holds_map choice
      [.value ⟨.sum, "x"⟩, .value ⟨.count, "by_y"⟩, .value ⟨.sum, "sum_x"⟩]).append_keys _
  have hproduces : grouping.Produces choice row := by
    subst hgrouping
    exact ⟨by decide, .keyed (by decide) hkeyed, hrow⟩
  have hplace : grouping.lookup.get? "sum_sum_x" = some 3 := by
    subst hgrouping
    rfl
  have hrows := hdecode [(choice, row), (choice, row)] (by simp [hproduces])
  exact ⟨grouping, groupOf choice, hcompile, hproduces, hplace, (hcolumn _ _).2 ⟨by decide, rfl⟩,
    hrows, hkeys choice _, hvalues choice _ _, hvalues choice _ _⟩

end Grouping

end DocumentQuery.Aggregate
