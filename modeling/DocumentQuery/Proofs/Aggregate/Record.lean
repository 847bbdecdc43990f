import DocumentQuery.Proofs.Aggregate.Decoding
import DocumentQuery.Proofs.SortedMap

/-!
# Groups as flat documents

A group is flattened: its keys go under their fields and its other columns under their labels, all
into one document. Labels are distinct among themselves, but a field may be called like a label.
Then one entry is left for both, and it has the value of the column.

* `Group.get?_toRecord_label` : a column is found under its label;
* `Group.get?_toRecord_key`   : a group key is found under its field, unless a column is there;
* `Group.mem_keys_toRecord`   : the keys of the document;
* `Complete`                  : a document with everything that was asked for;
* `Group.complete_toRecord_iff` : when that of a group is complete.

Principal result: `Grouping.complete_iff`.
-/

namespace DocumentQuery.Aggregate

variable {aggregation : Aggregation} {grouping : Grouping} {choice : Slot → Value} {row : Document}

/-! ## The entries of a flat document -/

namespace Group

variable {group : Group}

/-- The columns of the functions under their labels. -/
def columns (group : Group) : Document :=
  Function.all.flatMap fun function =>
    (group.values function).toList.map fun (field, value) =>
      ((Column.mk function field).label, value)

theorem toRecord_eq (group : Group) :
    group.toRecord = Entries.ofPairs (group.keys.toList ++ group.columns) :=
  rfl

theorem mem_columns {label : String} {value : Value} :
    (label, value) ∈ group.columns ↔
      ∃ column : Column, column.label = label ∧ group.at? (.value column) = some value := by
  rw [columns, List.mem_flatMap]
  constructor
  · rintro ⟨function, _, hentry⟩
    obtain ⟨⟨field, found⟩, hfound, hsame⟩ := List.mem_map.1 hentry
    obtain ⟨hlabel, rfl⟩ := Prod.mk.inj hsame
    exact ⟨⟨function, field⟩, hlabel, SortedMap.mem_toList.1 hfound⟩
  · rintro ⟨⟨function, field⟩, hlabel, hvalue⟩
    exact ⟨function, function.mem_all,
      List.mem_map.2 ⟨(field, value), SortedMap.mem_toList.2 hvalue, congrArg (·, value) hlabel⟩⟩

theorem mem_keys_columns {label : String} :
    label ∈ Entries.keys group.columns ↔
      ∃ column : Column, column.label = label ∧ group.at? (.value column) ≠ none := by
  simp only [Option.ne_none_iff_exists']
  constructor
  · intro hlabel
    obtain ⟨⟨_, value⟩, hentry, rfl⟩ := List.mem_map.1 hlabel
    obtain ⟨column, hcolumn, hvalue⟩ := mem_columns.1 hentry
    exact ⟨column, hcolumn, value, hvalue⟩
  · rintro ⟨column, hcolumn, value, hvalue⟩
    exact List.mem_map.2 ⟨(label, value), mem_columns.2 ⟨column, hcolumn, hvalue⟩, rfl⟩

/-- What stands under a name is a column of that label or else a group key. -/
theorem get?_toRecord (group : Group) (name : String) :
    Entries.get? name group.toRecord =
      (Entries.get? name group.columns.reverse).or (group.at? (.key name)) := by
  rw [toRecord_eq, Entries.get?_ofPairs, List.reverse_append, Entries.get?_append,
    Entries.get?_reverse group.keys.nodup_keys]
  rfl

/-- **A column is found under its label**, whatever the group keys are called. -/
theorem get?_toRecord_label {column : Column} {value : Value}
    (h : group.at? (.value column) = some value) :
    Entries.get? column.label group.toRecord = some value := by
  have hmem : (column.label, value) ∈ group.columns.reverse :=
    List.mem_reverse.2 (mem_columns.2 ⟨column, rfl, h⟩)
  have hsame : ∀ other, (column.label, other) ∈ group.columns.reverse → other = value := by
    intro other hother
    obtain ⟨column', hlabel, hvalue⟩ := mem_columns.1 (List.mem_reverse.1 hother)
    rw [Slot.value.inj (@Slot.label_injective (.value column') (.value column) hlabel), h] at hvalue
    exact (Option.some.inj hvalue).symm
  rw [get?_toRecord, Entries.get?_of_same hmem hsame]
  rfl

/-- **A group key is found under its field**, unless there is a column of that label. -/
theorem get?_toRecord_key {field : String}
    (h : ∀ column : Column, group.at? (.value column) ≠ none → column.label ≠ field) :
    Entries.get? field group.toRecord = group.at? (.key field) := by
  have hnone : Entries.get? field group.columns.reverse = none := by
    rw [Entries.get?_eq_none_iff, Entries.keys, List.map_reverse, List.mem_reverse]
    intro hmem
    obtain ⟨column, hlabel, hvalue⟩ := mem_keys_columns.1 hmem
    exact h column hvalue hlabel
  rw [get?_toRecord, hnone]
  rfl

theorem nodup_keys_toRecord (group : Group) : (Entries.keys group.toRecord).Nodup :=
  Entries.nodup_keys_ofPairs _

theorem mem_keys_toRecord {name : String} :
    name ∈ Entries.keys group.toRecord ↔
      group.at? (.key name) ≠ none ∨
        ∃ column : Column, column.label = name ∧ group.at? (.value column) ≠ none := by
  have hkey : name ∈ Entries.keys group.keys.toList ↔ group.at? (.key name) ≠ none := by
    rw [← not_iff_not, not_not]
    exact Entries.get?_eq_none_iff.symm
  rw [toRecord_eq, Entries.keys_ofPairs, List.mem_eraseDups, Entries.keys, List.map_append,
    List.mem_append, ← mem_keys_columns, ← hkey]
  rfl

end Group

/-! ## Complete documents -/

/-- A document with every group key under its field and every column under its label, and with no
other entries. -/
structure Complete (aggregation : Aggregation) (choice : Slot → Value) (record : Document) :
    Prop where
  keys : ∀ field ∈ aggregation.groupBy, Entries.get? field record = some (choice (.key field))
  values : ∀ column ∈ aggregation.columns,
    Entries.get? column.label record = some (choice (.value column))
  size : record.length = aggregation.groupBy.toFinset.card + aggregation.columns.toFinset.card

namespace Aggregation

/-- The labels of the columns. -/
def labels (aggregation : Aggregation) : Finset String :=
  aggregation.columns.toFinset.image Column.label

theorem mem_labels {name : String} :
    name ∈ aggregation.labels ↔ ∃ column ∈ aggregation.columns, column.label = name := by
  simp only [labels, Finset.mem_image, List.mem_toFinset]

/-- No two columns have one label. -/
theorem card_labels (aggregation : Aggregation) :
    aggregation.labels.card = aggregation.columns.toFinset.card := by
  refine Finset.card_image_of_injective _ fun column other hlabel => ?_
  exact Slot.value.inj (@Slot.label_injective (.value column) (.value other) hlabel)

theorem disjoint_labels_iff : Disjoint aggregation.groupBy.toFinset aggregation.labels ↔
    ∀ column ∈ aggregation.columns, column.label ∉ aggregation.groupBy := by
  rw [Finset.disjoint_right]
  simp only [mem_labels, List.mem_toFinset, forall_exists_index, and_imp,
    forall_apply_eq_imp_iff₂]

end Aggregation

namespace Group

/-- The entries of a flat document are the fields and the labels together. -/
theorem length_toRecord_ofPlaces (choice : Slot → Value) (aggregation : Aggregation) :
    (ofPlaces choice aggregation.places).toRecord.length =
      (aggregation.groupBy.toFinset ∪ aggregation.labels).card := by
  have hnames : (Entries.keys (ofPlaces choice aggregation.places).toRecord).toFinset =
      aggregation.groupBy.toFinset ∪ aggregation.labels := by
    ext name
    simp only [List.mem_toFinset, mem_keys_toRecord, at?_ofPlaces, Finset.mem_union,
      Aggregation.mem_labels, Aggregation.key_mem_places, Aggregation.value_mem_places,
      Aggregation.mem_columns, ne_eq, ite_eq_right_iff, reduceCtorEq, imp_false, not_not]
    simp only [and_comm]
  rw [← hnames, List.toFinset_card_of_nodup (nodup_keys_toRecord _), Entries.keys,
    List.length_map]

theorem at?_value_ofPlaces (choice : Slot → Value) (aggregation : Aggregation) (column : Column) :
    (ofPlaces choice aggregation.places).at? (.value column) =
      if column ∈ aggregation.columns then some (choice (.value column)) else none := by
  simp only [at?_ofPlaces, Aggregation.value_mem_places, Aggregation.mem_columns]

theorem get?_label_ofPlaces (choice : Slot → Value) {column : Column}
    (hcolumn : column ∈ aggregation.columns) :
    Entries.get? column.label (ofPlaces choice aggregation.places).toRecord =
      some (choice (.value column)) := by
  refine get?_toRecord_label ?_
  rw [at?_value_ofPlaces, if_pos hcolumn]

theorem get?_field_ofPlaces (choice : Slot → Value) {field : String}
    (hfield : field ∈ aggregation.groupBy)
    (hother : ∀ column ∈ aggregation.columns, column.label ≠ field) :
    Entries.get? field (ofPlaces choice aggregation.places).toRecord =
      some (choice (.key field)) := by
  have hfree : ∀ column : Column,
      (ofPlaces choice aggregation.places).at? (.value column) ≠ none → column.label ≠ field := by
    intro column hheld
    refine hother column (by_contra fun hcolumn => hheld ?_)
    rw [at?_value_ofPlaces, if_neg hcolumn]
  rw [get?_toRecord_key hfree, at?_ofPlaces, if_pos (Aggregation.key_mem_places.2 hfield)]

/-- Entries are missing exactly where a field and a column share one. -/
theorem complete_toRecord_iff (choice : Slot → Value) (aggregation : Aggregation) :
    Complete aggregation choice (ofPlaces choice aggregation.places).toRecord ↔
      ∀ column ∈ aggregation.columns, column.label ∉ aggregation.groupBy := by
  have hsize := length_toRecord_ofPlaces choice aggregation
  constructor
  · intro hcomplete
    rw [hcomplete.size, ← aggregation.card_labels] at hsize
    exact Aggregation.disjoint_labels_iff.1 (Finset.card_union_eq_card_add_card.1 hsize.symm)
  · intro hfree
    constructor
    · intro field hfield
      refine get?_field_ofPlaces choice hfield ?_
      rintro column hcolumn rfl
      exact hfree column hcolumn hfield
    · intro column hcolumn
      exact get?_label_ofPlaces choice hcolumn
    · have hdisjoint := Aggregation.disjoint_labels_iff.2 hfree
      rw [hsize, Finset.card_union_of_disjoint hdisjoint, aggregation.card_labels]

end Group

namespace Grouping

theorem exists_compile (h : aggregation.columns ≠ []) :
    ∃ grouping, compile aggregation = .ok grouping :=
  ⟨_, compile_eq_ok.2 ⟨h, rfl⟩⟩

theorem decode_of_produces (h : compile aggregation = .ok grouping)
    (hnamed : "" ∉ aggregation.groupBy) (hrow : grouping.Produces choice row) :
    grouping.decode [row] = .ok [Group.ofPlaces choice aggregation.places] := by
  rw [decode, List.mapM_cons, ofRow_of_produces h hnamed hrow]
  rfl

/-- **A flat document is complete exactly if no field is called like a label.** A row with chosen
values is decoded to one group. In its flat document every column is found, and every group key
that is not called like one of these. -/
theorem complete_iff (h : compile aggregation = .ok grouping) (hnamed : "" ∉ aggregation.groupBy)
    (hrow : grouping.Produces choice row) :
    ∃ group, grouping.decode [row] = .ok [group] ∧
      (Complete aggregation choice group.toRecord ↔
        ∀ column ∈ aggregation.columns, column.label ∉ aggregation.groupBy) ∧
      (∀ column ∈ aggregation.columns,
        Entries.get? column.label group.toRecord = some (choice (.value column))) ∧
      ∀ field ∈ aggregation.groupBy, (∀ column ∈ aggregation.columns, column.label ≠ field) →
        Entries.get? field group.toRecord = some (choice (.key field)) := by
  refine ⟨_, decode_of_produces h hnamed hrow, Group.complete_toRecord_iff choice aggregation,
    ?_, ?_⟩
  · intro column hcolumn
    exact Group.get?_label_ofPlaces choice hcolumn
  · intro field hfield hother
    exact Group.get?_field_ofPlaces choice hfield hother

/-- Fields that are called like labels, of columns that were not asked for. -/
theorem complete_iff_labels :
    let aggregation : Aggregation :=
      { groupBy := ["country", "sum_x"], count := ["country"], average := ["sum_x"] }
    let choice : Slot → Value := fun slot => .string ("of " ++ slot.label)
    let row : Document :=
      [("count_country", .string "of count_country"), ("avg_sum_x", .string "of avg_sum_x"),
        ("_id", .document [("group_by_country", .string "of group_by_country"),
          ("group_by_sum_x", .string "of group_by_sum_x")])]
    ∃ grouping group, compile aggregation = .ok grouping ∧ grouping.Produces choice row ∧
      grouping.decode [row] = .ok [group] ∧ Complete aggregation choice group.toRecord := by
  intro aggregation choice row
  have hsome : aggregation.columns ≠ [] := by decide
  obtain ⟨grouping, hcompile⟩ := exists_compile hsome
  have hkeyed : Group.Holds choice [("group_by_country", .string "of group_by_country"),
      ("group_by_sum_x", .string "of group_by_sum_x")] :=
    Group.holds_map choice [.key "country", .key "sum_x"]
  have hrow : Group.Holds choice row :=
    (Group.holds_map choice
      [.value ⟨.count, "country"⟩, .value ⟨.average, "sum_x"⟩]).append_keys _
  have hproduces : grouping.Produces choice row := by
    obtain ⟨-, rfl⟩ := compile_eq_ok.1 hcompile
    exact ⟨by decide, .keyed (by decide) hkeyed, hrow⟩
  obtain ⟨group, hdecode, hcomplete, -, -⟩ := complete_iff hcompile (by decide) hproduces
  exact ⟨grouping, group, hcompile, hproduces, hdecode, hcomplete.2 (by decide)⟩

/-- A field that is called like the label of a column: the group key is not in the flat
document. -/
theorem key_lost_to_label :
    let aggregation : Aggregation := { groupBy := ["count_age"], count := ["age"] }
    let choice : Slot → Value := fun slot =>
      match slot with
      | .key _ => .string "x"
      | .value _ => .int32 3
    let row : Document :=
      [("count_age", .int32 3), ("_id", .document [("group_by_count_age", .string "x")])]
    ∃ grouping group, compile aggregation = .ok grouping ∧ grouping.Produces choice row ∧
      grouping.decode [row] = .ok [group] ∧ group.keys.get? "count_age" = some (.string "x") ∧
      group.toRecord = [("count_age", .int32 3)] ∧
      ¬Complete aggregation choice group.toRecord := by
  intro aggregation choice row
  have hsome : aggregation.columns ≠ [] := by decide
  obtain ⟨grouping, hcompile⟩ := exists_compile hsome
  have hkeyed : Group.Holds choice [("group_by_count_age", .string "x")] :=
    Group.holds_map choice [.key "count_age"]
  have hrow : Group.Holds choice row :=
    (Group.holds_map choice [.value ⟨.count, "age"⟩]).append_keys _
  have hproduces : grouping.Produces choice row := by
    obtain ⟨-, rfl⟩ := compile_eq_ok.1 hcompile
    exact ⟨by decide, .keyed (by decide) hkeyed, hrow⟩
  have hrecord : (Group.ofPlaces choice aggregation.places).toRecord =
      [("count_age", .int32 3)] := rfl
  refine ⟨grouping, _, hcompile, hproduces, decode_of_produces hcompile (by decide) hproduces,
    rfl, hrecord, fun hcomplete => ?_⟩
  have hkey : some (Value.int32 3) = some (.string "x") :=
    hcomplete.keys "count_age" (by decide)
  cases hkey

end Grouping

end DocumentQuery.Aggregate
