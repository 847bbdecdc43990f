import DocumentQuery.Aggregate.Grouping
import DocumentQuery.Proofs.Aggregate.Labels
import DocumentQuery.Proofs.Compilation
import DocumentQuery.Proofs.Entries

/-!
# The table of a grouping

A grouping is compiled column by column. Each step adds a column to the body, to the list and to the
table, where its label leads to its place from then on. So a label leads to the last column that has
it; as no two columns have one label, that is the column that was requested under it.

* `LastAt`                       : the place of the last column of a label;
* `Grouping.Tabled`              : the table leads there, and does so while columns are added
  (`Grouping.Tabled.foldl`);
* `Grouping.compile_eq_ok`       : the grouping of a request;
* `Grouping.get?_lookup`         : its table;
* `Grouping.column?_eq_some_iff` : what is found under a label.

Principal result: `Grouping.column?_eq_some`.
-/

namespace DocumentQuery.Aggregate

variable {aggregation : Aggregation}

theorem Aggregation.mem_columns {column : Column} :
    column ∈ aggregation.columns ↔ column.field ∈ aggregation.fields column.function := by
  rw [columns, List.mem_flatMap]
  constructor
  · rintro ⟨function, _, hcolumn⟩
    obtain ⟨field, hfield, rfl⟩ := List.mem_map.1 hcolumn
    exact hfield
  · intro hfield
    exact ⟨column.function, column.function.mem_all, List.mem_map.2 ⟨column.field, hfield, rfl⟩⟩

/-! ## Last columns -/

/-- The column at the place has the label, and none after it has. -/
structure LastAt (columns : List Column) (label : String) (place : Nat) : Prop where
  found : ∃ column, columns[place]? = some column ∧ column.label = label
  last : ∀ later column, place < later → columns[later]? = some column → column.label ≠ label

/-- One more column is at the end. -/
theorem getElem?_concat_eq_some {columns : List Column} {column other : Column} {place : Nat} :
    (columns ++ [column])[place]? = some other ↔
      columns[place]? = some other ∨ place = columns.length ∧ column = other := by
  constructor
  · intro h
    rcases Nat.lt_trichotomy place columns.length with hplace | rfl | hplace
    · exact .inl ((List.getElem?_append_left hplace).symm.trans h)
    · exact .inr ⟨rfl, Option.some.inj (List.getElem?_concat_length.symm.trans h)⟩
    · have hlength := (List.getElem?_eq_some_iff.1 h).1
      rw [List.length_append, List.length_singleton] at hlength
      omega
  · rintro (h | ⟨rfl, rfl⟩)
    · exact (List.getElem?_append_left (List.getElem?_eq_some_iff.1 h).1).trans h
    · exact List.getElem?_concat_length

theorem lastAt_concat {columns : List Column} {column : Column} {label : String} {place : Nat} :
    LastAt (columns ++ [column]) label place ↔
      if column.label = label then place = columns.length else LastAt columns label place := by
  have hlt : ∀ {n other}, columns[n]? = some other → n < columns.length :=
    fun h => (List.getElem?_eq_some_iff.1 h).1
  split
  · rename_i hlabel
    constructor
    · rintro ⟨⟨other, hother, -⟩, hlast⟩
      rcases getElem?_concat_eq_some.1 hother with hother | ⟨hplace, -⟩
      · exact absurd hlabel (hlast columns.length column (hlt hother) List.getElem?_concat_length)
      · exact hplace
    · rintro rfl
      refine ⟨⟨column, List.getElem?_concat_length, hlabel⟩, fun later other hlater hother => ?_⟩
      rcases getElem?_concat_eq_some.1 hother with hother | ⟨rfl, -⟩
      · exact absurd hlater (Nat.lt_asymm (hlt hother))
      · exact absurd hlater (Nat.lt_irrefl _)
  · rename_i hlabel
    constructor
    · rintro ⟨⟨other, hother, hsame⟩, hlast⟩
      rcases getElem?_concat_eq_some.1 hother with hother | ⟨-, rfl⟩
      · refine ⟨⟨other, hother, hsame⟩, fun later another hlater hanother => ?_⟩
        exact hlast later another hlater (getElem?_concat_eq_some.2 (.inl hanother))
      · exact absurd hsame hlabel
    · rintro ⟨⟨other, hother, hsame⟩, hlast⟩
      refine ⟨⟨other, getElem?_concat_eq_some.2 (.inl hother), hsame⟩, ?_⟩
      intro later another hlater hanother
      rcases getElem?_concat_eq_some.1 hanother with hanother | ⟨-, rfl⟩
      · exact hlast later another hlater hanother
      · exact hlabel

theorem exists_lastAt {columns : List Column} {column : Column} (h : column ∈ columns) :
    ∃ place, LastAt columns column.label place := by
  induction columns using List.reverseRecOn with
  | nil => exact absurd h List.not_mem_nil
  | append_singleton columns added ih =>
    simp only [lastAt_concat]
    split
    · exact ⟨_, rfl⟩
    · rename_i hlabel
      rcases List.mem_append.1 h with h | h
      · exact ih h
      · rw [List.mem_singleton.1 h] at hlabel
        exact absurd rfl hlabel

namespace Grouping

/-! ## Column by column -/

section Columns

variable (grouping : Grouping) (columns : List Column)

theorem groupBy_foldl : (columns.foldl add grouping).groupBy = grouping.groupBy := by
  induction columns generalizing grouping with
  | nil => rfl
  | cons column rest ih => exact ih (grouping.add column)

theorem columns_foldl : (columns.foldl add grouping).columns = grouping.columns ++ columns := by
  induction columns generalizing grouping with
  | nil => simp
  | cons column rest ih => simp [ih, add]

theorem body_foldl : (columns.foldl add grouping).body =
    Entries.putAll grouping.body
      (columns.map fun column => (column.label, Value.document column.accumulator)) := by
  induction columns generalizing grouping with
  | nil => rfl
  | cons column rest ih => exact ih (grouping.add column)

end Columns

/-- The table leads each label to the last column that has it. -/
def Tabled (grouping : Grouping) : Prop :=
  ∀ label place, grouping.lookup.get? label = some place ↔ LastAt grouping.columns label place

namespace Tabled

theorem start (groupBy : List String) : (start groupBy).Tabled := by
  intro label place
  exact ⟨nofun, fun h => nomatch h.found⟩

theorem add {grouping : Grouping} (h : grouping.Tabled) (column : Column) :
    (grouping.add column).Tabled := by
  intro label place
  simp only [Grouping.add, SortedMap.get?_insert, lastAt_concat]
  split
  · exact ⟨fun hplace => (Option.some.inj hplace).symm, fun hplace => congrArg some hplace.symm⟩
  · exact h label place

theorem foldl {grouping : Grouping} (h : grouping.Tabled) (columns : List Column) :
    (columns.foldl Grouping.add grouping).Tabled := by
  induction columns generalizing grouping with
  | nil => exact h
  | cons column rest ih => exact ih (h.add column)

end Tabled

/-! ## Looking up -/

/-- What is found under a label is the column at the place to which it leads. -/
theorem column?_eq_some_iff {grouping : Grouping} {label : String} {column : Column} :
    grouping.column? label = some column ↔
      ∃ place, grouping.lookup.get? label = some place ∧
        grouping.columns[place]? = some column := by
  unfold column?
  split
  · rename_i place hplace
    have hcolumn := List.getElem?_eq_getElem (place_lt hplace)
    simp [hplace, hcolumn]
  · rename_i hnone
    simp [hnone]

/-! ## The grouping of a request -/

variable {grouping : Grouping}

theorem compile_eq_ok : compile aggregation = .ok grouping ↔
    aggregation.columns ≠ [] ∧
      grouping = aggregation.columns.foldl add (start aggregation.groupBy) := by
  unfold compile
  simp only [List.isEmpty_iff]
  split
  · rename_i hnone
    exact ⟨nofun, fun h => absurd hnone h.1⟩
  · rename_i hsome
    rw [Except.ok.injEq]
    exact ⟨fun h => ⟨hsome, h.symm⟩, fun h => h.2.symm⟩

theorem groupBy_of_compile (h : compile aggregation = .ok grouping) :
    grouping.groupBy = aggregation.groupBy := by
  obtain ⟨-, rfl⟩ := compile_eq_ok.1 h
  exact groupBy_foldl _ _

theorem columns_of_compile (h : compile aggregation = .ok grouping) :
    grouping.columns = aggregation.columns := by
  obtain ⟨-, rfl⟩ := compile_eq_ok.1 h
  exact columns_foldl _ _

theorem body_of_compile (h : compile aggregation = .ok grouping) :
    grouping.body = Entries.putAll [(Group.keysKey, keysValue aggregation.groupBy)]
      (aggregation.columns.map fun column =>
        (column.label, Value.document column.accumulator)) := by
  obtain ⟨-, rfl⟩ := compile_eq_ok.1 h
  exact body_foldl _ _

/-- **The table of a request** leads each label to the last column that was requested under it. -/
theorem get?_lookup (h : compile aggregation = .ok grouping) {label : String} {place : Nat} :
    grouping.lookup.get? label = some place ↔ LastAt aggregation.columns label place := by
  have htabled : grouping.Tabled := by
    obtain ⟨-, rfl⟩ := compile_eq_ok.1 h
    exact (Tabled.start _).foldl _
  rw [htabled label place, columns_of_compile h]

/-- **The column of a label is the one that was requested under it.** -/
theorem column?_eq_some (h : compile aggregation = .ok grouping) {label : String}
    {column : Column} : grouping.column? label = some column ↔
      column ∈ aggregation.columns ∧ column.label = label := by
  simp only [column?_eq_some_iff, get?_lookup h, columns_of_compile h]
  constructor
  · rintro ⟨place, ⟨⟨other, hother, hlabel⟩, -⟩, hcolumn⟩
    cases hcolumn.symm.trans hother
    exact ⟨List.mem_of_getElem? hcolumn, hlabel⟩
  · rintro ⟨hcolumn, rfl⟩
    obtain ⟨place, hplace⟩ := exists_lastAt hcolumn
    obtain ⟨other, hother, hlabel⟩ := hplace.found
    have hsame := @Slot.label_injective (.value other) (.value column) hlabel
    rw [Slot.value.inj hsame] at hother
    exact ⟨place, hplace, hother⟩

theorem mem_keys_body (h : compile aggregation = .ok grouping) {label : String} :
    label ∈ Entries.keys grouping.body ↔
      label = Group.keysKey ∨ label ∈ aggregation.columns.map Column.label := by
  have hlabels : Entries.keys (aggregation.columns.map fun column =>
      (column.label, Value.document column.accumulator)) =
        aggregation.columns.map Column.label := by
    rw [Entries.keys, List.map_map]
    rfl
  rw [body_of_compile h, Entries.mem_keys_putAll, hlabels]
  exact or_congr List.mem_singleton Iff.rfl

theorem get?_body (h : compile aggregation = .ok grouping) :
    Entries.get? Group.keysKey grouping.body = some (keysValue aggregation.groupBy) := by
  have hnone : Entries.get? Group.keysKey (aggregation.columns.map fun column =>
      (column.label, Value.document column.accumulator)).reverse = none := by
    rw [Entries.get?_eq_none_iff]
    intro hmem
    obtain ⟨entry, hentry, hkey⟩ := List.mem_map.1 hmem
    obtain ⟨column, _, rfl⟩ := List.mem_map.1 (List.mem_reverse.1 hentry)
    exact Slot.label_ne_keysKey (.value column) hkey
  rw [body_of_compile h, Entries.get?_putAll, hnone]
  rfl

end Grouping

end DocumentQuery.Aggregate
