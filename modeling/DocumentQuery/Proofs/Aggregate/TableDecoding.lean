import DocumentQuery.Proofs.Aggregate.Decoding

/-!
# Decoding with and without the table of a grouping

A grouping looks a label up in its table and takes the column at the place that it finds there; it
reads the label only where the table has none. Rows can also be decoded by reading all labels. Both
come to the same for rows of any origin, up to the first label that is rejected, unless a column was
requested for a field without a name: its label is in the table, and it cannot be read.

* `Group.readLabels`            : the labels of a row, in the order in which they are looked at;
* `Group.sameError_ofRow`       : a row is rejected for its first label that is not resolved;
* `Group.ofRows_eq_error`       : the error of rows that are decoded by their labels alone;
* `Grouping.resolve_eq_parse`   : the table says of a label what the label says itself.

Principal result: `Grouping.decode_eq_ofRows_iff`.
-/

namespace DocumentQuery.Aggregate

/-! ## The first label that is rejected -/

namespace Group

variable {resolve : String → Except QueryError Slot}

/-- The labels within the group keys of a row, if there are any. -/
def keyLabels : Option Value → List String
  | some (.document columns) => Entries.keys columns
  | _ => []

/-- The labels of a row: those within its group keys, then those of its other columns. -/
def readLabels (row : Document) : List String :=
  keyLabels (Entries.get? keysKey row) ++
    Entries.keys (row.filter fun entry => entry.1 ≠ keysKey)

/-- Columns fail as their labels do, one after the other, whatever has been read before them. -/
theorem sameError_foldlM (columns : Document) (group : Group) :
    SameError
      (columns.foldlM (fun group (label, value) =>
        (resolve label).map fun slot => group.set slot value) group)
      ((Entries.keys columns).mapM resolve) := by
  induction columns generalizing group with
  | nil => exact .ok _ _
  | cons column rest ih =>
    obtain ⟨label, value⟩ := column
    have hfirst : SameError ((resolve label).map fun slot => group.set slot value)
        (resolve label) := fun _ => map_eq_error
    have hkeys : Entries.keys ((label, value) :: rest) = label :: Entries.keys rest := rfl
    rw [List.foldlM_cons, hkeys, List.mapM_cons]
    exact hfirst.bind fun next slot => (ih next).trans (SameError.then_ok (.refl _)).symm

theorem sameError_ofKeys (keys : Option Value) :
    SameError (ofKeys resolve keys) ((keyLabels keys).mapM resolve) := by
  cases keys with
  | none => exact .ok _ _
  | some value =>
    cases value with
    | document columns => exact sameError_foldlM columns empty
    | _ => exact .ok _ _

/-- **A row fails as its labels do**, those within its group keys before all others. -/
theorem sameError_ofRow (row : Document) :
    SameError (ofRow resolve row) ((readLabels row).mapM resolve) := by
  rw [ofRow_eq, readLabels, List.mapM_append]
  exact (sameError_ofKeys _).bind fun _ _ =>
    (sameError_foldlM _ empty).bind fun _ _ => .ok _ _

theorem sameError_mapM_ofRow (rows : List Document) :
    SameError (rows.mapM (ofRow resolve)) ((rows.flatMap readLabels).mapM resolve) :=
  .mapM_flatMap fun row _ => sameError_ofRow row

/-- **Rows are rejected for their first label that is none**: no column with a field has it. -/
theorem ofRows_eq_error {rows : List Document} {error : QueryError} :
    ofRows rows = .error error ↔
      ∃ before label after, rows.flatMap readLabels = before ++ label :: after ∧
        (∀ known ∈ before, ∃ slot : Slot, slot.label = known ∧ slot.field ≠ "") ∧
        (∀ slot : Slot, slot.label = label → slot.field = "") ∧
        error = .unknownColumn label := by
  rw [ofRows, sameError_mapM_ofRow rows error, mapM_eq_error]
  simp only [Slot.parse_eq_ok_iff, Slot.parse_eq_error_iff]

end Group

/-! ## The table -/

namespace Grouping

variable {aggregation : Aggregation} {grouping : Grouping}

/-- **The table says of a label what the label says itself**, if all requested fields have names. -/
theorem resolve_eq_parse (h : compile aggregation = .ok grouping)
    (hnamed : ∀ function, "" ∉ aggregation.fields function) (label : String) :
    grouping.resolve label = Slot.parse label := by
  unfold resolve
  split
  · rename_i column hcolumn
    obtain ⟨hrequested, rfl⟩ := (column?_eq_some h).1 hcolumn
    have hfield : column.field ≠ "" := fun hempty =>
      hnamed column.function (hempty ▸ Aggregation.mem_columns.1 hrequested)
    exact (@Slot.parse_label (.value column) hfield).symm
  · rfl

/-- The label of a field without a name is found in the table, and it cannot be read. -/
theorem decode_ne_ofRows (h : compile aggregation = .ok grouping) {function : Function}
    (hempty : "" ∈ aggregation.fields function) :
    ∃ rows, grouping.decode rows ≠ Group.ofRows rows := by
  let column : Column := ⟨function, ""⟩
  let rows : List Document := [[(column.label, .null)]]
  have hlabels : rows.flatMap Group.readLabels = [column.label] := by
    have hother : column.label ≠ Group.keysKey := Slot.label_ne_keysKey (.value column)
    simp [rows, Group.readLabels, Group.keyLabels, Entries.get?, Entries.keys, hother]
  have hresolved : (rows.flatMap Group.readLabels).mapM grouping.resolve =
      .ok [.value column] := by
    rw [hlabels]
    exact mapM_cons_eq_ok.2
      ⟨_, [], resolve_value h (Aggregation.mem_columns.2 hempty), rfl, rfl⟩
  have hrejected : Group.ofRows rows = .error (.unknownColumn column.label) := by
    refine Group.ofRows_eq_error.2 ⟨[], column.label, [], hlabels, by simp, ?_, rfl⟩
    intro slot hslot
    rw [@Slot.label_injective slot (.value column) hslot]
    rfl
  refine ⟨rows, fun hsame => ?_⟩
  have hfailed := (Group.sameError_mapM_ofRow rows _).1 (hsame.trans hrejected)
  rw [hresolved] at hfailed
  cases hfailed

/-- **The table of a grouping makes no difference to what rows are decoded to**, neither to the
groups nor to the error, exactly if no column was requested for a field without a name. Rows may
have any keys. They are rejected for the first label that is none, row by row, the labels within the
group keys of a row before its others; and if there is no such label they are decoded. -/
theorem decode_eq_ofRows_iff (h : compile aggregation = .ok grouping) :
    ((∀ rows, grouping.decode rows = Group.ofRows rows) ↔
      ∀ function, "" ∉ aggregation.fields function) ∧
    ∀ rows error, Group.ofRows rows = .error error ↔
      ∃ before label after, rows.flatMap Group.readLabels = before ++ label :: after ∧
        (∀ known ∈ before, ∃ slot : Slot, slot.label = known ∧ slot.field ≠ "") ∧
        (∀ slot : Slot, slot.label = label → slot.field = "") ∧
        error = .unknownColumn label := by
  refine ⟨⟨fun hsame function hempty => ?_, fun hnamed rows => ?_⟩,
    fun rows error => Group.ofRows_eq_error⟩
  · obtain ⟨rows, hother⟩ := decode_ne_ofRows h hempty
    exact hother (hsame rows)
  · have hresolve : grouping.resolve = Slot.parse := funext (resolve_eq_parse h hnamed)
    rw [decode, hresolve, Group.ofRows]

/-- Fields that are called like labels. The first row has a column that was not requested and lacks
one that was; the third one has a label that is none, within its group keys. -/
theorem decode_eq_ofRows_foreign :
    let aggregation : Aggregation :=
      { groupBy := ["by_y"], sum := ["sum_x", "group_by_y"], count := ["x", "x"] }
    let rows : List Document :=
      [[("sum_sum_x", .int32 1), ("avg_count_x", .int32 2), ("count_x", .int32 3)],
        [("_id", .document [("sum_group_by_y", .int32 4), ("group_by_by_y", .null)])]]
    let unread : Document :=
      [("median_x", .null), ("_id", .document [("group_by_", .null)])]
    ∃ grouping, compile aggregation = .ok grouping ∧
      (grouping.decode rows).map (·.map Group.toRecord) =
        .ok [[("count_x", .int32 3), ("sum_sum_x", .int32 1), ("avg_count_x", .int32 2)],
          [("by_y", .null), ("sum_group_by_y", .int32 4)]] ∧
      grouping.decode (rows ++ [unread]) = .error (.unknownColumn "group_by_") := by
  intro aggregation rows unread
  obtain ⟨grouping, hcompile⟩ : ∃ grouping, compile aggregation = .ok grouping := ⟨_, rfl⟩
  have hnamed : ∀ function, "" ∉ aggregation.fields function := by
    intro function
    cases function <;> decide
  have hsame := (decode_eq_ofRows_iff hcompile).1.2 hnamed
  refine ⟨grouping, hcompile, ?_, ?_⟩
  · rw [hsame]
    rfl
  · rw [hsame]
    rfl

end Grouping

end DocumentQuery.Aggregate
