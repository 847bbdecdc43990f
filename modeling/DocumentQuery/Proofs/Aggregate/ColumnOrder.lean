import DocumentQuery.Proofs.Aggregate.TableDecoding
import DocumentQuery.Proofs.Query.Selection

/-!
# The order of columns

A store returns the columns of a row in an order of its own, and so those within its group keys.
Groups do not depend on it. No two labels name one place, so that a place has its value from one
column, or from two of which one is within the group keys: then the row's own column counts,
wherever the group keys stand.

* `Group.Reordered`        : a row with its columns in another order;
* `Group.OwnFirst`         : a group with the values of a row, its own columns before the others;
* `Decoder`                : with the table of a grouping, or by the labels alone;
* `Group.at?_foldlM`       : what is read of columns into a place;
* `Group.sameResult_ofRow` : reordered rows have the same group.

Principal result: `Decoder.decode_reordered`.
-/

namespace DocumentQuery.Aggregate

namespace Group

/-! ## Rows in another order -/

/-- The same column, or the same group keys with their columns in another order. -/
inductive SameColumn : String × Value → String × Value → Prop where
  | refl (column : String × Value) : SameColumn column column
  | keys {columns others : Document} (h : columns.Perm others) :
      SameColumn (keysKey, .document columns) (keysKey, .document others)

/-- The same columns in another order, also within the group keys. -/
def Reordered (row other : Document) : Prop :=
  ∃ middle, row.Perm middle ∧ List.Forall₂ SameColumn middle other

/-- The columns within the group keys of a row; none where these are no document. -/
def keyColumns (row : Document) : Document :=
  match Entries.get? keysKey row with
  | some (.document columns) => columns
  | _ => []

/-- The columns of a row beside its group keys. -/
def ownColumns (row : Document) : Document := row.filter fun entry => entry.1 ≠ keysKey

/-- The group has the values of the row and no others. Where a place has a column both in the row
and within its group keys, it is that of the row. -/
def OwnFirst (row : Document) (group : Group) : Prop :=
  ∀ slot, group.at? slot =
    (Entries.get? slot.label row).or (Entries.get? slot.label (keyColumns row))

theorem ownColumns_of_same {middle other : Document} (h : List.Forall₂ SameColumn middle other) :
    ownColumns middle = ownColumns other := by
  induction h with
  | nil => rfl
  | cons hcolumn _ ih =>
    unfold ownColumns at ih ⊢
    cases hcolumn with
    | refl => rw [List.filter_cons, List.filter_cons, ih]
    | keys => simpa using ih

theorem keyColumns_of_same {middle other : Document} (h : List.Forall₂ SameColumn middle other) :
    (keyColumns middle).Perm (keyColumns other) := by
  induction h with
  | nil => exact .refl _
  | cons hcolumn _ ih =>
    unfold keyColumns at ih ⊢
    cases hcolumn with
    | refl =>
      rw [Entries.get?, Entries.get?]
      split_ifs
      · exact .refl _
      · exact ih
    | keys hcolumns => simpa [Entries.get?] using hcolumns

namespace Reordered

variable {row other : Document}

theorem ownColumns_perm (h : Reordered row other) : (ownColumns row).Perm (ownColumns other) := by
  obtain ⟨middle, hperm, hsame⟩ := h
  rw [← ownColumns_of_same hsame]
  exact hperm.filter _

theorem keyColumns_perm (h : Reordered row other) (hkeys : (Entries.keys row).Nodup) :
    (keyColumns row).Perm (keyColumns other) := by
  obtain ⟨middle, hperm, hsame⟩ := h
  have hmiddle : keyColumns row = keyColumns middle := by
    rw [keyColumns, Entries.get?_perm hkeys hperm]
    rfl
  rw [hmiddle]
  exact keyColumns_of_same hsame

end Reordered

theorem nodup_keyColumns {row : Document} (h : Value.Distinct (.document row)) :
    (Entries.keys (keyColumns row)).Nodup := by
  unfold keyColumns
  split
  · rename_i columns hcolumns
    have hmem := Entries.mem_of_get? hcolumns
    exact (Value.distinct_document.1 ((Value.distinct_document.1 h).2 _ hmem)).1
  · exact List.nodup_nil

theorem nodup_ownColumns {row : Document} (h : (Entries.keys row).Nodup) :
    (Entries.keys (ownColumns row)).Nodup :=
  h.sublist (List.filter_sublist.map Prod.fst)

/-! ## Columns in any order -/

/-- What a label is resolved to has that label. -/
def Labelled (resolve : String → Except QueryError Slot) : Prop :=
  ∀ label slot, resolve label = .ok slot → Slot.label slot = label

variable {resolve : String → Except QueryError Slot}

/-- **A place takes the last value under its label**, or else it keeps its own. -/
theorem at?_foldlM (hlabelled : Labelled resolve) {columns : Document} {group found : Group}
    (h : columns.foldlM (fun group (label, value) =>
      (resolve label).map fun slot => group.set slot value) group = .ok found) (slot : Slot) :
    found.at? slot = (Entries.get? slot.label columns.reverse).or (group.at? slot) := by
  induction columns generalizing group with
  | nil =>
    cases h
    rfl
  | cons column rest ih =>
    obtain ⟨label, value⟩ := column
    rw [List.foldlM_cons] at h
    obtain ⟨next, hnext, hrest⟩ := bind_eq_ok.1 h
    obtain ⟨named, hnamed, rfl⟩ := map_eq_ok.1 hnext
    have hlabel : named = slot ↔ label = slot.label := by
      rw [← hlabelled label named hnamed]
      exact ⟨congrArg Slot.label, Slot.label_injective⟩
    rw [ih hrest, at?_set, List.reverse_cons, Entries.get?_append, Option.or_assoc]
    simp only [hlabel, Entries.get?]
    by_cases hsame : label = slot.label <;> simp [hsame]

theorem at?_ofColumns (hlabelled : Labelled resolve) {columns : Document} {group : Group}
    (hkeys : (Entries.keys columns).Nodup) (h : ofColumns resolve columns = .ok group)
    (slot : Slot) : group.at? slot = Entries.get? slot.label columns := by
  rw [at?_foldlM hlabelled h, at?_empty, Option.or_none, Entries.get?_reverse hkeys]

/-- Columns are read if all their labels are. -/
theorem exists_ofColumns {columns : Document} :
    (∃ group, ofColumns resolve columns = .ok group) ↔
      ∀ label ∈ Entries.keys columns, ∃ slot, resolve label = .ok slot := by
  rw [← exists_mapM_eq_ok]
  exact (sameError_foldlM columns empty).exists_ok

theorem ofColumns_perm (hlabelled : Labelled resolve) {columns others : Document}
    (hkeys : (Entries.keys columns).Nodup) (hperm : columns.Perm others) {group : Group}
    (h : ofColumns resolve columns = .ok group) : ofColumns resolve others = .ok group := by
  have hothers := Entries.nodup_keys_perm hkeys hperm
  obtain ⟨found, hfound⟩ : ∃ found, ofColumns resolve others = .ok found := by
    rw [exists_ofColumns]
    intro label hlabel
    exact exists_ofColumns.1 ⟨group, h⟩ label ((hperm.map Prod.fst).mem_iff.2 hlabel)
  have hequal : found = group := by
    apply ext_at?
    intro slot
    rw [at?_ofColumns hlabelled hothers hfound, at?_ofColumns hlabelled hkeys h,
      Entries.get?_perm hkeys hperm]
  rw [hfound, hequal]

/-- **Columns give the same group in any order.** -/
theorem sameResult_ofColumns (hlabelled : Labelled resolve) {columns others : Document}
    (hkeys : (Entries.keys columns).Nodup) (hperm : columns.Perm others) :
    SameResult (ofColumns resolve columns) (ofColumns resolve others) := by
  have hothers := Entries.nodup_keys_perm hkeys hperm
  intro group
  exact ⟨ofColumns_perm hlabelled hkeys hperm, ofColumns_perm hlabelled hothers hperm.symm⟩

/-! ## Rows -/

theorem ofRow_eq_ofColumns (row : Document) : ofRow resolve row =
    (ofColumns resolve (keyColumns row)).bind fun keys =>
      (ofColumns resolve (ownColumns row)).bind fun others => .ok (keys.merge others) := by
  have hkeys : ofKeys resolve (Entries.get? keysKey row) = ofColumns resolve (keyColumns row) := by
    unfold keyColumns
    cases Entries.get? keysKey row with
    | none => rfl
    | some value => cases value <;> rfl
  rw [ofRow_eq, hkeys]
  rfl

/-- **Rows in another order have the same group.** -/
theorem sameResult_ofRow (hlabelled : Labelled resolve) {row other : Document}
    (hdistinct : Value.Distinct (.document row)) (h : Reordered row other) :
    SameResult (ofRow resolve row) (ofRow resolve other) := by
  have hkeys := (Value.distinct_document.1 hdistinct).1
  rw [ofRow_eq_ofColumns, ofRow_eq_ofColumns]
  apply SameResult.bind
  · exact sameResult_ofColumns hlabelled (nodup_keyColumns hdistinct) (h.keyColumns_perm hkeys)
  · intro keys
    apply SameResult.bind
    · exact sameResult_ofColumns hlabelled (nodup_ownColumns hkeys) h.ownColumns_perm
    · exact fun others => .refl _

/-- **A row's own columns count before those within its group keys.** -/
theorem ownFirst_ofRow (hlabelled : Labelled resolve) {row : Document} {group : Group}
    (hdistinct : Value.Distinct (.document row)) (h : ofRow resolve row = .ok group) :
    OwnFirst row group := by
  have hkeys := (Value.distinct_document.1 hdistinct).1
  rw [ofRow_eq_ofColumns] at h
  obtain ⟨keys, hkeyed, h⟩ := bind_eq_ok.1 h
  obtain ⟨others, hothers, h⟩ := bind_eq_ok.1 h
  cases h
  intro slot
  have hown : Entries.get? slot.label (ownColumns row) = Entries.get? slot.label row :=
    Entries.get?_filter (fun _ => decide_eq_true slot.label_ne_keysKey) row
  rw [at?_merge, at?_ofColumns hlabelled (nodup_ownColumns hkeys) hothers,
    at?_ofColumns hlabelled (nodup_keyColumns hdistinct) hkeyed, hown]

end Group

/-! ## Decoders -/

open Aggregate.Group (Labelled OwnFirst Reordered)

/-- The ways to decode rows: with the table of a grouping, or by their labels alone. -/
inductive Decoder : (List Document → Except QueryError (List Group)) → Prop where
  | table {aggregation : Aggregation} {grouping : Grouping}
      (h : Grouping.compile aggregation = .ok grouping) : Decoder grouping.decode
  | labels : Decoder Group.ofRows

namespace Decoder

theorem labelled_parse : Labelled Slot.parse := fun _ _ h => (Slot.parse_eq_ok_iff.1 h).1

theorem labelled_resolve {aggregation : Aggregation} {grouping : Grouping}
    (h : Grouping.compile aggregation = .ok grouping) : Labelled grouping.resolve := by
  intro label slot hslot
  unfold Grouping.resolve at hslot
  split at hslot
  · rename_i column hcolumn
    cases hslot
    exact ((Grouping.column?_eq_some h).1 hcolumn).2
  · exact labelled_parse label slot hslot

theorem error_of_parse {label : String} {error : QueryError}
    (h : Slot.parse label = .error error) : error = .unknownColumn label :=
  (Slot.parse_eq_error_iff.1 h).2

theorem error_of_resolve {grouping : Grouping} {label : String} {error : QueryError}
    (h : grouping.resolve label = .error error) : error = .unknownColumn label := by
  unfold Grouping.resolve at h
  split at h
  · cases h
  · exact error_of_parse h

variable {decode : List Document → Except QueryError (List Group)}

/-- Rows are decoded one by one, by resolving their labels. -/
theorem exists_resolve (h : Decoder decode) :
    ∃ resolve, Labelled resolve ∧
      (∀ label error, resolve label = .error error → error = .unknownColumn label) ∧
      ∀ rows, decode rows = rows.mapM (Group.ofRow resolve) := by
  cases h with
  | table h =>
    exact ⟨_, labelled_resolve h, fun _ _ => error_of_resolve, fun _ => rfl⟩
  | labels => exact ⟨_, labelled_parse, fun _ _ => error_of_parse, fun _ => rfl⟩

/-- Rows are rejected for one of their labels. -/
theorem exists_label (h : Decoder decode) {rows : List Document} {error : QueryError}
    (herror : decode rows = .error error) : ∃ label, error = .unknownColumn label := by
  obtain ⟨resolve, -, hunknown, hdecode⟩ := h.exists_resolve
  rw [hdecode, Group.sameError_mapM_ofRow rows error] at herror
  obtain ⟨label, -, hlabel⟩ := exists_of_mapM_error herror
  exact ⟨label, hunknown label error hlabel⟩

/-- **The order of columns makes no difference.** Rows with the same columns in any order, also
within their group keys, are decoded to the same groups, or both times a label is rejected. In each
group, and so in its flat document, a column of the row itself counts before one of the same label
within the group keys. -/
theorem decode_reordered (h : Decoder decode) {rows others : List Document}
    (hdistinct : ∀ row ∈ rows, Value.Distinct (.document row))
    (hrows : List.Forall₂ Reordered rows others) :
    (∃ groups, decode rows = .ok groups ∧ decode others = .ok groups ∧
      List.Forall₂ OwnFirst rows groups) ∨
    ∃ label other, decode rows = .error (.unknownColumn label) ∧
      decode others = .error (.unknownColumn other) := by
  obtain ⟨resolve, hlabelled, -, hdecode⟩ := h.exists_resolve
  have hsame : SameResult (decode rows) (decode others) := by
    rw [hdecode, hdecode]
    exact .mapM hrows fun row hrow other hother =>
      Group.sameResult_ofRow hlabelled (hdistinct row hrow) hother
  cases hresult : decode rows with
  | ok groups =>
    refine .inl ⟨groups, rfl, (hsame groups).1 hresult, ?_⟩
    rw [hdecode, mapM_eq_ok] at hresult
    refine ((List.forall₂_and_left rows groups).2 ⟨hdistinct, hresult⟩).imp ?_
    rintro row group ⟨hrow, hgroup⟩
    exact Group.ownFirst_ofRow hlabelled hrow hgroup
  | error error =>
    obtain ⟨label, rfl⟩ := h.exists_label hresult
    cases hothers : decode others with
    | ok groups =>
      have hback := (hsame groups).2 hothers
      rw [hresult] at hback
      cases hback
    | error error =>
      obtain ⟨other, rfl⟩ := h.exists_label hothers
      exact .inr ⟨label, other, rfl, rfl⟩

/-- A field without a name, and a label that stands both in the row and within the group keys,
which come last in the one row and first in the other. -/
theorem decode_reordered_own :
    let aggregation : Aggregation := { groupBy := ["y"], sum := ["x", ""] }
    let keys : Document := [("sum_x", .int32 1), ("group_by_y", .string "a")]
    let row : Document := [("sum_x", .int32 2), ("sum_", .int32 3), ("_id", .document keys)]
    let other : Document :=
      [("_id", .document keys.reverse), ("sum_", .int32 3), ("sum_x", .int32 2)]
    ∃ grouping groups, Grouping.compile aggregation = .ok grouping ∧
      Value.Distinct (.document row) ∧ Reordered row other ∧
      grouping.decode [row] = .ok groups ∧ grouping.decode [other] = .ok groups ∧
      groups.map Group.toRecord =
        [[("y", .string "a"), ("sum_", .int32 3), ("sum_x", .int32 2)]] := by
  intro aggregation keys row other
  obtain ⟨grouping, hcompile⟩ : ∃ grouping, Grouping.compile aggregation = .ok grouping :=
    ⟨_, rfl⟩
  have hrecords : (grouping.decode [row]).map (·.map Group.toRecord) =
      .ok [[("y", .string "a"), ("sum_", .int32 3), ("sum_x", .int32 2)]] := by
    obtain ⟨-, rfl⟩ := Grouping.compile_eq_ok.1 hcompile
    dsimp only [aggregation, row, keys]
    rfl
  have hkeys : Value.Distinct (.document keys) :=
    .document (by decide) (List.forall_mem_cons.2 ⟨.other rfl,
      List.forall_mem_singleton.2 (.other rfl)⟩)
  have hdistinct : Value.Distinct (.document row) :=
    .document (by decide) (List.forall_mem_cons.2 ⟨.other rfl,
      List.forall_mem_cons.2 ⟨.other rfl, List.forall_mem_singleton.2 hkeys⟩⟩)
  have hreordered : Reordered row other :=
    ⟨[("_id", .document keys), ("sum_", .int32 3), ("sum_x", .int32 2)],
      (List.reverse_perm row).symm, .cons (.keys (List.reverse_perm keys).symm)
        (.cons (.refl _) (.cons (.refl _) .nil))⟩
  obtain ⟨groups, hrow, hother, -⟩ | ⟨label, other, hrow, -⟩ :=
    decode_reordered (.table hcompile) (List.forall_mem_singleton.2 hdistinct)
      (.cons hreordered .nil)
  · rw [hrow] at hrecords
    exact ⟨grouping, groups, hcompile, hdistinct, hreordered, hrow, hother,
      Except.ok.inj hrecords⟩
  · rw [hrow] at hrecords
    cases hrecords

end Decoder

end DocumentQuery.Aggregate
