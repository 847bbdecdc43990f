import DocumentQuery.Proofs.Aggregate.Labels
import DocumentQuery.Proofs.FirstError

/-!
# Places in a group

A group has a place for each group key and for each function of a field. The columns of a row are
set one after the other, each in the place that its label names.

* `Group.at?`            : what a group has in a place;
* `Group.Updates`        : some places are as chosen, and all others as in another group;
* `Group.Holds`          : columns with chosen values under their labels;
* `Group.exists_foldlM`  : columns are read into their places;
* `Group.Updates.merge`  : two groups together have the places of both;
* `Group.Updates.unique` : a group is determined by its places.
-/

namespace DocumentQuery.Aggregate

/-! ## Places in a group -/

namespace Group

/-- What the group has in a place. -/
def at? (group : Group) : Slot → Option Value
  | .key field => group.keys.get? field
  | .value column => group.get? column.function column.field

theorem ext_at? {group other : Group} (h : ∀ slot, group.at? slot = other.at? slot) :
    group = other := by
  obtain ⟨keys, values⟩ := group
  obtain ⟨keys', values'⟩ := other
  have hkeys : keys = keys' := SortedMap.ext_get? fun field => h (.key field)
  have hvalues : values = values' := funext fun function =>
    SortedMap.ext_get? fun field => h (.value ⟨function, field⟩)
  rw [hkeys, hvalues]

theorem at?_empty (slot : Slot) : empty.at? slot = none := by
  cases slot <;> rfl

theorem at?_set (group : Group) (slot : Slot) (value : Value) (other : Slot) :
    (group.set slot value).at? other = if slot = other then some value else group.at? other := by
  cases slot with
  | key field =>
    cases other with
    | key field' =>
      simp only [Slot.key.injEq]
      exact SortedMap.get?_insert group.keys field value field'
    | value column =>
      rw [if_neg nofun]
      rfl
  | value column =>
    cases other with
    | key field =>
      rw [if_neg nofun]
      rfl
    | value column' =>
      obtain ⟨function, field⟩ := column
      obtain ⟨function', field'⟩ := column'
      simp only [Slot.value.injEq, Column.mk.injEq]
      by_cases hfunction : function' = function
      · subst hfunction
        simp only [set, at?, get?, if_true, true_and, SortedMap.get?_insert]
      · simp only [set, at?, get?, if_neg hfunction, Ne.symm hfunction, false_and, if_false]

theorem at?_merge (group other : Group) (slot : Slot) :
    (group.merge other).at? slot = (other.at? slot).or (group.at? slot) := by
  cases slot with
  | key field => exact SortedMap.get?_merge _ _ _
  | value column => exact SortedMap.get?_merge _ _ _

/-! ## Columns -/

/-- The columns of all places hold what is given for these. -/
def Holds (choice : Slot → Value) (columns : Document) : Prop :=
  ∀ slot value, (Slot.label slot, value) ∈ columns → value = choice slot

variable {choice : Slot → Value} {resolve : String → Except QueryError Slot} {columns : Document}

theorem holds_map (choice : Slot → Value) (slots : List Slot) :
    Holds choice (slots.map fun slot => (slot.label, choice slot)) := by
  intro slot value hmem
  obtain ⟨other, _, hentry⟩ := List.mem_map.1 hmem
  obtain ⟨hlabel, hvalue⟩ := Prod.mk.inj hentry
  rw [← hvalue, Slot.label_injective hlabel]

theorem Holds.append_keys (h : Holds choice columns) (value : Value) :
    Holds choice (columns ++ [(keysKey, value)]) := by
  intro slot found hmem
  rcases List.mem_append.1 hmem with hmem | hmem
  · exact h slot found hmem
  · exact absurd (Prod.mk.inj (List.mem_singleton.1 hmem)).1 slot.label_ne_keysKey

/-- What the labels name is as chosen, and all else is as in another group. -/
structure Updates (group : Group) (choice : Slot → Value) (labels : List String) (found : Group) :
    Prop where
  named : ∀ slot, slot.label ∈ labels → found.at? slot = some (choice slot)
  others : ∀ slot, slot.label ∉ labels → found.at? slot = group.at? slot

/-- The labels are those of what they are resolved to. -/
def Resolves (resolve : String → Except QueryError Slot) (labels : List String) : Prop :=
  ∀ label ∈ labels, ∃ slot, Slot.label slot = label ∧ resolve label = .ok slot

theorem Updates.cons {group found : Group} {slot : Slot} {labels : List String}
    (h : Updates (group.set slot (choice slot)) choice labels found) :
    Updates group choice (slot.label :: labels) found := by
  have hset : ∀ other, other.label ∉ labels →
      found.at? other = if slot = other then some (choice slot) else group.at? other := by
    intro other hother
    rw [h.others other hother, at?_set]
  constructor
  · intro other hmem
    by_cases hother : other.label ∈ labels
    · exact h.named other hother
    · have hlabel : slot = other := by
        rcases List.mem_cons.1 hmem with hlabel | hmem
        · exact (Slot.label_injective hlabel).symm
        · exact absurd hmem hother
      rw [hset other hother, if_pos hlabel, hlabel]
  · intro other hother
    obtain ⟨hlabel, hother⟩ := not_or.1 (mt List.mem_cons.2 hother)
    rw [hset other hother, if_neg fun hsame => hlabel (congrArg Slot.label hsame.symm)]

/-- **Columns are read into their places.** -/
theorem exists_foldlM (group : Group) (hholds : Holds choice columns)
    (hresolves : Resolves resolve (Entries.keys columns)) :
    ∃ found,
      columns.foldlM (fun group (label, value) =>
        (resolve label).map fun slot => group.set slot value) group = .ok found ∧
      Updates group choice (Entries.keys columns) found := by
  induction columns generalizing group with
  | nil => exact ⟨group, rfl, nofun, fun slot _ => rfl⟩
  | cons column rest ih =>
    obtain ⟨label, value⟩ := column
    obtain ⟨⟨slot, hlabel, hslot⟩, hothers⟩ := List.forall_mem_cons.1 hresolves
    have hvalue : value = choice slot := by
      subst hlabel
      exact hholds slot value List.mem_cons_self
    obtain ⟨found, hfound, hupdates⟩ := ih (group.set slot value)
      (fun other value hmem => hholds other value (List.mem_cons_of_mem _ hmem)) hothers
    have hstep : (resolve label).map (fun slot => group.set slot value) =
        .ok (group.set slot value) := map_eq_ok.2 ⟨slot, hslot, rfl⟩
    refine ⟨found, ?_, ?_⟩
    · rw [List.foldlM_cons]
      exact bind_eq_ok.2 ⟨_, hstep, hfound⟩
    · have hkeys : Entries.keys ((label, value) :: rest) = slot.label :: Entries.keys rest :=
        congrArg (· :: Entries.keys rest) hlabel.symm
      rw [hkeys]
      exact (hvalue ▸ hupdates).cons

/-! ## Rows -/

/-- The columns within the group keys of a row, if there are any. -/
def ofKeys (resolve : String → Except QueryError Slot) : Option Value → Except QueryError Group
  | some (.document columns) => ofColumns resolve columns
  | _ => .ok empty

theorem ofRow_eq (resolve : String → Except QueryError Slot) (row : Document) :
    ofRow resolve row =
      (ofKeys resolve (Entries.get? keysKey row)).bind fun keys =>
        (ofColumns resolve (row.filter fun entry => entry.1 ≠ keysKey)).bind fun others =>
          .ok (keys.merge others) := by
  unfold ofRow ofKeys
  cases Entries.get? keysKey row with
  | none => rfl
  | some value => cases value <;> rfl

/-! ## Groups with chosen places -/

namespace Updates

variable {labels others : List String} {found other : Group}

theorem congr (h : Updates empty choice labels found)
    (hlabels : ∀ label, label ∈ others ↔ label ∈ labels) : Updates empty choice others found where
  named slot hslot := h.named slot ((hlabels _).1 hslot)
  others slot hslot := h.others slot fun hmem => hslot ((hlabels _).2 hmem)

theorem merge (h : Updates empty choice labels found) (hother : Updates empty choice others other) :
    Updates empty choice (labels ++ others) (found.merge other) := by
  constructor
  · intro slot hslot
    rw [at?_merge]
    by_cases hmem : slot.label ∈ others
    · rw [hother.named slot hmem]
      rfl
    · have hfirst : slot.label ∈ labels := (List.mem_append.1 hslot).resolve_right hmem
      rw [hother.others slot hmem, at?_empty, h.named slot hfirst]
      rfl
  · intro slot hslot
    obtain ⟨hfirst, hsecond⟩ := not_or.1 (mt List.mem_append.2 hslot)
    rw [at?_merge, hother.others slot hsecond, h.others slot hfirst, at?_empty]
    rfl

theorem unique (h : Updates empty choice labels found)
    (hother : Updates empty choice labels other) : other = found := by
  refine ext_at? fun slot => ?_
  by_cases hmem : slot.label ∈ labels
  · rw [hother.named slot hmem, h.named slot hmem]
  · rw [hother.others slot hmem, h.others slot hmem]

end Updates

/-- The group with chosen values in some places. -/
def ofPlaces (choice : Slot → Value) (places : List Slot) : Group :=
  places.foldl (fun group slot => group.set slot (choice slot)) empty

theorem updates_foldl (choice : Slot → Value) (places : List Slot) (group : Group) :
    Updates group choice (places.map Slot.label)
      (places.foldl (fun group slot => group.set slot (choice slot)) group) := by
  induction places generalizing group with
  | nil => exact ⟨nofun, fun slot _ => rfl⟩
  | cons slot rest ih => exact (ih (group.set slot (choice slot))).cons

theorem updates_ofPlaces (choice : Slot → Value) (places : List Slot) :
    Updates empty choice (places.map Slot.label) (ofPlaces choice places) :=
  updates_foldl choice places empty

theorem at?_ofPlaces (choice : Slot → Value) (places : List Slot) (slot : Slot) :
    (ofPlaces choice places).at? slot = if slot ∈ places then some (choice slot) else none := by
  have hupdates := updates_ofPlaces choice places
  split
  · rename_i hslot
    exact hupdates.named slot (List.mem_map_of_mem hslot)
  · rename_i hslot
    refine (hupdates.others slot fun hmem => hslot ?_).trans (at?_empty slot)
    obtain ⟨place, hplace, hlabel⟩ := List.mem_map.1 hmem
    rw [← Slot.label_injective hlabel]
    exact hplace

end Group

end DocumentQuery.Aggregate
