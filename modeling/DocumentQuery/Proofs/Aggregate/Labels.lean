import DocumentQuery.Aggregate.Group
import Mathlib.Data.List.Basic

/-!
# Labels of columns

A label is what a column holds in one text. No lead with its underscore begins another one, so that
a label says what it is the label of, whatever its field is: fields may hold underscores, and they
may look like labels themselves.

* `joined_injective`     : a label has one lead and one field;
* `Slot.label_injective` : two columns with one label hold the same;
* `Slot.label_ne_keysKey` : no column is called like the group keys.

* `Slot.parse_label`, `Slot.parse_eq_ok_iff`, `Slot.parse_eq_error_iff` : what a text is read as,
  and when it is rejected.

Principal result: `Slot.parse_exact`.
-/

namespace DocumentQuery.Aggregate

theorem Function.mem_all (function : Function) : function ∈ Function.all := by
  cases function <;> decide

/-! ## Leads -/

/-- What labels begin with. -/
def leads : List String := groupLead :: Function.all.map Function.name

theorem name_mem_leads (function : Function) : function.name ∈ leads := by
  cases function <;> decide

theorem groupLead_mem_leads : groupLead ∈ leads := List.mem_cons_self

theorem name_injective {first second : Function} (h : first.name = second.name) :
    first = second := by
  revert h
  cases first <;> cases second <;> decide

theorem groupLead_ne_name (function : Function) : groupLead ≠ function.name := by
  cases function <;> decide

theorem toList_joined (lead field : String) :
    (joined lead field).toList = (joined lead "").toList ++ field.toList := by
  simp [joined]

theorem eq_of_lead_begins : ∀ first ∈ leads, ∀ second ∈ leads,
    (joined first "").toList <+: (joined second "").toList → first = second := by
  decide

/-- **A label has one lead and one field.** -/
theorem joined_injective {first second field other : String} (hfirst : first ∈ leads)
    (hsecond : second ∈ leads) (h : joined first field = joined second other) :
    first = second ∧ field = other := by
  have htext := congrArg String.toList h
  rw [toList_joined, toList_joined second] at htext
  have hleads : first = second := by
    rcases List.prefix_or_prefix_of_prefix (List.prefix_append _ field.toList)
      (htext ▸ List.prefix_append _ other.toList) with hbegins | hbegins
    · exact eq_of_lead_begins first hfirst second hsecond hbegins
    · exact (eq_of_lead_begins second hsecond first hfirst hbegins).symm
  subst hleads
  exact ⟨rfl, String.toList_inj.1 (List.append_cancel_left htext)⟩

namespace Slot

def lead : Slot → String
  | key _ => groupLead
  | value column => column.function.name

def field : Slot → String
  | key field => field
  | value column => column.field

theorem label_eq (slot : Slot) : slot.label = joined slot.lead slot.field := by
  cases slot <;> rfl

theorem lead_mem (slot : Slot) : slot.lead ∈ leads := by
  cases slot with
  | key field => exact groupLead_mem_leads
  | value column => exact name_mem_leads column.function

theorem label_injective {slot other : Slot} (h : slot.label = other.label) : slot = other := by
  rw [label_eq, label_eq other] at h
  obtain ⟨hlead, hfield⟩ := joined_injective slot.lead_mem other.lead_mem h
  cases slot with
  | key field =>
    cases other with
    | key field' => exact congrArg key hfield
    | value column => exact absurd hlead (groupLead_ne_name column.function)
  | value column =>
    cases other with
    | key field => exact absurd hlead.symm (groupLead_ne_name column.function)
    | value column' =>
      obtain ⟨function, field⟩ := column
      obtain ⟨function', field'⟩ := column'
      have hfunction : function = function' := name_injective hlead
      have hfield' : field = field' := hfield
      rw [hfunction, hfield']

theorem not_lead_begins_keysKey :
    ∀ lead ∈ leads, ¬(joined lead "").toList <+: Group.keysKey.toList := by
  decide

theorem label_ne_keysKey (slot : Slot) : slot.label ≠ Group.keysKey := by
  intro h
  refine not_lead_begins_keysKey slot.lead slot.lead_mem ?_
  rw [← h, label_eq, toList_joined slot.lead slot.field]
  exact List.prefix_append _ _

/-! ## Reading labels -/

theorem fieldAfter?_joined {first second : String} (hfirst : first ∈ leads)
    (hsecond : second ∈ leads) (field : String) :
    fieldAfter? first (joined second field) =
      if first = second ∧ field ≠ "" then some field else none := by
  cases hrest : (joined first "").toList.isPrefixOf? (joined second field).toList with
  | none =>
    have hother : first ≠ second := by
      rintro rfl
      rw [List.isPrefixOf?_eq_some_iff_append_eq.2 (toList_joined first field).symm] at hrest
      cases hrest
    rw [fieldAfter?, hrest, if_neg fun h => hother h.1]
    rfl
  | some rest =>
    have hsame : joined second field = joined first (String.ofList rest) := by
      rw [← String.toList_inj, toList_joined first (String.ofList rest), String.toList_ofList]
      exact (List.isPrefixOf?_eq_some_iff_append_eq.1 hrest).symm
    obtain ⟨rfl, rfl⟩ := joined_injective hsecond hfirst hsame
    rw [fieldAfter?, hrest]
    cases rest with
    | nil =>
      rw [if_neg fun h => h.2 rfl]
      rfl
    | cons c rest =>
      have hfield : String.ofList (c :: rest) ≠ "" := fun h =>
        List.cons_ne_nil c rest (String.ofList_injective h)
      rw [if_pos ⟨rfl, hfield⟩]
      rfl

/-- **A label is read as that of its column**, unless its field is empty. -/
theorem parse_label {slot : Slot} (h : slot.field ≠ "") : parse slot.label = .ok slot := by
  have hread : ∀ lead ∈ leads, fieldAfter? lead slot.label =
      if lead = slot.lead ∧ slot.field ≠ "" then some slot.field else none := by
    intro lead hlead
    rw [label_eq, fieldAfter?_joined hlead slot.lead_mem]
  have hparse : parse? slot.label = some slot := by
    cases slot with
    | key field =>
      have hnone : ∀ function : Function, fieldAfter? function.name (key field).label = none := by
        intro function
        rw [hread _ (name_mem_leads function), if_neg fun h => groupLead_ne_name function h.1.symm]
      have hkey : fieldAfter? groupLead (key field).label = some field := by
        rw [hread _ groupLead_mem_leads, if_pos ⟨rfl, h⟩]
        rfl
      simp only [parse?, hnone, hkey]
      rfl
    | value column =>
      have hown : ∀ function : Function, fieldAfter? function.name (value column).label =
          if function = column.function then some column.field else none := by
        intro function
        rw [hread _ (name_mem_leads function)]
        by_cases hfunction : function = column.function
        · rw [if_pos hfunction, if_pos ⟨congrArg Function.name hfunction, h⟩]
          rfl
        · rw [if_neg hfunction, if_neg fun h => hfunction (name_injective h.1)]
      simp only [parse?, hown]
      obtain ⟨function, field⟩ := column
      cases function <;> rfl
  rw [parse, hparse]

/-- What is read after a lead is the field with which the lead makes the label. -/
theorem fieldAfter?_eq_some {lead label field : String} :
    fieldAfter? lead label = some field ↔ joined lead field = label ∧ field ≠ "" := by
  unfold fieldAfter?
  cases hrest : (joined lead "").toList.isPrefixOf? label.toList with
  | none =>
    refine ⟨nofun, ?_⟩
    rintro ⟨rfl, -⟩
    rw [List.isPrefixOf?_eq_some_iff_append_eq.2 (toList_joined lead field).symm] at hrest
    cases hrest
  | some rest =>
    have hlabel : joined lead field = label ↔ field.toList = rest := by
      rw [← String.toList_inj, toList_joined,
        ← List.isPrefixOf?_eq_some_iff_append_eq.1 hrest, List.append_cancel_left_eq]
    rw [hlabel]
    cases rest with
    | nil => simp
    | cons c rest =>
      have hread : String.ofList (c :: rest) = field ↔ field.toList = c :: rest := by
        rw [← String.toList_inj, String.toList_ofList, eq_comm]
      constructor
      · intro h
        have hfield := hread.1 (Option.some.inj h)
        exact ⟨hfield, fun hempty => by simp [hempty] at hfield⟩
      · rintro ⟨hfield, -⟩
        exact congrArg some (hread.2 hfield)

/-- **Whatever is read off a text has that text for its label**, and its field is not empty. -/
theorem parse_eq_ok_iff {label : String} {slot : Slot} :
    parse label = .ok slot ↔ slot.label = label ∧ slot.field ≠ "" := by
  constructor
  · intro h
    have hread : parse? label = some slot := by
      unfold parse at h
      split at h
      · rename_i found hfound
        cases h
        exact hfound
      · cases h
    rcases Option.or_eq_some_iff.1 hread with hvalue | ⟨-, hkey⟩
    · obtain ⟨function, -, hfunction⟩ := List.exists_of_findSome?_eq_some hvalue
      obtain ⟨field, hfield, rfl⟩ := Option.map_eq_some_iff.1 hfunction
      exact fieldAfter?_eq_some.1 hfield
    · obtain ⟨field, hfield, rfl⟩ := Option.map_eq_some_iff.1 hkey
      exact fieldAfter?_eq_some.1 hfield
  · rintro ⟨rfl, hfield⟩
    exact parse_label hfield

theorem parse_eq_error_iff {label : String} {error : QueryError} :
    parse label = .error error ↔
      (∀ slot : Slot, slot.label = label → slot.field = "") ∧ error = .unknownColumn label := by
  have hfails : (∀ slot : Slot, slot.label = label → slot.field = "") ↔
      ∀ slot, parse label ≠ .ok slot := by
    simp only [ne_eq, parse_eq_ok_iff, not_and, not_not]
  rw [hfails]
  unfold parse
  split <;> simp [eq_comm]

/-- **The grammar of labels is exact.** A text is read as a function of a field, or as a group key,
exactly if the field has a name and the text is the label made for it. No text is the label of two
columns, so that none can be read in two ways, whatever its field looks like. Every other text is
rejected, and the error names it. -/
theorem parse_exact (label : String) :
    (∀ function field, parse label = .ok (.value ⟨function, field⟩) ↔
      field ≠ "" ∧ label = (Column.mk function field).label) ∧
    (∀ field, parse label = .ok (.key field) ↔ field ≠ "" ∧ label = groupLabel field) ∧
    Function.Injective Slot.label ∧
    ∀ error, parse label = .error error ↔
      (¬∃ slot : Slot, slot.field ≠ "" ∧ label = slot.label) ∧ error = .unknownColumn label := by
  have hread : ∀ slot, parse label = .ok slot ↔ slot.field ≠ "" ∧ label = slot.label := by
    intro slot
    rw [parse_eq_ok_iff, and_comm, eq_comm]
  have hrejected : (∀ slot : Slot, slot.label = label → slot.field = "") ↔
      ¬∃ slot : Slot, slot.field ≠ "" ∧ label = slot.label := by
    rw [not_exists]
    refine forall_congr' fun slot => ?_
    rw [not_and', not_not, eq_comm]
  refine ⟨fun function field => hread (.value ⟨function, field⟩), fun field => hread (.key field),
    fun _ _ => label_injective, fun error => ?_⟩
  rw [parse_eq_error_iff, hrejected]

/-- A field may be called like a label, and it may begin with an underscore. -/
example : parse "sum_group_by_x" = .ok (.value ⟨.sum, "group_by_x"⟩) ∧
    parse "group_by__sum_" = .ok (.key "_sum_") ∧
    parse "group_sum_x" = .error (.unknownColumn "group_sum_x") :=
  ⟨rfl, rfl, rfl⟩

end Slot

end DocumentQuery.Aggregate
