import DocumentQuery.Aggregate.Pipeline
import DocumentQuery.Proofs.Aggregate.Decoding
import DocumentQuery.Proofs.Cursor.RowPath

/-!
# The order of groups

Groups are sorted by their keys. A group key has a label, and the sort document has a path to it:
the key of the document of group keys, a dot and the label. A label with a dot in it is one key of
that document, but two or more on the path. So the path leads to the group key of a field at the top
of a document, and it misses that of a nested field.

* `keyPath`                  : the path to a group key;
* `Grouped`                  : a row with group keys;
* `Reaches`                  : a path that leads to a group key in all such rows;
* `Grouped.lookup?_eq_none`  : a path that leads nowhere;
* `reaches_iff`              : which group keys are reached;
* `Grouping.sort?_eq`        : the sort document of a grouping.

Principal result: `Pipeline.sort_reaches_iff`.
-/

namespace DocumentQuery.Aggregate

open Cursor (Row.lookup? Row.lookup?_plain Row.lookup?_dotted)

/-! ## Paths to group keys -/

/-- The path to the group key of a label. -/
def keyPath (label : String) : String := Group.keysKey ++ "." ++ label

theorem keyPath_injective : Function.Injective keyPath := by
  intro label other h
  have htext := congrArg String.toList h
  simp only [keyPath, String.toList_append] at htext
  exact String.toList_inj.1 (List.append_cancel_left htext)

theorem groupLabel_injective : Function.Injective groupLabel := by
  intro field other h
  exact (joined_injective groupLead_mem_leads groupLead_mem_leads h).2

theorem dot_mem_groupLabel {field : String} :
    '.' ∈ (groupLabel field).toList ↔ '.' ∈ field.toList := by
  have hlead : '.' ∉ (joined groupLead "").toList := by decide
  rw [groupLabel, toList_joined, List.mem_append, or_iff_right hlead]

/-- A row with a document of group keys that has these labels, in some order. -/
structure Grouped (labels : List String) (row keys : Document) : Prop where
  held : Entries.get? Group.keysKey row = some (.document keys)
  labels : (Entries.keys keys).Perm labels

/-- In every row with these group keys, the path leads to the group key of the label. -/
def Reaches (labels : List String) (path label : String) : Prop :=
  ∀ row keys, Grouped labels row keys →
    ∃ value, Entries.get? label keys = some value ∧ Row.lookup? row path = some value

namespace Grouped

variable {labels : List String} {row keys : Document} {label : String}

/-- What is looked up is looked up in the document of group keys. -/
theorem lookup?_keyPath (h : Grouped labels row keys) (label : String) :
    Row.lookup? row (keyPath label) = Row.lookup? keys label := by
  have hplain : '.' ∉ Group.keysKey.toList := by decide
  rw [keyPath, Row.lookup?_dotted hplain, h.held]
  rfl

/-- A label with a dot leads nowhere, unless some group key is a document itself. -/
theorem lookup?_eq_none (h : Grouped labels row keys) (hdot : '.' ∈ label.toList)
    (hflat : ∀ entry ∈ keys, entry.2.document? = none) :
    Row.lookup? row (keyPath label) = none := by
  obtain ⟨first, rest, htext, hfirst⟩ := List.eq_append_cons_of_mem hdot
  have hlabel : label = String.ofList first ++ "." ++ String.ofList rest := by
    rw [← String.toList_inj, htext]
    simp
  have hplain : '.' ∉ (String.ofList first).toList := by
    rwa [String.toList_ofList]
  rw [h.lookup?_keyPath, hlabel, Row.lookup?_dotted hplain]
  cases hfound : Entries.get? (String.ofList first) keys with
  | none => rfl
  | some value =>
    rw [Option.bind_some, hflat _ (Entries.mem_of_get? hfound)]
    rfl

end Grouped

/-- **A group key is reached exactly if there is no dot in its label.** -/
theorem reaches_iff {labels : List String} {label : String} (hlabel : label ∈ labels) :
    Reaches labels (keyPath label) label ↔ '.' ∉ label.toList := by
  constructor
  · -- In a row of nulls no path leads on from a group key.
    intro hreaches hdot
    let keys : Document := labels.map fun label => (label, .null)
    have hgrouped : Grouped labels [(Group.keysKey, .document keys)] keys := by
      refine ⟨rfl, ?_⟩
      have hkeys : Entries.keys keys = labels := by
        rw [Entries.keys, List.map_map]
        exact List.map_id labels
      rw [hkeys]
    have hflat : ∀ entry ∈ keys, entry.2.document? = none := by
      intro entry hentry
      obtain ⟨_, _, rfl⟩ := List.mem_map.1 hentry
      rfl
    obtain ⟨value, -, hfound⟩ := hreaches _ _ hgrouped
    rw [hgrouped.lookup?_eq_none hdot hflat] at hfound
    cases hfound
  · intro hplain row keys hgrouped
    have hkey : label ∈ Entries.keys keys := hgrouped.labels.mem_iff.2 hlabel
    have hsome : Entries.get? label keys ≠ none :=
      fun hnone => Entries.get?_eq_none_iff.1 hnone hkey
    obtain ⟨value, hvalue⟩ := Option.ne_none_iff_exists'.1 hsome
    refine ⟨value, hvalue, ?_⟩
    rw [hgrouped.lookup?_keyPath, Row.lookup?_plain hplain, hvalue]

/-! ## Sort documents -/

namespace Grouping

variable {aggregation : Aggregation} {grouping : Grouping}

/-- Each field that rows are grouped by is there once, ascending. -/
theorem sort?_eq (h : compile aggregation = .ok grouping) (hkeyed : aggregation.groupBy ≠ []) :
    grouping.sort? = some (aggregation.groupBy.eraseDups.map fun field =>
      (keyPath (groupLabel field), .int32 1)) := by
  have hsort := Entries.ofPairs_map_const (keyPath_injective.comp groupLabel_injective)
    (Value.int32 1) aggregation.groupBy
  rw [sort?, groupBy_of_compile h, if_neg (mt List.isEmpty_iff.1 hkeyed)]
  exact congrArg some hsort

/-- The document of group keys has each field once, in the same order. -/
theorem exists_keys_body (h : compile aggregation = .ok grouping)
    (hkeyed : aggregation.groupBy ≠ []) :
    ∃ keys, Entries.get? Group.keysKey grouping.body = some (.document keys) ∧
      Entries.keys keys = aggregation.groupBy.eraseDups.map groupLabel := by
  refine ⟨_, ?_, Entries.keys_ofPairs_map groupLabel_injective reference aggregation.groupBy⟩
  rw [get?_body h, keysValue, if_neg (mt List.isEmpty_iff.1 hkeyed)]

end Grouping

namespace Pipeline

variable {collection : Collection} {request : AggregateRequest} {pipeline : Pipeline}

theorem ofRequest_eq_ok : ofRequest collection request = .ok pipeline ↔
    Filter.compile collection request.filter = .ok pipeline.filter ∧
      Grouping.compile request.aggregation = .ok pipeline.grouping ∧
      pipeline.sort = pipeline.grouping.sort? := by
  unfold ofRequest
  constructor
  · intro h
    obtain ⟨filter, hfilter, h⟩ := bind_eq_ok.1 h
    obtain ⟨grouping, hgrouping, h⟩ := bind_eq_ok.1 h
    cases h
    exact ⟨hfilter, hgrouping, rfl⟩
  · rintro ⟨hfilter, hgrouping, hsort⟩
    refine bind_eq_ok.2 ⟨_, hfilter, bind_eq_ok.2 ⟨_, hgrouping, ?_⟩⟩
    rw [← hsort]

/-- **The groups are sorted by the group keys of the fields without a dot.** The pipeline of a
request with fields to group by sorts last. Its sort document has one entry for each of these
fields, ascending, in the order of the group keys. The path of an entry leads to the group key of
its field, in all rows, exactly if there is no dot in the field. Else it leads nowhere, unless some
group key is a document itself. -/
theorem sort_reaches_iff (h : ofRequest collection request = .ok pipeline)
    (hkeyed : request.aggregation.groupBy ≠ []) :
    ∃ keys sort,
      Entries.get? Group.keysKey pipeline.grouping.body = some (.document keys) ∧
      pipeline.stages = [[("$match", .document pipeline.filter)],
        [("$group", .document pipeline.grouping.body)], [("$sort", .document sort)]] ∧
      Entries.keys keys = request.aggregation.groupBy.eraseDups.map groupLabel ∧
      sort = (Entries.keys keys).map (fun label => (keyPath label, .int32 1)) ∧
      ∀ field ∈ request.aggregation.groupBy,
        (Reaches (Entries.keys keys) (keyPath (groupLabel field)) (groupLabel field) ↔
          '.' ∉ field.toList) ∧
        ('.' ∈ field.toList → ∀ row found, Grouped (Entries.keys keys) row found →
          (∀ entry ∈ found, entry.2.document? = none) →
          Row.lookup? row (keyPath (groupLabel field)) = none) := by
  obtain ⟨-, hcompile, hsort⟩ := ofRequest_eq_ok.1 h
  obtain ⟨keys, hbody, hlabels⟩ := Grouping.exists_keys_body hcompile hkeyed
  refine ⟨keys, _, hbody, ?_, hlabels, rfl, ?_⟩
  · rw [stages, hsort, Grouping.sort?_eq hcompile hkeyed, hlabels, List.map_map]
    rfl
  · intro field hfield
    have hlabel : groupLabel field ∈ Entries.keys keys := by
      rw [hlabels]
      exact List.mem_map_of_mem (List.mem_eraseDups.2 hfield)
    rw [reaches_iff hlabel, dot_mem_groupLabel]
    refine ⟨Iff.rfl, fun hdot row found hgrouped hflat => ?_⟩
    exact hgrouped.lookup?_eq_none (dot_mem_groupLabel.2 hdot) hflat

/-- One field that is named twice, and a nested one. -/
theorem sort_reaches_iff_nested :
    let collection : Collection := ⟨.ofFields [("country", .string), ("address.city", .string)], {}⟩
    let request : AggregateRequest :=
      { aggregation := { groupBy := ["country", "address.city", "country"], count := ["age"] } }
    let keys : Document :=
      [("group_by_country", .string "Italy"), ("group_by_address.city", .string "Rome")]
    let row : Document := [("_id", .document keys), ("count_age", .int32 3)]
    ∃ pipeline, ofRequest collection request = .ok pipeline ∧
      pipeline.stages.getLast? = some [("$sort", .document
        [("_id.group_by_country", .int32 1), ("_id.group_by_address.city", .int32 1)])] ∧
      Row.lookup? row "_id.group_by_country" = some (.string "Italy") ∧
      Row.lookup? row "_id.group_by_address.city" = none := by
  intro collection request keys row
  obtain ⟨pipeline, hpipeline⟩ : ∃ pipeline, ofRequest collection request = .ok pipeline :=
    ⟨_, rfl⟩
  obtain ⟨expressions, sort, -, hstages, hlabels, rfl, hreaches⟩ :=
    sort_reaches_iff hpipeline (by decide)
  have hlabels' : Entries.keys expressions = ["group_by_country", "group_by_address.city"] :=
    hlabels.trans (by decide)
  have hgrouped : Grouped (Entries.keys expressions) row keys := ⟨rfl, by rw [hlabels']; decide⟩
  have hcountry := (hreaches "country" (by decide)).1.2 (by decide) row keys hgrouped
  obtain ⟨value, hvalue, hfound⟩ := hcountry
  cases hvalue
  have hcity := (hreaches "address.city" (by decide)).2 (by decide) row keys hgrouped
    (by simp [keys, Value.document?])
  refine ⟨pipeline, hpipeline, ?_, hfound, hcity⟩
  rw [hstages, hlabels']
  rfl

/-- The group key of a nested field is in the row, and the path by which groups are sorted does not
lead to it. -/
theorem sort_misses_nested :
    let collection : Collection := ⟨.ofFields [("address.city", .string)], {}⟩
    let request : AggregateRequest :=
      { aggregation := { groupBy := ["address.city"], count := ["age"] } }
    let keys : Document := [("group_by_address.city", .string "Rome")]
    let row : Document := [("_id", .document keys), ("count_age", .int32 3)]
    ∃ pipeline expressions, ofRequest collection request = .ok pipeline ∧
      Entries.get? Group.keysKey pipeline.grouping.body = some (.document expressions) ∧
      Grouped (Entries.keys expressions) row keys ∧
      pipeline.sort = some [("_id.group_by_address.city", .int32 1)] ∧
      Entries.get? (groupLabel "address.city") keys = some (.string "Rome") ∧
      Row.lookup? row "_id.group_by_address.city" = none := by
  intro collection request keys row
  exact ⟨_, [("group_by_address.city", reference "address.city")], rfl, rfl, ⟨rfl, by decide⟩,
    rfl, rfl, by decide⟩

end Pipeline

end DocumentQuery.Aggregate
