import DocumentQuery.Json.Parser
import DocumentQuery.Proofs.Entries

/-!
# Objects with distinct keys

In a JSON text a key may be repeated. A value that is read from a text has it once.

* `Json.Distinct`        : no object in the value repeats a key;
* `Json.distinct_parse?` : that is so of every value that is read.
-/

namespace DocumentQuery.Json

/-- Objects hold each key once, at any depth. -/
inductive Distinct : Json → Prop where
  | object {members : List (String × Json)} (hkeys : (Entries.keys members).Nodup)
      (hvalues : ∀ member ∈ members, Distinct member.2) : Distinct (.object members)
  | array {items : List Json} (hitems : ∀ item ∈ items, Distinct item) : Distinct (.array items)
  | leaf {json : Json} (hobject : json.object? = none) (harray : json.array? = none) :
      Distinct json

@[simp]
theorem distinct_object {members : Entries Json} :
    Distinct (.object members) ↔
      (Entries.keys members).Nodup ∧ ∀ member ∈ members, Distinct member.2 := by
  constructor
  · intro h
    cases h with
    | object hkeys hvalues => exact ⟨hkeys, hvalues⟩
    | leaf hobject => cases hobject
  · rintro ⟨hkeys, hvalues⟩
    exact .object hkeys hvalues

@[simp]
theorem distinct_array {items : List Json} :
    Distinct (.array items) ↔ ∀ item ∈ items, Distinct item := by
  constructor
  · intro h
    cases h with
    | array hitems => exact hitems
    | leaf _ harray => cases harray
  · exact .array

@[simp]
theorem distinct_string (text : String) : Distinct (.string text) := .leaf rfl rfl

/-- What stands under a key of an object is as distinct as the object. -/
theorem Distinct.of_get? {members : Entries Json} {key : String} {json : Json}
    (h : Distinct (.object members)) (hget : Entries.get? key members = some json) :
    Distinct json :=
  (distinct_object.1 h).2 _ (Entries.mem_of_get? hget)

theorem distinct_real? {spelled : Spelled} {json : Json} (h : spelled.real? = some json) :
    Distinct json := by
  obtain ⟨_, _, rfl⟩ := Option.map_eq_some_iff.1 h
  exact .leaf rfl rfl

theorem distinct_value? {spelled : Spelled} {json : Json} (h : spelled.value? = some json) :
    Distinct json := by
  unfold Spelled.value? at h
  dsimp only at h
  repeat' split at h
  all_goals first
    | exact distinct_real? h
    | (cases h; exact .leaf rfl rfl)

mutual

theorem distinct_toJson? {depth : Nat} {outline : Outline} {json : Json}
    (h : outline.toJson? depth = some json) : Distinct json := by
  unfold Outline.toJson? at h
  match outline with
  | .null | .bool _ =>
    cases h
    exact .leaf rfl rfl
  | .number _ => exact distinct_value? h
  | .string _ =>
    obtain ⟨_, _, rfl⟩ := Option.map_eq_some_iff.1 h
    exact .leaf rfl rfl
  | .array _ =>
    match depth with
    | 0 => cases h
    | depth + 1 =>
      obtain ⟨items, hitems, rfl⟩ := Option.map_eq_some_iff.1 h
      exact .array (distinct_toItems? hitems)
  | .object _ =>
    match depth with
    | 0 => cases h
    | depth + 1 =>
      obtain ⟨members, hmembers, rfl⟩ := Option.map_eq_some_iff.1 h
      exact .object (Entries.nodup_keys_ofPairs members) fun member hmember =>
        distinct_toMembers? hmembers member (Entries.mem_ofPairs hmember)

theorem distinct_toItems? {depth : Nat} {outlines : List Outline} {items : List Json}
    (h : Outline.toItems? depth outlines = some items) : ∀ item ∈ items, Distinct item := by
  match outlines with
  | [] =>
    cases h
    exact fun _ hitem => absurd hitem List.not_mem_nil
  | outline :: rest =>
    unfold Outline.toItems? at h
    obtain ⟨value, hvalue, h⟩ := Option.bind_eq_some_iff.1 h
    obtain ⟨values, hvalues, h⟩ := Option.bind_eq_some_iff.1 h
    cases h
    exact List.forall_mem_cons.2 ⟨distinct_toJson? hvalue, distinct_toItems? hvalues⟩

theorem distinct_toMembers? {depth : Nat} {outlines : List (List Piece × Outline)}
    {members : Entries Json} (h : Outline.toMembers? depth outlines = some members) :
    ∀ member ∈ members, Distinct member.2 := by
  match outlines with
  | [] =>
    cases h
    exact fun _ hmember => absurd hmember List.not_mem_nil
  | (key, outline) :: rest =>
    unfold Outline.toMembers? at h
    obtain ⟨key, _, h⟩ := Option.bind_eq_some_iff.1 h
    obtain ⟨value, hvalue, h⟩ := Option.bind_eq_some_iff.1 h
    obtain ⟨values, hvalues, h⟩ := Option.bind_eq_some_iff.1 h
    cases h
    exact List.forall_mem_cons.2 ⟨distinct_toJson? hvalue, distinct_toMembers? hvalues⟩

end

/-- What is read from a text has distinct keys. -/
theorem distinct_parse? {text : String} {json : Json} (h : parse? text = some json) :
    Distinct json := by
  unfold parse? at h
  obtain ⟨outline, _, houtline⟩ := Option.bind_eq_some_iff.1 h
  exact distinct_toJson? houtline

end DocumentQuery.Json
