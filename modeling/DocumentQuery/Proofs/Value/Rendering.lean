import DocumentQuery.Proofs.Value.OfJson
import DocumentQuery.Value.ExtendedJson

/-!
# JSON values that a store holds as they are

A JSON value is read as a value of the store, and written as JSON again. Nothing is lost on the way
as long as some type of the store holds its numbers: whole numbers take the smaller or the larger of
the integer types, and both are written with the same digits; other numbers stay what they are, also
where they are whole.

* `Json.Exact` : the types of the store hold all numbers in the value.

Principal result: `Value.toJson_ofJson`.
-/

namespace DocumentQuery

/-- Whole numbers fit 64 bits with a sign, other numbers are finite, and objects hold each key
once. -/
inductive Json.Exact : Json → Prop where
  | null : Exact .null
  | bool (b : Bool) : Exact (.bool b)
  | integer {n : Int} (h : Number.Range.int64.holds n = true) : Exact (.integer n)
  | real {x : Number.Double} (h : x.isFinite = true) : Exact (.real x)
  | string (s : String) : Exact (.string s)
  | array {items : List Json} (h : ∀ item ∈ items, Exact item) : Exact (.array items)
  | object {members : List (String × Json)} (hkeys : (Entries.keys members).Nodup)
      (h : ∀ member ∈ members, Exact member.2) : Exact (.object members)

namespace Value

theorem toJson_ofInt {n : Int} (h : Number.Range.int64.holds n = true) :
    toJson .relaxed (ofInt n) = .integer n := by
  have hstands := standsFor_ofInt n
  generalize ofInt n = value at hstands
  cases hstands with
  | int32 | int64 => rfl
  | wider _ _ hwider =>
    rw [h] at hwider
    cases hwider

mutual

/-- **A JSON value comes back as it was.** -/
theorem toJson_ofJson (json : Json) (h : json.Exact) : toJson .relaxed (ofJson json) = json := by
  cases h with
  | null | bool | string => rfl
  | integer h => exact toJson_ofInt h
  | real h => rw [ofJson, toJson, doubleJson, if_pos h]
  | array h => rw [ofJson, toJson, itemsToJson_ofJsonItems _ h]
  | @object members hkeys h =>
    have hentries : Entries.ofPairs (ofJsonMembers members) = ofJsonMembers members := by
      apply Entries.ofPairs_of_nodup
      rw [keys_of_entries (standsFor_ofJsonMembers members)]
      exact hkeys
    rw [ofJson, hentries, toJson, entriesToJson_ofJsonMembers _ h]

theorem itemsToJson_ofJsonItems (items : List Json) (h : ∀ item ∈ items, item.Exact) :
    itemsToJson .relaxed (ofJsonItems items) = items := by
  match items with
  | [] => rfl
  | item :: rest =>
    obtain ⟨hitem, hrest⟩ := List.forall_mem_cons.1 h
    rw [ofJsonItems, itemsToJson, toJson_ofJson item hitem, itemsToJson_ofJsonItems rest hrest]

theorem entriesToJson_ofJsonMembers (members : List (String × Json))
    (h : ∀ member ∈ members, member.2.Exact) :
    entriesToJson .relaxed (ofJsonMembers members) = members := by
  match members with
  | [] => rfl
  | (key, json) :: rest =>
    obtain ⟨hjson, hrest⟩ := List.forall_mem_cons.1 h
    rw [ofJsonMembers, entriesToJson, toJson_ofJson json hjson,
      entriesToJson_ofJsonMembers rest hrest]

end

end Value

end DocumentQuery
