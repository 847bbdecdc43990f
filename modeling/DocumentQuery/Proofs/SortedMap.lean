import DocumentQuery.Map.SortedMap
import DocumentQuery.Proofs.Entries
import Mathlib.Data.Set.Card

/-!
# Sorted maps filled from a list

A map that is filled from a list has the last value of each key of the list. It has as many entries
as keys.

* `SortedMap.get?_ofList`  : the value of a key;
* `SortedMap.nodup_keys`   : no key is there twice;
* `SortedMap.encard_keys`  : the number of keys.
-/

namespace DocumentQuery.SortedMap

variable {α : Type}

theorem get?_insertAll_reverse (map : SortedMap α) (pairs : Entries α) (key : String) :
    (map.insertAll pairs).get? key = (Entries.get? key pairs.reverse).or (map.get? key) := by
  induction pairs generalizing map with
  | nil => rfl
  | cons pair rest ih =>
    have hstep : map.insertAll (pair :: rest) = (map.insert pair.1 pair.2).insertAll rest := rfl
    rw [hstep, ih, get?_insert, List.reverse_cons, Entries.get?_append, Option.or_assoc]
    congr 1
    by_cases hkey : pair.1 = key <;> simp [Entries.get?, hkey]

/-- The last value of each key counts. -/
theorem get?_ofList (pairs : Entries α) (key : String) :
    (ofList pairs).get? key = Entries.get? key pairs.reverse := by
  rw [ofList, get?_insertAll_reverse]
  simp [empty, get?, Entries.get?]

theorem nodup_keys (map : SortedMap α) : (Entries.keys map.toList).Nodup := by
  have hlt : (Entries.keys map.toList).Pairwise (· < ·) := List.pairwise_map.2 map.ascending
  refine hlt.imp ?_
  rintro key _ hkey rfl
  exact String.lt_irrefl key hkey

theorem mem_toList {map : SortedMap α} {key : String} {value : α} :
    (key, value) ∈ map.toList ↔ map.get? key = some value :=
  (Entries.get?_eq_some_iff map.nodup_keys).symm

theorem contains_iff (map : SortedMap α) (key : String) :
    map.contains key ↔ key ∈ Entries.keys map.toList := by
  rw [contains, Option.isSome_iff_ne_none, get?, ne_eq, Entries.get?_eq_none_iff, not_not]

/-- A map has as many entries as keys. -/
theorem encard_keys (map : SortedMap α) : {key | map.contains key}.encard = map.size := by
  have hkeys : {key | map.contains key} = ↑(Entries.keys map.toList).toFinset := by
    ext key
    simp [contains_iff]
  rw [hkeys, Set.encard_coe_eq_coe_finsetCard, List.toFinset_card_of_nodup map.nodup_keys,
    Entries.keys, List.length_map, size]

end DocumentQuery.SortedMap
