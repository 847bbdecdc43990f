import DocumentQuery.Proofs.Entries
import DocumentQuery.Query.SortOrder

/-!
# Sort documents

The sort document has every field once, at its first place. A field that is named again takes the
direction of its last mention.

* `SortOrder.keys_document` : the fields;
* `SortOrder.get?_document` : the direction of a field that is named with one direction only;
* `SortOrder.document_cons` : the first entry.
-/

namespace DocumentQuery.SortOrder

theorem keys_document (sort : SortOrder) :
    Entries.keys (document sort) = (sort.map SortField.field).eraseDups := by
  rw [document, Entries.keys_ofPairs, Entries.keys, List.map_map]
  rfl

theorem get?_document {sort : SortOrder} {s : SortField} (hs : s ∈ sort)
    (hsame : ∀ t ∈ sort, t.field = s.field → t.direction = s.direction) :
    Entries.get? s.field (document sort) = some (.int32 s.direction.sign) := by
  rw [document, Entries.get?_ofPairs]
  refine Entries.get?_of_same (List.mem_reverse.2 (List.mem_map.2 ⟨s, hs, rfl⟩)) ?_
  intro other hother
  obtain ⟨t, ht, hpair⟩ := List.mem_map.1 (List.mem_reverse.1 hother)
  obtain ⟨hfield, rfl⟩ := Prod.mk.inj hpair
  rw [hsame t ht hfield]

/-- The first field comes first, with its own direction unless it is repeated with another one. -/
theorem document_cons {first : SortField} {rest : SortOrder}
    (hsame : ∀ t ∈ rest, t.field = first.field → t.direction = first.direction) :
    ∃ others, document (first :: rest) =
      (first.field, .int32 first.direction.sign) :: others := by
  obtain ⟨others, hothers⟩ := Entries.ofPairs_cons (first.field, Value.int32 first.direction.sign)
    (rest.map fun s => (s.field, Value.int32 s.direction.sign))
  refine ⟨others, hothers.trans ?_⟩
  have hvalue : Entries.get? first.field (document (first :: rest)) =
      some (.int32 first.direction.sign) := by
    refine get?_document List.mem_cons_self fun t ht hfield => ?_
    rcases List.mem_cons.1 ht with rfl | ht
    · rfl
    · exact hsame t ht hfield
  have hhead : document (first :: rest) = _ := hothers
  rw [hhead, Entries.get?, if_pos rfl] at hvalue
  rw [Option.some.inj hvalue]

end DocumentQuery.SortOrder
