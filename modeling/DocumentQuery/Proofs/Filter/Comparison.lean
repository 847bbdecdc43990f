import DocumentQuery.Filter.Comparison
import DocumentQuery.Proofs.FirstError

/-!
# Compiled comparisons

* `Comparison.compile_eq_ok` : what a comparison with a predicate consists of.
-/

namespace DocumentQuery.Filter.Comparison

/-- **A comparison compiles to one entry**, the stored name of the field. Under it stand the bounds
of a range, or else the operator of the store with a value of the right shape. -/
theorem compile_eq_ok {collection : Collection} {field : String} {comparison : Comparison}
    {document : Document} :
    compile collection field comparison = .ok document ↔
      ∃ conditions : Document,
        document = [(collection.config.resolve field, .document conditions)] ∧
        ((comparison.operator.isRange = true ∧ ∃ lower upper,
            bounds collection (collection.config.resolve field) comparison = .ok (lower, upper) ∧
            conditions = rangeConditions (comparison.operator == .notBetween) lower upper) ∨
          (comparison.operator.isRange = false ∧ ∃ native,
            collection.config.operatorTable.native? comparison.operator.name = some native ∧
            checkShape field comparison = .ok () ∧
            conditions = [(native,
              collection.coerce (collection.config.resolve field) comparison.value)])) := by
  unfold compile
  constructor
  · intro h
    dsimp only at h
    split at h
    · rename_i hrange
      obtain ⟨⟨lower, upper⟩, hbounds, h⟩ := bind_eq_ok.1 h
      cases h
      exact ⟨_, rfl, .inl ⟨hrange, lower, upper, hbounds, rfl⟩⟩
    · rename_i hrange
      split at h
      · cases h
      · rename_i native hnative
        obtain ⟨_, hshape, h⟩ := bind_eq_ok.1 h
        cases h
        exact ⟨_, rfl, .inr ⟨Bool.eq_false_iff.2 hrange, native, hnative, hshape, rfl⟩⟩
  · rintro ⟨_, rfl, ⟨hrange, lower, upper, hbounds, rfl⟩ | ⟨hrange, native, hnative, hshape, rfl⟩⟩
    · dsimp only
      rw [if_pos hrange]
      exact bind_eq_ok.2 ⟨_, hbounds, rfl⟩
    · dsimp only
      rw [if_neg (Bool.eq_false_iff.1 hrange), hnative]
      exact bind_eq_ok.2 ⟨(), hshape, rfl⟩

end DocumentQuery.Filter.Comparison
