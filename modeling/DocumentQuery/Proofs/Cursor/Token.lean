import DocumentQuery.Cursor.Token

/-!
# Reading cursor tokens

* `Text.trim_padded`        : blanks around a text are removed, and no more;
* `Token.decode_blank`      : a token of blanks has no values;
* `Token.exists_fault_of_decode` : a token that is not read is an invalid cursor;
* `Token.decode_of_payload` : the values of a token, by way of its bytes and its document.
-/

namespace DocumentQuery

namespace Text

theorem trim_of_all {s : List Char} (h : s.all isBlank = true) : trim s = [] := by
  have hdrop : s.dropWhile isBlank = [] := by
    induction s with
    | nil => rfl
    | cons c rest ih =>
      obtain ⟨hc, hrest⟩ := Bool.and_eq_true_iff.1 (List.all_cons.symm.trans h)
      rw [List.dropWhile_cons_of_pos hc, ih hrest]
  rw [trim, hdrop]
  rfl

/-- Blanks at the two ends are removed, and no more. -/
theorem trim_padded {before core after : List Char} (hbefore : before.all isBlank = true)
    (hafter : after.all isBlank = true) (hcore : ∀ c ∈ core, isBlank c = false) :
    trim (before ++ core ++ after) = core := by
  have hkeep : ∀ s rest : List Char, (∀ c ∈ s, isBlank c = false) → s ≠ [] →
      (s ++ rest).dropWhile isBlank = s ++ rest := by
    intro s rest hs hne
    obtain ⟨c, s, rfl⟩ := List.exists_cons_of_ne_nil hne
    have hc : ¬isBlank c = true := by simp [hs c List.mem_cons_self]
    rw [List.cons_append, List.dropWhile_cons_of_neg hc]
  cases core with
  | nil =>
    refine trim_of_all ?_
    rw [List.append_nil, List.all_append, hbefore, hafter]
    rfl
  | cons c rest =>
    have hback : ∀ d ∈ (c :: rest).reverse, isBlank d = false :=
      fun d hd => hcore d (List.mem_reverse.1 hd)
    rw [trim, List.append_assoc, List.dropWhile_append_of_pos (List.all_eq_true.1 hbefore),
      hkeep _ _ hcore (List.cons_ne_nil c rest), List.reverse_append,
      List.dropWhile_append_of_pos fun d hd =>
        List.all_eq_true.1 hafter d (List.mem_reverse.1 hd),
      ← List.append_nil (c :: rest).reverse, hkeep _ _ hback (by simp), List.append_nil,
      List.reverse_reverse]

end Text

namespace Cursor.Token

theorem decode_blank {limit : Nat} {token : String} (h : isBlank token = true) :
    decode limit token = .ok [] := by
  unfold decode
  rw [Text.trim_of_all h]
  rfl

/-- What is wrong with a token is always the token itself. -/
theorem exists_fault_of_decode {limit : Nat} {token : String} {e : QueryError}
    (h : decode limit token = .error e) : ∃ fault, e = .invalidCursor fault := by
  unfold decode at h
  dsimp only at h
  split at h
  · cases h
  · split at h
    · cases h
      exact ⟨_, rfl⟩
    · split at h
      · cases h
        exact ⟨_, rfl⟩
      · split at h
        · cases h
          exact ⟨_, rfl⟩
        · split at h
          · cases h
          · cases h
            exact ⟨_, rfl⟩

/-- A token is read in steps: its symbols, their bytes, the document of these, and its values. -/
theorem decode_of_payload {limit : Nat} {token : String} {symbols : List Char} {bytes : Bytes}
    {document : Document} {values : List Value} (htrim : Text.trim token.toList = symbols)
    (hlength : (String.ofList symbols).utf8ByteSize ≤ limit)
    (hbytes : Text.Base64.decodeUrl? symbols = some bytes)
    (hpayload : payload? bytes = some document)
    (hvalues : Entries.get? valuesKey document = some (.array values)) :
    decode limit token = .ok values := by
  have hsymbols : ¬symbols.isEmpty = true := by
    intro hempty
    rw [List.isEmpty_iff.1 hempty] at hbytes
    cases hbytes
    cases hpayload
  unfold decode
  simp only [htrim]
  rw [if_neg hsymbols, if_neg (Nat.not_lt.2 hlength), hbytes]
  simp only [hpayload, hvalues]

end Cursor.Token

end DocumentQuery
