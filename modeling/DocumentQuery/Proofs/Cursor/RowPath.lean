import DocumentQuery.Cursor.RowKey

/-!
# Paths through rows

A path is cut at its dots. The keys of two paths with a dot between them are those of both, so a
value is looked up step by step: what stands under the first key has to be a document, and the rest
of the path leads on in it.

* `splitDots_eq`        : cutting at dots as the library does it;
* `pathKeys_append`     : the keys of a path in two parts;
* `Row.lookup?_plain`   : a path without a dot is a key;
* `Row.lookup?_dotted`  : the first step on a path.
-/

namespace DocumentQuery.Cursor

theorem splitDots_eq (text : List Char) : splitDots text = text.splitOn '.' := by
  simp only [List.splitOn_eq_splitOnP]
  induction text with
  | nil => rfl
  | cons c rest ih =>
    rw [splitDots, List.splitOnP_cons_eq_if_modifyHead, ih]
    by_cases hdot : c = '.'
    · simp [hdot]
    · obtain ⟨part, parts, hparts⟩ :=
        List.exists_cons_of_ne_nil (List.splitOnP_ne_nil (· == '.') rest)
      simp [hdot, hparts]

theorem pathKeys_ne_nil (path : String) : pathKeys path ≠ [] := by
  rw [pathKeys, splitDots_eq]
  exact fun hnil => List.splitOn_ne_nil _ _ (List.map_eq_nil_iff.1 hnil)

theorem pathKeys_plain {key : String} (h : '.' ∉ key.toList) : pathKeys key = [key] := by
  rw [pathKeys, splitDots_eq, List.splitOn_eq_singleton h, List.map_singleton, String.ofList_toList]

/-- The keys of a path are those on both sides of a dot. -/
theorem pathKeys_append (path rest : String) :
    pathKeys (path ++ "." ++ rest) = pathKeys path ++ pathKeys rest := by
  have htext : (path ++ "." ++ rest).toList = path.toList ++ '.' :: rest.toList := by
    simp
  simp only [pathKeys, splitDots_eq, List.splitOn_eq_splitOnP, htext]
  rw [List.splitOnP_append_cons _ _ rfl, List.map_append]

namespace Row

theorem descend?_cons {key : String} {path : List String} (row : Document) (next : String) :
    descend? (key :: next :: path) row =
      ((Entries.get? key row).bind Value.document?).bind (descend? (next :: path)) := by
  rw [descend?]
  · cases Entries.get? key row with
    | none => rfl
    | some value => cases value <;> rfl
  · exact List.cons_ne_nil _ _

theorem lookup?_plain {key : String} (h : '.' ∉ key.toList) (row : Document) :
    lookup? row key = Entries.get? key row := by
  rw [lookup?, pathKeys_plain h, descend?]

/-- What stands under the first key has to be a document. The rest of the path leads on in it. -/
theorem lookup?_dotted {key : String} (h : '.' ∉ key.toList) (path : String) (row : Document) :
    lookup? row (key ++ "." ++ path) =
      ((Entries.get? key row).bind Value.document?).bind (lookup? · path) := by
  obtain ⟨next, keys, hkeys⟩ := List.exists_cons_of_ne_nil (pathKeys_ne_nil path)
  rw [lookup?, pathKeys_append, pathKeys_plain h, hkeys, List.singleton_append, descend?_cons]
  simp only [lookup?, hkeys]

end Row

end DocumentQuery.Cursor
