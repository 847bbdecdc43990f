import DocumentQuery.Map.Entries
import Mathlib.Data.List.Induction

/-!
# Entries set one after the other

Setting the pairs of a list one after the other gives each key its first place and its last
value.

* `Entries.keys_ofPairs` : the keys, at their first places;
* `Entries.get?_ofPairs` : the value of a key is the last one;
* `Entries.get?_eq_none_iff`, `Entries.mem_of_get?` : a key has a value exactly if it is there;
* `Entries.ofPairs_cons` : the first pair stays first, under its last value;
* `Entries.ofPairs_of_nodup` : pairs with distinct keys stay as they are;
* `Entries.nodup_keys_ofPairs`, `Entries.get?_eq_some_iff` : no key is there twice, and look-up among
  distinct keys;
* `Entries.get?_perm`, `Entries.get?_filter` : look-up in another order, and among some of the pairs;
* `Entries.keys_ofPairs_map`, `Entries.ofPairs_map_const` : pairs with keys made from names.
-/

namespace DocumentQuery.Entries

variable {α : Type} {e : String × α}

theorem get?_append (key : String) (first second : Entries α) :
    get? key (first ++ second) = (get? key first).or (get? key second) := by
  induction first with
  | nil => rfl
  | cons entry rest ih =>
    obtain ⟨k, v⟩ := entry
    by_cases hk : k = key
    · simp [get?, hk]
    · simp only [List.cons_append, get?, hk, if_false, ih]

theorem get?_putAll (key : String) (entries pairs : Entries α) :
    get? key (putAll entries pairs) = (get? key pairs.reverse).or (get? key entries) := by
  induction pairs generalizing entries with
  | nil => rfl
  | cons pair rest ih =>
    have hstep : putAll entries (pair :: rest) = putAll (put pair.1 pair.2 entries) rest := rfl
    rw [hstep, ih, get?_put, List.reverse_cons, get?_append, Option.or_assoc]
    congr 1
    by_cases hk : pair.1 = key <;> simp [get?, hk]

/-- The last value of each key counts. -/
theorem get?_ofPairs (key : String) (pairs : Entries α) :
    get? key (ofPairs pairs) = get? key pairs.reverse := by
  rw [ofPairs, get?_putAll]
  simp [get?]

/-- A key that always has one value has that one. -/
theorem get?_of_same {key : String} {value : α} {pairs : Entries α} (hmem : (key, value) ∈ pairs)
    (hsame : ∀ other, (key, other) ∈ pairs → other = value) : get? key pairs = some value := by
  induction pairs with
  | nil => cases hmem
  | cons pair rest ih =>
    obtain ⟨k, v⟩ := pair
    unfold get?
    by_cases hk : k = key
    · subst hk
      rw [if_pos rfl, hsame v List.mem_cons_self]
    · have hrest : (key, value) ∈ rest := by
        rcases List.mem_cons.1 hmem with hpair | hrest
        · cases hpair
          exact absurd rfl hk
        · exact hrest
      rw [if_neg hk]
      exact ih hrest fun other hother => hsame other (List.mem_cons_of_mem _ hother)

theorem get?_eq_none_iff {key : String} {entries : Entries α} :
    get? key entries = none ↔ key ∉ keys entries := by
  induction entries with
  | nil => simp [get?, keys]
  | cons entry rest ih =>
    obtain ⟨k, v⟩ := entry
    have hkeys : keys ((k, v) :: rest) = k :: keys rest := rfl
    rw [get?, hkeys, List.mem_cons, not_or]
    by_cases hk : k = key
    · simp [hk]
    · rw [if_neg hk, ih]
      exact ⟨fun h => ⟨Ne.symm hk, h⟩, And.right⟩

theorem mem_of_get? {key : String} {value : α} {entries : Entries α}
    (h : get? key entries = some value) : (key, value) ∈ entries := by
  induction entries with
  | nil => cases h
  | cons entry rest ih =>
    obtain ⟨k, v⟩ := entry
    unfold get? at h
    split at h
    · rename_i hk
      rw [hk, Option.some.inj h]
      exact List.mem_cons_self
    · exact List.mem_cons_of_mem _ (ih h)

theorem mem_put {key : String} {value : α} {entries : Entries α} (h : e ∈ put key value entries) :
    e = (key, value) ∨ e ∈ entries := by
  induction entries with
  | nil => exact .inl (List.mem_singleton.1 h)
  | cons entry rest ih =>
    obtain ⟨k, v⟩ := entry
    unfold put at h
    split at h
    · rename_i hk
      subst hk
      exact (List.mem_cons.1 h).imp_right (List.mem_cons_of_mem _)
    · rcases List.mem_cons.1 h with h | h
      · exact .inr (h ▸ List.mem_cons_self)
      · exact (ih h).imp_right (List.mem_cons_of_mem _)

theorem mem_putAll {entries pairs : Entries α} (h : e ∈ putAll entries pairs) :
    e ∈ entries ∨ e ∈ pairs := by
  induction pairs generalizing entries with
  | nil => exact .inl h
  | cons pair rest ih =>
    rcases ih (show e ∈ putAll (put pair.1 pair.2 entries) rest from h) with hput | hrest
    · rcases mem_put hput with rfl | hentries
      · exact .inr List.mem_cons_self
      · exact .inl hentries
    · exact .inr (List.mem_cons_of_mem _ hrest)

theorem mem_ofPairs {pairs : Entries α} (h : e ∈ ofPairs pairs) : e ∈ pairs :=
  (mem_putAll h).resolve_left List.not_mem_nil

theorem keys_putAll (entries pairs : Entries α) :
    keys (putAll entries pairs) =
      keys entries ++ ((keys pairs).removeAll (keys entries)).eraseDups := by
  induction pairs generalizing entries with
  | nil => simp [putAll, keys]
  | cons pair rest ih =>
    have hstep : putAll entries (pair :: rest) = putAll (put pair.1 pair.2 entries) rest := rfl
    have hkeys : keys (pair :: rest) = pair.1 :: keys rest := rfl
    have hput := keys_put pair.1 pair.2 entries
    rw [hstep, ih, hkeys, List.cons_removeAll]
    by_cases hmem : pair.1 ∈ keys entries
    · rw [hput, if_pos hmem]
      simp [hmem]
    · have hremove : (keys rest).removeAll (keys entries ++ [pair.1]) =
          ((keys rest).removeAll (keys entries)).filter fun k => !k == pair.1 := by
        simp [List.removeAll, List.filter_filter, Bool.and_comm]
        rfl
      rw [hput, if_neg hmem, hremove]
      simp [hmem, List.eraseDups_cons]

theorem mem_keys_putAll {key : String} {entries pairs : Entries α} :
    key ∈ keys (putAll entries pairs) ↔ key ∈ keys entries ∨ key ∈ keys pairs := by
  rw [keys_putAll, List.mem_append, List.mem_eraseDups, List.removeAll, List.mem_filter]
  by_cases hkey : key ∈ keys entries <;> simp [hkey]

/-- Each key stands where it is first mentioned. -/
theorem keys_ofPairs (pairs : Entries α) : keys (ofPairs pairs) = (keys pairs).eraseDups := by
  rw [ofPairs, keys_putAll]
  simp [keys]

/-- Nothing is put before the first entry. -/
theorem putAll_cons (key : String) (value : α) (entries pairs : Entries α) :
    ∃ rest, putAll ((key, value) :: entries) pairs =
      (key, (get? key pairs.reverse).getD value) :: rest := by
  induction pairs generalizing value entries with
  | nil => exact ⟨entries, rfl⟩
  | cons pair pairs ih =>
    have hstep : putAll ((key, value) :: entries) (pair :: pairs) =
        putAll (put pair.1 pair.2 ((key, value) :: entries)) pairs := rfl
    rw [hstep, List.reverse_cons, get?_append]
    by_cases hk : key = pair.1
    · obtain ⟨rest, hrest⟩ := ih pair.2 entries
      refine ⟨rest, ?_⟩
      rw [put, if_pos hk, hrest]
      simp [get?, hk]
    · obtain ⟨rest, hrest⟩ := ih value (put pair.1 pair.2 entries)
      refine ⟨rest, ?_⟩
      rw [put, if_neg hk, hrest]
      simp [get?, Ne.symm hk]

/-- The first pair stays first, under the last value of its key. -/
theorem ofPairs_cons (pair : String × α) (pairs : Entries α) :
    ∃ rest, ofPairs (pair :: pairs) =
      (pair.1, (get? pair.1 pairs.reverse).getD pair.2) :: rest :=
  putAll_cons pair.1 pair.2 [] pairs

/-! ## Distinct keys -/

theorem put_of_not_mem {key : String} {entries : Entries α} (h : key ∉ keys entries) (value : α) :
    put key value entries = entries ++ [(key, value)] := by
  induction entries with
  | nil => rfl
  | cons entry rest ih =>
    obtain ⟨k, v⟩ := entry
    simp only [keys, List.map_cons, List.mem_cons, not_or] at h
    rw [put, if_neg (Ne.symm h.1), ih h.2, List.cons_append]

theorem putAll_of_nodup {entries pairs : Entries α} (h : (keys (entries ++ pairs)).Nodup) :
    putAll entries pairs = entries ++ pairs := by
  induction pairs generalizing entries with
  | nil => rw [List.append_nil, putAll, List.foldl_nil]
  | cons pair rest ih =>
    have hstep : putAll entries (pair :: rest) = putAll (put pair.1 pair.2 entries) rest := rfl
    have hkey : pair.1 ∉ keys entries := by
      intro hmem
      rw [keys, List.map_append, List.nodup_append] at h
      exact h.2.2 pair.1 hmem pair.1 (by simp) rfl
    rw [hstep, put_of_not_mem hkey, ih (by simpa using h), List.append_assoc]
    rfl

theorem ofPairs_of_nodup {pairs : Entries α} (h : (keys pairs).Nodup) : ofPairs pairs = pairs :=
  putAll_of_nodup h

theorem nodup_keys_putAll {entries : Entries α} (h : (keys entries).Nodup) (pairs : Entries α) :
    (keys (putAll entries pairs)).Nodup := by
  induction pairs generalizing entries with
  | nil => exact h
  | cons pair rest ih =>
    apply ih
    rw [keys_put]
    split
    · exact h
    · rename_i hkey
      refine List.nodup_append.2 ⟨h, by simp, ?_⟩
      rintro k hk other hother rfl
      exact hkey (List.mem_singleton.1 hother ▸ hk)

theorem nodup_keys_ofPairs (pairs : Entries α) : (keys (ofPairs pairs)).Nodup := by
  have hempty : (keys ([] : Entries α)).Nodup := List.nodup_nil
  exact nodup_keys_putAll hempty pairs

/-- Where keys are distinct, an entry is what is found under its key. -/
theorem get?_eq_some_iff {key : String} {value : α} {entries : Entries α}
    (h : (keys entries).Nodup) : get? key entries = some value ↔ (key, value) ∈ entries := by
  refine ⟨mem_of_get?, fun hmem => ?_⟩
  induction entries with
  | nil => cases hmem
  | cons entry rest ih =>
    obtain ⟨hkey, hrest⟩ := List.nodup_cons.1 (show (entry.1 :: keys rest).Nodup from h)
    rw [get?]
    rcases List.mem_cons.1 hmem with rfl | hmem
    · exact if_pos rfl
    · have hin : key ∈ keys rest := List.mem_map_of_mem (f := Prod.fst) hmem
      have hne : entry.1 ≠ key := fun heq => hkey (heq ▸ hin)
      rw [if_neg hne]
      exact ih hrest hmem

/-- Where keys are distinct, their order does not matter. -/
theorem get?_reverse {entries : Entries α} (h : (keys entries).Nodup) (key : String) :
    get? key entries.reverse = get? key entries := by
  rw [← get?_ofPairs, ofPairs_of_nodup h]

theorem nodup_keys_perm {entries others : Entries α} (h : (keys entries).Nodup)
    (hperm : entries.Perm others) : (keys others).Nodup :=
  (hperm.map Prod.fst).nodup_iff.1 h

theorem get?_perm {entries others : Entries α} (h : (keys entries).Nodup)
    (hperm : entries.Perm others) (key : String) : get? key entries = get? key others := by
  ext value
  rw [get?_eq_some_iff h, get?_eq_some_iff (nodup_keys_perm h hperm), hperm.mem_iff]

/-- What is left out under other keys makes no difference. -/
theorem get?_filter {p : String × α → Bool} {key : String} (h : ∀ value, p (key, value) = true)
    (entries : Entries α) : get? key (entries.filter p) = get? key entries := by
  induction entries with
  | nil => rfl
  | cons entry rest ih =>
    obtain ⟨k, v⟩ := entry
    rw [List.filter_cons]
    by_cases hk : k = key
    · subst hk
      rw [if_pos (h v), get?, get?, if_pos rfl, if_pos rfl]
    · rw [get?, if_neg hk, ← ih]
      split
      · rw [get?, if_neg hk]
      · rfl

/-! ## Pairs made from names -/

theorem eraseDups_map {f : String → String} (hf : Function.Injective f) (names : List String) :
    (names.map f).eraseDups = names.eraseDups.map f := by
  induction names using List.reverseRecOn with
  | nil => rfl
  | append_singleton names name ih =>
    have hcontains : (names.map f).contains (f name) = names.contains name := by
      simp [hf.eq_iff]
    rw [List.map_append, List.map_singleton, List.eraseDups_append, List.eraseDups_append,
      List.map_append, ih, List.cons_removeAll, List.cons_removeAll, hcontains]
    split <;> rfl

/-- Pairs with keys made from names: each key is there once, in the order of the names. -/
theorem keys_ofPairs_map {f : String → String} (hf : Function.Injective f) (value : String → α)
    (names : List String) :
    keys (ofPairs (names.map fun name => (f name, value name))) = names.eraseDups.map f := by
  rw [keys_ofPairs, keys, List.map_map, ← eraseDups_map hf]
  rfl

theorem eq_map_keys {entries : Entries α} {value : α} (h : ∀ e ∈ entries, e.2 = value) :
    entries = (keys entries).map (·, value) := by
  have hsame : entries.map (fun e => (e.1, value)) = entries.map id :=
    List.map_congr_left fun e he => Prod.ext rfl (h e he).symm
  rw [keys, List.map_map]
  exact (hsame.trans (List.map_id entries)).symm

/-- Pairs with one value for all. -/
theorem ofPairs_map_const {f : String → String} (hf : Function.Injective f) (value : α)
    (names : List String) :
    ofPairs (names.map fun name => (f name, value)) =
      names.eraseDups.map fun name => (f name, value) := by
  have hvalue : ∀ e ∈ ofPairs (names.map fun name => (f name, value)), e.2 = value := by
    intro e he
    obtain ⟨name, _, rfl⟩ := List.mem_map.1 (mem_ofPairs he)
    rfl
  rw [eq_map_keys hvalue, keys_ofPairs_map hf, List.map_map]
  rfl

end DocumentQuery.Entries
