import DocumentQuery.Map.Entries

/-!
# Sorted maps

Finite maps from texts, kept in ascending order of their keys. The order is by code point, which
is also the order of the UTF-8 bytes.

* `SortedMap.insert`  : sets a key;
* `SortedMap.get?`    : the value of a key;
* `SortedMap.toList`  : the entries in order;
* `SortedMap.merge`   : both maps, the second one first where they disagree.

Principal results: `SortedMap.get?_insert`, and `SortedMap.ext_get?`: a map is determined by its
look-ups.
-/

namespace DocumentQuery

/-- The keys ascend strictly. -/
abbrev Ascending {α : Type} (entries : Entries α) : Prop :=
  entries.Pairwise fun a b => a.1 < b.1

namespace Entries

variable {α : Type}

/-- Sets a key of ascending entries. -/
def insertAscending (key : String) (value : α) : Entries α → Entries α
  | [] => [(key, value)]
  | (k, v) :: rest =>
    if key < k then (key, value) :: (k, v) :: rest
    else if k < key then (k, v) :: insertAscending key value rest
    else (key, value) :: rest

theorem mem_insertAscending {key : String} {value : α} {entries : Entries α} {e : String × α}
    (h : e ∈ insertAscending key value entries) : e = (key, value) ∨ e ∈ entries := by
  induction entries with
  | nil => simpa [insertAscending] using h
  | cons entry rest ih =>
    obtain ⟨k, v⟩ := entry
    simp only [insertAscending] at h
    split at h
    · simpa using h
    · split at h
      · rcases List.mem_cons.1 h with h | h
        · exact .inr (by simp [h])
        · rcases ih h with h | h
          · exact .inl h
          · exact .inr (by simp [h])
      · rcases List.mem_cons.1 h with h | h
        · exact .inl h
        · exact .inr (by simp [h])

theorem ascending_insertAscending (key : String) (value : α) {entries : Entries α}
    (h : Ascending entries) : Ascending (insertAscending key value entries) := by
  induction entries with
  | nil => simp [insertAscending]
  | cons entry rest ih =>
    obtain ⟨k, v⟩ := entry
    have hrest := List.pairwise_cons.1 h
    simp only [insertAscending]
    split
    · rename_i hk
      refine List.pairwise_cons.2 ⟨fun e he => ?_, h⟩
      rcases List.mem_cons.1 he with he | he
      · simpa [he] using hk
      · exact String.lt_trans hk (hrest.1 e he)
    · split
      · rename_i hk
        refine List.pairwise_cons.2 ⟨fun e he => ?_, ih hrest.2⟩
        rcases mem_insertAscending he with he | he
        · simpa [he] using hk
        · exact hrest.1 e he
      · rename_i hk hk'
        have hkey : key = k :=
          String.le_antisymm (String.not_lt.1 hk') (String.not_lt.1 hk)
        subst hkey
        exact List.pairwise_cons.2 ⟨hrest.1, hrest.2⟩

theorem get?_insertAscending (key : String) (value : α) {entries : Entries α}
    (h : Ascending entries) (k : String) :
    get? k (insertAscending key value entries) =
      if key = k then some value else get? k entries := by
  induction entries with
  | nil => simp [insertAscending, get?]
  | cons entry rest ih =>
    obtain ⟨j, v⟩ := entry
    simp only [insertAscending]
    split
    · simp [get?]
    · split
      · rename_i hj
        have hne : j ≠ key := fun he => String.lt_irrefl key (he ▸ hj)
        have ih := ih (List.pairwise_cons.1 h).2
        by_cases hk : j = k
        · subst hk
          simp [get?, Ne.symm hne]
        · simp [get?, hk, ih]
      · rename_i hj hj'
        have hkey : key = j :=
          String.le_antisymm (String.not_lt.1 hj') (String.not_lt.1 hj)
        subst hkey
        by_cases hk : key = k <;> simp [get?, hk]

theorem get?_eq_none_of_lt {key : String} {entries : Entries α}
    (h : ∀ e ∈ entries, key < e.1) : get? key entries = none := by
  induction entries with
  | nil => rfl
  | cons entry rest ih =>
    obtain ⟨k, v⟩ := entry
    have hk : k ≠ key := fun he => String.lt_irrefl key (by simpa [he] using h (k, v) (by simp))
    simp only [get?, hk, if_false]
    exact ih fun e he => h e (List.mem_cons_of_mem _ he)

/-- Below the first key there is none. -/
theorem get?_eq_none_of_lt_head {key k : String} {v : α} {rest : Entries α} (hk : key < k)
    (h : Ascending ((k, v) :: rest)) : get? key ((k, v) :: rest) = none := by
  refine get?_eq_none_of_lt fun e he => ?_
  rcases List.mem_cons.1 he with he | he
  · simpa [he] using hk
  · exact String.lt_trans hk ((List.pairwise_cons.1 h).1 e he)

theorem eq_of_get?_eq {a b : Entries α} (ha : Ascending a) (hb : Ascending b)
    (h : ∀ k, get? k a = get? k b) : a = b := by
  induction a generalizing b with
  | nil =>
    cases b with
    | nil => rfl
    | cons entry b => simpa [get?] using h entry.1
  | cons entry a ih =>
    obtain ⟨k, v⟩ := entry
    cases b with
    | nil => simpa [get?] using h k
    | cons entry b =>
      obtain ⟨j, w⟩ := entry
      have hkj : ¬k < j := fun hlt => by
        have := h k
        rw [get?_eq_none_of_lt_head hlt hb] at this
        simp [get?] at this
      have hjk : ¬j < k := fun hlt => by
        have := h j
        rw [get?_eq_none_of_lt_head hlt ha] at this
        simp [get?] at this
      have hkey : k = j := String.le_antisymm (String.not_lt.1 hjk) (String.not_lt.1 hkj)
      subst hkey
      have hv : v = w := by simpa [get?] using h k
      subst hv
      have ha' := List.pairwise_cons.1 ha
      have hb' := List.pairwise_cons.1 hb
      have htail : a = b := by
        refine ih ha'.2 hb'.2 fun i => ?_
        by_cases hi : k = i
        · subst hi
          rw [get?_eq_none_of_lt ha'.1, get?_eq_none_of_lt hb'.1]
        · simpa [get?, hi] using h i
      rw [htail]

end Entries

/-- Entries in ascending order of their keys. -/
structure SortedMap (α : Type) where
  toList : Entries α
  ascending : Ascending toList

namespace SortedMap

variable {α : Type}

def empty : SortedMap α := ⟨[], List.Pairwise.nil⟩

instance : Inhabited (SortedMap α) := ⟨empty⟩

def insert (map : SortedMap α) (key : String) (value : α) : SortedMap α :=
  ⟨map.toList.insertAscending key value, Entries.ascending_insertAscending key value map.ascending⟩

def get? (map : SortedMap α) (key : String) : Option α := Entries.get? key map.toList

def contains (map : SortedMap α) (key : String) : Bool := (map.get? key).isSome

def size (map : SortedMap α) : Nat := map.toList.length

def isEmpty (map : SortedMap α) : Bool := map.toList.isEmpty

/-- Inserts the pairs one after the other. -/
def insertAll (map : SortedMap α) (pairs : Entries α) : SortedMap α :=
  pairs.foldl (fun found pair => found.insert pair.1 pair.2) map

/-- The last value of each key. -/
def ofList (pairs : Entries α) : SortedMap α := empty.insertAll pairs

/-- The entries of both; where both have a key, that of `other`. -/
def merge (map other : SortedMap α) : SortedMap α := map.insertAll other.toList

theorem get?_insert (map : SortedMap α) (key : String) (value : α) (k : String) :
    (map.insert key value).get? k = if key = k then some value else map.get? k :=
  Entries.get?_insertAscending key value map.ascending k

theorem get?_insertAll (map : SortedMap α) {pairs : Entries α} (h : Ascending pairs) (k : String) :
    (map.insertAll pairs).get? k = (Entries.get? k pairs).or (map.get? k) := by
  induction pairs generalizing map with
  | nil => rfl
  | cons pair rest ih =>
    obtain ⟨key, value⟩ := pair
    obtain ⟨hlater, hrest⟩ := List.pairwise_cons.1 h
    have hstep : map.insertAll ((key, value) :: rest) = (map.insert key value).insertAll rest := rfl
    rw [hstep, ih _ hrest, get?_insert, Entries.get?]
    by_cases hk : key = k
    · subst hk
      rw [if_pos rfl, if_pos rfl, Entries.get?_eq_none_of_lt hlater]
      rfl
    · rw [if_neg hk, if_neg hk]

/-- The entries of both maps, the second one first. -/
theorem get?_merge (map other : SortedMap α) (k : String) :
    (map.merge other).get? k = (other.get? k).or (map.get? k) :=
  get?_insertAll map other.ascending k

/-- A map is determined by its look-ups. -/
theorem ext_get? {a b : SortedMap α} (h : ∀ k, a.get? k = b.get? k) : a = b := by
  obtain ⟨as, ha⟩ := a
  obtain ⟨bs, hb⟩ := b
  have hs : as = bs := Entries.eq_of_get?_eq ha hb h
  subst hs
  rfl

end SortedMap

end DocumentQuery
