/-!
# Ordered entries

A list of keys and values in which setting a key keeps its place. Entries built by `put` from the
empty list hold each key once.

* `Entries.put`     : sets a key, in place or at the end;
* `Entries.get?`    : the value of a key;
* `Entries.ofPairs` : first places, last values.

Principal results: `get?_put`, `keys_put`.
-/

namespace DocumentQuery

/-- Keys with their values, in order. -/
abbrev Entries (α : Type) := List (String × α)

namespace Entries

variable {α : Type}

/-- Sets a key: in place if it is present, else at the end. -/
def put (key : String) (value : α) : Entries α → Entries α
  | [] => [(key, value)]
  | (k, v) :: rest => if k = key then (k, value) :: rest else (k, v) :: put key value rest

/-- The value of a key. -/
def get? (key : String) : Entries α → Option α
  | [] => none
  | (k, v) :: rest => if k = key then some v else get? key rest

def keys (entries : Entries α) : List String := entries.map Prod.fst

def contains (key : String) (entries : Entries α) : Bool := (get? key entries).isSome

/-- Sets the pairs one after the other. -/
def putAll (entries pairs : Entries α) : Entries α :=
  pairs.foldl (fun found pair => put pair.1 pair.2 found) entries

/-- A repeated key keeps its first place and takes its last value. -/
def ofPairs (pairs : Entries α) : Entries α := putAll [] pairs

theorem get?_put (key : String) (value : α) (entries : Entries α) (k : String) :
    get? k (put key value entries) = if key = k then some value else get? k entries := by
  induction entries with
  | nil => simp [put, get?]
  | cons entry rest ih =>
    obtain ⟨j, v⟩ := entry
    by_cases hj : j = key
    · subst hj
      by_cases hk : j = k <;> simp [put, get?, hk]
    · by_cases hk : j = k
      · subst hk
        simp [put, get?, hj, Ne.symm hj]
      · simp [put, get?, hj, hk, ih]

theorem keys_put (key : String) (value : α) (entries : Entries α) :
    keys (put key value entries) =
      if key ∈ keys entries then keys entries else keys entries ++ [key] := by
  induction entries with
  | nil => simp [put, keys]
  | cons entry rest ih =>
    obtain ⟨j, v⟩ := entry
    by_cases hj : j = key
    · subst hj
      simp [put, keys]
    · have ih' : List.map Prod.fst (put key value rest) =
          if key ∈ List.map Prod.fst rest then List.map Prod.fst rest
          else List.map Prod.fst rest ++ [key] := ih
      simp only [put, keys, hj, if_false, List.map_cons, ih', List.mem_cons, Ne.symm hj, false_or]
      split <;> simp

end Entries

end DocumentQuery
