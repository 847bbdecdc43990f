import DocumentQuery.Proofs.Entries
import DocumentQuery.Value.Basic
import Mathlib.Data.List.Forall2

/-!
# Values of JSON

Which value a JSON value stands for, said apart from how it is found. Nothing is lost but the
precision of integers that no integer type holds, and members whose key comes again.

* `Value.StandsFor`            : the value stands for the JSON value;
* `Value.standsFor_object_iff` : the document of an object with distinct keys.

Principal result: `Value.standsFor_iff`, there is one such value, and it is the one that is found.
-/

namespace DocumentQuery.Value

open Number (Range)

mutual

/-- The value stands for the JSON value: it is the same text, truth value or number, with a whole
number in the smaller of the integer types that hold it, or it has the same items or members in the
same order. Of several members with the same key the last one counts. -/
inductive StandsFor : Json → Value → Prop where
  | null : StandsFor .null .null
  | bool (b : Bool) : StandsFor (.bool b) (.bool b)
  | int32 (n : Int32) : StandsFor (.integer n.toInt) (.int32 n)
  | int64 (n : Int64) (hwide : Range.int32.holds n.toInt = false) :
      StandsFor (.integer n.toInt) (.int64 n)
  | wider (n : Int) (hwide : Range.int32.holds n = false) (hwider : Range.int64.holds n = false) :
      StandsFor (.integer n) (.double (.ofInt n))
  | real (x : Number.Double) : StandsFor (.real x) (.double x)
  | string (s : String) : StandsFor (.string s) (.string s)
  | array {items : List Json} {values : List Value} (hitems : List.Forall₂ StandsFor items values) :
      StandsFor (.array items) (.array values)
  | object {members : List (String × Json)} {entries : List (String × Value)}
      (hmembers : List.Forall₂ EntryStandsFor members entries) :
      StandsFor (.object members) (.document (Entries.ofPairs entries))

/-- The entry has the key of the member, and its value. -/
inductive EntryStandsFor : String × Json → String × Value → Prop where
  | entry {key : String} {json : Json} {value : Value} (hvalue : StandsFor json value) :
      EntryStandsFor (key, json) (key, value)

end

theorem keys_of_entries {members : List (String × Json)} {entries : List (String × Value)}
    (h : List.Forall₂ EntryStandsFor members entries) :
    Entries.keys entries = Entries.keys members := by
  induction h with
  | nil => rfl
  | cons hentry _ ih =>
    cases hentry with
    | entry _ => exact congrArg _ ih

/-! ## Whole numbers -/

theorem toInt_int32_holds (n : Int32) : Range.int32.holds n.toInt = true := by
  have hlow := n.le_toInt
  have hhigh := n.toInt_lt
  unfold Range.holds Range.int32
  simp only [Bool.and_eq_true, decide_eq_true_eq]
  omega

theorem toInt_int64_holds (n : Int64) : Range.int64.holds n.toInt = true := by
  have hlow := n.le_toInt
  have hhigh := n.toInt_lt
  unfold Range.holds Range.int64
  simp only [Bool.and_eq_true, decide_eq_true_eq]
  omega

theorem standsFor_ofInt (n : Int) : StandsFor (.integer n) (ofInt n) := by
  unfold ofInt
  split
  · rename_i hnarrow
    have hn : (Int32.ofInt n).toInt = n := by
      unfold Range.holds Range.int32 at hnarrow
      simp only [Bool.and_eq_true, decide_eq_true_eq] at hnarrow
      exact Int32.toInt_ofInt_of_le (by omega) (by omega)
    have hstands := StandsFor.int32 (Int32.ofInt n)
    rw [hn] at hstands
    exact hstands
  · rename_i hwide
    rw [Bool.not_eq_true] at hwide
    split
    · rename_i hnarrow
      have hn : (Int64.ofInt n).toInt = n := by
        unfold Range.holds Range.int64 at hnarrow
        simp only [Bool.and_eq_true, decide_eq_true_eq] at hnarrow
        exact Int64.toInt_ofInt_of_le (by omega) (by omega)
      have hstands := StandsFor.int64 (Int64.ofInt n)
      rw [hn] at hstands
      exact hstands hwide
    · rename_i hwider
      rw [Bool.not_eq_true] at hwider
      exact .wider n hwide hwider

theorem eq_ofInt {n : Int} {value : Value} (h : StandsFor (.integer n) value) :
    value = ofInt n := by
  cases h with
  | int32 m => rw [ofInt, if_pos (toInt_int32_holds m), Int32.ofInt_toInt]
  | int64 m hwide =>
    rw [ofInt, hwide, if_neg Bool.false_ne_true, if_pos (toInt_int64_holds m), Int64.ofInt_toInt]
  | wider _ hwide hwider =>
    rw [ofInt, hwide, hwider, if_neg Bool.false_ne_true, if_neg Bool.false_ne_true]

/-! ## All values -/

mutual

/-- The value that is found stands for the JSON value. -/
theorem standsFor_ofJson (json : Json) : StandsFor json (ofJson json) := by
  match json with
  | .null => exact .null
  | .bool b => exact .bool b
  | .integer n => exact standsFor_ofInt n
  | .real x => exact .real x
  | .string s => exact .string s
  | .array items => exact .array (standsFor_ofJsonItems items)
  | .object members => exact .object (standsFor_ofJsonMembers members)

theorem standsFor_ofJsonItems (items : List Json) :
    List.Forall₂ StandsFor items (ofJsonItems items) := by
  match items with
  | [] => exact .nil
  | item :: rest => exact .cons (standsFor_ofJson item) (standsFor_ofJsonItems rest)

theorem standsFor_ofJsonMembers (members : List (String × Json)) :
    List.Forall₂ EntryStandsFor members (ofJsonMembers members) := by
  match members with
  | [] => exact .nil
  | (_, json) :: rest =>
    exact .cons (.entry (standsFor_ofJson json)) (standsFor_ofJsonMembers rest)

end

mutual

/-- No other value does. -/
theorem eq_ofJson (json : Json) {value : Value} (h : StandsFor json value) :
    value = ofJson json := by
  match json with
  | .null | .bool _ | .real _ | .string _ =>
    cases h
    rfl
  | .integer n => exact eq_ofInt h
  | .array items =>
    cases h with
    | array hitems => rw [eq_ofJsonItems items hitems, ofJson]
  | .object members =>
    cases h with
    | object hmembers => rw [eq_ofJsonMembers members hmembers, ofJson]

theorem eq_ofJsonItems (items : List Json) {values : List Value}
    (h : List.Forall₂ StandsFor items values) : values = ofJsonItems items := by
  match items with
  | [] => exact List.forall₂_nil_left_iff.1 h
  | item :: rest =>
    obtain ⟨value, values, hvalue, hvalues, rfl⟩ := List.forall₂_cons_left_iff.1 h
    rw [eq_ofJson item hvalue, eq_ofJsonItems rest hvalues, ofJsonItems]

theorem eq_ofJsonMembers (members : List (String × Json)) {entries : List (String × Value)}
    (h : List.Forall₂ EntryStandsFor members entries) :
    entries = ofJsonMembers members := by
  match members with
  | [] => exact List.forall₂_nil_left_iff.1 h
  | (key, json) :: rest =>
    obtain ⟨entry, entries, hentry, hentries, rfl⟩ := List.forall₂_cons_left_iff.1 h
    cases hentry with
    | entry hvalue => rw [eq_ofJson json hvalue, eq_ofJsonMembers rest hentries, ofJsonMembers]

end

/-- **One value stands for each JSON value**, and it is the one that is found. -/
theorem standsFor_iff {json : Json} {value : Value} :
    StandsFor json value ↔ value = ofJson json := by
  constructor
  · exact eq_ofJson json
  · rintro rfl
    exact standsFor_ofJson json

/-- Where the keys of an object are distinct, nothing happens to its members. -/
theorem standsFor_object_iff {members : List (String × Json)} {entries : List (String × Value)}
    (h : (Entries.keys members).Nodup) :
    StandsFor (.object members) (.document entries) ↔
      List.Forall₂ EntryStandsFor members entries := by
  have hall : ∀ {found : List (String × Value)}, List.Forall₂ EntryStandsFor members found →
      Entries.ofPairs found = found := by
    intro found hfound
    apply Entries.ofPairs_of_nodup
    rw [keys_of_entries hfound]
    exact h
  constructor
  · intro hstands
    cases hstands with
    | object hmembers =>
      rw [hall hmembers]
      exact hmembers
  · intro hmembers
    have hstands := StandsFor.object hmembers
    rw [hall hmembers] at hstands
    exact hstands

end DocumentQuery.Value
