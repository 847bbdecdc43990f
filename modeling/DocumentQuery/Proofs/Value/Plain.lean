import DocumentQuery.Proofs.Entries
import DocumentQuery.Proofs.Value.Bson.ReadBack
import DocumentQuery.Value.Spelled

/-!
# Plain values

Values that are the same after they are written and read. Documents are read by their meaning, and
one with a key that begins with `$` may spell another value; a NUL character in a key cannot be
written at all. All values without such keys are plain, if they are of the types in common use.

* `Value.Plain`       : the value is plain;
* `Plain.exists_value?` : it can be written;
* `Plain.value?_ofValue` : it means itself when it is read.
-/

namespace DocumentQuery

namespace Value

/-- A key that can be written, and that spells nothing. -/
structure PlainKey (key : String) : Prop where
  writable : '\x00' ∉ key.toList
  unmarked : key.toList.head? ≠ some '$'

/-- Numbers, texts, dates and the like, and arrays and documents of plain values. The keys of a
document are plain and distinct. -/
inductive Plain : Value → Prop where
  | null : Plain .null
  | bool (b : Bool) : Plain (.bool b)
  | int32 (n : Int32) : Plain (.int32 n)
  | int64 (n : Int64) : Plain (.int64 n)
  | double (x : Number.Double) : Plain (.double x)
  | decimal128 (d : Number.Decimal128) : Plain (.decimal128 d)
  | string (s : String) : Plain (.string s)
  | date (ms : Int64) : Plain (.date ms)
  | objectId (id : ObjectId) : Plain (.objectId id)
  | binary (subtype : UInt8) (bytes : Bytes) : Plain (.binary subtype bytes)
  | timestamp (time increment : UInt32) : Plain (.timestamp time increment)
  | array {items : List Value} (hitems : ∀ item ∈ items, Plain item) : Plain (.array items)
  | document {entries : List (String × Value)} (hkeys : ∀ e ∈ entries, PlainKey e.1)
      (hdistinct : (Entries.keys entries).Nodup) (hvalues : ∀ e ∈ entries, Plain e.2) :
      Plain (.document entries)

end Value

/-! ## Writing -/

namespace Bson

open Value (Plain PlainKey)

theorem exists_element? {key : String} (h : '\x00' ∉ key.toList) (tag : UInt8) (body : Bytes) :
    ∃ bytes, element? tag key body = some bytes :=
  ⟨_, Option.map_eq_some_iff.2
    ⟨_, keyBytes?_eq_some.2 ⟨Text.zero_not_mem_toBytes h, rfl⟩, rfl⟩⟩

/-- The place of an item is written in digits. -/
theorem nul_not_mem_toDigits (index : Nat) :
    '\x00' ∉ (String.ofList (Number.toDigits index)).toList := by
  intro h
  rw [String.toList_ofList] at h
  have hdigit := Nat.isDigit_of_mem_toDigits (by decide) (by decide) h
  cases hdigit

theorem exists_items? {items : List Value}
    (h : ∀ item ∈ items, ∃ written, value? item = some written) (index : Nat) :
    ∃ bytes, items? index items = some bytes := by
  induction items generalizing index with
  | nil => exact ⟨[], rfl⟩
  | cons item rest ih =>
    obtain ⟨⟨⟨tag, body⟩, hitem⟩, hrest⟩ := List.forall_mem_cons.1 h
    obtain ⟨first, hfirst⟩ := exists_element? (nul_not_mem_toDigits index) tag body
    obtain ⟨others, hothers⟩ := ih hrest (index + 1)
    exact ⟨_, items?_cons_eq_some.2 ⟨tag, body, first, others, hitem, hfirst, hothers, rfl⟩⟩

theorem exists_elements? {entries : List (String × Value)}
    (hkeys : ∀ e ∈ entries, PlainKey e.1)
    (h : ∀ e ∈ entries, ∃ written, value? e.2 = some written) :
    ∃ bytes, elements? entries = some bytes := by
  induction entries with
  | nil => exact ⟨[], rfl⟩
  | cons entry rest ih =>
    obtain ⟨⟨⟨tag, body⟩, hvalue⟩, hrest⟩ := List.forall_mem_cons.1 h
    obtain ⟨hkey, hkeys⟩ := List.forall_mem_cons.1 hkeys
    obtain ⟨first, hfirst⟩ := exists_element? hkey.writable tag body
    obtain ⟨others, hothers⟩ := ih hkeys hrest
    exact ⟨_, elements?_cons_eq_some.2 ⟨tag, body, first, others, hvalue, hfirst, hothers, rfl⟩⟩

/-- **Plain values can be written.** -/
theorem exists_value? {value : Value} (h : Plain value) : ∃ written, value? value = some written := by
  induction h with
  | array hitems ih =>
    obtain ⟨bytes, hbytes⟩ := exists_items? ih 0
    exact ⟨_, Option.map_eq_some_iff.2 ⟨bytes, hbytes, rfl⟩⟩
  | document hkeys hdistinct hvalues ih =>
    obtain ⟨bytes, hbytes⟩ := exists_elements? hkeys ih
    exact ⟨_, Option.map_eq_some_iff.2 ⟨bytes, hbytes, rfl⟩⟩
  | _ => exact ⟨_, rfl⟩

theorem exists_encode? {document : Document} (h : Plain (.document document)) :
    ∃ bytes, encode? document = some bytes := by
  obtain ⟨written, hwritten⟩ := exists_value? h
  obtain ⟨elements, helements, _⟩ := Option.map_eq_some_iff.1 hwritten
  exact ⟨_, Option.map_eq_some_iff.2 ⟨elements, helements, rfl⟩⟩

/-! ## Meaning -/

namespace Raw

theorem plain?_eq_none {key : String} (h : key.toList.head? ≠ some '$') (raw : Raw) :
    Spelled.plain? key raw = none := by
  rw [Spelled.plain?]
  repeat rw [if_neg]
  all_goals
    rintro rfl
    exact h rfl

/-- An element whose key is not marked is kept. -/
theorem elements?_cons {key : String} (h : key.toList.head? ≠ some '$') (found : Document)
    (raw : Raw) (rest : List (String × Raw)) :
    elements? found ((key, raw) :: rest) =
      (value? raw).bind fun value => elements? (Entries.put key value found) rest := by
  have hcode : key ≠ "$code" := by
    rintro rfl
    exact h rfl
  have hscope : key ≠ "$scope" := by
    rintro rfl
    exact h rfl
  rw [elements?.eq_def]
  simp only [if_neg hcode, if_neg hscope, plain?_eq_none h, Option.bind_eq_bind]

theorem items?_ofItems {items : List Value}
    (h : ∀ item ∈ items, value? (ofValue item) = some item) :
    items? (ofItems items) = some items := by
  induction items with
  | nil => rfl
  | cons item rest ih =>
    obtain ⟨hitem, hrest⟩ := List.forall_mem_cons.1 h
    rw [ofItems, items?, hitem, ih hrest]
    rfl

theorem elements?_ofEntries {entries : List (String × Value)}
    (hkeys : ∀ e ∈ entries, PlainKey e.1)
    (h : ∀ e ∈ entries, value? (ofValue e.2) = some e.2) (found : Document) :
    elements? found (ofEntries entries) = some (.document (Entries.putAll found entries)) := by
  induction entries generalizing found with
  | nil => rfl
  | cons entry rest ih =>
    obtain ⟨hvalue, hrest⟩ := List.forall_mem_cons.1 h
    obtain ⟨hkey, hkeys⟩ := List.forall_mem_cons.1 hkeys
    rw [ofEntries, elements?_cons hkey.unmarked, hvalue, Option.bind_some, ih hkeys hrest]
    rfl

/-- **Plain values mean themselves** when they are read. -/
theorem value?_ofValue {value : Value} (h : Plain value) : value? (ofValue value) = some value := by
  induction h with
  | array hitems ih =>
    rw [ofValue, value?, items?_ofItems ih]
    rfl
  | @document entries hkeys hdistinct hvalues ih =>
    have hall : Entries.putAll [] entries = entries := Entries.ofPairs_of_nodup hdistinct
    rw [ofValue, value?, elements?_ofEntries hkeys ih, hall]
  | _ => rfl

end Raw

end Bson

end DocumentQuery
