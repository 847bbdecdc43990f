import DocumentQuery.Proofs.Value.Bson.Fields

/-!
# BSON read back

What is written is read back: the value with its type, the elements of a document with their keys
and in their order, the items of an array without keys, to any depth. Every value that can be
written is meant, and what is read is the value itself but for the options of regular expressions,
which are written in order.

* `Raw.ofValue`       : a value as its bytes give it;
* `readValue?_append` : a value is read back from its bytes, and so are the elements of documents
  and arrays (`readElements_entries`, `readElements_items`).

Principal result: `decode?_of_encode?`.
-/

namespace DocumentQuery

namespace Value

theorem sortOptions_sortOptions (options : String) :
    sortOptions (sortOptions options) = sortOptions options := by
  have hsorted : (options.toList.mergeSort fun a b => decide (a.toNat ≤ b.toNat)).Pairwise
      fun a b => decide (a.toNat ≤ b.toNat) = true := by
    apply List.pairwise_mergeSort
    · simp only [decide_eq_true_eq]
      omega
    · simp only [Bool.or_eq_true, decide_eq_true_eq]
      omega
  rw [sortOptions, sortOptions, String.toList_ofList, List.mergeSort_of_pairwise hsorted]

end Value

namespace Bson

namespace Raw

mutual

/-- A value as its bytes give it. -/
def ofValue : Value → Raw
  | .array items => .array (ofItems items)
  | .document entries => .document (ofEntries entries)
  | .codeWithScope source scope => .codeWithScope source (ofEntries scope)
  | .regex pattern options => .leaf (.regex pattern (Value.sortOptions options))
  | value => .leaf value

def ofItems : List Value → List Raw
  | [] => []
  | item :: rest => ofValue item :: ofItems rest

def ofEntries : List (String × Value) → List (String × Raw)
  | [] => []
  | (key, value) :: rest => (key, ofValue value) :: ofEntries rest

end

end Raw

/-! ## Values without values in them -/

/-- A value that holds no other values is read back. -/
theorem readLeaf?_append {value found : Value} {tag : UInt8} {bytes : Bytes}
    (h : value? value = some (tag, bytes)) (hleaf : Raw.ofValue value = .leaf found)
    (hsize : bytes.length < sizeLimit) (rest : Bytes) :
    readLeaf? tag (bytes ++ rest) = some (found, rest) := by
  cases value with
  | array | document | codeWithScope => cases hleaf
  | null | minKey | maxKey | undefined =>
    cases hleaf
    cases h
    rfl
  | bool b =>
    cases hleaf
    cases h
    cases b <;> rfl
  | int32 n =>
    cases hleaf
    cases h
    simp +decide only [readLeaf?, if_false, if_true]
    rw [number?_append n.toUInt32.toNat_lt, Option.map_some, UInt32.ofNat_toNat]
    rfl
  | int64 n | date n =>
    cases hleaf
    cases h
    simp +decide only [readLeaf?, if_false, if_true]
    rw [number?_append n.toUInt64.toNat_lt, Option.map_some, UInt64.ofNat_toNat]
    rfl
  | double x =>
    cases hleaf
    cases h
    simp +decide only [readLeaf?, if_false, if_true]
    rw [number?_append x.bits.toNat_lt, Option.map_some, UInt64.ofNat_toNat]
  | decimal128 d =>
    cases hleaf
    cases h
    simp +decide only [readLeaf?, if_false, if_true]
    rw [number?_append d.bits.isLt, Option.map_some, BitVec.ofNat_toNat, BitVec.setWidth_eq]
  | string text | code text | symbol text =>
    cases hleaf
    cases h
    simp +decide only [readLeaf?, if_false, if_true]
    rw [text?_append hsize, Option.map_some]
  | objectId id =>
    cases hleaf
    cases h
    simp +decide only [readLeaf?, if_false, if_true]
    rw [objectId?_append, Option.map_some]
  | binary subtype bytes =>
    cases hleaf
    cases h
    simp +decide only [readLeaf?, if_false, if_true]
    exact binary?_append hsize rest
  | timestamp time increment =>
    cases hleaf
    cases h
    simp +decide only [readLeaf?, if_false, if_true]
    rw [List.append_assoc, number?_append increment.toNat_lt]
    simp only [Option.bind_eq_bind, Option.bind_some]
    rw [number?_append time.toNat_lt, Option.bind_some, UInt32.ofNat_toNat, UInt32.ofNat_toNat]
  | regex pattern options =>
    cases hleaf
    obtain ⟨patternBytes, hpattern, h⟩ := Option.bind_eq_some_iff.1 h
    obtain ⟨optionBytes, hoptions, h⟩ := Option.bind_eq_some_iff.1 h
    cases h
    simp +decide only [readLeaf?, if_false, if_true]
    rw [List.append_assoc, key?_append hpattern]
    simp only [Option.bind_eq_bind, Option.bind_some]
    rw [key?_append hoptions, Option.bind_some, Value.sortOptions_sortOptions]
  | dbPointer collection id =>
    cases hleaf
    cases h
    rw [List.length_append] at hsize
    simp +decide only [readLeaf?, if_false, if_true]
    rw [List.append_assoc, text?_append (by omega)]
    simp only [Option.bind_eq_bind, Option.bind_some]
    rw [objectId?_append, Option.bind_some]

theorem tag_of_leaf {value found : Value} {tag : UInt8} {bytes : Bytes}
    (h : value? value = some (tag, bytes)) (hleaf : Raw.ofValue value = .leaf found) :
    tag ≠ Tag.document ∧ tag ≠ Tag.array ∧ tag ≠ Tag.codeWithScope := by
  cases value with
  | array | document | codeWithScope => cases hleaf
  | regex pattern options =>
    obtain ⟨patternBytes, hpattern, h⟩ := Option.bind_eq_some_iff.1 h
    obtain ⟨optionBytes, hoptions, h⟩ := Option.bind_eq_some_iff.1 h
    cases h
    decide
  | _ =>
    cases h
    decide

theorem readValue?_leaf {value found : Value} {tag : UInt8} {bytes : Bytes}
    (elements : Bytes → List (String × Raw)) (h : value? value = some (tag, bytes))
    (hleaf : Raw.ofValue value = .leaf found) (hsize : bytes.length < sizeLimit) (rest : Bytes) :
    readValue? elements tag (bytes ++ rest) = some (.leaf found, rest) := by
  obtain ⟨hdocument, harray, hcode⟩ := tag_of_leaf h hleaf
  rw [readValue?, if_neg hdocument, if_neg harray, if_neg hcode, readLeaf?_append h hleaf hsize,
    Option.map_some]

/-! ## Elements -/

/-- The three steps by which an element is written before others. -/
theorem written_eq_some {value : Option (UInt8 × Bytes)} {first : UInt8 → Bytes → Option Bytes}
    {others : Option Bytes} {bytes : Bytes} :
    (do
      let (tag, body) ← value
      let front ← first tag body
      let rest ← others
      some (front ++ rest)) = some bytes ↔
      ∃ tag body front rest, value = some (tag, body) ∧ first tag body = some front ∧
        others = some rest ∧ bytes = front ++ rest := by
  rw [Option.bind_eq_bind, Option.bind_eq_some_iff]
  constructor
  · rintro ⟨⟨tag, body⟩, hvalue, h⟩
    obtain ⟨front, hfront, h⟩ := Option.bind_eq_some_iff.1 h
    obtain ⟨rest, hrest, h⟩ := Option.bind_eq_some_iff.1 h
    cases h
    exact ⟨tag, body, front, rest, hvalue, hfront, hrest, rfl⟩
  · rintro ⟨tag, body, front, rest, hvalue, hfront, hrest, rfl⟩
    exact ⟨_, hvalue, Option.bind_eq_some_iff.2 ⟨front, hfront,
      Option.bind_eq_some_iff.2 ⟨rest, hrest, rfl⟩⟩⟩

theorem elements?_cons_eq_some {key : String} {value : Value} {rest : List (String × Value)}
    {bytes : Bytes} : elements? ((key, value) :: rest) = some bytes ↔
      ∃ tag body first others, value? value = some (tag, body) ∧
        element? tag key body = some first ∧ elements? rest = some others ∧
        bytes = first ++ others := by
  rw [elements?]
  exact @written_eq_some _ (element? · key ·) _ _

theorem items?_cons_eq_some {index : Nat} {value : Value} {rest : List Value} {bytes : Bytes} :
    items? index (value :: rest) = some bytes ↔
      ∃ tag body first others, value? value = some (tag, body) ∧
        element? tag (String.ofList (Number.toDigits index)) body = some first ∧
        items? (index + 1) rest = some others ∧ bytes = first ++ others := by
  rw [items?]
  exact @written_eq_some _ (element? · (String.ofList (Number.toDigits index)) ·) _ _

/-- An element takes a byte for its tag and one for the end of its key at least. -/
theorem length_element? {tag : UInt8} {key : String} {body first : Bytes}
    (h : element? tag key body = some first) : body.length + 2 ≤ first.length := by
  obtain ⟨keyBytes, hkey, rfl⟩ := Option.map_eq_some_iff.1 h
  obtain ⟨_, rfl⟩ := keyBytes?_eq_some.1 hkey
  simp only [List.length_cons, List.length_append, List.length_nil]
  omega

/-- One element is read off the front, and the others after it. -/
theorem readElements_append {fuel : Nat} {tag : UInt8} {key : String} {body first rest : Bytes}
    {raw : Raw} (h : element? tag key body = some first)
    (hvalue : readValue? (readElements fuel) tag (body ++ rest) = some (raw, rest)) :
    readElements (fuel + 1) (first ++ rest) = (key, raw) :: readElements fuel rest := by
  have hlength := length_element? h
  have hmore : first ++ rest ≠ [0] := by
    intro hend
    have hends := congrArg List.length hend
    rw [List.length_append, List.length_singleton] at hends
    omega
  obtain ⟨keyBytes, hkey, rfl⟩ := Option.map_eq_some_iff.1 h
  have hread : readElement? (readElements fuel) (tag :: (keyBytes ++ body) ++ rest) =
      some ((key, raw), rest) := by
    rw [List.cons_append, List.append_assoc, readElement?, key?_append hkey]
    simp only [Option.bind_eq_bind, Option.bind_some, hvalue]
  rw [readElements, if_neg hmore, hread]

/-! ## Values with values in them -/

mutual

/-- **A value is read back from its bytes**, whatever follows them. -/
theorem readValue?_append (value : Value) {tag : UInt8} {bytes : Bytes} {fuel : Nat}
    (h : value? value = some (tag, bytes)) (hsize : bytes.length < sizeLimit)
    (hfuel : bytes.length ≤ fuel) (rest : Bytes) :
    readValue? (readElements fuel) tag (bytes ++ rest) = some (Raw.ofValue value, rest) := by
  match value with
  | .array items =>
    obtain ⟨elements, helements, h⟩ := Option.map_eq_some_iff.1 h
    cases h
    have hlength := length_framed elements
    simp +decide only [readValue?, if_false, if_true]
    rw [frame?_append hsize, Option.map_some]
    simp only [readElements_items items helements (by omega) (by omega : elements.length < fuel)]
    rfl
  | .document entries =>
    obtain ⟨elements, helements, h⟩ := Option.map_eq_some_iff.1 h
    cases h
    have hlength := length_framed elements
    simp +decide only [readValue?, if_false, if_true]
    rw [frame?_append hsize, Option.map_some]
    simp only [readElements_entries entries helements (by omega) (by omega : elements.length < fuel)]
    rfl
  | .codeWithScope source scope =>
    obtain ⟨elements, helements, h⟩ := Option.bind_eq_some_iff.1 h
    cases h
    have hlength := length_framed elements
    have htext := length_textBytes source
    simp only [List.length_append, length_littleEndian] at hsize hfuel
    have hframe := @frame?_append elements (by omega) []
    rw [List.append_nil] at hframe
    simp +decide only [readValue?, if_false, if_true]
    rw [List.append_assoc, length?_append (by rw [List.length_append]; omega)
      (by rw [List.length_append]; omega)]
    simp only [Option.bind_eq_bind, Option.bind_some]
    rw [take?_append (by omega), Option.bind_some, text?_append (by omega), Option.bind_some,
      hframe, Option.bind_some]
    simp only [readElements_entries scope helements (by omega) (by omega : elements.length < fuel)]
    rfl
  | .regex pattern options => exact readValue?_leaf _ h rfl hsize rest
  | .null | .bool _ | .int32 _ | .int64 _ | .double _ | .decimal128 _ | .string _ | .date _ |
    .objectId _ | .binary _ _ | .timestamp _ _ | .code _ | .symbol _ | .minKey | .maxKey |
    .undefined | .dbPointer _ _ => exact readValue?_leaf _ h rfl hsize rest

theorem readElements_entries (entries : List (String × Value)) {bytes : Bytes} {fuel : Nat}
    (h : elements? entries = some bytes) (hsize : bytes.length < sizeLimit)
    (hfuel : bytes.length < fuel) :
    readElements fuel (bytes ++ [0]) = Raw.ofEntries entries := by
  obtain ⟨fuel, rfl⟩ : ∃ n, fuel = n + 1 := ⟨fuel - 1, by omega⟩
  match entries with
  | [] =>
    cases h
    rfl
  | (key, value) :: others =>
    obtain ⟨tag, body, first, rest, hvalue, hfirst, hrest, rfl⟩ := elements?_cons_eq_some.1 h
    have hlength := length_element? hfirst
    rw [List.length_append] at hsize hfuel
    rw [List.append_assoc, readElements_append hfirst
      (readValue?_append value hvalue (by omega) (by omega) _),
      readElements_entries others hrest (by omega) (by omega)]
    rfl

theorem readElements_items (items : List Value) {index : Nat} {bytes : Bytes} {fuel : Nat}
    (h : items? index items = some bytes) (hsize : bytes.length < sizeLimit)
    (hfuel : bytes.length < fuel) :
    (readElements fuel (bytes ++ [0])).map Prod.snd = Raw.ofItems items := by
  obtain ⟨fuel, rfl⟩ : ∃ n, fuel = n + 1 := ⟨fuel - 1, by omega⟩
  match items with
  | [] =>
    cases h
    rfl
  | value :: others =>
    obtain ⟨tag, body, first, rest, hvalue, hfirst, hrest, rfl⟩ := items?_cons_eq_some.1 h
    have hlength := length_element? hfirst
    rw [List.length_append] at hsize hfuel
    rw [List.append_assoc, readElements_append hfirst
      (readValue?_append value hvalue (by omega) (by omega) _), List.map_cons,
      readElements_items others hrest (by omega) (by omega)]
    rfl

end

/-- **A document is read back from its bytes.** -/
theorem decode?_of_encode? {document : Document} {bytes : Bytes}
    (h : encode? document = some bytes) (hsize : bytes.length < sizeLimit) :
    decode? bytes = some (.document (Raw.ofEntries document)) := by
  obtain ⟨elements, helements, rfl⟩ := Option.map_eq_some_iff.1 h
  have hlength := length_framed elements
  have hframe := frame?_append hsize []
  rw [List.append_nil] at hframe
  rw [decode?, hframe, Option.map_some]
  simp only [readElements_entries document helements (by omega)
    (by simp : elements.length < (elements ++ [0]).length)]

end Bson

end DocumentQuery
