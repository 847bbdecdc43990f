import DocumentQuery.Proofs.Cursor.TokenRoundTrip

/-!
# Lengths of cursor tokens

A token is as long as the bytes of its values make it: four symbols for every three of them. So
there are tokens of any length, as a text is always shorter than the token that carries it.

* `Token.exists_bytes`           : a token is written from the bytes of its values;
* `Token.utf8ByteSize_of_bytes`  : how long it is;
* `Token.utf8ByteSize_text_lt`   : how long it is at least.
-/

namespace DocumentQuery

namespace Text

theorem length_toBytes (s : String) : (toBytes s).length = s.utf8ByteSize := by
  rfl

/-- Every character takes a byte at least. -/
theorem length_le_utf8ByteSize (s : String) : s.toList.length ≤ s.utf8ByteSize := by
  have hbytes : ∀ chars : List Char,
      chars.length ≤ (chars.flatMap String.utf8EncodeChar).length := by
    intro chars
    induction chars with
    | nil => exact Nat.le_refl 0
    | cons c rest ih =>
      have hsize := Char.utf8Size_pos c
      rw [List.flatMap_cons, List.length_append, String.length_utf8EncodeChar, List.length_cons]
      omega
  rw [← length_toBytes, toBytes_eq]
  exact hbytes s.toList

/-- A text of characters of one byte has as many bytes as characters. -/
theorem utf8ByteSize_of_single {chars : List Char} (h : ∀ c ∈ chars, c.utf8Size = 1) :
    (String.ofList chars).utf8ByteSize = chars.length := by
  rw [← length_toBytes, toBytes_eq, String.toList_ofList]
  induction chars with
  | nil => rfl
  | cons c rest ih =>
    obtain ⟨hc, hrest⟩ := List.forall_mem_cons.1 h
    rw [List.flatMap_cons, List.length_append, String.length_utf8EncodeChar, hc, ih hrest,
      List.length_cons, Nat.add_comm]

end Text

namespace Bson

/-- The bytes of a value are among those of a list that it is in. -/
theorem length_lt_of_mem_items {items : List Value} {value : Value} {tag : UInt8}
    {body bytes : Bytes} {index : Nat} (hvalue : value? value = some (tag, body))
    (hmem : value ∈ items) (h : items? index items = some bytes) : body.length < bytes.length := by
  induction items generalizing index bytes with
  | nil => cases hmem
  | cons item rest ih =>
    obtain ⟨own, found, first, others, hown, hfirst, hothers, rfl⟩ := items?_cons_eq_some.1 h
    have hlength := length_element? hfirst
    rw [List.length_append]
    rcases List.mem_cons.1 hmem with rfl | hmem
    · cases hvalue.symm.trans hown
      omega
    · have hrest := ih hmem hothers
      omega

end Bson

namespace Cursor.Token

open Text.Base64 (encodeUrl)

variable {values : List Value} {token : String}

/-- A token is written from the bytes of its values. -/
theorem exists_bytes (h : encode values = .ok token) :
    ∃ bytes, Bson.encode? (payload values) = some bytes ∧
      token = String.ofList (encodeUrl bytes) := by
  unfold encode at h
  split at h
  · rename_i bytes hbytes
    exact ⟨bytes, hbytes, (Except.ok.inj h).symm⟩
  · cases h

theorem utf8ByteSize_of_bytes (bytes : Bytes) :
    (String.ofList (encodeUrl bytes)).utf8ByteSize = (4 * bytes.length + 2) / 3 := by
  rw [← Text.Base64.length_encode]
  exact Text.utf8ByteSize_of_single
    (Text.Base64.forall_mem_encode Text.Base64.utf8Size_symbol_url bytes)

/-- **A text is shorter than the token that carries it.** -/
theorem utf8ByteSize_text_lt {text : String} (hmem : .string text ∈ values)
    (h : encode values = .ok token) : text.utf8ByteSize < token.utf8ByteSize := by
  obtain ⟨bytes, hbytes, rfl⟩ := exists_bytes h
  obtain ⟨elements, helements, rfl⟩ := Option.map_eq_some_iff.1 hbytes
  obtain ⟨tag, body, first, others, hvalue, hfirst, _, rfl⟩ :=
    Bson.elements?_cons_eq_some.1 helements
  obtain ⟨inner, hinner, hbody⟩ := Option.map_eq_some_iff.1 hvalue
  cases hbody
  have htext := Bson.length_lt_of_mem_items rfl hmem hinner
  have hframe := Bson.length_framed inner
  have hlist := Bson.length_element? hfirst
  rw [Bson.length_textBytes, Text.length_toBytes] at htext
  rw [utf8ByteSize_of_bytes, Bson.length_framed, List.length_append]
  omega

end Cursor.Token

end DocumentQuery
