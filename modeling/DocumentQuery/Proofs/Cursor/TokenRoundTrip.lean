import DocumentQuery.Proofs.Cursor.Token
import DocumentQuery.Proofs.Text.Base64
import DocumentQuery.Proofs.Value.Plain

/-!
# Tokens read back

The token of plain values is read back as these values: their bytes are written in symbols of the
URL-safe alphabet, none of which is a blank, so that blanks around a token are told apart from it.

* `Token.payload?_of_encode?` : the document of a token, from its bytes;
* `Token.decode_padded`       : a token with blanks around it is read unless it is too long;
* `Token.exists_readable`     : there is a token that is read back.

Principal result: `Token.decode_encode`.
-/

namespace DocumentQuery.Cursor.Token

open Text.Base64 (encodeUrl urlAlphabet)
open Value (Plain)

variable {values : List Value} {bytes : Bytes}

/-! ## Writing -/

/-- The document of a token. -/
def payload (values : List Value) : Document := [(valuesKey, .array values)]

theorem plain_payload (h : ∀ value ∈ values, Plain value) : Plain (.document (payload values)) := by
  have hkey : Value.PlainKey valuesKey := ⟨by decide, by decide⟩
  exact .document (List.forall_mem_singleton.2 hkey) (List.pairwise_singleton _ _)
    (List.forall_mem_singleton.2 (.array h))

theorem encode_eq_ok (h : Bson.encode? (payload values) = some bytes) :
    encode values = .ok (String.ofList (encodeUrl bytes)) := by
  have hwritten : Bson.encode? [(valuesKey, .array values)] = some bytes := h
  rw [encode, hwritten]

theorem bytes_ne_nil (h : Bson.encode? (payload values) = some bytes) : bytes ≠ [] := by
  obtain ⟨elements, _, rfl⟩ := Option.map_eq_some_iff.1 h
  have hlength := Bson.length_framed elements
  intro hnil
  rw [hnil, List.length_nil] at hlength
  omega

/-! ## Reading -/

theorem payload?_of_encode? (hplain : ∀ value ∈ values, Plain value)
    (h : Bson.encode? (payload values) = some bytes) (hsize : bytes.length < Bson.sizeLimit) :
    payload? bytes = some (payload values) := by
  have hmeans : (Bson.Raw.document (Bson.Raw.ofEntries (payload values))).value? =
      some (.document (payload values)) := Bson.Raw.value?_ofValue (plain_payload hplain)
  rw [payload?, Bson.decode?_of_encode? h hsize]
  simp only [Option.bind_eq_bind, Option.bind_some, hmeans]
  rfl

theorem decode_padded (hplain : ∀ value ∈ values, Plain value)
    (h : Bson.encode? (payload values) = some bytes) (hsize : bytes.length < Bson.sizeLimit)
    (limit : Nat) {before after : String} (hbefore : isBlank before = true)
    (hafter : isBlank after = true) :
    decode limit (before ++ String.ofList (encodeUrl bytes) ++ after) =
      if (String.ofList (encodeUrl bytes)).utf8ByteSize ≤ limit then .ok values
      else .error (.invalidCursor
        (.tooLong (String.ofList (encodeUrl bytes)).utf8ByteSize limit)) := by
  have htrim : Text.trim (before ++ String.ofList (encodeUrl bytes) ++ after).toList =
      encodeUrl bytes := by
    rw [String.toList_append, String.toList_append, String.toList_ofList]
    exact Text.trim_padded hbefore hafter
      (Text.Base64.forall_mem_encode Text.Base64.isBlank_symbol_url bytes)
  split
  · rename_i hfits
    exact decode_of_payload htrim hfits (Text.Base64.decode?_encode Text.Base64.value?_symbol_url _)
      (payload?_of_encode? hplain h hsize) rfl
  · rename_i hlong
    have hsymbols : ¬(encodeUrl bytes).isEmpty = true := by
      rw [List.isEmpty_iff]
      exact Text.Base64.encode_ne_nil (bytes_ne_nil h)
    unfold decode
    simp only [htrim]
    rw [if_neg hsymbols, if_pos (Nat.lt_of_not_le hlong)]

/-- Values whose token is short enough are read back from it. -/
theorem exists_readable (hplain : ∀ value ∈ values, Plain value)
    (h : Bson.encode? (payload values) = some bytes) (hsize : bytes.length < Bson.sizeLimit)
    {limit : Nat} (hshort : (String.ofList (encodeUrl bytes)).utf8ByteSize ≤ limit) :
    ∃ token, encode values = .ok token ∧ decode limit token = .ok values := by
  have hdecode := @decode_padded values bytes hplain h hsize limit "" "" rfl rfl
  rw [String.empty_append, String.append_empty, if_pos hshort] at hdecode
  exact ⟨_, encode_eq_ok h, hdecode⟩

/-- **Tokens carry plain values without loss.** There is a token, it is made of the symbols of the
alphabet, and with any blanks around it it is read back as the values that it was written from, each
with its type, exactly if it is no longer than a token may be. -/
theorem decode_encode (hplain : ∀ value ∈ values, Plain value)
    (hsize : ∀ bytes, Bson.encode? (payload values) = some bytes →
      bytes.length < Bson.sizeLimit) :
    ∃ token, encode values = .ok token ∧ token ≠ "" ∧
      (∀ c ∈ token.toList, urlAlphabet.IsSymbol c) ∧
      ∀ limit before after, isBlank before = true → isBlank after = true →
        decode limit (before ++ token ++ after) =
          if token.utf8ByteSize ≤ limit then .ok values
          else .error (.invalidCursor (.tooLong token.utf8ByteSize limit)) := by
  obtain ⟨bytes, hbytes⟩ := Bson.exists_encode? (plain_payload hplain)
  have hsymbols : (String.ofList (encodeUrl bytes)).toList = encodeUrl bytes :=
    String.toList_ofList
  refine ⟨String.ofList (encodeUrl bytes), encode_eq_ok hbytes, ?_, ?_,
    fun limit before after hbefore hafter =>
      decode_padded hplain hbytes (hsize bytes hbytes) limit hbefore hafter⟩
  · intro hempty
    rw [hempty] at hsymbols
    exact Text.Base64.encode_ne_nil (bytes_ne_nil hbytes) hsymbols.symm
  · rw [hsymbols]
    exact Text.Base64.forall_mem_encode Text.Base64.isSymbol_symbol_url bytes

/-- A document with a list in it, a binary value with a second length, and a text that holds a NUL
character. -/
theorem decode_encode_nested :
    let values : List Value :=
      [.document [("a", .array [.null]), ("é", .binary 2 [1, 2])], .string "\x00"]
    ∃ token, encode values = .ok token ∧ token.utf8ByteSize = 75 ∧
      decode 75 (" " ++ token ++ "\n") = .ok values ∧
      decode 74 ("" ++ token ++ " ") = .error (.invalidCursor (.tooLong 75 74)) := by
  intro values
  have hdocument : Plain (.document [("a", .array [.null]), ("é", .binary 2 [1, 2])]) := by
    refine .document ?_ (by decide) ?_
    · exact List.forall_mem_cons.2 ⟨⟨by decide, by decide⟩,
        List.forall_mem_singleton.2 ⟨by decide, by decide⟩⟩
    · exact List.forall_mem_cons.2 ⟨.array (List.forall_mem_singleton.2 .null),
        List.forall_mem_singleton.2 (.binary _ _)⟩
  have hplain : ∀ value ∈ values, Plain value :=
    List.forall_mem_cons.2 ⟨hdocument, List.forall_mem_singleton.2 (.string _)⟩
  have hlength : (Bson.encode? (payload values)).map List.length = some 56 := rfl
  have hsize : ∀ bytes, Bson.encode? (payload values) = some bytes →
      bytes.length < Bson.sizeLimit := by
    intro bytes hbytes
    rw [hbytes] at hlength
    rw [Option.some.inj hlength]
    decide
  obtain ⟨token, hencode, -, -, hdecode⟩ := decode_encode hplain hsize
  have htoken : encode values =
      .ok "OAAAAAR2ADAAAAADMAAfAAAABGEACAAAAAowAAAFw6kABgAAAAICAAAAAQIAAjEAAgAAAAAAAAA" := rfl
  have hbytes : token.utf8ByteSize = 75 := by
    rw [← Except.ok.inj (htoken.symm.trans hencode)]
    rfl
  have hread := hdecode 75 " " "\n" (by decide) (by decide)
  have hlong := hdecode 74 "" " " (by decide) (by decide)
  rw [hbytes, if_pos (by decide)] at hread
  rw [hbytes, if_neg (by decide)] at hlong
  exact ⟨token, hencode, hbytes, hread, hlong⟩

end DocumentQuery.Cursor.Token
