import DocumentQuery.Proofs.Text.Utf8
import DocumentQuery.Value.Bson.Reader
import DocumentQuery.Value.Bson.Writer

/-!
# Fields of BSON read back

Each field of the format is read back from the front of any bytes that begin with its written
form, and what follows is left: numbers, keys, texts, frames, identifiers and binary values. Where
a length is written the field has to be shorter than `sizeLimit`, as a length is a signed number.

* `Text.zero_not_mem_toBytes` : only the NUL character is written with a zero byte, so that a key
  ends where it says;
* `key?_append`, `text?_append`, `frame?_append`, `binary?_append` : the fields.
-/

namespace DocumentQuery

namespace Text

theorem zero_not_mem_toBytes {s : String} (h : '\x00' ∉ s.toList) : 0 ∉ toBytes s := by
  apply not_mem_toBytes (by decide)
  intro c hc hzero
  have hnul : c = '\x00' := Char.toNat_inj.1 hzero
  exact h (hnul ▸ hc)

end Text

namespace Bson

/-- Lengths are less than this. -/
def sizeLimit : Nat := 2147483648

/-! ## Numbers -/

theorem take?_append {count : Nat} {bytes : Bytes} (h : bytes.length = count) (rest : Bytes) :
    take? count (bytes ++ rest) = some (bytes, rest) := by
  subst h
  simp [take?]

theorem number?_append {count n : Nat} (h : n < Nat.pow 256 count) (rest : Bytes) :
    number? count (littleEndian count n ++ rest) = some (n, rest) := by
  rw [number?, take?_append (length_littleEndian count n), Option.map_some]
  simp only [ofLittleEndian_littleEndian, Nat.mod_eq_of_lt h]

theorem length?_append {least n : Nat} (hleast : least ≤ n) (h : n < sizeLimit) (rest : Bytes) :
    length? least (littleEndian 4 n ++ rest) = some (n, rest) := by
  unfold sizeLimit at h
  have hpower : n < Nat.pow 256 4 := Nat.lt_trans h (by decide)
  have hlow : (-0x80000000 : Int) ≤ n := by omega
  have hhigh : (n : Int) ≤ 0x7FFFFFFF := by omega
  have hrange : Number.Range.int32.holds n = true :=
    Bool.and_eq_true_iff.2 ⟨decide_eq_true hlow, decide_eq_true hhigh⟩
  rw [length?, number?_append hpower]
  simp [Option.filter, hleast, hrange]

/-! ## Texts -/

theorem keyBytes?_eq_some {s : String} {bytes : Bytes} :
    keyBytes? s = some bytes ↔ 0 ∉ Text.toBytes s ∧ bytes = Text.toBytes s ++ [0] := by
  simp only [keyBytes?]
  split
  · rename_i h
    simp [List.contains_iff_mem.1 h]
  · rename_i h
    rw [List.contains_iff_mem] at h
    simp [h, eq_comm]

/-- A key is read up to its zero byte. -/
theorem key?_append {s : String} {bytes : Bytes} (h : keyBytes? s = some bytes) (rest : Bytes) :
    key? (bytes ++ rest) = some (s, rest) := by
  obtain ⟨hzero, rfl⟩ := keyBytes?_eq_some.1 h
  have htake : (Text.toBytes s ++ [0] ++ rest).takeWhile (· ≠ 0) = Text.toBytes s := by
    rw [List.append_assoc, List.takeWhile_append_of_pos]
    · simp
    · intro b hb
      rw [decide_eq_true_eq]
      exact fun hb' => hzero (hb' ▸ hb)
  have hdrop : (Text.toBytes s ++ [0] ++ rest).drop (Text.toBytes s).length = 0 :: rest := by
    rw [List.append_assoc, List.drop_left]
    rfl
  simp only [key?, htake, hdrop, Text.ofBytes?_toBytes, Option.map_some]

theorem length_textBytes (s : String) : (textBytes s).length = (Text.toBytes s).length + 5 := by
  simp only [textBytes, List.length_append, length_littleEndian, List.length_singleton]
  omega

theorem text?_append {s : String} (h : (textBytes s).length < sizeLimit) (rest : Bytes) :
    text? (textBytes s ++ rest) = some (s, rest) := by
  rw [length_textBytes] at h
  have hsplit : textBytes s ++ rest =
      littleEndian 4 ((Text.toBytes s).length + 1) ++ ((Text.toBytes s ++ [0]) ++ rest) := by
    simp only [textBytes, List.append_assoc]
  have hterminated : unterminated? (Text.toBytes s ++ [0]) = some (Text.toBytes s) := by
    simp [unterminated?]
  rw [text?, hsplit, length?_append (Nat.le_add_left 1 _) (by omega)]
  simp only [Option.bind_eq_bind, Option.bind_some]
  rw [take?_append (by simp), Option.bind_some, hterminated, Option.bind_some,
    Text.ofBytes?_toBytes]
  rfl

/-! ## Frames -/

theorem length_framed (elements : Bytes) : (framed elements).length = elements.length + 5 := by
  simp only [framed, List.length_append, length_littleEndian, List.length_singleton]
  omega

/-- The elements of a document are read with the zero byte at their end. -/
theorem frame?_append {elements : Bytes} (h : (framed elements).length < sizeLimit)
    (rest : Bytes) : frame? (framed elements ++ rest) = some (elements ++ [0], rest) := by
  rw [length_framed] at h
  have hsplit : framed elements ++ rest =
      littleEndian 4 (elements.length + 5) ++ ((elements ++ [0]) ++ rest) := by
    simp only [framed, List.append_assoc]
  rw [frame?, hsplit, length?_append (Nat.le_add_left 5 _) h]
  simp only [Option.bind_eq_bind, Option.bind_some]
  rw [take?_append (by simp), Option.bind_some, if_pos (by simp)]

/-! ## Identifiers and binary values -/

theorem objectId?_append (id : ObjectId) (rest : Bytes) :
    objectId? (id.bytes ++ rest) = some (id, rest) := by
  rw [objectId?, take?_append id.size]
  simp only [Option.bind_eq_bind, Option.bind_some, ObjectId.ofBytes?, dif_pos id.size]

theorem binary?_append {subtype : UInt8} {bytes : Bytes}
    (h : (binaryBytes subtype bytes).length < sizeLimit) (rest : Bytes) :
    binary? (binaryBytes subtype bytes ++ rest) = some (.binary subtype bytes, rest) := by
  by_cases hsubtype : subtype = lengthPrefixed
  · have hsplit : binaryBytes subtype bytes ++ rest = littleEndian 4 (bytes.length + 4) ++
        (subtype :: ((littleEndian 4 bytes.length ++ bytes) ++ rest)) := by
      simp only [binaryBytes, if_pos hsubtype, List.append_assoc, List.cons_append]
    have hlength := congrArg List.length hsplit
    simp only [List.length_append, List.length_cons, length_littleEndian] at hlength
    have hinner : bytes.length < Nat.pow 256 4 := by
      have hpower : sizeLimit < Nat.pow 256 4 := by decide
      omega
    rw [binary?, hsplit, length?_append (Nat.zero_le _) (by omega)]
    simp only [Option.bind_eq_bind, Option.bind_some]
    rw [take?_append (by simp [length_littleEndian]; omega), Option.bind_some, if_pos hsubtype,
      number?_append hinner, Option.bind_some, if_pos rfl]
  · have hsplit : binaryBytes subtype bytes ++ rest =
        littleEndian 4 bytes.length ++ (subtype :: (bytes ++ rest)) := by
      simp only [binaryBytes, if_neg hsubtype, List.append_assoc, List.cons_append]
    have hlength := congrArg List.length hsplit
    simp only [List.length_append, List.length_cons, length_littleEndian] at hlength
    rw [binary?, hsplit, length?_append (Nat.zero_le _) (by omega)]
    simp only [Option.bind_eq_bind, Option.bind_some]
    rw [take?_append rfl, Option.bind_some, if_neg hsubtype]

end Bson

end DocumentQuery
