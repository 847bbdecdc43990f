import DocumentQuery.Text.Bytes
import Mathlib.Data.String.Basic

/-!
# The bytes of texts

A text is written character by character. A byte below 128 is a character of its own, and texts in
ascending order have their bytes in ascending order.

* `toBytes_eq`      : the bytes of the characters, one after another;
* `toBytes_append`  : the bytes of two texts;
* `not_mem_toBytes` : a byte below 128 is there only if its character is.

Principal result: `toBytes_lt`.
-/

namespace DocumentQuery.Text

theorem toBytes_eq (s : String) : toBytes s = s.toList.flatMap String.utf8EncodeChar := by
  rw [toBytes, ← String.utf8Encode_toList, List.utf8Encode, List.data_toByteArray]

theorem toBytes_append (s t : String) : toBytes (s ++ t) = toBytes s ++ toBytes t := by
  simp only [toBytes_eq, String.toList_append, List.flatMap_append]

theorem toBytes_injective : Function.Injective toBytes := by
  intro s t h
  have htexts := congrArg ofBytes? h
  rwa [ofBytes?_toBytes, ofBytes?_toBytes, Option.some.injEq] at htexts

/-! ## Single bytes -/

/-- A byte below 128 stands for the character of that number. -/
theorem toNat_eq_of_mem {c : Char} {b : UInt8} (hb : b.toNat < 128)
    (h : b ∈ String.utf8EncodeChar c) : c.toNat = b.toNat := by
  have hbyte : ∀ n, b = UInt8.ofNat n ↔ n % 256 = b.toNat := by
    intro n
    rw [← UInt8.toNat_inj, UInt8.toNat_ofNat', eq_comm]
  show c.val.toNat = b.toNat
  simp only [String.utf8EncodeChar] at h
  split at h
  · rw [List.mem_singleton, hbyte] at h
    omega
  -- The bytes of all other characters are 128 at least.
  · repeat' split at h
    all_goals
      simp only [List.mem_cons, List.not_mem_nil, or_false, hbyte] at h
      omega

theorem not_mem_toBytes {s : String} {b : UInt8} (hb : b.toNat < 128)
    (h : ∀ c ∈ s.toList, c.toNat ≠ b.toNat) : b ∉ toBytes s := by
  rw [toBytes_eq, List.mem_flatMap]
  rintro ⟨c, hc, hmem⟩
  exact h c hc (toNat_eq_of_mem hb hmem)

/-! ## Order -/

theorem exists_utf8EncodeChar (c : Char) :
    ∃ first others, String.utf8EncodeChar c = first :: others := by
  apply List.exists_cons_of_length_pos
  rw [String.length_utf8EncodeChar]
  exact c.utf8Size_pos

/-- Of two characters the greater one has the greater bytes, whatever follows. -/
theorem utf8EncodeChar_append_lt {c d : Char} (h : c < d) (first second : Bytes) :
    String.utf8EncodeChar c ++ first < String.utf8EncodeChar d ++ second := by
  have hlt : ∀ m n, m < 256 → n < 256 → (UInt8.ofNat m < UInt8.ofNat n ↔ m < n) := by
    intro m n hm hn
    rw [UInt8.lt_iff_toNat_lt, UInt8.toNat_ofNat_of_lt' hm, UInt8.toNat_ofNat_of_lt' hn]
  have heq : ∀ m n, m < 256 → n < 256 → (UInt8.ofNat m = UInt8.ofNat n ↔ m = n) := by
    intro m n hm hn
    rw [← UInt8.toNat_inj, UInt8.toNat_ofNat_of_lt' hm, UInt8.toNat_ofNat_of_lt' hn]
  have hcode : c.val.toNat < d.val.toNat := h
  have hd : d.val.toNat < 0x110000 := by
    rcases d.valid with hvalid | hvalid <;> omega
  by_cases hlong : c.val.toNat ≤ 0xFFFF
  · simp only [String.utf8EncodeChar]
    repeat' split
    all_goals
      simp (disch := omega) only [List.cons_append, List.nil_append, List.cons_lt_cons_iff, hlt,
        heq]
      omega
  -- Both characters have four bytes. Each of the quotients behind them is greater or the same.
  · have hquotient : ∀ k, c.val.toNat / k < d.val.toNat / k ∨ c.val.toNat / k = d.val.toNat / k :=
      fun k => Nat.lt_or_eq_of_le (Nat.div_le_div_right hcode.le)
    simp only [String.utf8EncodeChar]
    repeat rw [if_neg (by omega)]
    simp (disch := omega) only [List.cons_append, List.nil_append, List.cons_lt_cons_iff, hlt, heq]
    rcases hquotient 262144 with h1 | h1 <;> rcases hquotient 4096 with h2 | h2 <;>
      rcases hquotient 64 with h3 | h3 <;> omega

theorem flatMap_utf8EncodeChar_lt {s t : List Char} (h : s < t) :
    s.flatMap String.utf8EncodeChar < t.flatMap String.utf8EncodeChar := by
  induction s generalizing t with
  | nil =>
    cases t with
    | nil => exact absurd h (List.lt_irrefl _)
    | cons d t =>
      obtain ⟨first, others, hd⟩ := exists_utf8EncodeChar d
      rw [List.flatMap_cons, hd]
      exact List.nil_lt_cons _ _
  | cons c s ih =>
    cases t with
    | nil => exact absurd h (List.not_lt_nil _)
    | cons d t =>
      rw [List.flatMap_cons, List.flatMap_cons]
      rcases List.cons_lt_cons_iff.1 h with hlt | ⟨rfl, hrest⟩
      · exact utf8EncodeChar_append_lt hlt _ _
      · exact List.append_left_lt (ih hrest)

/-- **Texts in ascending order have their bytes in ascending order.** -/
theorem toBytes_lt {s t : String} (h : s < t) : toBytes s < toBytes t := by
  rw [toBytes_eq, toBytes_eq]
  exact flatMap_utf8EncodeChar_lt (String.lt_iff_toList_lt.1 h)

end DocumentQuery.Text
