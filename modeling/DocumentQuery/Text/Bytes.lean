/-!
# Text as bytes

Byte sequences are plain lists, so that formats are written and read by recursion on them.

* `Text.toBytes`   : the UTF-8 form of a text;
* `Text.ofBytes?`  : the text of a UTF-8 byte sequence, nothing if it is malformed;
* `littleEndian`, `ofLittleEndian` : a number in a fixed count of bytes, least byte first.

Principal results: `Text.ofBytes?_toBytes`, `ofLittleEndian_littleEndian`.
-/

namespace DocumentQuery

/-- A byte sequence. -/
abbrev Bytes := List UInt8

namespace Text

/-- The UTF-8 form of a text. -/
def toBytes (s : String) : Bytes := s.toByteArray.data.toList

/-- The text whose UTF-8 form is `bytes`, if there is one. -/
def ofBytes? (bytes : Bytes) : Option String := String.fromUTF8? ⟨bytes.toArray⟩

theorem ofBytes?_toBytes (s : String) : ofBytes? (toBytes s) = some s := by
  have h : (⟨s.toByteArray.data.toList.toArray⟩ : ByteArray) = s.toByteArray := by simp
  simp only [ofBytes?, toBytes, h, String.fromUTF8?]
  rw [dif_pos s.isValidUTF8]
  rfl

end Text

/-- The last `count` base-256 digits of `n`, least first. -/
def littleEndian : Nat → Nat → Bytes
  | 0, _ => []
  | count + 1, n => UInt8.ofNat n :: littleEndian count (n / 256)

/-- The number whose base-256 digits, least first, are `bytes`. -/
def ofLittleEndian : Bytes → Nat
  | [] => 0
  | b :: rest => b.toNat + 256 * ofLittleEndian rest

theorem length_littleEndian (count n : Nat) : (littleEndian count n).length = count := by
  induction count generalizing n with
  | zero => rfl
  | succ count ih => simp [littleEndian, ih]

theorem ofLittleEndian_littleEndian (count n : Nat) :
    ofLittleEndian (littleEndian count n) = n % Nat.pow 256 count := by
  induction count generalizing n with
  | zero =>
    show 0 = n % 1
    exact (Nat.mod_one n).symm
  | succ count ih =>
    have hb : (UInt8.ofNat n).toNat = n % 256 := UInt8.toNat_ofNat'
    have hp : Nat.pow 256 (count + 1) = 256 * Nat.pow 256 count := Nat.mul_comm _ _
    rw [littleEndian, ofLittleEndian, ih, hb, hp, Nat.mod_mul]

end DocumentQuery
