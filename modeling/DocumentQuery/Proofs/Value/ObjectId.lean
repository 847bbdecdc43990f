import DocumentQuery.Value.ObjectId
import Mathlib.Tactic.SplitIfs

/-!
# Object identifiers in text

Bytes are read from their hexadecimal digits, each of them in either case. So a text is read as an
object identifier exactly if it is the identifier's digits, up to their case.

* `Text.hexValue?_eq_some`     : the value of a digit;
* `Text.Hex.decode?_eq_some`   : the bytes of a text;
* `ObjectId.ofHex?_eq_some`    : the object identifier of a text.

Principal result: `ObjectId.exists_ofHex?`, the texts that are read are those of twenty-four digits.
-/

namespace DocumentQuery

namespace Text

/-! ## Digits -/

theorem le_iff_toNat_le {a b : Char} : a ≤ b ↔ a.toNat ≤ b.toNat :=
  Char.le_def.trans UInt32.le_iff_toNat_le

theorem toNat_hexDigit : ∀ d < 16, (hexDigit d).toNat = if d < 10 then 48 + d else 87 + d := by
  decide

theorem toNat_toLower (c : Char) :
    c.toLower.toNat = if 65 ≤ c.toNat ∧ c.toNat ≤ 90 then c.toNat + 32 else c.toNat := by
  have hcapital : c.val ≥ 'A'.val ∧ c.val ≤ 'Z'.val ↔ 65 ≤ c.toNat ∧ c.toNat ≤ 90 :=
    and_congr UInt32.le_iff_toNat_le UInt32.le_iff_toNat_le
  unfold Char.toLower
  split
  · rename_i h
    have hrange := hcapital.1 h
    rw [if_pos hrange]
    show (c.val + 32).toNat = c.val.toNat + 32
    have hsmall : c.val.toNat ≤ 90 := hrange.2
    rw [UInt32.toNat_add]
    show (c.val.toNat + 32) % 2 ^ 32 = c.val.toNat + 32
    omega
  · rename_i h
    rw [if_neg (mt hcapital.2 h)]

/-- The value of a digit is the one that its lower-case form is written for. -/
theorem hexValue?_eq_some {c : Char} {d : Nat} :
    hexValue? c = some d ↔ d < 16 ∧ hexDigit d = c.toLower := by
  have hdecimal : '0' ≤ c ∧ c ≤ '9' ↔ 48 ≤ c.toNat ∧ c.toNat ≤ 57 :=
    and_congr le_iff_toNat_le le_iff_toNat_le
  have hlower : 'a' ≤ c ∧ c ≤ 'f' ↔ 97 ≤ c.toNat ∧ c.toNat ≤ 102 :=
    and_congr le_iff_toNat_le le_iff_toNat_le
  have hupper : 'A' ≤ c ∧ c ≤ 'F' ↔ 65 ≤ c.toNat ∧ c.toNat ≤ 70 :=
    and_congr le_iff_toNat_le le_iff_toNat_le
  have hwritten : (d < 16 ∧ hexDigit d = c.toLower) ↔
      d < 16 ∧ (if d < 10 then 48 + d else 87 + d) =
        if 65 ≤ c.toNat ∧ c.toNat ≤ 90 then c.toNat + 32 else c.toNat := by
    refine and_congr_right fun hd => ?_
    rw [← Char.toNat_inj, toNat_hexDigit d hd, toNat_toLower]
  rw [hwritten]
  unfold hexValue?
  simp only [hdecimal, hlower, hupper]
  generalize c.toNat = n
  split_ifs <;> simp only [Option.some.injEq, false_iff] <;> omega

/-! ## Bytes -/

namespace Hex

theorem toNat_byte {high low : Nat} (hhigh : high < 16) (hlow : low < 16) :
    (UInt8.ofNat (16 * high + low)).toNat = 16 * high + low := by
  rw [UInt8.toNat_ofNat']
  omega

theorem decode?_cons_eq_some {high low : Char} {rest : List Char} {bytes : Bytes} :
    decode? (high :: low :: rest) = some bytes ↔
      ∃ h l others, hexValue? high = some h ∧ hexValue? low = some l ∧
        decode? rest = some others ∧ bytes = UInt8.ofNat (16 * h + l) :: others := by
  rw [decode?]
  simp only [Option.bind_eq_bind, Option.bind_eq_some_iff, Option.pure_def, Option.some.injEq]
  constructor
  · rintro ⟨h, hh, l, hl, others, hothers, rfl⟩
    exact ⟨h, l, others, hh, hl, hothers, rfl⟩
  · rintro ⟨h, l, others, hh, hl, hothers, rfl⟩
    exact ⟨h, hh, l, hl, others, hothers, rfl⟩

/-- **A text is read as the bytes whose digits it has**, in either case. -/
theorem decode?_eq_some {text : List Char} {bytes : Bytes} :
    decode? text = some bytes ↔ encode bytes = text.map Char.toLower := by
  induction text using decode?.induct generalizing bytes with
  | case1 => cases bytes <;> simp [decode?, encode]
  | case2 c => cases bytes <;> simp [decode?, encode]
  | case3 high low rest ih =>
    rw [decode?_cons_eq_some]
    simp only [hexValue?_eq_some, ih, List.map_cons]
    constructor
    · rintro ⟨h, l, others, ⟨hh, hhigh⟩, ⟨hl, hlow⟩, hothers, rfl⟩
      have hfirst : (16 * h + l) / 16 = h := by omega
      have hsecond : (16 * h + l) % 16 = l := by omega
      rw [encode, toNat_byte hh hl, hfirst, hsecond, hhigh, hlow, hothers]
    · intro hdigits
      cases bytes with
      | nil => cases hdigits
      | cons byte others =>
        have hbyte := byte.toNat_lt
        rw [encode, List.cons.injEq, List.cons.injEq] at hdigits
        obtain ⟨hhigh, hlow, hothers⟩ := hdigits
        refine ⟨byte.toNat / 16, byte.toNat % 16, others, ⟨by omega, hhigh⟩, ⟨by omega, hlow⟩,
          hothers, ?_⟩
        rw [Nat.div_add_mod, UInt8.ofNat_toNat]

theorem length_encode (bytes : Bytes) : (encode bytes).length = 2 * bytes.length := by
  induction bytes with
  | nil => rfl
  | cons byte rest ih =>
    simp only [encode, List.length_cons, ih]
    omega

/-- Every even count of digits is read. -/
theorem exists_decode? {text : List Char} :
    (∃ bytes, decode? text = some bytes) ↔
      text.length % 2 = 0 ∧ ∀ c ∈ text, (hexValue? c).isSome := by
  induction text using decode?.induct with
  | case1 => simp [decode?]
  | case2 c => simp [decode?]
  | case3 high low rest ih =>
    simp only [List.forall_mem_cons, List.length_cons]
    constructor
    · rintro ⟨bytes, hbytes⟩
      obtain ⟨h, l, others, hh, hl, hothers, -⟩ := decode?_cons_eq_some.1 hbytes
      obtain ⟨heven, hrest⟩ := ih.1 ⟨others, hothers⟩
      exact ⟨by omega, by rw [hh]; rfl, by rw [hl]; rfl, hrest⟩
    · rintro ⟨heven, hhigh, hlow, hrest⟩
      obtain ⟨h, hh⟩ := Option.isSome_iff_exists.1 hhigh
      obtain ⟨l, hl⟩ := Option.isSome_iff_exists.1 hlow
      obtain ⟨others, hothers⟩ := ih.2 ⟨by omega, hrest⟩
      exact ⟨_, decode?_cons_eq_some.2 ⟨h, l, others, hh, hl, hothers, rfl⟩⟩

end Hex

end Text

/-! ## Object identifiers -/

namespace ObjectId

open Text (hexValue?)

theorem ofHex?_eq_some {text : String} {id : ObjectId} :
    ofHex? text = some id ↔ id.toHex.toList = text.toList.map Char.toLower := by
  have hbytes : ∀ bytes, ofBytes? bytes = some id ↔ bytes = id.bytes := by
    intro bytes
    obtain ⟨own, hown⟩ := id
    unfold ofBytes?
    split
    · simp
    · rename_i hsize
      simp only [reduceCtorEq, false_iff]
      exact fun hsame => hsize (hsame ▸ hown)
  rw [ofHex?, Option.bind_eq_some_iff, toHex, String.toList_ofList, ← Text.Hex.decode?_eq_some]
  simp only [hbytes, exists_eq_right]

/-- **The texts that are read are those of twenty-four hexadecimal digits.** -/
theorem exists_ofHex? {text : String} :
    (∃ id, ofHex? text = some id) ↔
      text.toList.length = 24 ∧ ∀ c ∈ text.toList, (hexValue? c).isSome := by
  constructor
  · rintro ⟨id, hid⟩
    have hdigits := ofHex?_eq_some.1 hid
    have hread : Text.Hex.decode? text.toList = some id.bytes := by
      rw [Text.Hex.decode?_eq_some, ← hdigits, toHex, String.toList_ofList]
    have hlength := congrArg List.length (Text.Hex.decode?_eq_some.1 hread)
    rw [Text.Hex.length_encode, id.size, List.length_map] at hlength
    exact ⟨hlength.symm, (Text.Hex.exists_decode?.1 ⟨_, hread⟩).2⟩
  · rintro ⟨hlength, hdigits⟩
    obtain ⟨bytes, hbytes⟩ := Text.Hex.exists_decode?.2 ⟨by rw [hlength], hdigits⟩
    have hencoded := congrArg List.length (Text.Hex.decode?_eq_some.1 hbytes)
    rw [Text.Hex.length_encode, List.length_map, hlength] at hencoded
    have hsize : bytes.length = 12 := by omega
    exact ⟨⟨bytes, hsize⟩, by rw [ofHex?, hbytes, Option.bind_some, ofBytes?, dif_pos hsize]⟩

end ObjectId

end DocumentQuery
