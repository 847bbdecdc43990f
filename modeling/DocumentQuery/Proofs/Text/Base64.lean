import DocumentQuery.Text.Base64
import DocumentQuery.Text.Blank

/-!
# Base 64 read back

* `Base64.decode?_encode` : reading gives back the bytes that were written, with any number of
  bytes in the last block;
* `Base64.length_encode` : the count of symbols;
* `Base64.forall_mem_encode` : what all symbols of the alphabet have in common all written ones
  have.
-/

namespace DocumentQuery.Text.Base64

/-! ## Symbols -/

/-- The letters, the digits and the two last symbols. -/
def Alphabet.IsSymbol (a : Alphabet) (c : Char) : Prop :=
  ('A' ≤ c ∧ c ≤ 'Z') ∨ ('a' ≤ c ∧ c ≤ 'z') ∨ ('0' ≤ c ∧ c ≤ '9') ∨ c = a.symbol62 ∨
    c = a.symbol63

instance (a : Alphabet) (c : Char) : Decidable (a.IsSymbol c) :=
  inferInstanceAs (Decidable (_ ∨ _ ∨ _ ∨ _ ∨ _))

theorem value?_symbol_url : ∀ v, v < 64 → urlAlphabet.value? (urlAlphabet.symbol v) = some v := by
  decide

theorem isSymbol_symbol_url : ∀ v, v < 64 → urlAlphabet.IsSymbol (urlAlphabet.symbol v) := by
  decide

theorem utf8Size_symbol_url : ∀ v, v < 64 → (urlAlphabet.symbol v).utf8Size = 1 := by
  decide

theorem isBlank_symbol_url : ∀ v, v < 64 → isBlank (urlAlphabet.symbol v) = false := by
  decide

/-! ## Blocks -/

theorem ofNat_eq_of_mod {n : Nat} {x : UInt8} (h : n % 256 = x.toNat) : UInt8.ofNat n = x := by
  apply UInt8.toNat_inj.1
  rw [UInt8.toNat_ofNat', h]

section

variable {a : Alphabet}

/-- **Reading undoes writing** wherever each symbol has its own value. -/
theorem decode?_encode (ha : ∀ v, v < 64 → a.value? (a.symbol v) = some v) (bytes : Bytes) :
    decode? a (encode a bytes) = some bytes := by
  fun_induction encode a bytes with
  | case1 x y z rest n ih =>
    have hx := x.toNat_lt
    have hy := y.toNat_lt
    have hz := z.toNat_lt
    have hn : 262144 * (n / 262144) + 4096 * (n / 4096 % 64) + 64 * (n / 64 % 64) + n % 64 = n := by
      omega
    have hfirst : UInt8.ofNat (n / 65536) = x := ofNat_eq_of_mod (by omega)
    have hsecond : UInt8.ofNat (n / 256) = y := ofNat_eq_of_mod (by omega)
    have hthird : UInt8.ofNat n = z := ofNat_eq_of_mod (by omega)
    rw [decode?, ha _ (by omega), ha _ (by omega), ha _ (by omega), ha _ (by omega), ih]
    simp only [Option.bind_eq_bind, Option.bind_some, hn, hfirst, hsecond, hthird]
    rfl
  | case2 x y n =>
    have hx := x.toNat_lt
    have hy := y.toNat_lt
    have hn : 1024 * (n / 1024) + 16 * (n / 16 % 64) + n % 16 * 4 / 4 = n := by omega
    have hfirst : UInt8.ofNat (n / 256) = x := ofNat_eq_of_mod (by omega)
    have hsecond : UInt8.ofNat n = y := ofNat_eq_of_mod (by omega)
    rw [decode?, ha _ (by omega), ha _ (by omega), ha _ (by omega)]
    simp only [Option.bind_eq_bind, Option.bind_some, Nat.mul_mod_left, if_true, hn, hfirst,
      hsecond]
  | case3 x =>
    have hx := x.toNat_lt
    have hn : 4 * (x.toNat / 4) + x.toNat % 4 * 16 / 16 = x.toNat := by omega
    rw [decode?, ha _ (by omega), ha _ (by omega)]
    simp only [Option.bind_eq_bind, Option.bind_some, Nat.mul_mod_left, if_true, hn,
      UInt8.ofNat_toNat]
  | case4 => rfl

/-- What all symbols have in common all that is written has. -/
theorem forall_mem_encode {p : Char → Prop} (hp : ∀ v, v < 64 → p (a.symbol v)) (bytes : Bytes) :
    ∀ c ∈ encode a bytes, p c := by
  fun_induction encode a bytes with
  | case1 x y z rest n ih =>
    have hx := x.toNat_lt
    have hy := y.toNat_lt
    have hz := z.toNat_lt
    simp only [List.forall_mem_cons]
    exact ⟨hp _ (by omega), hp _ (by omega), hp _ (by omega), hp _ (by omega), ih⟩
  | case2 x y n =>
    have hx := x.toNat_lt
    have hy := y.toNat_lt
    simp only [List.forall_mem_cons, List.not_mem_nil, false_implies, implies_true, and_true]
    exact ⟨hp _ (by omega), hp _ (by omega), hp _ (by omega)⟩
  | case3 x =>
    have hx := x.toNat_lt
    simp only [List.forall_mem_cons, List.not_mem_nil, false_implies, implies_true, and_true]
    exact ⟨hp _ (by omega), hp _ (by omega)⟩
  | case4 => exact fun c hc => absurd hc List.not_mem_nil

/-- Six bits for each symbol, so that a third more are needed than there are bytes. -/
theorem length_encode (bytes : Bytes) : (encode a bytes).length = (4 * bytes.length + 2) / 3 := by
  fun_induction encode a bytes with
  | case1 x y z rest n ih =>
    simp only [List.length_cons, ih]
    omega
  | case2 | case3 | case4 => simp only [List.length_cons, List.length_nil]

theorem encode_ne_nil {bytes : Bytes} (h : bytes ≠ []) : encode a bytes ≠ [] := by
  fun_cases encode a bytes with
  | case1 | case2 | case3 => exact List.cons_ne_nil _ _
  | case4 => exact absurd rfl h

end

end DocumentQuery.Text.Base64
