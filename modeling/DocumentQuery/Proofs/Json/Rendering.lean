import DocumentQuery.Json.Parser
import DocumentQuery.Proofs.Entries
import DocumentQuery.Proofs.Json.Numerals
import Mathlib.Data.List.Basic

/-!
# Rendered JSON

The text of a value follows the grammar, and says what the value is: its outline has the same
nesting, its strings stand for the same texts and its whole numbers have the same digits. No control
character is in it, so it is a single line, whatever the texts are.

* `Piece.ofChar` : how a character of a string is spelled;
* `outline`      : the outline of the text of a value;
* `ofTexts`      : an object of texts, which is read back as it was.

Principal results: `ofText?_render`, `text?_pieces`, `printable_render`.
-/

namespace DocumentQuery.Json

/-! ## Strings -/

/-- Control characters without a letter of their own are spelled as code units. -/
def Piece.ofChar (c : Char) : Piece :=
  if 0x20 ≤ c.toNat ∨ c ∈ ['\x08', '\x0c', '\n', '\r', '\t'] then .char c else .unit c.toNat

def pieces (s : String) : List Piece := s.toList.map Piece.ofChar

namespace Outline

theorem unit?_hexDigit : ∀ n < 32,
    unit? '0' '0' (Text.hexDigit (n / 16)) (Text.hexDigit (n % 16)) = some n := by
  decide

theorem pieces?_escape (c : Char) {rest after : List Char} {found : List Piece}
    (h : pieces? rest = some (found, after)) :
    pieces? (escape c ++ rest) = some (.ofChar c :: found, after) := by
  unfold escape
  split
  case h_8 hquote hslash hb hf hn hr ht =>
    split
    · rename_i hcontrol
      have hpiece : Piece.ofChar c = .unit c.toNat := by
        refine if_neg ?_
        rintro (hplain | hmem)
        · omega
        · simp only [List.mem_cons, List.not_mem_nil, or_false] at hmem
          rcases hmem with h | h | h | h | h
          exacts [hb h, hf h, hn h, hr h, ht h]
      rw [hpiece]
      show pieces? ('\\' :: 'u' :: '0' :: '0' :: _ :: _ :: rest) = _
      rw [pieces?, unit?_hexDigit _ hcontrol]
      simp [h]
    · rename_i hcontrol
      have hpiece : Piece.ofChar c = .char c := if_pos (.inl (Nat.le_of_not_lt hcontrol))
      rw [hpiece]
      show pieces? (c :: rest) = _
      have hplain : ¬(c.toNat < 0x20 ∨ c = '\\') := not_or.2 ⟨hcontrol, hslash⟩
      rw [pieces?]
      · simp [hplain, h]
      all_goals simp_all
  all_goals simp [pieces?, escaped?, Piece.ofChar, h]

theorem pieces?_chars (s : List Char) (rest : List Char) :
    pieces? (s.flatMap escape ++ '"' :: rest) = some (s.map .ofChar, rest) := by
  induction s with
  | nil => rfl
  | cons c s ih =>
    rw [List.flatMap_cons, List.append_assoc, pieces?_escape c ih]
    rfl

/-- A string is read up to its closing quotation mark. -/
theorem pieces?_pieces (s : String) (rest : List Char) :
    pieces? (s.toList.flatMap escape ++ '"' :: rest) = some (pieces s, rest) :=
  pieces?_chars _ _

end Outline

namespace Piece

theorem chars?_unit {n : Nat} (h : n < 0xD800) (rest : List Piece) :
    chars? (.unit n :: rest) = (chars? rest).map (Char.ofNat n :: ·) := by
  have hhigh : isHighSurrogate n = false := by
    simp [isHighSurrogate]
    omega
  have hlow : isLowSurrogate n = false := by
    simp [isLowSurrogate]
    omega
  generalize hfound : chars? rest = found
  match rest with
  | .unit low :: rest =>
    rw [chars?]
    simp only [hhigh, hlow, hfound, Bool.false_eq_true, if_false]
    cases found <;> rfl
  | [] | .char _ :: _ =>
    rw [chars?]
    · simp only [hhigh, hlow, hfound, Bool.or_self, Bool.false_eq_true, if_false]
      cases found <;> rfl
    · nofun

theorem chars?_ofChar (s : List Char) : chars? (s.map ofChar) = some s := by
  induction s with
  | nil => rfl
  | cons c s ih =>
    rw [List.map_cons, ofChar]
    split
    · rw [chars?, ih]
      rfl
    · rw [chars?_unit (by omega), ih, Option.map_some, Char.ofNat_toNat]

/-- **The pieces of a text stand for it.** -/
theorem text?_pieces (s : String) : text? (pieces s) = some s := by
  rw [text?, pieces, chars?_ofChar, Option.map_some, String.ofList_toList]

end Piece

/-! ## Values -/

mutual

/-- The outline of the text of a value. -/
def outline : Json → Outline
  | .null => .null
  | .bool b => .bool b
  | .integer n => .number (.ofInt n)
  | .real x => .number (.ofReal x)
  | .string s => .string (pieces s)
  | .array items => .array (outlineItems items)
  | .object members => .object (outlineMembers members)

def outlineItems : List Json → List Outline
  | [] => []
  | item :: rest => outline item :: outlineItems rest

def outlineMembers : List (String × Json) → List (List Piece × Outline)
  | [] => []
  | (key, value) :: rest => (pieces key, outline value) :: outlineMembers rest

end

theorem itemChars_cons (item next : Json) (items : List Json) :
    itemChars (item :: next :: items) = chars item ++ ',' :: itemChars (next :: items) := rfl

theorem memberChars_cons (key : String) (json : Json) (next : String × Json)
    (members : List (String × Json)) :
    memberChars ((key, json) :: next :: members) =
      quote key ++ ':' :: (chars json ++ ',' :: memberChars (next :: members)) := rfl

namespace Outline

/-! ### Steps of the reader -/

section Steps

variable {fuel : Nat} {s rest after : List Char} {item : Outline} {items : List Outline}
  {key : List Piece} {members : List (List Piece × Outline)}

theorem skipBlanks_cons {c : Char} (h : isBlank c = false) (s : List Char) :
    skipBlanks (c :: s) = c :: s := by
  rw [skipBlanks, List.dropWhile_cons_of_neg (by simp [h])]

theorem value?_string {found : List Piece} (h : pieces? s = some (found, after)) :
    value? (fuel + 1) ('"' :: s) = some (.string found, after) := by
  simp [value?, skipBlanks, isBlank, h]

theorem value?_number {spelled : Spelled} {c : Char} (hc : c = '-' ∨ Number.isDigit c = true)
    (h : number? (c :: s) = some (spelled, after)) :
    value? (fuel + 1) (c :: s) = some (.number spelled, after) := by
  have hother : c ∉ [' ', '\t', '\n', '\r', 'n', 't', 'f', '"', '[', '\x7b'] := by
    intro hmem
    simp only [List.mem_cons, List.not_mem_nil, or_false] at hmem
    rcases hmem with rfl | rfl | rfl | rfl | rfl | rfl | rfl | rfl | rfl | rfl <;>
      revert hc <;> decide
  simp only [List.mem_cons, List.not_mem_nil, or_false, not_or] at hother
  have hblank : isBlank c = false := by
    simp [isBlank, hother]
  rw [value?, skipBlanks_cons hblank]
  simp [hother, h]

theorem value?_array {c : Char} (hc : isBlank c = false) (hbracket : c ≠ ']')
    (h : items? fuel (c :: s) = some (items, after)) :
    value? (fuel + 1) ('[' :: c :: s) = some (.array items, after) := by
  rw [value?, skipBlanks_cons rfl]
  simp [skipBlanks_cons hc, h, hbracket]

theorem value?_object (h : members? fuel ('"' :: s) = some (members, after)) :
    value? (fuel + 1) ('\x7b' :: '"' :: s) = some (.object members, after) := by
  simp [value?, skipBlanks, isBlank, h]

theorem items?_last (h : value? fuel s = some (item, ']' :: after)) :
    items? (fuel + 1) s = some ([item], after) := by
  simp [items?, skipBlanks, isBlank, h]

theorem items?_cons (h : value? fuel s = some (item, ',' :: rest))
    (hrest : items? fuel rest = some (items, after)) :
    items? (fuel + 1) s = some (item :: items, after) := by
  simp [items?, skipBlanks, isBlank, h, hrest]

theorem members?_last (hkey : pieces? s = some (key, ':' :: rest))
    (h : value? fuel rest = some (item, '\x7d' :: after)) :
    members? (fuel + 1) ('"' :: s) = some ([(key, item)], after) := by
  simp [members?, skipBlanks, isBlank, hkey, h]

theorem members?_cons {others : List Char} (hkey : pieces? s = some (key, ':' :: rest))
    (h : value? fuel rest = some (item, ',' :: others))
    (hrest : members? fuel others = some (members, after)) :
    members? (fuel + 1) ('"' :: s) = some ((key, item) :: members, after) := by
  simp [members?, skipBlanks, isBlank, hkey, h, hrest]

end Steps

/-! ### Values as they are written -/

theorem ends_cons {c : Char} (h : c = ',' ∨ c = ']' ∨ c = '\x7d') (rest : List Char) :
    Ends (c :: rest) := by
  intro d hd
  cases hd
  exact h

/-- A value begins with no blank, and with nothing that closes a list. -/
theorem exists_chars_eq_cons (json : Json) :
    ∃ c s, chars json = c :: s ∧ isBlank c = false ∧ c ≠ ']' := by
  have hnumber : ∀ {spelled : Spelled}, spelled.WellFormed →
      ∃ c s, spelled.text = c :: s ∧ isBlank c = false ∧ c ≠ ']' := by
    intro spelled h
    obtain ⟨c, s, htext, hc⟩ := h.exists_text_eq_cons
    refine ⟨c, s, htext, ?_⟩
    by_contra hother
    rw [not_and_or, not_ne_iff, Bool.not_eq_false] at hother
    simp only [isBlank, Bool.or_eq_true, beq_iff_eq] at hother
    rcases hother with (((rfl | rfl) | rfl) | rfl) | rfl <;> revert hc <;> decide
  match json with
  | .null | .bool true | .bool false | .string s | .array items | .object members =>
    exact ⟨_, _, rfl, rfl, by decide⟩
  | .integer n =>
    rw [chars, integerText_eq]
    exact hnumber (Spelled.wellFormed_ofInt n)
  | .real x =>
    rw [chars, realText_eq]
    exact hnumber (Spelled.wellFormed_ofReal x)

theorem exists_itemChars_eq_cons {items : List Json} (hitems : items ≠ []) :
    ∃ c s, itemChars items = c :: s ∧ isBlank c = false ∧ c ≠ ']' := by
  match items with
  | [] => exact absurd rfl hitems
  | [item] => exact exists_chars_eq_cons item
  | item :: next :: items =>
    obtain ⟨c, s, hchars, hc⟩ := exists_chars_eq_cons item
    rw [itemChars_cons, hchars]
    exact ⟨c, _, rfl, hc⟩

theorem exists_memberChars_eq_cons {members : List (String × Json)} (hmembers : members ≠ []) :
    ∃ s, memberChars members = '"' :: s := by
  match members with
  | [] => exact absurd rfl hmembers
  | [_] | _ :: _ :: _ => exact ⟨_, rfl⟩

/-- An object is read up to its closing brace if its members are. -/
theorem value?_members {members : List (String × Json)} {fuel : Nat} {rest : List Char}
    (hread : members ≠ [] → members? fuel (memberChars members ++ '\x7d' :: rest) =
      some (outlineMembers members, rest)) :
    value? (fuel + 1) (chars (.object members) ++ rest) =
      some (.object (outlineMembers members), rest) := by
  by_cases hmembers : members = []
  · rw [hmembers]
    rfl
  · obtain ⟨s, hchars⟩ := exists_memberChars_eq_cons hmembers
    have hread := hread hmembers
    rw [hchars, List.cons_append] at hread
    simp only [chars, bracketed, hchars, List.cons_append, List.append_assoc]
    exact value?_object hread

/-- A number is read up to what ends it. -/
theorem value?_text {spelled : Spelled} (h : spelled.WellFormed) (fuel : Nat) {rest : List Char}
    (hrest : Ends rest) :
    value? (fuel + 1) (spelled.text ++ rest) = some (.number spelled, rest) := by
  obtain ⟨c, s, htext, hc⟩ := h.exists_text_eq_cons
  have hnumber := number?_text h hrest
  rw [htext, List.cons_append] at hnumber ⊢
  exact value?_number hc hnumber

mutual

/-- **A value is read from its text**, with two steps for each character. -/
theorem value?_chars (json : Json) {fuel : Nat} {rest : List Char}
    (hfuel : 2 * (chars json).length ≤ fuel) (hrest : Ends rest) :
    value? fuel (chars json ++ rest) = some (outline json, rest) := by
  obtain ⟨c, s, hchars, -, -⟩ := exists_chars_eq_cons json
  obtain ⟨fuel, rfl⟩ : ∃ n, fuel = n + 1 := by
    rw [hchars, List.length_cons] at hfuel
    exact ⟨fuel - 1, by omega⟩
  match json with
  | .null | .bool true | .bool false => rfl
  | .integer n =>
    rw [chars, integerText_eq]
    exact value?_text (Spelled.wellFormed_ofInt n) fuel hrest
  | .real x =>
    rw [chars, realText_eq]
    exact value?_text (Spelled.wellFormed_ofReal x) fuel hrest
  | .string s =>
    rw [chars, quote, List.cons_append, List.append_assoc]
    exact value?_string (pieces?_pieces s rest)
  | .array items =>
    by_cases hitems : items = []
    · rw [hitems]
      rfl
    · obtain ⟨c, s, hchars, hc, hbracket⟩ := exists_itemChars_eq_cons hitems
      have hread : items? fuel (itemChars items ++ ']' :: rest) =
          some (outlineItems items, rest) := by
        refine items?_itemChars items hitems rest ?_
        simp only [chars, bracketed, List.length_cons, List.length_append] at hfuel
        omega
      rw [hchars, List.cons_append] at hread
      simp only [chars, bracketed, hchars, List.cons_append, List.append_assoc]
      exact value?_array hc hbracket hread
  | .object members =>
    refine value?_members fun hmembers => members?_memberChars members hmembers rest ?_
    simp only [chars, bracketed, List.length_cons, List.length_append] at hfuel
    omega

theorem items?_itemChars (items : List Json) (hitems : items ≠ []) (rest : List Char) {fuel : Nat}
    (hfuel : 2 * (itemChars items).length + 1 ≤ fuel) :
    items? fuel (itemChars items ++ ']' :: rest) = some (outlineItems items, rest) := by
  obtain ⟨fuel, rfl⟩ : ∃ n, fuel = n + 1 := ⟨fuel - 1, by omega⟩
  match items with
  | [] => exact absurd rfl hitems
  | [item] =>
    rw [itemChars] at hfuel ⊢
    exact items?_last (value?_chars item (by omega) (ends_cons (by decide) _))
  | item :: next :: items =>
    rw [itemChars_cons, List.length_append, List.length_cons] at hfuel
    rw [itemChars_cons, List.append_assoc, List.cons_append]
    exact items?_cons (value?_chars item (by omega) (ends_cons (by decide) _))
      (items?_itemChars (next :: items) (List.cons_ne_nil _ _) rest (by omega))

theorem members?_memberChars (members : List (String × Json)) (hmembers : members ≠ [])
    (rest : List Char) {fuel : Nat} (hfuel : 2 * (memberChars members).length + 1 ≤ fuel) :
    members? fuel (memberChars members ++ '\x7d' :: rest) =
      some (outlineMembers members, rest) := by
  obtain ⟨fuel, rfl⟩ : ∃ n, fuel = n + 1 := ⟨fuel - 1, by omega⟩
  match members with
  | [] => exact absurd rfl hmembers
  | [(key, json)] =>
    simp only [memberChars, quote, List.length_append, List.length_cons] at hfuel
    simp only [memberChars, quote, List.append_assoc, List.cons_append, List.nil_append]
    exact members?_last (pieces?_pieces key _)
      (value?_chars json (by omega) (ends_cons (by decide) _))
  | (key, json) :: next :: members =>
    simp only [memberChars_cons, quote, List.length_append, List.length_cons] at hfuel
    simp only [memberChars_cons, quote, List.append_assoc, List.cons_append, List.nil_append]
    exact members?_cons (pieces?_pieces key _)
      (value?_chars json (by omega) (ends_cons (by decide) _))
      (members?_memberChars (next :: members) (List.cons_ne_nil _ _) rest (by omega))

end

/-- **The text of a value has its outline.** -/
theorem ofText?_render (json : Json) : ofText? json.render = some json.outline := by
  have hread : value? (2 * (chars json).length + 1) (chars json ++ []) = some (json.outline, []) :=
    value?_chars json (by omega) fun _ h => nomatch h
  rw [List.append_nil] at hread
  rw [ofText?, render, String.toList_ofList]
  simp only [hread]
  rfl

/-- Blanks after an object do not count. -/
theorem ofText?_object (members : List (String × Json)) {blanks : String}
    (hblanks : skipBlanks blanks.toList = []) :
    ofText? ((Json.object members).render ++ blanks) =
      some (.object (outlineMembers members)) := by
  have hread : value? (2 * (chars (.object members) ++ blanks.toList).length + 1)
      (chars (.object members) ++ blanks.toList) =
        some (.object (outlineMembers members), blanks.toList) := by
    refine value?_members fun hmembers => members?_memberChars members hmembers _ ?_
    simp only [chars, bracketed, List.length_cons, List.length_append]
    omega
  rw [ofText?, String.toList_append, render, String.toList_ofList]
  simp only [hread]
  simp [hblanks]

end Outline

/-! ## Objects of texts -/

/-- An object whose values are texts. -/
def ofTexts (texts : Entries String) : Json :=
  .object (texts.map fun text => (text.1, .string text.2))

theorem ofTexts_injective : Function.Injective ofTexts := by
  intro texts others h
  refine List.map_injective_iff.2 ?_ (Json.object.inj h)
  intro text other hpair
  obtain ⟨hkey, hvalue⟩ := Prod.mk.inj hpair
  exact Prod.ext hkey (Json.string.inj hvalue)

theorem toMembers?_texts (depth : Nat) (texts : Entries String) :
    Outline.toMembers? depth (outlineMembers (texts.map fun text => (text.1, .string text.2))) =
      some (texts.map fun text => (text.1, .string text.2)) := by
  induction texts with
  | nil => rfl
  | cons text rest ih =>
    obtain ⟨key, value⟩ := text
    simp only [List.map_cons, outlineMembers, outline, Outline.toMembers?, Outline.toJson?,
      Piece.text?_pieces, ih]
    rfl

/-- Such an object is read back as it was, also with blanks after it. -/
theorem parse?_ofTexts_append {texts : Entries String} (hkeys : (Entries.keys texts).Nodup)
    {blanks : String} (hblanks : Outline.skipBlanks blanks.toList = []) :
    parse? ((ofTexts texts).render ++ blanks) = some (ofTexts texts) := by
  have hmembers : Entries.ofPairs (texts.map fun text => (text.1, Json.string text.2)) =
      texts.map fun text => (text.1, .string text.2) := by
    refine Entries.ofPairs_of_nodup ?_
    rwa [Entries.keys, List.map_map]
  rw [parse?, ofTexts, Outline.ofText?_object _ hblanks]
  show (Outline.toMembers? 126 _).map _ = _
  rw [toMembers?_texts, Option.map_some, hmembers]

/-- **Such an object is read back as it was.** -/
theorem parse?_ofTexts {texts : Entries String} (hkeys : (Entries.keys texts).Nodup) :
    parse? (ofTexts texts).render = some (ofTexts texts) := by
  have hread : parse? ((ofTexts texts).render ++ "") = some (ofTexts texts) :=
    parse?_ofTexts_append hkeys rfl
  rwa [String.append_empty] at hread

/-! ## Control characters -/

theorem printable_of_all {s : List Char} (h : s.all (fun c => 0x20 ≤ c.toNat) = true) :
    ∀ c ∈ s, 0x20 ≤ c.toNat := by
  intro c hc
  exact of_decide_eq_true (List.all_eq_true.1 h c hc)

theorem printable_escape (c : Char) : ∀ d ∈ escape c, 0x20 ≤ d.toNat := by
  have hdigit : ∀ n < 16, 0x20 ≤ (Text.hexDigit n).toNat := by decide
  unfold escape
  split
  case h_8 =>
    split
    · simp only [List.forall_mem_cons, List.not_mem_nil, false_implies, implies_true, and_true]
      exact ⟨by decide, by decide, by decide, by decide, hdigit _ (by omega), hdigit _ (by omega)⟩
    · rename_i hcontrol
      exact List.forall_mem_singleton.2 (Nat.le_of_not_lt hcontrol)
  all_goals exact printable_of_all rfl

theorem printable_quote (s : String) : ∀ c ∈ quote s, 0x20 ≤ c.toNat := by
  simp only [quote, List.forall_mem_cons, List.forall_mem_append, List.mem_flatMap,
    List.not_mem_nil, false_implies, implies_true, and_true]
  refine ⟨by decide, ?_, by decide⟩
  rintro c ⟨d, -, hc⟩
  exact printable_escape d c hc

theorem printable_bracketed {first last : Char} {body : List Char} (hfirst : 0x20 ≤ first.toNat)
    (hlast : 0x20 ≤ last.toNat) (h : ∀ c ∈ body, 0x20 ≤ c.toNat) :
    ∀ c ∈ bracketed first last body, 0x20 ≤ c.toNat := by
  simp only [bracketed, List.forall_mem_cons, List.forall_mem_append, List.not_mem_nil,
    false_implies, implies_true, and_true]
  exact ⟨hfirst, h, hlast⟩

mutual

theorem printable_chars (json : Json) : ∀ c ∈ chars json, 0x20 ≤ c.toNat := by
  match json with
  | .null | .bool true | .bool false => exact printable_of_all rfl
  | .integer n =>
    rw [chars, integerText_eq]
    exact (Spelled.wellFormed_ofInt n).printable
  | .real x =>
    rw [chars, realText_eq]
    exact (Spelled.wellFormed_ofReal x).printable
  | .string s => exact printable_quote s
  | .array items =>
    exact printable_bracketed (by decide) (by decide) (printable_itemChars items)
  | .object members =>
    exact printable_bracketed (by decide) (by decide) (printable_memberChars members)

theorem printable_itemChars (items : List Json) : ∀ c ∈ itemChars items, 0x20 ≤ c.toNat := by
  match items with
  | [] => exact fun _ h => nomatch h
  | [item] => exact printable_chars item
  | item :: next :: items =>
    rw [itemChars_cons, List.forall_mem_append, List.forall_mem_cons]
    exact ⟨printable_chars item, by decide, printable_itemChars (next :: items)⟩

theorem printable_memberChars (members : List (String × Json)) :
    ∀ c ∈ memberChars members, 0x20 ≤ c.toNat := by
  match members with
  | [] => exact fun _ h => nomatch h
  | [(key, json)] =>
    rw [memberChars, List.forall_mem_append, List.forall_mem_cons]
    exact ⟨printable_quote key, by decide, printable_chars json⟩
  | (key, json) :: next :: members =>
    rw [memberChars_cons, List.forall_mem_append, List.forall_mem_cons,
      List.forall_mem_append, List.forall_mem_cons]
    exact ⟨printable_quote key, by decide, printable_chars json, by decide,
      printable_memberChars (next :: members)⟩

end

/-- **There is no control character in the text of a value**, whatever its strings are. -/
theorem printable_render (json : Json) : ∀ c ∈ json.render.toList, 0x20 ≤ c.toNat := by
  rw [render, String.toList_ofList]
  exact printable_chars json

end DocumentQuery.Json
