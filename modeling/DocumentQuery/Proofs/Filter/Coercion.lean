import DocumentQuery.Filter.Coercion
import DocumentQuery.Proofs.Value.ObjectId

/-!
# Laws of coercion

What coercion does to a value, for all type kinds and for the identifier: it keeps lists, however
deep, and null, and it does nothing a second time. What it does to the leaves of a value, which are
the values in its lists that are no lists, is said for each type kind. How texts are read as numbers
and dates makes no difference here.

* `Value.LeafAt`          : the leaf at a place in nested lists;
* `Coercion.Becomes`      : what a leaf may become under a type kind;
* `Coercion.Identifies`   : what a leaf becomes as an identifier;
* `Coercion.Lawful`       : the laws;
* `Coercion.LeafLaws.lawful` : it is enough that they hold of leaves.

Principal result: `Coercion.lawful_coercions`.
-/

namespace DocumentQuery

/-! ## Lists in lists -/

namespace Value

def string? : Value → Option String
  | string text => some text
  | _ => none

theorem sizeOf_lt_of_mem_array {item : Value} {items : List Value} (h : item ∈ items) :
    sizeOf item < sizeOf (Value.array items) := by
  have hlt := List.sizeOf_lt_of_mem h
  simp only [Value.array.sizeOf_spec]
  omega

/-- What holds of a list whenever it holds of its items, and of all other values, holds of all. -/
@[elab_as_elim]
theorem listInduction {motive : Value → Prop}
    (array : ∀ items : List Value, (∀ item ∈ items, motive item) → motive (.array items))
    (other : ∀ value : Value, value.array? = none → motive value) : ∀ value, motive value := by
  intro value
  induction hn : sizeOf value using Nat.strongRecOn generalizing value with
  | ind n ih =>
    subst hn
    cases value with
    | array items =>
      exact array items fun item hitem => ih _ (sizeOf_lt_of_mem_array hitem) item rfl
    | _ => exact other _ rfl

/-- At the place, which is given by the positions of items, the value has a leaf. -/
inductive LeafAt : List Nat → Value → Value → Prop where
  | here {leaf : Value} (h : leaf.array? = none) : LeafAt [] leaf leaf
  | item {items : List Value} {position : Nat} {item leaf : Value} {place : List Nat}
      (hitem : items[position]? = some item) (h : LeafAt place item leaf) :
      LeafAt (position :: place) (.array items) leaf

theorem leafAt_leaf {place : List Nat} {value leaf : Value} (h : value.array? = none) :
    LeafAt place value leaf ↔ place = [] ∧ leaf = value := by
  constructor
  · intro hleaf
    cases hleaf with
    | here _ => exact ⟨rfl, rfl⟩
    | item _ _ => cases h
  · rintro ⟨rfl, rfl⟩
    exact .here h

theorem leafAt_array {place : List Nat} {items : List Value} {leaf : Value} :
    LeafAt place (.array items) leaf ↔
      ∃ position rest item, place = position :: rest ∧ items[position]? = some item ∧
        LeafAt rest item leaf := by
  constructor
  · intro hleaf
    cases hleaf with
    | here h => cases h
    | item hitem h => exact ⟨_, _, _, rfl, hitem, h⟩
  · rintro ⟨position, rest, item, rfl, hitem, h⟩
    exact .item hitem h

theorem LeafAt.array?_eq_none {place : List Nat} {value leaf : Value}
    (h : LeafAt place value leaf) : leaf.array? = none := by
  induction h with
  | here h => exact h
  | item _ _ ih => exact ih

end Value

namespace Coercion

open Schema (TypeKind)
open Value (LeafAt)

/-! ## The laws -/

/-- Only a text may become another value, which is one that it is read as. -/
def FromText (Reads : String → Value → Prop) : Value → Value → Prop
  | .string text, result => Reads text result
  | leaf, result => result = leaf

/-- What a leaf may become: a truth value, unless it is null; a number of the type kind, if it is a
text; a date, if it is a text; or nothing else. -/
def Becomes : TypeKind → Value → Value → Prop
  | .bool, .null, result => result = .null
  | .bool, .bool b, result => result = .bool b
  | .bool, _, result => ∃ b, result = .bool b
  | .decimal, leaf, result | .double, leaf, result =>
    FromText (fun _ number => ∃ x, number = .double x) leaf result
  | .int, leaf, result => FromText (fun _ number => ∃ n, number = .int32 n) leaf result
  | .long, leaf, result => FromText (fun _ number => ∃ n, number = .int64 n) leaf result
  | .date, leaf, result | .timestamp, leaf, result =>
    FromText (fun text date => date = .string text ∨ ∃ ms, date = .date ms) leaf result
  | .string, leaf, result | .object, leaf, result | .array, leaf, result
  | .unknown, leaf, result => result = leaf

/-- Twenty-four hexadecimal digits of either case. -/
def SpellsIdentifier (text : String) : Prop :=
  text.toList.length = 24 ∧ ∀ c ∈ text.toList, (Text.hexValue? c).isSome

/-- What a leaf becomes: the object identifier whose digits it is, or nothing else. -/
def Identifies : Value → Value → Prop :=
  FromText fun text result =>
    SpellsIdentifier text ∧
      (∃ id : ObjectId, id.toHex.toList = text.toList.map Char.toLower ∧
        result = .objectId id) ∨
    ¬SpellsIdentifier text ∧ result = .string text

/-- The laws of a coercion, given what may become of leaves. -/
structure Lawful (coerce : Value → Value) (Allowed : Value → Value → Prop) : Prop where
  idempotent : ∀ value, coerce (coerce value) = coerce value
  items : ∀ items, coerce (.array items) = .array (items.map coerce)
  null_iff : ∀ value, coerce value = .null ↔ value = .null
  /-- The leaves are in their old places. -/
  leaves : ∀ place value result, LeafAt place (coerce value) result ↔
    ∃ leaf, LeafAt place value leaf ∧ result = coerce leaf
  allowed : ∀ place value leaf, LeafAt place value leaf → Allowed leaf (coerce leaf)

/-! ## From leaves to lists -/

/-- The laws as far as they concern values that are no lists. -/
structure LeafLaws (f : Value → Value) (Allowed : Value → Value → Prop) : Prop where
  leaf : ∀ value, value.array? = none → (f value).array? = none
  idempotent : ∀ value, value.array? = none → f (f value) = f value
  null_iff : ∀ value, value.array? = none → (f value = .null ↔ value = .null)
  allowed : ∀ value, value.array? = none → Allowed value (f value)

variable {f : Value → Value} {Allowed : Value → Value → Prop} {value : Value}

theorem mapItems_eq (items : List Value) : mapItems f items = items.map (mapLeaves f) := by
  induction items with
  | nil => rfl
  | cons item rest ih => rw [mapItems, ih, List.map_cons]

@[simp]
theorem mapLeaves_array (items : List Value) :
    mapLeaves f (.array items) = .array (items.map (mapLeaves f)) := by
  rw [mapLeaves, mapItems_eq]

theorem mapLeaves_leaf (h : value.array? = none) : mapLeaves f value = f value := by
  cases value with
  | array items => cases h
  | _ => rfl

namespace LeafLaws

theorem mapLeaves_mapLeaves (h : LeafLaws f Allowed) (value : Value) :
    mapLeaves f (mapLeaves f value) = mapLeaves f value := by
  induction value using Value.listInduction with
  | array items ih =>
    rw [mapLeaves_array, mapLeaves_array, List.map_map]
    exact congrArg Value.array (List.map_congr_left ih)
  | other value hleaf =>
    rw [mapLeaves_leaf hleaf, mapLeaves_leaf (h.leaf value hleaf), h.idempotent value hleaf]

/-- The leaves stay in their places. -/
theorem leafAt_mapLeaves (h : LeafLaws f Allowed) {place : List Nat} {result : Value} :
    LeafAt place (mapLeaves f value) result ↔
      ∃ leaf, LeafAt place value leaf ∧ result = mapLeaves f leaf := by
  induction value using Value.listInduction generalizing place with
  | array items ih =>
    rw [mapLeaves_array, Value.leafAt_array]
    simp only [Value.leafAt_array, List.getElem?_map, Option.map_eq_some_iff]
    constructor
    · rintro ⟨position, rest, _, rfl, ⟨item, hitem, rfl⟩, hresult⟩
      obtain ⟨leaf, hleaf, hsame⟩ := (ih item (List.mem_of_getElem? hitem)).1 hresult
      exact ⟨leaf, ⟨position, rest, item, rfl, hitem, hleaf⟩, hsame⟩
    · rintro ⟨leaf, ⟨position, rest, item, rfl, hitem, hleaf⟩, hsame⟩
      have hresult := (ih item (List.mem_of_getElem? hitem)).2 ⟨leaf, hleaf, hsame⟩
      exact ⟨position, rest, _, rfl, ⟨item, hitem, rfl⟩, hresult⟩
  | other value hvalue =>
    rw [mapLeaves_leaf hvalue, Value.leafAt_leaf (h.leaf value hvalue)]
    simp only [Value.leafAt_leaf hvalue]
    constructor
    · rintro ⟨rfl, rfl⟩
      exact ⟨value, ⟨rfl, rfl⟩, (mapLeaves_leaf hvalue).symm⟩
    · rintro ⟨leaf, ⟨rfl, rfl⟩, rfl⟩
      exact ⟨rfl, mapLeaves_leaf hvalue⟩

theorem mapLeaves_eq_null (h : LeafLaws f Allowed) (value : Value) :
    mapLeaves f value = .null ↔ value = .null := by
  cases hvalue : value.array? with
  | none => rw [mapLeaves_leaf hvalue, h.null_iff value hvalue]
  | some items =>
    cases value <;> cases hvalue
    simp

/-- **A coercion obeys the laws if it does so on leaves.** -/
theorem lawful (h : LeafLaws f Allowed) : Lawful (mapLeaves f) Allowed where
  idempotent := h.mapLeaves_mapLeaves
  items := mapLeaves_array
  null_iff := h.mapLeaves_eq_null
  leaves _ _ _ := h.leafAt_mapLeaves
  allowed place value leaf hleaf := by
    rw [mapLeaves_leaf hleaf.array?_eq_none]
    exact h.allowed leaf hleaf.array?_eq_none

end LeafLaws

/-! ## Leaves -/

theorem leafLaws_boolean : LeafLaws boolean (Becomes .bool) where
  leaf value _ := by cases value <;> rfl
  idempotent value _ := by cases value <;> rfl
  null_iff value _ := by cases value <;> simp [boolean]
  allowed value _ := by cases value <;> simp [boolean, Becomes]

/-- What texts are read as: numbers, dates and object identifiers. -/
inductive Native : Value → Prop where
  | double (x : Number.Double) : Native (.double x)
  | int32 (n : Int32) : Native (.int32 n)
  | int64 (n : Int64) : Native (.int64 n)
  | date (ms : Int64) : Native (.date ms)
  | objectId (id : ObjectId) : Native (.objectId id)

namespace Native

theorem array?_eq_none (h : Native value) : value.array? = none := by
  cases h <;> rfl

theorem string?_eq_none (h : Native value) : value.string? = none := by
  cases h <;> rfl

theorem ne_null (h : Native value) : value ≠ .null := by
  cases h <;> exact nofun

end Native

/-- A coercion that changes texts alone, and these only where it can read them. -/
theorem leafLaws_fromText {Reads : String → Value → Prop}
    (hother : ∀ value : Value, value.string? = none → f value = value)
    (htext : ∀ text, Reads text (f (.string text)))
    (hread : ∀ text result, Reads text result → result = .string text ∨ Native result) :
    LeafLaws f (FromText Reads) := by
  have hresult : ∀ value, f value = value ∨ value ≠ .null ∧ Native (f value) := by
    intro value
    cases value with
    | string text => exact (hread text _ (htext text)).imp_right fun hnative => ⟨nofun, hnative⟩
    | _ => exact .inl (hother _ rfl)
  constructor
  case leaf =>
    intro value hvalue
    rcases hresult value with hsame | ⟨-, hnative⟩
    · rwa [hsame]
    · exact hnative.array?_eq_none
  case idempotent =>
    intro value _
    rcases hresult value with hsame | ⟨-, hnative⟩
    · rw [hsame, hsame]
    · exact hother _ hnative.string?_eq_none
  case null_iff =>
    intro value _
    rcases hresult value with hsame | ⟨hvalue, hnative⟩
    · rw [hsame]
    · exact iff_of_false hnative.ne_null hvalue
  case allowed =>
    intro value _
    cases value with
    | string text => exact htext text
    | _ => exact hother _ rfl

theorem numeric_of_string?_eq_none (read : List Char → Value) (h : value.string? = none) :
    numeric read value = value := by
  cases value with
  | string text => cases h
  | _ => rfl

theorem temporal_of_string?_eq_none (h : value.string? = none) : temporal value = value := by
  cases value with
  | string text => cases h
  | _ => rfl

theorem identifierLeaf_of_string?_eq_none (h : value.string? = none) :
    identifierLeaf value = value := by
  cases value with
  | string text => cases h
  | _ => rfl

theorem leafLaws_numeric {read : List Char → Value} {IsNumber : Value → Prop}
    (hread : ∀ s, IsNumber (read s)) (hnumber : ∀ number, IsNumber number → Native number) :
    LeafLaws (numeric read) (FromText fun _ => IsNumber) :=
  leafLaws_fromText (fun _ => numeric_of_string?_eq_none read) (fun _ => hread _)
    fun _ number h => .inr (hnumber number h)

theorem leafLaws_temporal : LeafLaws temporal (Becomes .date) := by
  refine leafLaws_fromText (fun _ => temporal_of_string?_eq_none) (fun text => ?_) ?_
  · unfold temporal
    dsimp only
    split
    · exact .inr ⟨_, rfl⟩
    · exact .inl rfl
  · rintro text _ (rfl | ⟨ms, rfl⟩)
    · exact .inl rfl
    · exact .inr (.date ms)

theorem leafLaws_identifierLeaf : LeafLaws identifierLeaf Identifies := by
  refine leafLaws_fromText (fun _ => identifierLeaf_of_string?_eq_none) (fun text => ?_) ?_
  · unfold identifierLeaf
    dsimp only
    split
    · rename_i id hid
      exact .inl ⟨ObjectId.exists_ofHex?.1 ⟨id, hid⟩, id, ObjectId.ofHex?_eq_some.1 hid, rfl⟩
    · rename_i hnone
      refine .inr ⟨fun hspells => ?_, rfl⟩
      obtain ⟨id, hid⟩ := ObjectId.exists_ofHex?.2 hspells
      rw [hnone] at hid
      cases hid
  · rintro text _ (⟨-, id, -, rfl⟩ | ⟨-, rfl⟩)
    · exact .inr (.objectId id)
    · exact .inl rfl

theorem leafLaws_id : LeafLaws id fun leaf result => result = leaf where
  leaf _ hvalue := hvalue
  idempotent _ _ := rfl
  null_iff _ _ := Iff.rfl
  allowed _ _ := rfl

theorem leafLaws_leaf (kind : TypeKind) : LeafLaws (leaf kind) (Becomes kind) := by
  cases kind with
  | bool => exact leafLaws_boolean
  | date => exact leafLaws_temporal
  | timestamp => exact leafLaws_temporal
  | decimal => exact leafLaws_numeric (fun _ => ⟨_, rfl⟩) fun _ ⟨_, h⟩ => h ▸ .double _
  | double => exact leafLaws_numeric (fun _ => ⟨_, rfl⟩) fun _ ⟨_, h⟩ => h ▸ .double _
  | int => exact leafLaws_numeric (fun _ => ⟨_, rfl⟩) fun _ ⟨_, h⟩ => h ▸ .int32 _
  | long => exact leafLaws_numeric (fun _ => ⟨_, rfl⟩) fun _ ⟨_, h⟩ => h ▸ .int64 _
  | string => exact leafLaws_id
  | object => exact leafLaws_id
  | array => exact leafLaws_id
  | unknown => exact leafLaws_id

theorem mapLeaves_id (value : Value) : mapLeaves id value = value := by
  induction value using Value.listInduction with
  | array items ih =>
    rw [mapLeaves_array, List.map_congr_left (g := id) ih, List.map_id]
  | other value hvalue => exact mapLeaves_leaf hvalue

/-- **The laws of coercion.** For every type kind, and for the identifier, coercing a value a second
time changes nothing, a list becomes the list of its coerced items, and null is the only value that
becomes null. The leaves of a value stay in their places, and they become what the type kind says:
under that of truth values all but null become truth values, under those of numbers the texts become
numbers, and under those of dates some texts become dates; the identifier takes texts of twenty-four
hexadecimal digits. Nothing else changes. -/
theorem lawful_coercions :
    (∀ kind, Lawful (toKind kind) (Becomes kind)) ∧ Lawful identifier Identifies ∧
      ∀ value, toKind .string value = value ∧ toKind .object value = value ∧
        toKind .array value = value ∧ toKind .unknown value = value := by
  refine ⟨fun kind => (leafLaws_leaf kind).lawful, leafLaws_identifierLeaf.lawful, fun value => ?_⟩
  have hid := mapLeaves_id value
  exact ⟨hid, hid, hid, hid⟩

/-- Null stays null in a list of truth values, and what is no truth value counts as false. -/
example : toKind .bool (.array [.null, .array [.string "T", .string "yes"], .int32 1]) =
    .array [.null, .array [.bool true, .bool false], .bool false] := rfl

end Coercion

end DocumentQuery
