import DocumentQuery.Config
import DocumentQuery.Proofs.FirstError
import DocumentQuery.Proofs.Schema.Flattening
import DocumentQuery.Proofs.SortedMap

/-!
# Files that cannot be loaded

A configuration or a schema is loaded from a file. What stands in the way is told here by what the
file holds: there is no text in it, the text is no JSON, or the JSON is not of the form that is
needed.

* `Text.File.Unreadable` : a file without a text;
* `Config.IsSettings`    : what gives the settings of a configuration;
* `Config.Valid`         : settings that are allowed;
* `Schema.Malformed`     : a schema without a catalog.

Principal results: `Config.exists_load_eq_error`, `Schema.Catalog.exists_load_eq_error`.
-/

namespace DocumentQuery

/-! ## Optional results -/

theorem exists_map_eq_some {α β : Type} {x : Option α} {f : α → β} :
    (∃ b, x.map f = some b) ↔ ∃ a, x = some a := by
  cases x <;> simp

theorem exists_mapM_eq_some {α β : Type} {f : α → Option β} {xs : List α} :
    (∃ ys, xs.mapM f = some ys) ↔ ∀ x ∈ xs, ∃ y, f x = some y := by
  induction xs with
  | nil => simp
  | cons x rest ih =>
    rw [List.forall_mem_cons, ← ih]
    simp only [List.mapM_cons, Option.bind_eq_bind, Option.bind_eq_some_iff]
    constructor
    · rintro ⟨_, y, hy, ys, hys, -⟩
      exact ⟨⟨y, hy⟩, ys, hys⟩
    · rintro ⟨⟨y, hy⟩, ys, hys⟩
      exact ⟨_, y, hy, ys, hys, rfl⟩

theorem map_fst_zip_sublist {α β : Type} (xs : List α) (ys : List β) :
    ((xs.zip ys).map Prod.fst).Sublist xs := by
  induction xs generalizing ys with
  | nil => exact .slnil
  | cons x rest ih =>
    cases ys with
    | nil => exact List.nil_sublist _
    | cons y ys => exact (ih ys).cons_cons x

/-! ## Files -/

namespace Text

theorem ofBytes?_eq_some {bytes : Bytes} {text : String} :
    ofBytes? bytes = some text ↔ bytes = toBytes text := by
  constructor
  · intro h
    unfold ofBytes? String.fromUTF8? at h
    split at h
    · cases h
      rfl
    · cases h
  · rintro rfl
    exact ofBytes?_toBytes text

/-- The bytes of the file are those of a text. -/
def File.Holds (file : File) (text : String) : Prop := file = .regular (toBytes text)

/-- There is no file, or its bytes are those of no text. -/
inductive File.Unreadable : File → Prop where
  | absent : Unreadable .absent
  | directory : Unreadable .directory
  | notText {bytes : Bytes} (h : ∀ text, bytes ≠ toBytes text) : Unreadable (.regular bytes)

theorem readFile_eq_ok {file : File} {text : String} :
    readFile file = .ok text ↔ file.Holds text := by
  cases file with
  | absent | directory => exact ⟨nofun, nofun⟩
  | regular bytes =>
    rw [File.Holds, File.regular.injEq, ← ofBytes?_eq_some, readFile, readBytes]
    cases ofBytes? bytes <;> simp

theorem File.Holds.unique {file : File} {text other : String} (h : file.Holds text)
    (hother : file.Holds other) : other = text :=
  Except.ok.inj ((readFile_eq_ok.2 hother).symm.trans (readFile_eq_ok.2 h))

theorem exists_readFile_eq_error {file : File} :
    (∃ reason, readFile file = .error reason) ↔ file.Unreadable := by
  constructor
  · rintro ⟨reason, h⟩
    cases file with
    | absent => exact .absent
    | directory => exact .directory
    | regular bytes =>
      refine .notText ?_
      rintro text rfl
      cases h.symm.trans (readFile_eq_ok.2 rfl)
  · intro h
    cases h with
    | absent | directory => exact ⟨_, rfl⟩
    | @notText bytes h =>
      cases hread : readFile (.regular bytes) with
      | error reason => exact ⟨reason, rfl⟩
      | ok text => exact absurd (File.regular.inj (readFile_eq_ok.1 hread)) (h text)

theorem File.Unreadable.not_holds {file : File} (h : file.Unreadable) (text : String) :
    ¬file.Holds text := by
  intro htext
  obtain ⟨reason, hread⟩ := exists_readFile_eq_error.2 h
  cases hread.symm.trans (readFile_eq_ok.2 htext)

end Text

/-! ## Configurations -/

namespace Config

open Json (Outline Piece Spelled)

/-- Each setting is allowed. -/
structure Valid (config : Config) : Prop where
  idField : config.idField ≠ ""
  idAlias : config.idAlias ≠ ""
  maxTokenLength : config.maxTokenLength ≠ 0
  operators : ∀ name target, config.operators.get? name = some target →
    name ≠ "" ∧ target.toList.head? = some '$'

theorem validateOperator_eq_ok {name target : String} :
    validateOperator name target = .ok () ↔ name ≠ "" ∧ target.toList.head? = some '$' := by
  unfold validateOperator
  simp only [String.isEmpty_iff]
  split
  · simp_all
  · split <;> simp_all

theorem validate_eq_ok {config : Config} : config.validate = .ok () ↔ config.Valid := by
  have hoperators : (config.operators.toList.forM fun entry => validateOperator entry.1 entry.2) =
      .ok () ↔ ∀ name target, config.operators.get? name = some target →
        name ≠ "" ∧ target.toList.head? = some '$' := by
    simp only [forM_eq_ok, validateOperator_eq_ok, Prod.forall, SortedMap.mem_toList]
  constructor
  · intro h
    unfold validate at h
    simp only [String.isEmpty_iff] at h
    split at h
    · cases h
    · split at h
      · cases h
      · split at h
        · cases h
        · exact ⟨‹_›, ‹_›, ‹_›, hoperators.1 h⟩
  · intro h
    unfold validate
    simp only [String.isEmpty_iff, if_neg h.idField, if_neg h.idAlias, if_neg h.maxTokenLength]
    exact hoperators.2 h.operators

/-! ### Settings -/

/-- The outline is a text. -/
inductive IsText : Outline → Prop where
  | text {pieces : List Piece} {text : String} (h : Piece.text? pieces = some text) :
      IsText (.string pieces)

/-- The value has the type of the setting. -/
inductive Setting.Accepts : Setting → Outline → Prop where
  | strict (b : Bool) : Accepts .strict (.bool b)
  | idField {value : Outline} (h : IsText value) : Accepts .idField value
  | idAlias {value : Outline} (h : IsText value) : Accepts .idAlias value
  | operators {members : List (List Piece × Outline)}
      (h : ∀ member ∈ members, IsText (.string member.1) ∧ IsText member.2) :
      Accepts .operators (.object members)
  | maxTokenLength {spelled : Spelled} {n : Nat} (h : spelled.value? = some (.integer n)) :
      Accepts .maxTokenLength (.number spelled)

/-- The setting that a key names. -/
def settingOf? (key : List Piece) : Option Setting :=
  (Piece.text? key).bind fun key => Setting.all.find? (·.key = key)

/-- The settings among the members of an object, with their values. -/
def assignments (members : List (List Piece × Outline)) : List (Setting × Outline) :=
  members.filterMap fun member => (settingOf? member.1).map (·, member.2)

/-- An object whose keys are texts gives each setting once at most, each with a value of its type,
and a list gives the first settings in order. -/
inductive IsSettings : Outline → Prop where
  | members {members : List (List Piece × Outline)}
      (hkeys : ∀ member ∈ members, IsText (.string member.1))
      (honce : ((assignments members).map Prod.fst).Nodup)
      (hvalues : ∀ assigned ∈ assignments members, assigned.1.Accepts assigned.2) :
      IsSettings (.object members)
  | items {items : List Outline} (hlength : items.length ≤ Setting.all.length)
      (hvalues : ∀ assigned ∈ Setting.all.zip items, assigned.1.Accepts assigned.2) :
      IsSettings (.array items)

theorem exists_text?_eq_some {value : Outline} :
    (∃ text, text? value = some text) ↔ IsText value := by
  constructor
  · rintro ⟨text, h⟩
    cases value with
    | string pieces => exact .text h
    | _ => cases h
  · rintro ⟨h⟩
    exact ⟨_, h⟩

theorem exists_bool?_eq_some {value : Outline} :
    (∃ b, bool? value = some b) ↔ Setting.Accepts .strict value := by
  constructor
  · rintro ⟨b, h⟩
    cases value with
    | bool b => exact .strict b
    | _ => cases h
  · rintro ⟨b⟩
    exact ⟨b, rfl⟩

theorem exists_operators?_eq_some {value : Outline} :
    (∃ operators, operators? value = some operators) ↔ Setting.Accepts .operators value := by
  cases value with
  | object members =>
    have hmember : ∀ member : List Piece × Outline,
        (∃ pair, (do
          let name ← Piece.text? member.1
          let target ← text? member.2
          some (name, target)) = some pair) ↔ IsText (.string member.1) ∧ IsText member.2 := by
      intro member
      constructor
      · rintro ⟨_, h⟩
        obtain ⟨name, hname, h⟩ := Option.bind_eq_some_iff.1 h
        obtain ⟨target, htarget, -⟩ := Option.bind_eq_some_iff.1 h
        exact ⟨.text hname, exists_text?_eq_some.1 ⟨target, htarget⟩⟩
      · rintro ⟨⟨hname⟩, htarget⟩
        obtain ⟨target, htarget⟩ := exists_text?_eq_some.2 htarget
        exact ⟨_, Option.bind_eq_some_iff.2
          ⟨_, hname, Option.bind_eq_some_iff.2 ⟨target, htarget, rfl⟩⟩⟩
    have haccepts : Setting.Accepts .operators (.object members) ↔
        ∀ member ∈ members, IsText (.string member.1) ∧ IsText member.2 :=
      ⟨fun | .operators h => h, .operators⟩
    simp only [haccepts, ← hmember, ← exists_mapM_eq_some]
    simp [operators?, Option.bind_eq_some_iff]
  | _ => exact ⟨nofun, nofun⟩

theorem exists_length?_eq_some {value : Outline} :
    (∃ length, length? value = some length) ↔ Setting.Accepts .maxTokenLength value := by
  constructor
  · rintro ⟨length, h⟩
    cases value with
    | number spelled =>
      unfold length? at h
      dsimp only at h
      split at h
      · rename_i n hn
        split at h
        · obtain ⟨n, rfl⟩ := Int.eq_ofNat_of_zero_le ‹0 ≤ n›
          exact .maxTokenLength hn
        · cases h
      · cases h
    | _ => cases h
  · rintro (_ | _ | _ | _ | @⟨spelled, n, h⟩)
    exact ⟨n, by simp [length?, h]⟩

namespace Settings

variable {settings next : Settings} {setting : Setting} {value : Outline}

theorem exists_set?_eq_some : (∃ next, settings.set? setting value = some next) ↔
    settings.isSet setting = false ∧ setting.Accepts value := by
  unfold set?
  split
  · simp_all
  · rename_i hset
    rw [Bool.eq_false_of_not_eq_true hset, and_iff_right rfl]
    cases setting with
    | strict => exact exists_map_eq_some.trans exists_bool?_eq_some
    | idField =>
      have haccepts : IsText value ↔ Setting.Accepts .idField value :=
        ⟨.idField, fun | .idField h => h⟩
      exact exists_map_eq_some.trans (exists_text?_eq_some.trans haccepts)
    | idAlias =>
      have haccepts : IsText value ↔ Setting.Accepts .idAlias value :=
        ⟨.idAlias, fun | .idAlias h => h⟩
      exact exists_map_eq_some.trans (exists_text?_eq_some.trans haccepts)
    | operators => exact exists_map_eq_some.trans exists_operators?_eq_some
    | maxTokenLength => exact exists_map_eq_some.trans exists_length?_eq_some

/-- Only the setting itself is set. -/
theorem isSet_set? (h : settings.set? setting value = some next) (other : Setting) :
    next.isSet other = (settings.isSet other || decide (other = setting)) := by
  unfold set? at h
  split at h
  · cases h
  · cases setting <;> obtain ⟨_, _, rfl⟩ := Option.map_eq_some_iff.1 h <;> cases other <;>
      simp [isSet]

/-- Settings that are set one after another. -/
theorem exists_foldlM_set? (assigned : List (Setting × Outline)) (settings : Settings) :
    (∃ next, assigned.foldlM
        (fun (s : Settings) (setting, value) => s.set? setting value) settings = some next) ↔
      (∀ pair ∈ assigned, settings.isSet pair.1 = false) ∧ (assigned.map Prod.fst).Nodup ∧
        ∀ pair ∈ assigned, pair.1.Accepts pair.2 := by
  induction assigned generalizing settings with
  | nil => simp
  | cons pair rest ih =>
    obtain ⟨setting, value⟩ := pair
    simp only [List.foldlM_cons, Option.bind_eq_bind, Option.bind_eq_some_iff]
    constructor
    · rintro ⟨last, next, hnext, hlast⟩
      obtain ⟨hfree, haccepts⟩ := exists_set?_eq_some.1 ⟨next, hnext⟩
      obtain ⟨hunset, honce, hvalues⟩ := (ih next).1 ⟨last, hlast⟩
      simp only [isSet_set? hnext, Bool.or_eq_false_iff, decide_eq_false_iff_not] at hunset
      refine ⟨List.forall_mem_cons.2 ⟨hfree, fun pair hpair => (hunset pair hpair).1⟩,
        List.nodup_cons.2 ⟨?_, honce⟩, List.forall_mem_cons.2 ⟨haccepts, hvalues⟩⟩
      intro hmem
      obtain ⟨pair, hpair, hsame⟩ := List.mem_map.1 hmem
      exact (hunset pair hpair).2 hsame
    · rintro ⟨hunset, honce, hvalues⟩
      obtain ⟨hfree, hunset⟩ := List.forall_mem_cons.1 hunset
      obtain ⟨hnew, honce⟩ := List.nodup_cons.1 honce
      obtain ⟨haccepts, hvalues⟩ := List.forall_mem_cons.1 hvalues
      obtain ⟨next, hnext⟩ := exists_set?_eq_some.2 ⟨hfree, haccepts⟩
      have hrest : ∀ pair ∈ rest, next.isSet pair.1 = false := by
        intro pair hpair
        rw [isSet_set? hnext, hunset pair hpair, Bool.false_or, decide_eq_false_iff_not]
        intro hsame
        exact hnew (List.mem_map.2 ⟨pair, hpair, hsame⟩)
      obtain ⟨last, hlast⟩ := (ih next).2 ⟨hrest, honce, hvalues⟩
      exact ⟨last, next, hnext, hlast⟩

end Settings

/-- A member whose key is a text sets the setting that the key names, if there is one. -/
theorem exists_foldlM_member? (members : List (List Piece × Outline)) (settings : Settings) :
    (∃ next, members.foldlM Settings.member? settings = some next) ↔
      (∀ member ∈ members, IsText (.string member.1)) ∧
        ∃ next, (assignments members).foldlM
          (fun (s : Settings) (setting, value) => s.set? setting value) settings = some next := by
  induction members generalizing settings with
  | nil => simp [assignments]
  | cons member rest ih =>
    rw [List.forall_mem_cons, List.foldlM_cons]
    cases hkey : Piece.text? member.1 with
    | none =>
      have hnone : settings.member? member = none := by simp [Settings.member?, hkey]
      have hother : ¬IsText (.string member.1) := by
        rintro ⟨h⟩
        cases hkey.symm.trans h
      simp [hnone, hother]
    | some key =>
      have htext : IsText (.string member.1) := .text hkey
      rw [and_iff_right htext]
      cases hsetting : Setting.all.find? (·.key = key) with
      | none =>
        have hstep : settings.member? member = some settings := by
          simp [Settings.member?, hkey, hsetting]
        have hassigned : assignments (member :: rest) = assignments rest := by
          simp [assignments, settingOf?, hkey, hsetting]
        rw [hstep, hassigned]
        exact ih settings
      | some setting =>
        have hstep : settings.member? member = settings.set? setting member.2 := by
          simp [Settings.member?, hkey, hsetting]
        have hassigned : assignments (member :: rest) =
            (setting, member.2) :: assignments rest := by
          simp [assignments, settingOf?, hkey, hsetting]
        rw [hstep, hassigned, List.foldlM_cons]
        dsimp only
        cases settings.set? setting member.2 with
        | none => simp
        | some next => exact ih next

/-- **What gives the settings of a configuration.** -/
theorem exists_ofOutline?_eq_some {outline : Outline} :
    (∃ config, ofOutline? outline = some config) ↔ IsSettings outline := by
  have hunset : ∀ pairs : List (Setting × Outline),
      ∀ pair ∈ pairs, Settings.isSet {} pair.1 = false := by
    rintro pairs ⟨setting, _⟩ -
    cases setting <;> rfl
  cases outline with
  | object members =>
    have hsettings : IsSettings (.object members) ↔
        (∀ member ∈ members, IsText (.string member.1)) ∧
          ((assignments members).map Prod.fst).Nodup ∧
            ∀ assigned ∈ assignments members, assigned.1.Accepts assigned.2 :=
      ⟨fun | .members hkeys honce hvalues => ⟨hkeys, honce, hvalues⟩,
        fun h => .members h.1 h.2.1 h.2.2⟩
    have hrun := exists_foldlM_member? members {}
    rw [Settings.exists_foldlM_set?, and_iff_right (hunset _), ← hsettings] at hrun
    rw [← hrun]
    simp [ofOutline?, Option.bind_eq_some_iff]
  | array items =>
    have hsettings : IsSettings (.array items) ↔ items.length ≤ Setting.all.length ∧
        ∀ assigned ∈ Setting.all.zip items, assigned.1.Accepts assigned.2 :=
      ⟨fun | .items hlength hvalues => ⟨hlength, hvalues⟩, fun h => .items h.1 h.2⟩
    have honce : ((Setting.all.zip items).map Prod.fst).Nodup :=
      (map_fst_zip_sublist _ _).nodup (by decide)
    have hrun := Settings.exists_foldlM_set? (Setting.all.zip items) {}
    rw [and_iff_right (hunset _), and_iff_right honce] at hrun
    rw [hsettings, ← hrun]
    simp [ofOutline?, Option.bind_eq_some_iff]
  | _ => exact ⟨nofun, nofun⟩

/-! ### Loading -/

section Loading

variable {path : String} {file : Text.File}

/-- The file holds no text, the text is no JSON or gives no settings, or they are not allowed. -/
inductive Unloadable (file : Text.File) : Prop where
  | unreadable (h : file.Unreadable)
  | notJson {text : String} (htext : file.Holds text) (h : Outline.ofText? text = none)
  | notSettings {text : String} {outline : Outline} (htext : file.Holds text)
      (houtline : Outline.ofText? text = some outline) (h : ¬IsSettings outline)
  | invalid {text : String} {config : Config} (htext : file.Holds text)
      (hparse : parse? text = some config) (h : ¬config.Valid)

theorem load_eq_ok {config : Config} : load path file = .ok config ↔
    ∃ text, file.Holds text ∧ parse? text = some config ∧ config.Valid := by
  unfold load
  constructor
  · intro h
    split at h
    · cases h
    · rename_i text htext
      split at h
      · cases h
      · rename_i hparse
        obtain ⟨_, hvalid, hconfig⟩ := bind_eq_ok.1 h
        cases hconfig
        exact ⟨text, Text.readFile_eq_ok.1 htext, hparse, validate_eq_ok.1 hvalid⟩
  · rintro ⟨text, htext, hparse, hvalid⟩
    rw [Text.readFile_eq_ok.2 htext]
    simp only [hparse]
    exact bind_eq_ok.2 ⟨(), validate_eq_ok.2 hvalid, rfl⟩

/-- **Which files give no configuration.** -/
theorem exists_load_eq_error : (∃ error, load path file = .error error) ↔ Unloadable file := by
  constructor
  · rintro ⟨error, h⟩
    cases hread : Text.readFile file with
    | error reason => exact .unreadable (Text.exists_readFile_eq_error.1 ⟨reason, hread⟩)
    | ok text =>
      have htext := Text.readFile_eq_ok.1 hread
      cases houtline : Outline.ofText? text with
      | none => exact .notJson htext houtline
      | some outline =>
        by_cases hsettings : IsSettings outline
        · obtain ⟨config, hconfig⟩ := exists_ofOutline?_eq_some.2 hsettings
          have hparse : parse? text = some config := by
            rw [parse?, houtline]
            exact hconfig
          refine .invalid htext hparse fun hvalid => ?_
          cases h.symm.trans (load_eq_ok.2 ⟨text, htext, hparse, hvalid⟩)
        · exact .notSettings htext houtline hsettings
  · intro h
    cases hload : load path file with
    | error error => exact ⟨error, rfl⟩
    | ok config =>
      obtain ⟨text, htext, hparse, hvalid⟩ := load_eq_ok.1 hload
      obtain ⟨outline, houtline, hconfig⟩ := Option.bind_eq_some_iff.1 hparse
      exfalso
      cases h with
      | unreadable h => exact h.not_holds text htext
      | notJson hother h =>
        cases hother.unique htext
        cases h.symm.trans houtline
      | notSettings hother hsame h =>
        cases hother.unique htext
        cases hsame.symm.trans houtline
        exact h (exists_ofOutline?_eq_some.1 ⟨config, hconfig⟩)
      | invalid hother hsame h =>
        cases hother.unique htext
        cases hsame.symm.trans hparse
        exact h hvalid

end Loading

end Config

/-! ## Schemas -/

namespace Schema

/-- The schema is no object, or it has something else under a key that leads to its fields. -/
inductive Malformed : Json → Prop where
  | notObject {schema : Json} (h : schema.object? = none) : Malformed schema
  | wrapper {members : Entries Json} {json : Json}
      (hwrapper : Entries.get? "$jsonSchema" members = some json) (h : json.object? = none) :
      Malformed (.object members)
  | properties {schema : Json} {root : Entries Json} {json : Json} (hroot : Root schema root)
      (hproperties : Entries.get? "properties" root = some json) (h : json.object? = none) :
      Malformed schema

namespace Catalog

theorem malformed_of_not_root {schema : Json} (h : ∀ root, ¬Root schema root) :
    Malformed schema := by
  cases schema with
  | object members =>
    cases hwrapper : Entries.get? "$jsonSchema" members with
    | none => exact absurd (.plain hwrapper) (h members)
    | some json =>
      cases json with
      | object root => exact absurd (.wrapped hwrapper) (h root)
      | _ => exact .wrapper hwrapper rfl
  | _ => exact .notObject rfl

theorem exists_ofSchema_eq_error {schema : Json} :
    (∃ error, ofSchema schema = .error error) ↔ Malformed schema := by
  constructor
  · rintro ⟨error, h⟩
    by_cases hroots : ∃ root, Root schema root
    · obtain ⟨root, hroot⟩ := hroots
      by_contra hformed
      have hproperties : ∀ json, Entries.get? "properties" root = some json →
          json.object?.isSome := by
        intro json hjson
        cases hobject : json.object? with
        | none => exact absurd (.properties hroot hjson hobject) hformed
        | some _ => rfl
      cases h.symm.trans (ofSchema_eq_ok.2 ⟨root, hroot, hproperties, rfl⟩)
    · exact malformed_of_not_root (not_exists.1 hroots)
  · intro h
    cases hschema : ofSchema schema with
    | error error => exact ⟨error, rfl⟩
    | ok catalog =>
      obtain ⟨root, hroot, hproperties, -⟩ := ofSchema_eq_ok.1 hschema
      exfalso
      cases h with
      | notObject h => cases hroot <;> cases h
      | wrapper hwrapper h =>
        cases hroot with
        | plain hnone => cases hwrapper.symm.trans hnone
        | wrapped hother =>
          cases hwrapper.symm.trans hother
          cases h
      | properties hother hjson h =>
        cases (body_eq_ok.2 hother).symm.trans (body_eq_ok.2 hroot)
        have hobject := hproperties _ hjson
        rw [h] at hobject
        cases hobject

/-- The file holds no text, the text has no JSON value, or that is malformed. -/
inductive Unloadable (file : Text.File) : Prop where
  | unreadable (h : file.Unreadable)
  | notJson {text : String} (htext : file.Holds text) (h : Json.parse? text = none)
  | malformed {text : String} {schema : Json} (htext : file.Holds text)
      (hschema : Json.parse? text = some schema) (h : Malformed schema)

/-- **Which files give no catalog.** -/
theorem exists_load_eq_error {path : String} {file : Text.File} :
    (∃ error, load path file = .error error) ↔ Unloadable file := by
  cases hread : Text.readFile file with
  | error reason =>
    have hunreadable := Text.exists_readFile_eq_error.1 ⟨reason, hread⟩
    exact iff_of_true ⟨_, by rw [load, hread]⟩ (.unreadable hunreadable)
  | ok text =>
    have htext := Text.readFile_eq_ok.1 hread
    rw [load, hread]
    dsimp only
    cases hparse : Json.parse? text with
    | none => exact iff_of_true ⟨_, rfl⟩ (.notJson htext hparse)
    | some schema =>
      dsimp only
      rw [exists_ofSchema_eq_error]
      constructor
      · exact .malformed htext hparse
      · intro h
        cases h with
        | unreadable h => exact absurd htext (h.not_holds text)
        | notJson hother h =>
          cases htext.unique hother
          cases hparse.symm.trans h
        | malformed hother hschema h =>
          cases htext.unique hother
          cases hparse.symm.trans hschema
          exact h

end Catalog

end Schema

end DocumentQuery
