import DocumentQuery.Log.Line
import DocumentQuery.Proofs.Json.Rendering
import DocumentQuery.Proofs.SortedMap
import DocumentQuery.Proofs.Text.Utf8

/-!
# Log lines cannot be forged

An entry is one line whatever its texts are. The line is an object with the event, the severity and
the last text of each other key, and from it these can be told again. So nothing that a request puts
into the texts makes an entry look like another one, or like two.

* `Entry.text?`        : the text that counts for a key;
* `Entry.Recorded`     : the bytes of a line, with the fields on it;
* `Entry.line_eq_iff`  : which entries have the same line;
* `splitOn_transcript` : a transcript has one line for each entry that is severe enough.

Principal result: `Entry.line_recorded`.
-/

namespace DocumentQuery.Log

/-- The byte that ends a line. -/
def newline : UInt8 := 10

theorem Severity.name_injective : Function.Injective name := by
  intro first second h
  cases first <;> cases second <;> first | rfl | exact absurd h (by decide)

namespace Entry

/-- The last text under a key. The keys of the event and its severity are not for fields. -/
def text? (entry : Entry) (key : String) : Option String :=
  if key = eventKey ∨ key = severityKey then none else Entries.get? key entry.fields.reverse

/-- The bytes are one line, with one object on it: the event, the severity and those fields, in
ascending order of the bytes of their keys, each with its last text. So it is written, without a
repeated key, and so it is read. -/
structure Recorded (entry : Entry) (bytes : Bytes) (own : Entries String) : Prop where
  line : ∃ body, bytes = body ++ [newline] ∧ newline ∉ body
  written : (Text.ofBytes? bytes).bind Json.Outline.ofText? =
    some (Json.ofTexts ((eventKey, entry.event) :: (severityKey, entry.severity.name) ::
      own)).outline
  object : (Text.ofBytes? bytes).bind Json.parse? =
    some (Json.ofTexts ((eventKey, entry.event) :: (severityKey, entry.severity.name) :: own))
  ascending : own.Pairwise fun first second => Text.toBytes first.1 < Text.toBytes second.1
  text : ∀ key, Entries.get? key own = entry.text? key

/-! ## Fields -/

variable (entry : Entry)

theorem get?_ownFields (key : String) : entry.ownFields.get? key = entry.text? key := by
  rw [ownFields, SortedMap.get?_ofList, ← List.filter_reverse, text?]
  split
  · rename_i hreserved
    rw [Entries.get?_eq_none_iff, Entries.keys, List.mem_map]
    rintro ⟨field, hfield, rfl⟩
    have hown := (List.mem_filter.1 hfield).2
    rcases hreserved with h | h <;> simp [h] at hown
  · rename_i hown
    rw [not_or] at hown
    exact Entries.get?_filter (fun _ => by simpa using hown) _

/-- Fields in another order have the same texts, if no key is there twice. -/
theorem text?_of_perm {fields : List (String × String)} (hkeys : (Entries.keys entry.fields).Nodup)
    (hperm : entry.fields.Perm fields) (key : String) :
    ({ entry with fields } : Entry).text? key = entry.text? key := by
  have hfields := Entries.nodup_keys_perm hkeys hperm
  simp only [text?, Entries.get?_reverse hkeys, Entries.get?_reverse hfields,
    Entries.get?_perm hkeys hperm]

/-- Fields in another order have the same texts, if those of each key are in the same order. -/
theorem text?_of_filter {fields : List (String × String)}
    (h : ∀ key, fields.filter (·.1 = key) = entry.fields.filter (·.1 = key)) (key : String) :
    ({ entry with fields } : Entry).text? key = entry.text? key := by
  have hfilter : ∀ fields : List (String × String),
      Entries.get? key fields.reverse = Entries.get? key (fields.filter (·.1 = key)).reverse := by
    intro fields
    rw [← List.filter_reverse]
    exact (Entries.get?_filter (fun _ => decide_eq_true rfl) _).symm
  have hlast : Entries.get? key fields.reverse = Entries.get? key entry.fields.reverse := by
    rw [hfilter, h, ← hfilter]
  simp only [text?, hlast]

/-! ## Lines -/

/-- The texts on the line of an entry. -/
def texts : Entries String :=
  (eventKey, entry.event) :: (severityKey, entry.severity.name) :: entry.ownFields.toList

theorem toJson_eq : entry.toJson = Json.ofTexts entry.texts := rfl

theorem nodup_texts : (Entries.keys entry.texts).Nodup := by
  have hreserved : ∀ key, key = eventKey ∨ key = severityKey →
      key ∉ Entries.keys entry.ownFields.toList := by
    intro key hkey
    have hnone := entry.get?_ownFields key
    rw [text?, if_pos hkey] at hnone
    exact Entries.get?_eq_none_iff.1 hnone
  have hkeys : Entries.keys entry.texts =
      eventKey :: severityKey :: Entries.keys entry.ownFields.toList := rfl
  rw [hkeys, List.nodup_cons, List.nodup_cons, List.mem_cons, not_or]
  exact ⟨⟨by decide, hreserved _ (.inl rfl)⟩, hreserved _ (.inr rfl), entry.ownFields.nodup_keys⟩

theorem toBytes_line :
    Text.toBytes entry.line = Text.toBytes entry.toJson.render ++ [newline] := by
  rw [line, Text.toBytes_append]
  rfl

/-- No text of an entry breaks its line. -/
theorem newline_not_mem : newline ∉ Text.toBytes entry.toJson.render := by
  apply Text.not_mem_toBytes (by decide)
  intro c hc hnewline
  have hprintable := Json.printable_render _ c hc
  have hcode : newline.toNat = 10 := rfl
  omega

theorem parse?_line : Json.parse? entry.line = some (Json.ofTexts entry.texts) :=
  Json.parse?_ofTexts_append entry.nodup_texts rfl

theorem ofText?_line :
    Json.Outline.ofText? entry.line = some (Json.ofTexts entry.texts).outline := by
  rw [line, toJson_eq, Json.ofTexts, Json.Outline.ofText?_object _ rfl, Json.outline]

theorem recorded : Recorded entry (Text.toBytes entry.line) entry.ownFields.toList where
  line := ⟨_, entry.toBytes_line, entry.newline_not_mem⟩
  written := by
    rw [Text.ofBytes?_toBytes, Option.bind_some]
    exact entry.ofText?_line
  object := by
    rw [Text.ofBytes?_toBytes, Option.bind_some]
    exact entry.parse?_line
  ascending := entry.ownFields.ascending.imp Text.toBytes_lt
  text := entry.get?_ownFields

variable {entry}

/-- Two entries have the same line exactly if they are the same event, with the same text for each
key. -/
theorem line_eq_iff {other : Entry} : other.line = entry.line ↔
    other.event = entry.event ∧ other.severity = entry.severity ∧
      ∀ key, other.text? key = entry.text? key := by
  constructor
  · intro h
    have hparsed := congrArg Json.parse? h
    rw [parse?_line, parse?_line, Option.some.injEq] at hparsed
    have htexts : other.texts = entry.texts := Json.ofTexts_injective hparsed
    simp only [texts, List.cons.injEq, Prod.mk.injEq, true_and] at htexts
    obtain ⟨hevent, hseverity, hown⟩ := htexts
    refine ⟨hevent, Severity.name_injective hseverity, fun key => ?_⟩
    rw [← get?_ownFields, ← get?_ownFields, SortedMap.get?, SortedMap.get?, hown]
  · rintro ⟨hevent, hseverity, htext⟩
    have hown : other.ownFields = entry.ownFields := by
      apply SortedMap.ext_get?
      intro key
      rw [get?_ownFields, get?_ownFields, htext]
    simp only [line, toJson, hevent, hseverity, hown]

/-- **Log lines cannot be forged.** Whatever the texts of an entry are, its bytes are one line with
one object on it. They are the bytes of no entry of another event, of another severity or with
other texts that count. Fields make the same bytes in any order if their keys are distinct, and in
any order at all that keeps the order among the fields of each key. -/
theorem line_recorded (entry : Entry) :
    Recorded entry (Text.toBytes entry.line) entry.ownFields.toList ∧
      (∀ other : Entry, Text.toBytes other.line = Text.toBytes entry.line ↔
        other.event = entry.event ∧ other.severity = entry.severity ∧
          ∀ key, other.text? key = entry.text? key) ∧
      (∀ fields, (Entries.keys entry.fields).Nodup → entry.fields.Perm fields →
        Text.toBytes ({ entry with fields } : Entry).line = Text.toBytes entry.line) ∧
      ∀ fields, (∀ key, fields.filter (·.1 = key) = entry.fields.filter (·.1 = key)) →
        Text.toBytes ({ entry with fields } : Entry).line = Text.toBytes entry.line := by
  refine ⟨entry.recorded, fun other => ?_, fun fields hkeys hperm => ?_, fun fields hfilter => ?_⟩
  · rw [Text.toBytes_injective.eq_iff, line_eq_iff]
  · exact congrArg Text.toBytes (line_eq_iff.2 ⟨rfl, rfl, entry.text?_of_perm hkeys hperm⟩)
  · exact congrArg Text.toBytes (line_eq_iff.2 ⟨rfl, rfl, entry.text?_of_filter hfilter⟩)

/-- A rejected request whose error ends the object and the line, and begins a line of its own. Its
fields are written in another order, and none of them is the event. -/
theorem line_recorded_quoted :
    let error := "?\"\x7d\n\x7b\"event\":\"QUERY_COMPILED"
    let entry : Entry :=
      ⟨.warn, "COMPILE_REJECTED", [("kind", "query"), ("event", error), ("error", error)]⟩
    let other : Entry :=
      ⟨.warn, "COMPILE_REJECTED", [("error", error), ("kind", "query"), ("event", error)]⟩
    Recorded entry (Text.toBytes entry.line) [("error", error), ("kind", "query")] ∧
      Text.toBytes other.line = Text.toBytes entry.line := by
  intro error entry other
  have hown : entry.ownFields.toList = [("error", error), ("kind", "query")] := by decide
  obtain ⟨hrecorded, -, hperm, -⟩ := line_recorded entry
  rw [hown] at hrecorded
  exact ⟨hrecorded, hperm other.fields (by decide) (by decide)⟩

end Entry

/-! ## Transcripts -/

/-- **A transcript has one line for each entry that is severe enough**, and nothing after the
last. -/
theorem splitOn_transcript (least : Severity) (entries : List Entry) :
    (Text.toBytes (transcript least entries)).splitOn newline =
      (entries.filter fun entry => least.enabled entry.severity).map
        (fun entry => Text.toBytes entry.toJson.render) ++ [[]] := by
  induction entries with
  | nil => rfl
  | cons entry rest ih =>
    have hstep : transcript least (entry :: rest) =
        entry.written least ++ transcript least rest := by
      simp [transcript]
    rw [hstep, Entry.written]
    by_cases henabled : least.enabled entry.severity = true
    · rw [if_pos henabled, Text.toBytes_append, entry.toBytes_line, List.append_assoc,
        List.singleton_append, List.splitOn_append_cons_self_of_not_mem entry.newline_not_mem, ih]
      simp [henabled]
    · rw [if_neg henabled, String.empty_append, ih]
      simp [henabled]

end DocumentQuery.Log
