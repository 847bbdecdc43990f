import DocumentQuery.CommandLine.Run
import DocumentQuery.Proofs.CommandLine.Descriptor
import DocumentQuery.Proofs.CommandLine.Loading
import DocumentQuery.Proofs.Json.Rendering

/-!
# Answers of runs

A run of a command ends without an answer, or it writes one line to the standard output, which holds
one JSON object. What decides between the two, and what the object says, is put here in terms of the
files and the input alone, without the order in which they are looked at.

* `Configures`, `Reads` : the configuration of a run and the JSON value of its input;
* `Barred`              : there is no answer;
* `Answers`             : the members of the answer;
* `OneLine`             : a text is a line with one object.

Principal result: `one_answer`.
-/

namespace DocumentQuery.CommandLine

variable {files : Files} {input : Bytes}

/-! ## What decides -/

/-- The configuration at a path that may be given, or the default one. -/
inductive Configures (files : Files) : Option String → Config → Prop where
  | default : Configures files none {}
  | file {path : String} {config : Config} (h : Config.load path (files path) = .ok config) :
      Configures files (some path) config

/-- The input is text that is not blank and has a JSON value. -/
structure Reads (input : Bytes) (json : Json) : Prop where
  exists_text : ∃ text, Text.ofBytes? input = some text ∧ Text.isAllBlank text = false ∧
    Json.parse? text = some json

/-- The input is not text, or blank, or no JSON. -/
inductive Unreadable (input : Bytes) : Prop where
  | notText (h : Text.ofBytes? input = none) : Unreadable input
  | blank {text : String} (htext : Text.ofBytes? input = some text)
      (h : Text.isAllBlank text = true) : Unreadable input
  | notJson {text : String} (htext : Text.ofBytes? input = some text)
      (h : Json.parse? text = none) : Unreadable input

/-- The file of the configuration or of the schema gives none, or the input, where the command has
one, cannot be read. -/
inductive Barred (files : Files) (input : Bytes) : Command → Prop where
  | config {kind : Compilation.Kind} {schema path : String}
      (h : Config.Unloadable (files path)) : Barred files input (.compile kind schema (some path))
  | schema {kind : Compilation.Kind} {path : String} {config : Option String}
      (h : Schema.Catalog.Unloadable (files path)) :
      Barred files input (.compile kind path config)
  | fields {path : String} (h : Schema.Catalog.Unloadable (files path)) :
      Barred files input (.fields path)
  | input {kind : Compilation.Kind} {schema : String} {config : Option String}
      (h : Unreadable input) : Barred files input (.compile kind schema config)

def success (data : Json) : Entries Json := [("status", .string "ok"), ("data", data)]

def refusal (code message : String) : Entries Json :=
  [("status", .string "error"), ("code", .string code), ("message", .string message)]

/-- The members of the answer: the fields of the schema, what the request compiles to, or why it
does not fit its shape or does not compile. -/
inductive Answers (files : Files) (input : Bytes) : Command → Entries Json → Prop where
  | fields {path : String} {catalog : Schema.Catalog}
      (h : Schema.Catalog.load path (files path) = .ok catalog) :
      Answers files input (.fields path) (success (catalogJson catalog))
  | compiled {kind : Compilation.Kind} {path : String} {given : Option String} {config : Config}
      {catalog : Schema.Catalog} {json : Json} {document : Document}
      (hconfig : Configures files given config)
      (hcatalog : Schema.Catalog.load path (files path) = .ok catalog) (hinput : Reads input json)
      (h : Descriptor.Compiles ⟨catalog, config⟩ json kind document) :
      Answers files input (.compile kind path given) (success document.toJson)
  | unfit {kind : Compilation.Kind} {path : String} {given : Option String} {config : Config}
      {catalog : Schema.Catalog} {json : Json} {error : RequestError}
      (hconfig : Configures files given config)
      (hcatalog : Schema.Catalog.load path (files path) = .ok catalog) (hinput : Reads input json)
      (h : Descriptor.Unfit json kind error) :
      Answers files input (.compile kind path given)
        (refusal "DOCQUERY_CLI_INVALID_REQUEST" error.message)
  | rejected {kind : Compilation.Kind} {path : String} {given : Option String} {config : Config}
      {catalog : Schema.Catalog} {json : Json} {error : QueryError}
      (hconfig : Configures files given config)
      (hcatalog : Schema.Catalog.load path (files path) = .ok catalog) (hinput : Reads input json)
      (h : Descriptor.Rejected ⟨catalog, config⟩ json kind error) :
      Answers files input (.compile kind path given) (refusal error.code error.message)

/-! ## Steps -/

section Steps

variable {failure : Failure}

theorem Step.result_andThen {α β : Type} (step : Step α) (next : α → Step β) :
    (step.andThen next).result = step.result >>= fun value => (next value).result := by
  unfold andThen
  cases step.result <;> rfl

theorem loadConfig_eq_ok {path : Option String} {config : Config} :
    (loadConfig files path).result = .ok config ↔ Configures files path config := by
  cases path with
  | none =>
    constructor
    · intro h
      cases h
      exact .default
    · rintro ⟨⟩
      rfl
  | some path =>
    have hsome : Configures files (some path) config ↔ Config.load path (files path) = .ok config :=
      ⟨fun h => by cases h; assumption, .file⟩
    rw [hsome]
    simp only [loadConfig]
    cases Config.load path (files path) <;> simp [Step.fail]

theorem loadConfig_eq_error {path : Option String} :
    (loadConfig files path).result = .error failure ↔
      ∃ name error, path = some name ∧ Config.load name (files name) = .error error ∧
        failure = .config error := by
  cases path with
  | none => simp [loadConfig]
  | some path =>
    simp only [loadConfig, Option.some.injEq]
    cases hload : Config.load path (files path) <;> simp [Step.fail, hload, eq_comm]

theorem loadCatalog_eq_ok {path : String} {catalog : Schema.Catalog} :
    (loadCatalog files path).result = .ok catalog ↔
      Schema.Catalog.load path (files path) = .ok catalog := by
  unfold loadCatalog
  cases Schema.Catalog.load path (files path) <;> simp [Step.fail]

theorem loadCatalog_eq_error {path : String} :
    (loadCatalog files path).result = .error failure ↔
      ∃ error, Schema.Catalog.load path (files path) = .error error ∧ failure = .schema error := by
  unfold loadCatalog
  cases Schema.Catalog.load path (files path) <;> simp [Step.fail, eq_comm]

theorem readInput_eq_ok {json : Json} : (readInput input).result = .ok json ↔ Reads input json := by
  unfold readInput parseInput
  constructor
  · intro h
    split at h
    · cases h
    · rename_i text htext
      simp only at h
      split at h
      · cases h
      · rename_i hblank
        split at h
        · rename_i hparse
          cases h
          exact ⟨text, htext, Bool.eq_false_of_not_eq_true hblank, hparse⟩
        · cases h
  · rintro ⟨text, htext, hblank, hparse⟩
    simp [htext, hblank, hparse]

/-- Input that cannot be read fails, and no answer says so. -/
theorem readInput_eq_error :
    (readInput input).result = .error failure →
      Unreadable input ∧ failure.isAnswer = false := by
  unfold readInput parseInput
  intro h
  split at h
  · rename_i htext
    cases h
    exact ⟨.notText htext, rfl⟩
  · rename_i text htext
    simp only at h
    split at h
    · rename_i hblank
      cases h
      exact ⟨.blank htext hblank, rfl⟩
    · split at h
      · cases h
      · rename_i hparse
        cases h
        exact ⟨.notJson htext hparse, rfl⟩

theorem Unreadable.not_reads (h : Unreadable input) (json : Json) : ¬Reads input json := by
  rintro ⟨text, htext, hblank, hparse⟩
  cases h with
  | notText hother => cases htext.symm.trans hother
  | blank hother hyes =>
    cases htext.symm.trans hother
    cases hblank.symm.trans hyes
  | notJson hother hnone =>
    cases htext.symm.trans hother
    cases hparse.symm.trans hnone

end Steps

/-! ## Commands -/

section Commands

variable {kind : Compilation.Kind} {path : String} {given : Option String} {command : Command}
  {failure : Failure} {data : Json}

theorem result_compile :
    (execute files input (.compile kind path given)).result =
      (loadConfig files given).result >>= fun config =>
        (loadCatalog files path).result >>= fun catalog =>
          (readInput input).result >>= fun json =>
            (Descriptor.ofRequest kind ⟨catalog, config⟩ json).result := by
  simp only [execute, loadCollection, Step.result_andThen, bind_assoc]
  rfl

theorem result_fields :
    (execute files input (.fields path)).result =
      (loadCatalog files path).result >>= fun catalog => .ok (catalogJson catalog) := by
  simp only [execute, Step.result_andThen]

/-- What fails without an answer is barred. -/
theorem barred_of_error (h : (execute files input command).result = .error failure)
    (hfailure : failure.isAnswer = false) : Barred files input command := by
  cases command with
  | fields path =>
    rw [result_fields, bind_eq_error] at h
    rcases h with h | ⟨_, -, h⟩
    · obtain ⟨error, h, -⟩ := loadCatalog_eq_error.1 h
      exact .fields (Schema.Catalog.exists_load_eq_error.1 ⟨error, h⟩)
    · cases h
  | compile kind path given =>
    simp only [result_compile, bind_eq_error] at h
    rcases h with h | ⟨config, -, h | ⟨catalog, -, h | ⟨json, -, h⟩⟩⟩
    · obtain ⟨name, error, rfl, h, -⟩ := loadConfig_eq_error.1 h
      exact .config (Config.exists_load_eq_error.1 ⟨error, h⟩)
    · obtain ⟨error, h, -⟩ := loadCatalog_eq_error.1 h
      exact .schema (Schema.Catalog.exists_load_eq_error.1 ⟨error, h⟩)
    · exact .input (readInput_eq_error h).1
    · rcases Descriptor.ofRequest_eq_error.1 h with ⟨error, -, rfl⟩ | ⟨error, -, rfl⟩ <;>
        cases hfailure

theorem answers_of_ok (h : (execute files input command).result = .ok data) :
    Answers files input command (success data) := by
  cases command with
  | fields path =>
    rw [result_fields, bind_eq_ok] at h
    obtain ⟨catalog, hcatalog, h⟩ := h
    cases h
    exact .fields (loadCatalog_eq_ok.1 hcatalog)
  | compile kind path given =>
    simp only [result_compile, bind_eq_ok] at h
    obtain ⟨config, hconfig, catalog, hcatalog, json, hinput, h⟩ := h
    obtain ⟨document, hcompiles, rfl⟩ := Descriptor.ofRequest_eq_ok.1 h
    exact .compiled (loadConfig_eq_ok.1 hconfig) (loadCatalog_eq_ok.1 hcatalog)
      (readInput_eq_ok.1 hinput) hcompiles

theorem answers_of_error (h : (execute files input command).result = .error failure)
    (hfailure : failure.isAnswer = true) :
    Answers files input command (refusal failure.code failure.message) := by
  cases command with
  | fields path =>
    rw [result_fields, bind_eq_error] at h
    rcases h with h | ⟨_, -, h⟩
    · obtain ⟨error, -, rfl⟩ := loadCatalog_eq_error.1 h
      cases hfailure
    · cases h
  | compile kind path given =>
    simp only [result_compile, bind_eq_error] at h
    rcases h with h | ⟨config, hconfig, h | ⟨catalog, hcatalog, h | ⟨json, hinput, h⟩⟩⟩
    · obtain ⟨name, error, -, -, rfl⟩ := loadConfig_eq_error.1 h
      cases hfailure
    · obtain ⟨error, -, rfl⟩ := loadCatalog_eq_error.1 h
      cases hfailure
    · rw [(readInput_eq_error h).2] at hfailure
      cases hfailure
    · have hconfig := loadConfig_eq_ok.1 hconfig
      have hcatalog := loadCatalog_eq_ok.1 hcatalog
      have hinput := readInput_eq_ok.1 hinput
      rcases Descriptor.ofRequest_eq_error.1 h with ⟨error, hunfit, rfl⟩ | ⟨error, hrejected, rfl⟩
      · exact .unfit hconfig hcatalog hinput hunfit
      · exact .rejected hconfig hcatalog hinput hrejected

/-- A request is answered by what comes of its command. -/
theorem Answers.result {members : Entries Json} (h : Answers files input command members) :
    (∃ data, (execute files input command).result = .ok data ∧ members = success data) ∨
      ∃ failure, (execute files input command).result = .error failure ∧
        failure.isAnswer = true ∧ members = refusal failure.code failure.message := by
  cases h with
  | fields h =>
    refine .inl ⟨_, ?_, rfl⟩
    rw [result_fields, loadCatalog_eq_ok.2 h]
    rfl
  | compiled hconfig hcatalog hinput h =>
    refine .inl ⟨_, ?_, rfl⟩
    simp only [result_compile, bind_eq_ok]
    exact ⟨_, loadConfig_eq_ok.2 hconfig, _, loadCatalog_eq_ok.2 hcatalog, _,
      readInput_eq_ok.2 hinput, Descriptor.ofRequest_eq_ok.2 ⟨_, h, rfl⟩⟩
  | unfit hconfig hcatalog hinput h =>
    refine .inr ⟨.request _, ?_, rfl, rfl⟩
    rw [result_compile, loadConfig_eq_ok.2 hconfig, loadCatalog_eq_ok.2 hcatalog,
      readInput_eq_ok.2 hinput]
    exact Descriptor.ofRequest_eq_error.2 (.inl ⟨_, h, rfl⟩)
  | rejected hconfig hcatalog hinput h =>
    refine .inr ⟨.query _, ?_, rfl, rfl⟩
    rw [result_compile, loadConfig_eq_ok.2 hconfig, loadCatalog_eq_ok.2 hcatalog,
      readInput_eq_ok.2 hinput]
    exact Descriptor.ofRequest_eq_error.2 (.inr ⟨_, h, rfl⟩)

theorem not_barred_compile {config : Config} {catalog : Schema.Catalog} {json : Json}
    (hconfig : Configures files given config)
    (hcatalog : Schema.Catalog.load path (files path) = .ok catalog) (hinput : Reads input json) :
    ¬Barred files input (.compile kind path given) := by
  intro h
  cases h with
  | config h =>
    cases hconfig with
    | file hload =>
      obtain ⟨error, herror⟩ := Config.exists_load_eq_error.2 h
      cases hload.symm.trans herror
  | schema h =>
    obtain ⟨error, herror⟩ := Schema.Catalog.exists_load_eq_error.2 h
    cases hcatalog.symm.trans herror
  | input h => exact h.not_reads json hinput

/-- There is an answer, or it is barred. -/
theorem Answers.not_barred {members : Entries Json} (h : Answers files input command members) :
    ¬Barred files input command := by
  cases h with
  | fields h =>
    intro hbarred
    cases hbarred with
    | fields hother =>
      obtain ⟨error, herror⟩ := Schema.Catalog.exists_load_eq_error.2 hother
      cases h.symm.trans herror
  | compiled hconfig hcatalog hinput | unfit hconfig hcatalog hinput
  | rejected hconfig hcatalog hinput => exact not_barred_compile hconfig hcatalog hinput

/-- What is barred fails without an answer, whatever else stands in the way. -/
theorem Barred.result (h : Barred files input command) :
    ∃ failure, (execute files input command).result = .error failure ∧
      failure.isAnswer = false := by
  cases hresult : (execute files input command).result with
  | ok data => exact absurd h (answers_of_ok hresult).not_barred
  | error failure =>
    refine ⟨failure, rfl, Bool.eq_false_of_not_eq_true fun hfailure => ?_⟩
    exact (answers_of_error hresult hfailure).not_barred h

theorem exists_answers (h : ¬Barred files input command) :
    ∃ members, Answers files input command members := by
  cases hresult : (execute files input command).result with
  | ok data => exact ⟨_, answers_of_ok hresult⟩
  | error failure =>
    refine ⟨_, answers_of_error hresult (Bool.eq_true_of_not_eq_false fun hfailure => ?_)⟩
    exact h (barred_of_error hresult hfailure)

theorem Answers.unique {members others : Entries Json} (h : Answers files input command members)
    (hother : Answers files input command others) : others = members := by
  rcases h.result with ⟨data, hresult, rfl⟩ | ⟨failure, hresult, -, rfl⟩ <;>
    rcases hother.result with ⟨data, hsame, rfl⟩ | ⟨failure, hsame, -, rfl⟩ <;>
    cases hresult.symm.trans hsame <;> rfl

/-! ## Output -/

theorem conclude_of_barred (h : Barred files input command) (least : Log.Severity) :
    (conclude least (execute files input command)).exit = 1 ∧
      (conclude least (execute files input command)).stdout = "" := by
  obtain ⟨failure, hresult, hfailure⟩ := h.result
  simp [conclude, hresult, hfailure]

theorem conclude_of_answers {members : Entries Json} (h : Answers files input command members)
    (least : Log.Severity) :
    (conclude least (execute files input command)).exit = 0 ∧
      (conclude least (execute files input command)).stdout = answer (.object members) := by
  rcases h.result with ⟨data, hresult, rfl⟩ | ⟨failure, hresult, hfailure, rfl⟩
  · simp [conclude, hresult, successJson, success]
  · simp [conclude, hresult, hfailure, failureJson, refusal]

end Commands

/-- The text is a single line, which holds one JSON object with those members. An answer that is no
success is read back as it was, whatever texts it repeats. -/
structure OneLine (members : Entries Json) (text : String) : Prop where
  exists_line : ∃ line, text = line ++ "\n" ∧ '\n' ∉ line.toList ∧
    Json.Outline.ofText? line = some (.object (Json.outlineMembers members)) ∧
    ∀ code message, members = refusal code message → Json.parse? line = some (.object members)

theorem parse?_refusal (code message : String) :
    Json.parse? (Json.object (refusal code message)).render =
      some (.object (refusal code message)) := by
  have hkeys : ["status", "code", "message"].Nodup := by decide
  exact @Json.parse?_ofTexts [("status", "error"), ("code", code), ("message", message)] hkeys

theorem oneLine_answer (members : Entries Json) : OneLine members (answer (.object members)) where
  exists_line := by
    refine ⟨_, rfl, fun hnewline => ?_, Json.Outline.ofText?_render _, ?_⟩
    · exact absurd (Json.printable_render _ _ hnewline) (by decide)
    · rintro code message rfl
      exact parse?_refusal code message

theorem line_ne_empty (entry : Log.Entry) : entry.line ≠ "" := by
  intro h
  have hlength := congrArg String.length h
  simp [Log.Entry.line] at hlength

/-- No line of a log is an answer: they begin with different keys. -/
theorem line_ne_answer (entry : Log.Entry) (status : Json) (rest : Entries Json) :
    entry.line ≠ answer (.object (("status", status) :: rest)) := by
  intro h
  have houtline := congrArg Json.Outline.ofText? ((String.append_left_inj "\n").1 h)
  rw [Json.Outline.ofText?_render, Json.Outline.ofText?_render] at houtline
  have hmembers := Json.Outline.object.inj (Option.some.inj houtline)
  have hkey : Json.pieces "event" = Json.pieces "status" :=
    (Prod.mk.inj (List.cons.inj hmembers).1).1
  exact absurd hkey (by decide)

theorem Answers.exists_status {command : Command} {members : Entries Json}
    (h : Answers files input command members) :
    ∃ status rest, members = ("status", status) :: rest := by
  cases h <;> exact ⟨_, _, rfl⟩

/-- **One run, one answer.** A run of a command is barred and writes nothing to the standard output,
or it writes one line with one object. Which of the two it is, and the members of the object, depend
on the files, the input and the command alone, and no line of a log is in the output. -/
theorem one_answer {arguments : List String} {verbose : Bool} {command : Command}
    (h : parse arguments = .run verbose command) (files : Files) (input : Bytes) :
    let output := run files input arguments
    (output.exit = 1 ∧ output.stdout = "" ∧ Barred files input command ∨
      output.exit = 0 ∧ ¬Barred files input command ∧
        ∃ members, Answers files input command members ∧
          (∀ others, Answers files input command others → others = members) ∧
          output.stdout = answer (.object members) ∧ OneLine members output.stdout) ∧
      ∀ entry : Log.Entry, entry.line ≠ output.stdout := by
  have hrun : run files input arguments =
      conclude (if verbose then .trace else .info) (execute files input command) := by
    rw [run, h]
  intro output
  by_cases hbarred : Barred files input command
  · obtain ⟨hexit, hstdout⟩ := conclude_of_barred hbarred (if verbose then .trace else .info)
    rw [← hrun] at hexit hstdout
    refine ⟨.inl ⟨hexit, hstdout, hbarred⟩, fun entry => ?_⟩
    exact hstdout ▸ line_ne_empty entry
  · obtain ⟨members, hmembers⟩ := exists_answers hbarred
    obtain ⟨hexit, hstdout⟩ := conclude_of_answers hmembers (if verbose then .trace else .info)
    rw [← hrun] at hexit hstdout
    refine ⟨.inr ⟨hexit, hbarred, members, hmembers, fun _ => hmembers.unique, hstdout, ?_⟩,
      fun entry => ?_⟩
    · exact hstdout ▸ oneLine_answer members
    · obtain ⟨status, rest, rfl⟩ := hmembers.exists_status
      exact hstdout ▸ line_ne_answer entry status rest

/-- A filter that is a text, and one of two lines, is answered with one line. -/
theorem one_answer_unfit :
    let files : Files := fun _ => .regular (Text.toBytes "\x7b\x7d")
    let input := Text.toBytes (Json.ofTexts [("filter", "a\nb")]).render
    let arguments := ["query", "--schema", "schema.json"]
    parse arguments = .run false (.compile .query "schema.json" none) ∧
      (run files input arguments).exit = 0 ∧
      (run files input arguments).stdout =
        answer (.object (refusal "DOCQUERY_CLI_INVALID_REQUEST"
          "invalid filter at \x27$\x27: expected an object")) := by
  intro files input arguments
  have harguments : parse arguments = .run false (.compile .query "schema.json" none) := by
    decide +kernel
  have hcatalog : Schema.Catalog.load "schema.json" (files "schema.json") = .ok .empty := by
    rw [Schema.Catalog.load, Text.readFile, Text.readBytes, Text.ofBytes?_toBytes]
    rfl
  have hinput : Reads input (Json.ofTexts [("filter", "a\nb")]) :=
    ⟨_, Text.ofBytes?_toBytes _, rfl, Json.parse?_ofTexts (by decide)⟩
  have hanswers : Answers files input (.compile .query "schema.json" none) _ :=
    .unfit .default hcatalog hinput (.query rfl)
  refine ⟨harguments, ?_⟩
  obtain ⟨⟨-, -, hbarred⟩ | ⟨hexit, -, members, -, hunique, hstdout, -⟩, -⟩ :=
    one_answer harguments files input
  · exact absurd hbarred hanswers.not_barred
  · refine ⟨hexit, ?_⟩
    rw [hstdout, ← hunique _ hanswers]
    rfl

end DocumentQuery.CommandLine
