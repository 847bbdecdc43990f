import DocumentQuery.CommandLine.Arguments
import DocumentQuery.CommandLine.Descriptor

/-!
# Runs

A run of the program, from its arguments, the files it looks for and its input, to what it writes
and how it ends. Answers are one line of JSON on the standard output; everything else goes to the
standard error.

* `loadCollection` : the collection of a schema and a configuration;
* `execute`        : a command;
* `run`            : a run.
-/

namespace DocumentQuery.CommandLine

/-- The files by path. -/
abbrev Files := String → Text.File

structure Output where
  exit : Nat
  stdout : String
  stderr : String
  deriving DecidableEq, Repr

/-- Results of the steps of a command, with what they report. -/
abbrev Step (α : Type) := Reported α

namespace Step

def fail {α : Type} (failure : Failure) : Step α := ⟨.error failure, []⟩

/-- The next step, unless this one failed. -/
def andThen {α β : Type} (step : Step α) (next : α → Step β) : Step β :=
  match step.result with
  | .error failure => ⟨.error failure, step.log⟩
  | .ok value => { next value with log := step.log ++ (next value).log }

end Step

def loadConfig (files : Files) (path : Option String) : Step Config :=
  match path with
  | none => ⟨.ok {}, []⟩
  | some path =>
    match Config.load path (files path) with
    | .error error => .fail (.config error)
    | .ok config =>
      ⟨.ok config, [.lifecycle .configLoaded
        [("path", path), ("strict_validation", toString config.strict)]]⟩

def loadCatalog (files : Files) (path : String) : Step Schema.Catalog :=
  match Schema.Catalog.load path (files path) with
  | .error error => .fail (.schema error)
  | .ok catalog =>
    ⟨.ok catalog, [.lifecycle .catalogLoaded [("fields", toString catalog.size), ("path", path)]]⟩

/-- The collection of a schema and a configuration, which is loaded first. -/
def loadCollection (files : Files) (schema : String) (config : Option String) :
    Step Collection :=
  (loadConfig files config).andThen fun config =>
    (loadCatalog files schema).andThen fun catalog => ⟨.ok ⟨catalog, config⟩, []⟩

/-- The JSON value of the input. -/
def readInput (input : Bytes) : Step Json :=
  match Text.ofBytes? input with
  | none => .fail .notText
  | some text => ⟨parseInput text, []⟩

/-- The fields of a catalog with their kinds. -/
def catalogJson (catalog : Schema.Catalog) : Json :=
  .object (catalog.toList.map fun (field, kind) => (field, .string kind.name))

/-- What a command answers. -/
def execute (files : Files) (input : Bytes) : Command → Step Json
  | .compile kind schema config =>
    (loadCollection files schema config).andThen fun collection =>
      (readInput input).andThen fun json => Descriptor.ofRequest kind collection json
  | .fields schema =>
    (loadCatalog files schema).andThen fun catalog => ⟨.ok (catalogJson catalog), []⟩

/-! ## Output -/

def answer (json : Json) : String := json.render ++ "\n"

def successJson (data : Json) : Json := .object [("status", .string "ok"), ("data", data)]

def failureJson (failure : Failure) : Json :=
  .object
    [("status", .string "error"), ("code", .string failure.code),
      ("message", .string failure.message)]

/-- The output of a command. -/
def conclude (least : Log.Severity) (step : Step Json) : Output :=
  let log := Log.transcript least step.log
  match step.result with
  | .ok data => ⟨0, answer (successJson data), log⟩
  | .error failure =>
    if failure.isAnswer then ⟨0, answer (failureJson failure), log⟩
    else ⟨1, "", log ++ failure.code ++ ": " ++ failure.message ++ "\n"⟩

def name : String := "docquery"

def version : String := name ++ " 0.1.0\n"

def usage : String :=
  "Usage: docquery [--verbose] <query|aggregate|cursor|fields> --schema <SCHEMA> " ++
    "[--config <CONFIG>]\n"

def help : String :=
  "A deterministic filter, aggregate and keyset-pagination compiler for document stores\n\n" ++
    usage ++
    "\nquery, aggregate and cursor compile one JSON request from the standard input;\n" ++
    "fields prints the fields of a schema.\n"

/-- A run of the program. -/
def run (files : Files) (input : Bytes) (arguments : List String) : Output :=
  match parse arguments with
  | .help => ⟨0, help, ""⟩
  | .version => ⟨0, version, ""⟩
  | .misuse => ⟨2, "", usage⟩
  | .run verbose command =>
    conclude (if verbose then .trace else .info) (execute files input command)

end DocumentQuery.CommandLine
