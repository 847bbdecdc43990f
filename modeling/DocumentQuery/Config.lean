import DocumentQuery.Filter.Operator
import DocumentQuery.Json.Parser
import DocumentQuery.Text.File

/-!
# Configuration

How fields are named and which operators there are. Every setting has a default.

* `Config.parse?`    : the configuration that a JSON text gives;
* `Config.validate`  : the first setting that is not allowed;
* `Config.load`      : the configuration of a file;
* `Config.resolve`   : the stored name of a field.

A text may give the settings as the members of an object or, in their order, as the items of a
list. Members that are no settings need to be well-formed and no more.
-/

namespace DocumentQuery

/-- Why a configuration is not accepted. -/
inductive ConfigError where
  | unreadable (path : String) (reason : Text.ReadError)
  | notSettings
  | emptyIdField
  | emptyIdAlias
  | zeroTokenLength
  | emptyOperatorName
  | foreignOperator (name target : String)
  deriving DecidableEq, Repr

namespace ConfigError

def code : ConfigError → String
  | unreadable _ _ => "CONFIG_UNREADABLE"
  | _ => "CONFIG_INVALID"

def invalid (reason : String) : String := "Invalid config: " ++ reason

def message : ConfigError → String
  | unreadable path reason => "Failed to read config " ++ path ++ ": " ++ reason.message
  | notSettings => invalid "Invalid config JSON: malformed settings"
  | emptyIdField => invalid "id_field must not be empty"
  | emptyIdAlias => invalid "id_alias must not be empty"
  | zeroTokenLength => invalid "max_cursor_token_len must be > 0"
  | emptyOperatorName => invalid "operator name must not be empty"
  | foreignOperator name target =>
    invalid ("operator \x27" ++ name ++ "\x27 must map to a \x27$\x27 operator, got \x27" ++
      target ++ "\x27")

end ConfigError

structure Config where
  /-- Fields that the catalog does not list are refused in sorts, projections and cursors. -/
  strict : Bool := false
  /-- The stored name of the identifier. -/
  idField : String := "_id"
  /-- The public name of the identifier. -/
  idAlias : String := "id"
  /-- Operators over the standard ones. -/
  operators : SortedMap String := .empty
  /-- The greatest length of a cursor token. -/
  maxTokenLength : Nat := 8192

namespace Config

/-- The standard settings, with strict fields. -/
def strictFields : Config where
  strict := true

/-! ## Reading -/

open Json (Outline Piece)

/-- What has been read of the settings so far. -/
structure Settings where
  strict : Option Bool := none
  idField : Option String := none
  idAlias : Option String := none
  operators : Option (SortedMap String) := none
  maxTokenLength : Option Nat := none

def Settings.toConfig (s : Settings) : Config :=
  let standard : Config := {}
  { strict := s.strict.getD standard.strict
    idField := s.idField.getD standard.idField
    idAlias := s.idAlias.getD standard.idAlias
    operators := s.operators.getD standard.operators
    maxTokenLength := s.maxTokenLength.getD standard.maxTokenLength }

def bool? : Outline → Option Bool
  | .bool b => some b
  | _ => none

def text? : Outline → Option String
  | .string pieces => Piece.text? pieces
  | _ => none

/-- A whole number of 64 bits. -/
def length? : Outline → Option Nat
  | .number spelled =>
    match spelled.value? with
    | some (.integer n) => if 0 ≤ n then some n.toNat else none
    | _ => none
  | _ => none

/-- Names and texts; of a repeated name the last text counts. -/
def operators? : Outline → Option (SortedMap String)
  | .object members => do
    let pairs ← members.mapM fun (key, value) => do
      let name ← Piece.text? key
      let target ← text? value
      some (name, target)
    some (.ofList pairs)
  | _ => none

inductive Setting where
  | strict
  | idField
  | idAlias
  | operators
  | maxTokenLength
  deriving DecidableEq, Repr

def Setting.all : List Setting := [.strict, .idField, .idAlias, .operators, .maxTokenLength]

def Setting.key : Setting → String
  | strict => "strict_validation"
  | idField => "id_field"
  | idAlias => "id_alias"
  | operators => "operators"
  | maxTokenLength => "max_cursor_token_len"

def Settings.isSet (s : Settings) : Setting → Bool
  | .strict => s.strict.isSome
  | .idField => s.idField.isSome
  | .idAlias => s.idAlias.isSome
  | .operators => s.operators.isSome
  | .maxTokenLength => s.maxTokenLength.isSome

/-- Sets what has not been set before. -/
def Settings.set? (s : Settings) (setting : Setting) (value : Outline) : Option Settings :=
  if s.isSet setting then none
  else
    match setting with
    | .strict => (bool? value).map fun v => { s with strict := some v }
    | .idField => (text? value).map fun v => { s with idField := some v }
    | .idAlias => (text? value).map fun v => { s with idAlias := some v }
    | .operators => (operators? value).map fun v => { s with operators := some v }
    | .maxTokenLength => (length? value).map fun v => { s with maxTokenLength := some v }

/-- Reads a member; only its key counts where it is no setting. -/
def Settings.member? (s : Settings) (member : List Piece × Outline) : Option Settings := do
  let key ← Piece.text? member.1
  match Setting.all.find? (·.key = key) with
  | some setting => s.set? setting member.2
  | none => some s

def ofOutline? : Outline → Option Config
  | .object members => do
    let settings ← members.foldlM Settings.member? {}
    some settings.toConfig
  | .array items =>
    if items.length ≤ Setting.all.length then do
      let settings ← (Setting.all.zip items).foldlM
        (fun (s : Settings) (setting, value) => s.set? setting value) {}
      some settings.toConfig
    else none
  | _ => none

/-- The configuration that a JSON text gives. -/
def parse? (text : String) : Option Config := do
  let outline ← Outline.ofText? text
  ofOutline? outline

/-! ## Validity -/

/-- An operator has a name and stands for one that begins with a dollar sign. -/
def validateOperator (name target : String) : Except ConfigError Unit :=
  if name.isEmpty then .error .emptyOperatorName
  else if target.toList.head? = some '$' then .ok ()
  else .error (.foreignOperator name target)

def validate (config : Config) : Except ConfigError Unit :=
  if config.idField.isEmpty then .error .emptyIdField
  else if config.idAlias.isEmpty then .error .emptyIdAlias
  else if config.maxTokenLength = 0 then .error .zeroTokenLength
  else config.operators.toList.forM fun (name, target) => validateOperator name target

/-- The configuration of a file. -/
def load (path : String) (file : Text.File) : Except ConfigError Config :=
  match Text.readFile file with
  | .error reason => .error (.unreadable path reason)
  | .ok text =>
    match parse? text with
    | none => .error .notSettings
    | some config => do
      config.validate
      .ok config

/-! ## Use -/

/-- The standard operators and those of the configuration over them. -/
def operatorTable (config : Config) : Filter.OperatorTable :=
  Filter.OperatorTable.standard.override config.operators.toList

/-- The stored name of a field. -/
def resolve (config : Config) (field : String) : String :=
  if field = config.idAlias then config.idField else field

/-- The field is the identifier, under either name. -/
def isIdentifier (config : Config) (field : String) : Bool :=
  field == config.idField || field == config.idAlias

end Config

end DocumentQuery
