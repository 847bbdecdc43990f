import DocumentQuery.Compilation

/-!
# Arguments

The arguments of the program: a command, its options, and `--verbose` before or after it.

* `Command`     : what there is to do;
* `Invocation`  : a command, a call for help, or no use of the program;
* `parse`       : the invocation of arguments, read from left to right.
-/

namespace DocumentQuery.CommandLine

inductive Command where
  /-- Compile a request of a kind. -/
  | compile (kind : Compilation.Kind) (schema : String) (config : Option String)
  /-- List the fields of a schema. -/
  | fields (schema : String)
  deriving DecidableEq, Repr

inductive Invocation where
  | run (verbose : Bool) (command : Command)
  | help
  | version
  | misuse
  deriving DecidableEq, Repr

namespace Arguments

/-- The commands by name. -/
inductive Name where
  | compile (kind : Compilation.Kind)
  | fields
  deriving DecidableEq, Repr

def Name.ofText? : String → Option Name
  | "query" => some (.compile .query)
  | "aggregate" => some (.compile .aggregate)
  | "cursor" => some (.compile .cursor)
  | "fields" => some .fields
  | _ => none

def Name.hasConfig : Name → Bool
  | compile _ => true
  | fields => false

/-- Options read so far, each at most once. -/
structure Options where
  verbose : Bool := false
  schema : Option String := none
  config : Option String := none
  deriving DecidableEq, Repr

/-- An option that takes a value. -/
inductive PathOption where
  | schema
  | config
  deriving DecidableEq, Repr

/-- Sets an option that has not been set, to a value that is not empty. -/
def Options.set? (options : Options) (path : PathOption) (value : String) : Option Options :=
  if value.isEmpty then none
  else
    match path with
    | .schema =>
      if options.schema.isSome then none else some { options with schema := some value }
    | .config =>
      if options.config.isSome then none else some { options with config := some value }

/-- The option of a long name, where the command has it. -/
def path? (name : Name) (option : List Char) : Option PathOption :=
  if option = "--schema".toList then some .schema
  else if option = "--config".toList ∧ name.hasConfig then some .config
  else none

/-- An argument that begins with a hyphen and has more is an option. -/
def isOption (argument : String) : Bool :=
  match argument.toList with
  | '-' :: _ :: _ => true
  | _ => false

/-- The command with its options; a schema it has to have. -/
def command (verbose : Bool) (name : Name) (options : Options) : Invocation :=
  match options.schema with
  | none => .misuse
  | some schema =>
    .run (verbose || options.verbose) <|
      match name with
      | .compile kind => .compile kind schema options.config
      | .fields => .fields schema

/-- What a short option alone or with others after it stands for at the front. -/
def startsShort (letter : Char) (argument : String) : Bool :=
  match argument.toList with
  | '-' :: c :: _ => c = letter
  | _ => false

/-- Reads the options of a command. -/
def options (verbose : Bool) (name : Name) (read : Options) : List String → Invocation
  | [] => command verbose name read
  | argument :: rest =>
    if argument = "--" then
      if rest.isEmpty then command verbose name read else .misuse
    else if argument = "--verbose" then
      if read.verbose then .misuse else options verbose name { read with verbose := true } rest
    else if argument = "--help" ∨ startsShort 'h' argument then .help
    else
      let chars := argument.toList
      let option := chars.takeWhile (· ≠ '=')
      match path? name option with
      | none => .misuse
      | some path =>
        if option.length < chars.length then
          match read.set? path (String.ofList (chars.drop (option.length + 1))) with
          | some read => options verbose name read rest
          | none => .misuse
        else
          match rest with
          | [] => .misuse
          | value :: rest =>
            if isOption value then .misuse
            else
              match read.set? path value with
              | some read => options verbose name read rest
              | none => .misuse

/-- Help may be asked for one command. -/
def helpOn : List String → Invocation
  | [] => .help
  | [name] => if name = "help" ∨ (Name.ofText? name).isSome then .help else .misuse
  | _ => .misuse

/-- Reads the arguments before a command, and from the command on. -/
def read (verbose : Bool) : List String → Invocation
  | [] => .misuse
  | argument :: rest =>
    if argument = "--verbose" then if verbose then .misuse else read true rest
    else if argument = "--help" ∨ startsShort 'h' argument then .help
    else if argument = "--version" ∨ startsShort 'V' argument then .version
    else if argument = "help" then helpOn rest
    else
      match Name.ofText? argument with
      | some name => options verbose name {} rest
      | none => .misuse

end Arguments

/-- The invocation of arguments. -/
def parse (arguments : List String) : Invocation := Arguments.read false arguments

end DocumentQuery.CommandLine
