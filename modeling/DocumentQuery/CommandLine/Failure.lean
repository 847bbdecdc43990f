import DocumentQuery.Config
import DocumentQuery.Query.Error
import DocumentQuery.Request.Decode
import DocumentQuery.Schema.Catalog
import DocumentQuery.Text.Blank

/-!
# Failures of a run

A configuration, a schema or an input that cannot be read ends a run. A request that does not fit
its shape or does not compile is answered instead.
-/

namespace DocumentQuery.CommandLine

inductive Failure where
  | config (error : ConfigError)
  | schema (error : Schema.SchemaError)
  | notText
  | emptyInput
  | notJson
  | request (error : RequestError)
  | query (error : QueryError)
  deriving DecidableEq, Repr

namespace Failure

def code : Failure → String
  | config _ => "DOCQUERY_CLI_CONFIG_ERROR"
  | schema _ => "DOCQUERY_CLI_SCHEMA_ERROR"
  | notText | emptyInput | notJson => "DOCQUERY_CLI_IO_ERROR"
  | request _ => "DOCQUERY_CLI_INVALID_REQUEST"
  | query error => error.code

def message : Failure → String
  | config error => error.message
  | schema error => error.message
  | notText => Text.ReadError.notText.message
  | emptyInput => "Empty input"
  | notJson => "JSON error: malformed text"
  | request error => error.message
  | query error => error.message

/-- The failure is an answer to the request, and does not end the run. -/
def isAnswer : Failure → Bool
  | request _ | query _ => true
  | _ => false

end Failure

/-- The JSON value of an input. -/
def parseInput (text : String) : Except Failure Json :=
  if Text.isAllBlank text then .error .emptyInput
  else
    match Json.parse? text with
    | some json => .ok json
    | none => .error .notJson

end DocumentQuery.CommandLine
