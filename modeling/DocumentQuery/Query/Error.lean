import DocumentQuery.Filter.Parser

/-!
# Errors of compilation

Each cause has a stable code, a message, and where it has to do with one field, that field.
-/

namespace DocumentQuery

/-- One of the two bounds of a range. -/
inductive Bound where
  | lower
  | upper
  deriving DecidableEq, Repr

def Bound.key : Bound → String
  | lower => "lower"
  | upper => "upper"

/-- What an operator finds wrong with its value. -/
inductive ValueFault where
  | notAList (typeName : String)
  | notARange
  | missing (bound : Bound)
  deriving DecidableEq, Repr

def ValueFault.reason : ValueFault → String
  | notAList typeName => "expected a list, got " ++ typeName
  | notARange => "expected an object with lower and upper"
  | missing bound => "missing " ++ bound.key

/-- What is wrong with a cursor token, or with the values that one is made of. -/
inductive CursorFault where
  | unencodable
  | tooLong (length limit : Nat)
  | badSymbols
  | badPayload
  | noValues
  deriving DecidableEq, Repr

def CursorFault.reason : CursorFault → String
  | unencodable => "cannot encode values: a key holds a zero byte"
  | tooLong length limit =>
    "token length " ++ toString length ++ " exceeds maximum " ++ toString limit
  | badSymbols => "invalid base64: malformed token"
  | badPayload => "invalid payload: malformed document"
  | noValues => "missing value list"

/-- Why a request does not compile. -/
inductive QueryError where
  | unknownOperator (field operator : String)
  | invalidValue (field operator : String) (fault : ValueFault)
  | unknownField (field : String)
  | cursorLength (cursor sort : Nat)
  | unknownColumn (label : String)
  | noFunctions
  | malformedFilter (part : Filter.Malformed)
  | invalidCursor (fault : CursorFault)
  deriving DecidableEq, Repr

namespace QueryError

def code : QueryError → String
  | unknownOperator _ _ => "QUERY_UNKNOWN_OPERATOR"
  | invalidValue _ _ _ => "QUERY_INVALID_VALUE"
  | unknownField _ => "QUERY_UNKNOWN_FIELD"
  | cursorLength _ _ => "QUERY_CURSOR_LENGTH_MISMATCH"
  | unknownColumn _ => "QUERY_UNKNOWN_AGGREGATE_COLUMN"
  | noFunctions => "QUERY_NO_AGGREGATE_FIELDS"
  | malformedFilter _ => "QUERY_INVALID_FILTER"
  | invalidCursor _ => "QUERY_INVALID_CURSOR"

def message : QueryError → String
  | unknownOperator field operator =>
    "unknown operator (" ++ operator ++ ") on field \x27" ++ field ++ "\x27"
  | invalidValue field operator fault =>
    "invalid value for \x27" ++ operator ++ "\x27 on field \x27" ++ field ++ "\x27: " ++
      fault.reason
  | unknownField field => "field " ++ field ++ " does not exist in collection"
  | cursorLength cursor sort =>
    "cursor format fields length: " ++ toString cursor ++
      " not match orders fields length: " ++ toString sort
  | unknownColumn label => "Unknown aggregate column encountered for " ++ label ++ "."
  | noFunctions => "No aggregate fields found."
  | malformedFilter part =>
    "invalid filter at \x27" ++ part.location ++ "\x27: " ++ part.expected.description
  | invalidCursor fault => "invalid cursor: " ++ fault.reason

/-- The field that the error is about. -/
def field? : QueryError → Option String
  | unknownOperator field _ | invalidValue field _ _ | unknownField field => some field
  | _ => none

end QueryError

end DocumentQuery
