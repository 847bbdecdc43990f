import DocumentQuery.Query.Error
import DocumentQuery.Text.Base64
import DocumentQuery.Text.Blank
import DocumentQuery.Value.Bson.Reader
import DocumentQuery.Value.Bson.Writer
import DocumentQuery.Value.Spelled

/-!
# Cursor tokens

A token carries the values by which a row is sorted: the document with one entry `v`, their list,
in BSON, written in URL-safe base 64 without padding. Each value keeps its type.

* `Token.encode` : the token of values;
* `Token.decode` : the values of a token that is not too long.
-/

namespace DocumentQuery.Cursor.Token

def valuesKey : String := "v"

/-- The token of values. -/
def encode (values : List Value) : Except QueryError String :=
  match Bson.encode? [(valuesKey, .array values)] with
  | some bytes => .ok (String.ofList (Text.Base64.encodeUrl bytes))
  | none => .error (.invalidCursor .unencodable)

/-- The document that bytes hold, with the values that documents within it spell. -/
def payload? (bytes : Bytes) : Option Document := do
  let raw ← Bson.decode? bytes
  (← raw.value?).document?

/-- The token holds nothing but blanks. -/
def isBlank (token : String) : Bool := Text.isAllBlank token

/-- The values of a token of at most `limit` bytes. Blanks around it do not count, and a token
without anything else has no values. -/
def decode (limit : Nat) (token : String) : Except QueryError (List Value) :=
  let symbols := Text.trim token.toList
  let length := (String.ofList symbols).utf8ByteSize
  if symbols.isEmpty then .ok []
  else if limit < length then .error (.invalidCursor (.tooLong length limit))
  else
    match Text.Base64.decodeUrl? symbols with
    | none => .error (.invalidCursor .badSymbols)
    | some bytes =>
      match payload? bytes with
      | none => .error (.invalidCursor .badPayload)
      | some document =>
        match Entries.get? valuesKey document with
        | some (.array values) => .ok values
        | _ => .error (.invalidCursor .noValues)

end DocumentQuery.Cursor.Token
