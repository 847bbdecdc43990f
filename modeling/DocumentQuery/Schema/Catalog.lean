import DocumentQuery.Map.SortedMap
import DocumentQuery.Json.Parser
import DocumentQuery.Schema.TypeKind
import DocumentQuery.Text.File

/-!
# Catalogs of fields

A catalog lists the fields that a schema declares, each with the kind of its values. The fields of
a nested object are written with dots, and so are those of the objects in a list.

* `Catalog.ofSchema` : the catalog of a schema;
* `Catalog.load`     : the catalog of a schema file;
* `Catalog.kind?`    : the kind of a field.
-/

namespace DocumentQuery.Schema

/-- Why a schema has no catalog. -/
inductive SchemaError where
  | notAnObject
  | wrapperNotAnObject
  | propertiesNotAnObject
  | notJson (path : String)
  | unreadable (path : String) (reason : Text.ReadError)
  deriving DecidableEq, Repr

namespace SchemaError

def code : SchemaError → String
  | unreadable _ _ => "SCHEMA_UNREADABLE"
  | _ => "SCHEMA_MALFORMED"

def malformed (location reason : String) : String :=
  "Malformed schema at " ++ location ++ ": " ++ reason

def message : SchemaError → String
  | notAnObject => malformed "<root>" "schema must be an object"
  | wrapperNotAnObject => malformed "$jsonSchema" "wrapped schema must be an object"
  | propertiesNotAnObject => malformed "properties" "expected an object"
  | notJson path => malformed path "Invalid JSON: malformed text"
  | unreadable path reason => "Unable to read schema " ++ path ++ ": " ++ reason.message

end SchemaError

/-- The fields of a schema in ascending order. -/
structure Catalog where
  fields : SortedMap TypeKind

namespace Catalog

def empty : Catalog := ⟨.empty⟩

/-- The last kind of each field counts. -/
def ofFields (fields : Entries TypeKind) : Catalog := ⟨.ofList fields⟩

def kind? (catalog : Catalog) (field : String) : Option TypeKind := catalog.fields.get? field

def contains (catalog : Catalog) (field : String) : Bool := catalog.fields.contains field

def size (catalog : Catalog) : Nat := catalog.fields.size

def isEmpty (catalog : Catalog) : Bool := catalog.fields.isEmpty

def toList (catalog : Catalog) : Entries TypeKind := catalog.fields.toList

/-! ## Reading a schema -/

/-- The name that stands under a type key. Of a list the first text counts that is not `null`. -/
def typeName? : Json → Option String
  | .string name => some name
  | .array names => (names.filterMap Json.string?).find? (· ≠ "null")
  | _ => none

/-- The type name that a definition declares, under `bsonType` or else under `type`. An empty name
declares nothing. -/
def declaredType? (definition : Entries Json) : Option String := do
  let type ← (Entries.get? "bsonType" definition).or (Entries.get? "type" definition)
  (typeName? type).filter fun name => !name.isEmpty

mutual

/-- The fields that a definition declares at `path`. Without a type it declares an object if it
lists its values, and nothing otherwise. -/
def definitionFields (path : String) : Json → Entries TypeKind
  | .object definition =>
    match declaredType? definition with
    | some name =>
      let kind := TypeKind.ofName name
      let nested :=
        if kind = .array then
          (itemFields? path definition).getD (nestedFields path definition)
        else nestedFields path definition
      (path, kind) :: nested
    | none => if Entries.contains "enum" definition then [(path, .object)] else []
  | _ => []

/-- The fields that the items of a list at `path` declare, if there is an object under `items`. -/
def itemFields? (path : String) : List (String × Json) → Option (Entries TypeKind)
  | [] => none
  | (key, items) :: rest =>
    if key = "items" then objectFields? path items else itemFields? path rest

/-- The fields that an object declares within itself. -/
def objectFields? (path : String) : Json → Option (Entries TypeKind)
  | .object definition => some (nestedFields path definition)
  | _ => none

/-- The fields that a definition at `path` declares under `properties`. -/
def nestedFields (path : String) : List (String × Json) → Entries TypeKind
  | [] => []
  | (key, properties) :: rest =>
    if key = "properties" then propertiesFields (path ++ ".") properties
    else nestedFields path rest

/-- The fields of an object of properties. -/
def propertiesFields (lead : String) : Json → Entries TypeKind
  | .object properties => declaredFields lead properties
  | _ => []

/-- The fields that properties declare, each path beginning with `lead`, in order. -/
def declaredFields (lead : String) : List (String × Json) → Entries TypeKind
  | [] => []
  | (field, definition) :: rest =>
    definitionFields (lead ++ field) definition ++ declaredFields lead rest

end

/-- The members of a schema, which may be wrapped in `$jsonSchema`. -/
def body (schema : Json) : Except SchemaError (Entries Json) :=
  match schema with
  | .object root =>
    match Entries.get? "$jsonSchema" root with
    | none => .ok root
    | some (.object inner) => .ok inner
    | some _ => .error .wrapperNotAnObject
  | _ => .error .notAnObject

/-- The catalog of the members of a schema. Without properties it declares no fields. -/
def ofBody (root : Entries Json) : Except SchemaError Catalog :=
  match Entries.get? "properties" root with
  | none => .ok empty
  | some (.object properties) => .ok (ofFields (declaredFields "" properties))
  | some _ => .error .propertiesNotAnObject

/-- The catalog of a schema. -/
def ofSchema (schema : Json) : Except SchemaError Catalog := do
  let root ← body schema
  ofBody root

/-- The catalog of a schema file. -/
def load (path : String) (file : Text.File) : Except SchemaError Catalog :=
  match Text.readFile file with
  | .error reason => .error (.unreadable path reason)
  | .ok text =>
    match Json.parse? text with
    | none => .error (.notJson path)
    | some schema => ofSchema schema

end Catalog

end DocumentQuery.Schema
