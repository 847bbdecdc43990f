import DocumentQuery.Config
import DocumentQuery.Filter.Coercion
import DocumentQuery.Query.Error
import DocumentQuery.Schema.Catalog

/-!
# Collections

What is known of a collection of documents: the fields that its schema declares, and its
configuration. Every request is compiled for one collection.

* `Collection.coerce` : a value as the values of a field are stored;
* `Collection.check`  : the field may be sorted by, selected and compared with a cursor.
-/

namespace DocumentQuery

structure Collection where
  catalog : Schema.Catalog
  config : Config

namespace Collection

/-- Brings a value to the type of a field, given by its stored name. The identifier is known
without a catalog; a field that the catalog does not list takes any value. -/
def coerce (collection : Collection) (field : String) (value : Value) : Value :=
  if collection.config.isIdentifier field then Coercion.identifier value
  else
    match collection.catalog.kind? field with
    | some kind => Coercion.toKind kind value
    | none => value

/-- A field that is not the identifier has to be in the catalog where fields are strict. -/
def check (collection : Collection) (field : String) : Except QueryError Unit :=
  if collection.config.strict && !collection.config.isIdentifier field &&
      !collection.catalog.contains field then
    .error (.unknownField field)
  else .ok ()

end Collection

end DocumentQuery
