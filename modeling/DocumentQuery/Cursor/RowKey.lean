import DocumentQuery.Query.SortOrder

/-!
# Values of rows

A field of a nested document is named by its path, the keys joined by dots.

* `Row.lookup?` : the value at a path;
* `Row.key`     : the values by which a row is sorted.
-/

namespace DocumentQuery.Cursor

/-- The parts of a text between its dots: always one more than there are dots. -/
def splitDots : List Char → List (List Char)
  | [] => [[]]
  | c :: rest =>
    if c = '.' then [] :: splitDots rest
    else
      match splitDots rest with
      | part :: parts => (c :: part) :: parts
      | [] => [[c]]

/-- The keys of a path. -/
def pathKeys (path : String) : List String := (splitDots path.toList).map String.ofList

namespace Row

/-- The value under keys that lead from document to document. -/
def descend? : List String → Document → Option Value
  | [], _ => none
  | [key], row => Entries.get? key row
  | key :: keys, row =>
    match Entries.get? key row with
    | some (.document inner) => descend? keys inner
    | _ => none

/-- The value at a path. -/
def lookup? (row : Document) (path : String) : Option Value := descend? (pathKeys path) row

/-- The values by which a row is sorted; what it lacks is null. -/
def key (sort : SortOrder) (row : Document) : List Value :=
  sort.map fun s => (lookup? row s.field).getD .null

end Row

end DocumentQuery.Cursor
