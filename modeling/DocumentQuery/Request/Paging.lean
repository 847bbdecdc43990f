import DocumentQuery.Number.Saturating

/-!
# Windows

Which rows of a result a request asks for: by how many to skip and to take, or by page.

* `Paging`        : the request;
* `Paging.window` : the window it asks for.
-/

namespace DocumentQuery

/-- How many rows to skip, and how many to take at most. -/
structure Window where
  skip : Option UInt64 := none
  limit : Option UInt64 := none
  deriving DecidableEq, Repr

structure Paging where
  limit : Option UInt64 := none
  offset : Option UInt64 := none
  skip : Option UInt64 := none
  /-- Counted from one. -/
  page : Option UInt64 := none
  size : Option UInt64 := none
  deriving DecidableEq, Repr

namespace Paging

/-- The rows before a page. Page zero is page one. -/
def rowsBefore (page size : UInt64) : UInt64 :=
  Number.saturate ((page.toNat - 1) * size.toNat)

/-- The window by rows: a number to skip counts only with a limit, under `skip` before `offset`. -/
def rowWindow (paging : Paging) : Window :=
  match paging.limit with
  | some limit => ⟨paging.skip.or paging.offset, some limit⟩
  | none => {}

/-- The window of a request. A size takes the place of the limit, and with it a page the place of
the rows to skip. -/
def window (paging : Paging) : Window :=
  let rows := paging.rowWindow
  match paging.size with
  | some size => ⟨(paging.page.map fun page => rowsBefore page size).or rows.skip, some size⟩
  | none => rows

end Paging

end DocumentQuery
