import DocumentQuery.Compilation
import DocumentQuery.Cursor.Page

/-!
# Repositories

A repository compiles requests for one collection, hands what comes out to a store, and works up
the answer. The store is called once for a request that compiles, and not at all for one that does
not.

* `Store`      : what a store answers to each call;
* `Reply`      : the result of a request, the calls made for it, and what is reported;
* `Repository.query`, `Repository.count`, `Repository.aggregate`, `Repository.page` : the
  requests.
-/

namespace DocumentQuery

/-- The answers of a store; a failure is a text. -/
structure Store where
  find : Find → Except String (List Document)
  aggregate : List Document → Except String (List Document)
  count : Document → Except String Nat

/-- A call of a store. -/
inductive StoreCall where
  | find (query : Find)
  | aggregate (stages : List Document)
  | count (filter : Document)

/-- Why a request fails. -/
inductive RepositoryError where
  | query (error : QueryError)
  | store (failure : String)
  deriving DecidableEq, Repr

namespace RepositoryError

def code : RepositoryError → String
  | query error => error.code
  | store _ => "REPOSITORY_STORE_FAILED"

def message : RepositoryError → String
  | query error => error.message
  | store failure => "Store operation failed: " ++ failure

end RepositoryError

structure Reply (α : Type) where
  result : Except RepositoryError α
  calls : List StoreCall
  log : List Log.Entry
  counter : Option Counter

structure Repository where
  collection : Collection
  store : Store

namespace Repository

variable {α β γ : Type}

/-- The result of what the store answers, or why there is none. -/
def conclude (answer : Except String β) (finish : β → Except QueryError γ) :
    Except RepositoryError γ :=
  match answer with
  | .error failure => .error (.store failure)
  | .ok rows => (finish rows).mapError .query

/-- Sends what a request compiles to, and works up the answer. -/
def send (compilation : Compilation α) (call : α → StoreCall) (ask : α → Except String β)
    (finish : α → β → Except QueryError γ) : Reply γ :=
  match compilation.result with
  | .error error => ⟨.error (.query error), [], compilation.log, some compilation.counter⟩
  | .ok compiled =>
    ⟨conclude (ask compiled) (finish compiled), [call compiled], compilation.log,
      some compilation.counter⟩

/-- The rows of a request. -/
def query (repository : Repository) (request : FindRequest) : Reply (List Document) :=
  send (Compilation.find repository.collection request) .find repository.store.find
    fun _ rows => .ok rows

/-- The number of rows that meet a filter. It is not reported. -/
def count (repository : Repository) (filter : Filter) : Reply Nat :=
  match Filter.compile repository.collection filter with
  | .error error => ⟨.error (.query error), [], [], none⟩
  | .ok compiled =>
    ⟨conclude (repository.store.count compiled) .ok, [.count compiled], [], none⟩

/-- The groups of a request. -/
def aggregate (repository : Repository) (request : AggregateRequest) :
    Reply (List Aggregate.Group) :=
  send (Compilation.pipeline repository.collection request)
    (fun pipeline => .aggregate pipeline.stages)
    (fun pipeline => repository.store.aggregate pipeline.stages)
    fun pipeline rows => pipeline.decode rows

/-- The page of a request. -/
def page (repository : Repository) (request : CursorRequest) : Reply Page :=
  send (Compilation.page repository.collection request) (fun query => .find query.find)
    (fun query => repository.store.find query.find) Page.ofRows

end Repository

end DocumentQuery
