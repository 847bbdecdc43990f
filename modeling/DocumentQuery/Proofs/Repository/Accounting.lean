import DocumentQuery.Proofs.Compilation
import DocumentQuery.Repository
import Mathlib.Data.List.Induction

/-!
# The accounts of a repository

A run is a list of operations on one collection, each with whatever the store answers meanwhile:
rows of any kind, or a failure. After a run the counters say how many requests of each kind have
compiled and how many have not, and the store has been called once for each operation that compiles,
with what it compiles to.

* `Operation.call?` : the call that an operation compiles to;
* `Books`           : the counters, and the calls that the store has received;
* `run`             : the books after a run;
* `Accounts`        : books that agree with the operations of a run;
* `perform_eq`      : what one operation adds to the books, which does not depend on the store.

Principal result: `run_accounts`.
-/

namespace DocumentQuery.Repository

/-! ## Runs -/

inductive Operation where
  | query (request : FindRequest)
  | count (filter : Filter)
  | aggregate (request : AggregateRequest)
  | page (request : CursorRequest)

namespace Operation

/-- The kind under which an operation is counted. A number of rows is not counted. -/
def kind? : Operation → Option Compilation.Kind
  | query _ => some .query
  | count _ => none
  | aggregate _ => some .aggregate
  | page _ => some .cursor

/-- The call that carries what an operation compiles to, if it compiles. -/
def call? (collection : Collection) : Operation → Option StoreCall
  | query request => (Find.ofRequest collection request).toOption.map .find
  | count filter => (Filter.compile collection filter).toOption.map .count
  | aggregate request =>
    (Aggregate.Pipeline.ofRequest collection request).toOption.map fun pipeline =>
      .aggregate pipeline.stages
  | page request =>
    (CursorQuery.ofRequest collection request).toOption.map fun query => .find query.find

def compiles (collection : Collection) (operation : Operation) : Bool :=
  (operation.call? collection).isSome

end Operation

/-- An operation, with what the store answers meanwhile. -/
structure Step where
  operation : Operation
  store : Store

/-- The counters of a repository, and the calls that its store has received. -/
structure Books where
  metrics : Metrics := {}
  calls : List StoreCall := []

namespace Books

def add {α : Type} (books : Books) (reply : Reply α) : Books :=
  ⟨books.metrics.count? reply.counter, books.calls ++ reply.calls⟩

/-- The books after one more operation. -/
def perform (collection : Collection) (books : Books) (step : Step) : Books :=
  let repository : Repository := ⟨collection, step.store⟩
  match step.operation with
  | .query request => books.add (repository.query request)
  | .count filter => books.add (repository.count filter)
  | .aggregate request => books.add (repository.aggregate request)
  | .page request => books.add (repository.page request)

end Books

/-- The books after a run, which begins with fresh ones. -/
def run (collection : Collection) (steps : List Step) : Books :=
  steps.foldl (Books.perform collection) {}

/-! ## What there is to count -/

/-- The operations of a kind that compile. -/
def compiled (collection : Collection) (kind : Compilation.Kind) (steps : List Step) : Nat :=
  steps.countP fun step => step.operation.kind? = some kind && step.operation.compiles collection

/-- The operations of any kind that do not compile. -/
def rejected (collection : Collection) (steps : List Step) : Nat :=
  steps.countP fun step => step.operation.kind?.isSome && !step.operation.compiles collection

/-- The operations of any kind. -/
def issued (steps : List Step) : Nat := steps.countP fun step => step.operation.kind?.isSome

/-- Books that agree with the operations of a run. -/
structure Accounts (collection : Collection) (steps : List Step) (books : Books) : Prop where
  compiled : ∀ kind, books.metrics.value kind.counter =
    compiled collection kind steps % Metrics.capacity
  rejected : books.metrics.rejected = rejected collection steps % Metrics.capacity
  /-- As long as no counter has started again. -/
  total : issued steps < Metrics.capacity → books.metrics.total = issued steps
  /-- One call for each operation that compiles, and no other. -/
  calls : books.calls = steps.filterMap fun step => step.operation.call? collection

/-! ## One operation -/

section Send

variable {α β γ : Type} {compilation : Compilation α} {call : α → StoreCall}
  {ask : α → Except String β} {finish : α → β → Except QueryError γ}

theorem calls_send :
    (send compilation call ask finish).calls =
      (compilation.result.toOption.map call).toList := by
  unfold send
  split <;> rename_i h <;> rw [h] <;> rfl

theorem counter_send :
    (send compilation call ask finish).counter = some compilation.counter := by
  unfold send
  split <;> rfl

end Send

namespace Operation

/-- The counter that goes up for an operation. -/
def counter? (collection : Collection) (operation : Operation) : Option Counter :=
  operation.kind?.map fun kind =>
    if operation.compiles collection then kind.counter else .rejected

end Operation

/-- **What an operation adds to the books does not depend on what the store answers.** -/
theorem perform_eq (collection : Collection) (books : Books) (step : Step) :
    books.perform collection step =
      ⟨books.metrics.count? (step.operation.counter? collection),
        books.calls ++ (step.operation.call? collection).toList⟩ := by
  obtain ⟨operation, store⟩ := step
  cases operation with
  | query request =>
    simp only [Books.perform, Books.add, query, Compilation.find, calls_send, counter_send,
      Compilation.result_report, Compilation.counter_report, Operation.counter?, Operation.kind?, Operation.compiles,
      Operation.call?, Option.map_some, Option.isSome_map]
  | count filter =>
    simp only [Books.perform, Books.add, count, Operation.counter?, Operation.kind?,
      Operation.call?, Option.map_none]
    cases Filter.compile collection filter <;> rfl
  | aggregate request =>
    simp only [Books.perform, Books.add, aggregate, Compilation.pipeline, calls_send, counter_send,
      Compilation.result_report, Compilation.counter_report, Operation.counter?, Operation.kind?, Operation.compiles,
      Operation.call?, Option.map_some, Option.isSome_map]
  | page request =>
    simp only [Books.perform, Books.add, page, Compilation.page, calls_send, counter_send,
      Compilation.result_report, Compilation.counter_report, Operation.counter?, Operation.kind?, Operation.compiles,
      Operation.call?, Option.map_some, Option.isSome_map]
    rfl

theorem calls_perform (collection : Collection) (books : Books) (step : Step) :
    (books.perform collection step).calls =
      books.calls ++ (step.operation.call? collection).toList := by
  rw [perform_eq]

theorem value_perform (collection : Collection) (books : Books) (step : Step) (counter : Counter) :
    (books.perform collection step).metrics.value counter =
      if step.operation.counter? collection = some counter then
        Metrics.next (books.metrics.value counter)
      else books.metrics.value counter := by
  rw [perform_eq]
  cases step.operation.counter? collection with
  | none => rfl
  | some counted =>
    show (books.metrics.count counted).value counter = _
    rw [Metrics.value_count]
    simp only [Option.some.injEq]

namespace Operation

variable {collection : Collection} {operation : Operation}

theorem counter?_eq_compiled_iff {kind : Compilation.Kind} :
    operation.counter? collection = some kind.counter ↔
      operation.kind? = some kind ∧ operation.compiles collection = true := by
  unfold counter?
  cases operation.kind? with
  | none => simp
  | some own =>
    cases operation.compiles collection <;> cases own <;> cases kind <;>
      simp [Compilation.Kind.counter]

theorem counter?_eq_rejected_iff :
    operation.counter? collection = some .rejected ↔
      operation.kind?.isSome = true ∧ operation.compiles collection = false := by
  unfold counter?
  cases operation.kind? with
  | none => simp
  | some own =>
    cases operation.compiles collection <;> cases own <;> simp [Compilation.Kind.counter]

end Operation

/-! ## Runs of operations -/

variable {collection : Collection} {steps : List Step} {books : Books}

/-- Each operation of some kind compiles or does not. -/
theorem issued_eq (collection : Collection) (steps : List Step) :
    issued steps =
      compiled collection .query steps + compiled collection .aggregate steps +
        compiled collection .cursor steps + rejected collection steps := by
  induction steps with
  | nil => rfl
  | cons step steps ih =>
    unfold issued compiled rejected at ih ⊢
    simp only [List.countP_cons]
    rw [ih]
    cases step.operation.kind? with
    | none => simp
    | some kind =>
      cases step.operation.compiles collection <;> cases kind <;> simp <;> omega

/-- As long as no counter starts again the four of them add up. -/
theorem total_eq
    (hcompiled : ∀ kind, books.metrics.value kind.counter =
      compiled collection kind steps % Metrics.capacity)
    (hrejected : books.metrics.rejected = rejected collection steps % Metrics.capacity)
    (hfit : issued steps < Metrics.capacity) : books.metrics.total = issued steps := by
  have hqueries : books.metrics.queries = _ := hcompiled .query
  have haggregates : books.metrics.aggregates = _ := hcompiled .aggregate
  have hcursors : books.metrics.cursorQueries = _ := hcompiled .cursor
  have hall := issued_eq collection steps
  unfold Metrics.total
  rw [hqueries, haggregates, hcursors, hrejected]
  rw [Nat.mod_eq_of_lt (by omega), Nat.mod_eq_of_lt (by omega), Nat.mod_eq_of_lt (by omega),
    Nat.mod_eq_of_lt (by omega), hall]

/-- A counter that goes up with an operation, and the number of those operations. -/
theorem next_countP {counter : Counter} {counts : Step → Bool} {step : Step}
    (hvalue : books.metrics.value counter = steps.countP counts % Metrics.capacity)
    (hcounts : step.operation.counter? collection = some counter ↔ counts step = true) :
    (books.perform collection step).metrics.value counter =
      (steps ++ [step]).countP counts % Metrics.capacity := by
  rw [value_perform, List.countP_append, List.countP_singleton, hvalue]
  by_cases hstep : counts step = true
  · rw [if_pos (hcounts.2 hstep), if_pos hstep, Metrics.next, Nat.mod_add_mod]
  · rw [if_neg fun h => hstep (hcounts.1 h), if_neg hstep, Nat.add_zero]

/-- **One more operation, and the books still agree.** -/
theorem Accounts.perform (h : Accounts collection steps books) (step : Step) :
    Accounts collection (steps ++ [step]) (books.perform collection step) := by
  have hcompiled : ∀ kind, (books.perform collection step).metrics.value kind.counter =
      Repository.compiled collection kind (steps ++ [step]) % Metrics.capacity := by
    intro kind
    apply next_countP (h.compiled kind)
    rw [Operation.counter?_eq_compiled_iff]
    simp
  have hrejected : (books.perform collection step).metrics.rejected =
      Repository.rejected collection (steps ++ [step]) % Metrics.capacity := by
    have hvalue : books.metrics.value .rejected = _ := h.rejected
    apply next_countP hvalue
    rw [Operation.counter?_eq_rejected_iff]
    simp
  refine ⟨hcompiled, hrejected, total_eq hcompiled hrejected, ?_⟩
  rw [calls_perform, h.calls, List.filterMap_append]
  cases hcall : step.operation.call? collection <;> simp [hcall]

/-- A store that fails is called and the request counted; a filter that does not compile is counted
and not sent. -/
example :
    let failing : Store := ⟨fun _ => .error "down", fun _ => .error "down", fun _ => .error "down"⟩
    let refused : Filter := [.field ⟨"age", [⟨.isIn, .int32 1⟩]⟩]
    let books := run ⟨.empty, {}⟩
      [⟨.query {}, failing⟩, ⟨.count [], failing⟩, ⟨.page { filter := refused }, failing⟩]
    books.metrics = ⟨1, 0, 0, 1⟩ ∧ books.calls.length = 2 :=
  ⟨rfl, rfl⟩

end DocumentQuery.Repository
