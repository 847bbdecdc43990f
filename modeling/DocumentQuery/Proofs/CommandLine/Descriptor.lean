import DocumentQuery.CommandLine.Descriptor
import DocumentQuery.Proofs.Compilation
import DocumentQuery.Proofs.FirstError

/-!
# Results of descriptors

A JSON request of one of the three kinds compiles to a document, or it has not the shape of its
kind, or the compiler rejects it. Each of the three is said here for all kinds at once, by the
compiler alone.

* `Descriptor.Compiles` : what a request compiles to;
* `Descriptor.Unfit`    : what is wrong with the shape of a request;
* `Descriptor.Rejected` : the error of a request that has its shape and does not compile.

Principal results: `Descriptor.ofRequest_eq_ok`, `Descriptor.ofRequest_eq_error`.
-/

namespace DocumentQuery.CommandLine.Descriptor

variable {α : Type} {collection : Collection} {json : Json}

/-- The request compiles to a document. -/
inductive Compiles (collection : Collection) (json : Json) :
    Compilation.Kind → Document → Prop where
  | query {request : FindRequest} {find : Find} (hread : FindRequest.ofJson json = .ok request)
      (h : Find.ofRequest collection request = .ok find) :
      Compiles collection json .query find.toDocument
  | aggregate {request : AggregateRequest} {pipeline : Aggregate.Pipeline}
      (hread : AggregateRequest.ofJson json = .ok request)
      (h : Aggregate.Pipeline.ofRequest collection request = .ok pipeline) :
      Compiles collection json .aggregate pipeline.toDocument
  | cursor {request : CursorRequest} {query : CursorQuery}
      (hread : CursorRequest.ofJson json = .ok request)
      (h : CursorQuery.ofRequest collection request = .ok query) :
      Compiles collection json .cursor query.toDocument

/-- The request has not the shape of its kind. -/
inductive Unfit (json : Json) : Compilation.Kind → RequestError → Prop where
  | query {error : RequestError} (h : FindRequest.ofJson json = .error error) :
      Unfit json .query error
  | aggregate {error : RequestError} (h : AggregateRequest.ofJson json = .error error) :
      Unfit json .aggregate error
  | cursor {error : RequestError} (h : CursorRequest.ofJson json = .error error) :
      Unfit json .cursor error

/-- The compiler rejects the request. -/
inductive Rejected (collection : Collection) (json : Json) :
    Compilation.Kind → QueryError → Prop where
  | query {request : FindRequest} {error : QueryError}
      (hread : FindRequest.ofJson json = .ok request)
      (h : Find.ofRequest collection request = .error error) : Rejected collection json .query error
  | aggregate {request : AggregateRequest} {error : QueryError}
      (hread : AggregateRequest.ofJson json = .ok request)
      (h : Aggregate.Pipeline.ofRequest collection request = .error error) :
      Rejected collection json .aggregate error
  | cursor {request : CursorRequest} {error : QueryError}
      (hread : CursorRequest.ofJson json = .ok request)
      (h : CursorQuery.ofRequest collection request = .error error) :
      Rejected collection json .cursor error

section Steps

variable {read : Except RequestError α} {descriptor : α → Reported Json}
  {toDocument : α → Document} {compilation : Compilation α} {data : Json} {failure : Failure}

theorem compile_eq_ok :
    (compile read descriptor).result = .ok data ↔
      ∃ request, read = .ok request ∧ (descriptor request).result = .ok data := by
  cases read <;> simp [compile]

theorem compile_eq_error :
    (compile read descriptor).result = .error failure ↔
      (∃ error, read = .error error ∧ failure = .request error) ∨
        ∃ request, read = .ok request ∧ (descriptor request).result = .error failure := by
  cases read <;> simp [compile, eq_comm]

theorem ofCompilation_eq_ok :
    (ofCompilation toDocument compilation).result = .ok data ↔
      ∃ compiled, compilation.result = .ok compiled ∧ data = (toDocument compiled).toJson := by
  rw [ofCompilation]
  cases compilation.result <;> simp [Except.map, Except.mapError, eq_comm]

theorem ofCompilation_eq_error :
    (ofCompilation toDocument compilation).result = .error failure ↔
      ∃ error, compilation.result = .error error ∧ failure = .query error := by
  rw [ofCompilation]
  cases compilation.result <;> simp [Except.map, Except.mapError, eq_comm]

end Steps

theorem ofRequest_eq_ok {kind : Compilation.Kind} {data : Json} :
    (ofRequest kind collection json).result = .ok data ↔
      ∃ document, Compiles collection json kind document ∧ data = document.toJson := by
  cases kind <;>
    simp only [ofRequest, compile_eq_ok, ofCompilation_eq_ok, Compilation.find_result,
      Compilation.pipeline_result, Compilation.page_result] <;>
    constructor
  case query.mp =>
    rintro ⟨request, hread, find, h, rfl⟩
    exact ⟨_, .query hread h, rfl⟩
  case aggregate.mp =>
    rintro ⟨request, hread, pipeline, h, rfl⟩
    exact ⟨_, .aggregate hread h, rfl⟩
  case cursor.mp =>
    rintro ⟨request, hread, query, h, rfl⟩
    exact ⟨_, .cursor hread h, rfl⟩
  all_goals
    rintro ⟨_, ⟨hread, h⟩ | ⟨hread, h⟩ | ⟨hread, h⟩, rfl⟩
    exact ⟨_, hread, _, h, rfl⟩

theorem ofRequest_eq_error {kind : Compilation.Kind} {failure : Failure} :
    (ofRequest kind collection json).result = .error failure ↔
      (∃ error, Unfit json kind error ∧ failure = .request error) ∨
        ∃ error, Rejected collection json kind error ∧ failure = .query error := by
  cases kind <;>
    simp only [ofRequest, compile_eq_error, ofCompilation_eq_error, Compilation.find_result,
      Compilation.pipeline_result, Compilation.page_result] <;>
    constructor
  case query.mp =>
    rintro (⟨error, h, rfl⟩ | ⟨request, hread, error, h, rfl⟩)
    · exact .inl ⟨error, .query h, rfl⟩
    · exact .inr ⟨error, .query hread h, rfl⟩
  case aggregate.mp =>
    rintro (⟨error, h, rfl⟩ | ⟨request, hread, error, h, rfl⟩)
    · exact .inl ⟨error, .aggregate h, rfl⟩
    · exact .inr ⟨error, .aggregate hread h, rfl⟩
  case cursor.mp =>
    rintro (⟨error, h, rfl⟩ | ⟨request, hread, error, h, rfl⟩)
    · exact .inl ⟨error, .cursor h, rfl⟩
    · exact .inr ⟨error, .cursor hread h, rfl⟩
  all_goals
    rintro (⟨error, ⟨h⟩ | ⟨h⟩ | ⟨h⟩, rfl⟩ |
      ⟨error, ⟨hread, h⟩ | ⟨hread, h⟩ | ⟨hread, h⟩, rfl⟩)
    · exact .inl ⟨error, h, rfl⟩
    · exact .inr ⟨_, hread, error, h, rfl⟩

end DocumentQuery.CommandLine.Descriptor
