import DocumentQuery.Compilation

/-!
# Results of observed compilations

What is reported of a compilation has no influence on its result, which is that of the compiler.

* `Compilation.find_result`, `Compilation.pipeline_result`, `Compilation.page_result` : the results
  for the three kinds of requests;
* `Compilation.counter_report` : which counter goes up.
-/

namespace DocumentQuery.Compilation

theorem result_report {α : Type} (kind : Kind) (before : List Log.Entry)
    (result : Except QueryError α) : (report kind before result).result = result := by
  cases result <;> rfl

theorem counter_report {α : Type} (kind : Kind) (before : List Log.Entry)
    (result : Except QueryError α) :
    (report kind before result).counter =
      if result.toOption.isSome then kind.counter else .rejected := by
  cases result <;> rfl

theorem find_result (collection : Collection) (request : FindRequest) :
    (find collection request).result = Find.ofRequest collection request :=
  result_report _ _ _

theorem pipeline_result (collection : Collection) (request : AggregateRequest) :
    (pipeline collection request).result = Aggregate.Pipeline.ofRequest collection request :=
  result_report _ _ _

/-- The request is compiled in two steps, between which the cursor is reported. -/
theorem page_result (collection : Collection) (request : CursorRequest) :
    (page collection request).result = CursorQuery.ofRequest collection request :=
  result_report _ _ _

end DocumentQuery.Compilation
