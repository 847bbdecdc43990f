import DocumentQuery.Proofs.Filter.Meaning
import DocumentQuery.Proofs.Store.Order
import DocumentQuery.Repository

/-!
# Stores that filter, sort and limit

What a repository takes for granted of the store behind it: the store keeps the rows that meet the
predicate, orders them by the sort document, and returns those of the window. It compares and it
orders by one order of the values. Rows that tie may come in any order.

* `Engine`            : how a store compares, and which comparisons are true of a row;
* `Engine.Arranges`   : the rows that meet a predicate, ordered by a sort document;
* `Engine.Serves`     : a store answers by the rows of a window of such a list;
* `Engine.OrderedBy`  : rows ordered by one field, of which there is only one list;
* `Engine.serves_store` : there is a store for any rows.
-/

namespace DocumentQuery

open Predicate (Assignment)

/-- Of the values of a field and another value, `less` says which comparisons are true. -/
structure Compares (less : Value → Value → Bool) (truth : Assignment) (field : String)
    (found : Value) : Prop where
  greater : ∀ value, truth field "$gt" value = less value found
  lesser : ∀ value, truth field "$lt" value = less found value

/-- How a store compares. The comparisons that are true of a row are any, but for the two strict
ones on a field that the row has: these go by the order of the values. -/
structure Engine where
  order : ValueOrder
  truth : Document → Assignment
  compares : ∀ row field found, Cursor.Row.lookup? row field = some found →
    Compares order.less (truth row) field found

namespace Window

variable {α : Type}

/-- The rows of a window. -/
def apply (window : Window) (rows : List α) : List α :=
  let rest := rows.drop (window.skip.getD 0).toNat
  match window.limit with
  | some limit => rest.take limit.toNat
  | none => rest

theorem apply_limit (limit : UInt64) (rows : List α) :
    apply ⟨none, some limit⟩ rows = rows.take limit.toNat := rfl

end Window

namespace Engine

open Cursor.Row (lookup? valueAt)

variable (engine : Engine)

/-- The row meets the predicate. -/
def satisfies (filter : Document) (row : Document) : Bool :=
  Predicate.holds (engine.truth row) filter

/-- The operator of a direction says that the row's value lies beyond another one. -/
theorem truth_operator {row : Document} {field : String} {found : Value}
    (h : lookup? row field = some found) (d : Direction) (value : Value) :
    engine.truth row field d.operator value = engine.order.ahead d value found := by
  cases d with
  | ascending => exact (engine.compares row field found h).greater value
  | descending => exact (engine.compares row field found h).lesser value

/-- All rows that meet the predicate, in an order that the sort document allows. -/
structure Arranges (rows : List Document) (filter sort : Document) (sorted : List Document) :
    Prop where
  perm : sorted.Perm (rows.filter (engine.satisfies filter))
  ordered : sorted.Pairwise fun r s => engine.order.precedes sort s r = false

/-- The rows that a query may be answered by. -/
def Answers (rows : List Document) (find : Find) (answer : List Document) : Prop :=
  ∃ sorted, engine.Arranges rows find.filter (find.sort.getD []) sorted ∧
    answer = find.window.apply sorted

/-- The store keeps those rows, and answers every query for whole rows. -/
def Serves (rows : List Document) (store : Store) : Prop :=
  ∀ find, find.projection = none →
    ∃ answer, store.find find = .ok answer ∧ engine.Answers rows find answer

/-! ## Rows ordered by one field -/

/-- The rows can be told apart by a field that they all have. -/
structure Identifies (field : String) (rows : List Document) : Prop where
  present : ∀ row ∈ rows, ∃ value, lookup? row field = some value
  distinct : rows.Pairwise fun r s => ¬engine.order.ties (valueAt r field) (valueAt s field)

/-- Each row comes before all that follow it, by a field and in a direction. -/
def OrderedBy (field : String) (d : Direction) (rows : List Document) : Prop :=
  rows.Pairwise fun r s => engine.order.ahead d (valueAt r field) (valueAt s field) = true

variable {engine} {rows : List Document} {filter : Document} {field : String} {way : Value}
  {rest : Document}

/-- Rows that can be told apart by the first field to sort by are ordered by it alone. -/
theorem Arranges.orderedBy {sorted : List Document}
    (h : engine.Arranges rows filter ((field, way) :: rest) sorted)
    (hids : engine.Identifies field rows) : engine.OrderedBy field (.ofValue way) sorted := by
  have hsymm : ∀ r s, ¬engine.order.ties (valueAt r field) (valueAt s field) →
      ¬engine.order.ties (valueAt s field) (valueAt r field) :=
    fun r s hties hties' => hties hties'.symm
  have hdistinct : sorted.Pairwise fun r s =>
      ¬engine.order.ties (valueAt r field) (valueAt s field) :=
    (h.perm.pairwise_iff (hsymm _ _)).2 (hids.distinct.filter _)
  refine (h.ordered.and hdistinct).imp ?_
  rintro r s ⟨hback, hties⟩
  rw [ValueOrder.precedes_first (hsymm r s hties)] at hback
  rcases engine.order.ahead_or_ahead (.ofValue way) hties with hahead | hback'
  · exact hahead
  · rw [hback] at hback'
    cases hback'

/-- There is only one list of rows in such an order. -/
theorem OrderedBy.eq_of_perm {d : Direction} {first second : List Document}
    (hfirst : engine.OrderedBy field d first) (hsecond : engine.OrderedBy field d second)
    (hperm : first.Perm second) : first = second := by
  refine hperm.eq_of_pairwise (fun r s _ _ hrs hsr => ?_) hfirst hsecond
  rw [engine.order.ahead_asymm hrs] at hsr
  cases hsr

/-- The rows that come after one of them are those behind it. -/
theorem OrderedBy.filter_ahead {d : Direction} {before after : List Document} {row : Document}
    (h : engine.OrderedBy field d (before ++ row :: after)) :
    ((before ++ row :: after).filter fun r =>
      engine.order.ahead d (valueAt row field) (valueAt r field)) = after := by
  obtain ⟨_, htail, hacross⟩ := List.pairwise_append.1 h
  obtain ⟨hafter, _⟩ := List.pairwise_cons.1 htail
  have hself : ¬engine.order.ahead d (valueAt row field) (valueAt row field) = true := by
    rw [engine.order.ahead_self]
    exact Bool.false_ne_true
  have hbefore : (before.filter fun r =>
      engine.order.ahead d (valueAt row field) (valueAt r field)) = [] := by
    rw [List.filter_eq_nil_iff]
    intro r hr
    rw [engine.order.ahead_asymm (hacross r hr row List.mem_cons_self)]
    exact Bool.false_ne_true
  rw [List.filter_append, hbefore, List.nil_append, List.filter_cons, if_neg hself,
    List.filter_eq_self.2 hafter]

/-! ## A store -/

/-- The engine that knows the two strict comparisons and no other. -/
def ofOrder (order : ValueOrder) : Engine where
  order := order
  truth row field operator value :=
    match lookup? row field with
    | none => false
    | some found =>
      if operator = Direction.ascending.operator then order.less value found
      else if operator = Direction.descending.operator then order.less found value
      else false
  compares row field found hfound := by
    constructor
    · intro value
      rw [hfound]
      rfl
    · intro value
      rw [hfound]
      rfl

variable (engine)

/-- The order of rows as a test for sorting: whatever does not come after may come before. -/
def before (sort r s : Document) : Bool := !engine.order.precedes sort s r

/-- The rows that meet the predicate, sorted by merging. -/
def sorted (rows : List Document) (filter sort : Document) : List Document :=
  (rows.filter (engine.satisfies filter)).mergeSort (engine.before sort)

theorem before_trans {sort r s t : Document} (hrs : engine.before sort r s = true)
    (hst : engine.before sort s t = true) : engine.before sort r t = true := by
  unfold before at hrs hst ⊢
  rw [Bool.not_eq_true'] at hrs hst ⊢
  rw [← Bool.not_eq_true]
  intro htr
  rcases ValueOrder.precedes_split s htr with hts | hsr
  · rw [hst] at hts
    cases hts
  · rw [hrs] at hsr
    cases hsr

theorem before_total (sort r s : Document) :
    (engine.before sort r s || engine.before sort s r) = true := by
  unfold before
  cases hsr : engine.order.precedes sort s r with
  | false => rfl
  | true =>
    rw [ValueOrder.precedes_asymm hsr]
    rfl

theorem arranges_sorted (rows : List Document) (filter sort : Document) :
    engine.Arranges rows filter sort (engine.sorted rows filter sort) := by
  refine ⟨List.mergeSort_perm _ _, ?_⟩
  have hsorted : ((rows.filter (engine.satisfies filter)).mergeSort
      (engine.before sort)).Pairwise (engine.before sort · · = true) := by
    apply List.pairwise_mergeSort
    · intro r s t hrs hst
      exact engine.before_trans hrs hst
    · exact engine.before_total sort
  exact hsorted.imp fun h => by simpa only [before, Bool.not_eq_true'] using h

/-- The store that sorts by merging. It has no groups. -/
def store (rows : List Document) : Store where
  find find := .ok (find.window.apply (engine.sorted rows find.filter (find.sort.getD [])))
  aggregate _ := .ok []
  count filter := .ok (rows.filter (engine.satisfies filter)).length

/-- **There is a store for any rows and any way to compare.** -/
theorem serves_store (rows : List Document) : engine.Serves rows (engine.store rows) :=
  fun _ _ => ⟨_, rfl, _, engine.arranges_sorted _ _ _, rfl⟩

end Engine

end DocumentQuery
