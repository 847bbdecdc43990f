import DocumentQuery.Proofs.Entries
import DocumentQuery.Proofs.Store.Engine
import DocumentQuery.Query.Find

/-!
# Pages

The window of a page is cut off twice: its counts at the greatest count, and again where they are
written as signed numbers. Neither shows in a list that is short enough to be counted by those: a
page that begins beyond a cut begins beyond the last row, and a size beyond a cut has room for all
rows. So the pages of one size follow one another through the list.

* `Find.rowsKept`  : what the document of a query keeps of the rows;
* `pageCount`      : the number of pages that have rows;
* `Tiles`          : pages of one size follow one another through the rows;
* `Paging.ofPage`  : a request for a page, over any other request for rows;
* `Find.pageRows`  : the rows of a page.

Principal results: `Find.rowsKept_toDocument`, the document of a query keeps the rows of its window,
and `Find.pages_tile`.
-/

namespace DocumentQuery

/-! ## Counts of a written query -/

namespace Find

variable {α : Type}

/-- The greatest signed count. -/
def maxSigned : Nat := 0x7FFFFFFFFFFFFFFF

/-- The number that is written for a count. -/
def signedCount (count : UInt64) : Nat := min count.toNat maxSigned

/-- A count of a written query. -/
def countAt? (key : String) (document : Document) : Option Int :=
  match Entries.get? key document with
  | some (.int64 n) => some n.toInt
  | _ => none

/-- What a written query keeps of the rows: those after the first `skip`, and of these at most
`limit`. -/
def rowsKept (document : Document) (rows : List α) : List α :=
  let rest := rows.drop ((countAt? "skip" document).getD 0).toNat
  match countAt? "limit" document with
  | some limit => rest.take limit.toNat
  | none => rest

theorem get?_part (key name : String) (value : Option Value) :
    Entries.get? key (part name value) = if name = key then value else none := by
  cases value with
  | none => simp [part, Entries.get?]
  | some value => simp [part, Entries.get?]

theorem get?_skip (find : Find) :
    Entries.get? "skip" find.toDocument = find.window.skip.map countValue := by
  simp [toDocument, Entries.get?_append, get?_part]

theorem get?_limit (find : Find) :
    Entries.get? "limit" find.toDocument = find.window.limit.map countValue := by
  simp [toDocument, Entries.get?_append, get?_part]

/-- A count is cut off at the greatest signed number, and so is never negative. -/
theorem countValue_eq (count : UInt64) :
    ∃ n : Int64, countValue count = .int64 n ∧ n.toInt = signedCount count := by
  have hle : signedCount count ≤ 0x7FFFFFFFFFFFFFFF := Nat.min_le_right _ _
  have hcut : min (count.toNat : Int) Number.Range.int64.high = signedCount count := by
    have hhigh : Number.Range.int64.high = maxSigned := rfl
    rw [hhigh, signedCount]
    omega
  refine ⟨_, rfl, ?_⟩
  rw [hcut]
  exact Int64.toInt_ofInt_of_le (by omega) (by omega)

theorem countAt?_toDocument (find : Find) :
    countAt? "skip" find.toDocument =
        find.window.skip.map (fun count => (signedCount count : Int)) ∧
      countAt? "limit" find.toDocument =
        find.window.limit.map (fun count => (signedCount count : Int)) := by
  have hcount (count : Option UInt64) :
      (match count.map countValue with
        | some (.int64 n) => some n.toInt
        | _ => none) = count.map fun count => (signedCount count : Int) := by
    cases count with
    | none => rfl
    | some count =>
      obtain ⟨n, hvalue, hn⟩ := countValue_eq count
      simp [hvalue, hn]
  unfold countAt?
  rw [get?_skip, get?_limit]
  exact ⟨hcount _, hcount _⟩

theorem drop_signedCount {rows : List α} (hrows : rows.length ≤ maxSigned) (count : UInt64) :
    rows.drop (signedCount count) = rows.drop count.toNat := by
  rw [List.drop_eq_drop_iff, signedCount]
  omega

theorem take_signedCount {rows : List α} (hrows : rows.length ≤ maxSigned) (count : UInt64) :
    rows.take (signedCount count) = rows.take count.toNat := by
  rw [List.take_eq_take_iff, signedCount]
  omega

/-- **A written query keeps the rows of its window**, where there are not too many to be counted
by a signed number. -/
theorem rowsKept_toDocument (find : Find) {rows : List α} (hrows : rows.length ≤ maxSigned) :
    rowsKept find.toDocument rows = find.window.apply rows := by
  obtain ⟨hskip, hlimit⟩ := countAt?_toDocument find
  have hrest : rows.drop ((countAt? "skip" find.toDocument).getD 0).toNat =
      rows.drop (find.window.skip.getD 0).toNat := by
    rw [hskip]
    cases find.window.skip with
    | none => rfl
    | some count => exact drop_signedCount hrows count
  unfold rowsKept Window.apply
  dsimp only
  rw [hrest, hlimit]
  cases find.window.limit with
  | none => rfl
  | some count =>
    refine take_signedCount ?_ count
    rw [List.length_drop]
    omega

end Find

/-! ## Lists cut into pages -/

section Chunks

variable {α : Type} {size : Nat} {rows : List α} {page : UInt64 → List α}

/-- The number of pages that have rows. -/
def pageCount (size rows : Nat) : Nat := (rows + size - 1) / size

/-- There is a page after some others exactly if these do not have all rows. -/
theorem lt_pageCount (hsize : 1 ≤ size) {before count : Nat} :
    before < pageCount size count ↔ before * size < count := by
  rw [pageCount, ← Nat.succ_le_iff, Nat.le_div_iff_mul_le hsize, Nat.succ_mul]
  omega

/-- Pages of one size are filled with the rows, one page after the other. -/
structure Tiles (size : Nat) (rows : List α) (page : UInt64 → List α) : Prop where
  /-- A page has the rows after those of the pages before it. -/
  chunk : ∀ number, page number = (rows.drop ((number.toNat - 1) * size)).take size
  /-- Together, the pages that have rows have all rows, in order. -/
  inOrder : (List.range (pageCount size rows.length)).flatMap
    (fun before => page (.ofNat (before + 1))) = rows
  /-- The place of a row among all rows is on one page. -/
  once : ∀ place < rows.length, ∃! number : UInt64, 1 ≤ number.toNat ∧
    (number.toNat - 1) * size ≤ place ∧
      place < (number.toNat - 1) * size + (page number).length
  nonempty : ∀ number, 1 ≤ number.toNat → number.toNat ≤ pageCount size rows.length →
    page number ≠ []
  full : ∀ number, 1 ≤ number.toNat → number.toNat < pageCount size rows.length →
    (page number).length = size
  beyond : ∀ number, pageCount size rows.length < number.toNat → page number = []
  zero : page 0 = page 1

/-- The first pages have the first rows. -/
theorem flatMap_chunks (size : Nat) (rows : List α) (count : Nat) :
    (List.range count).flatMap (fun before => (rows.drop (before * size)).take size) =
      rows.take (count * size) := by
  induction count with
  | zero => simp
  | succ count ih =>
    rw [List.range_succ, List.flatMap_append, ih, List.flatMap_singleton, Nat.succ_mul,
      List.take_add]

theorem toNat_pageNumber {before : Nat} (h : before < Find.maxSigned) :
    (UInt64.ofNat (before + 1)).toNat = before + 1 :=
  UInt64.toNat_ofNat_of_lt (Nat.lt_of_le_of_lt h (by decide))

variable (hchunk : ∀ number, page number = (rows.drop ((number.toNat - 1) * size)).take size)
include hchunk

theorem length_page (number : UInt64) :
    (page number).length = min size (rows.length - (number.toNat - 1) * size) := by
  rw [hchunk, List.length_take, List.length_drop]

theorem flatMap_pages (hsize : 1 ≤ size) (hrows : rows.length ≤ Find.maxSigned) :
    (List.range (pageCount size rows.length)).flatMap
      (fun before => page (.ofNat (before + 1))) = rows := by
  have hpages : ∀ before ∈ List.range (pageCount size rows.length),
      page (.ofNat (before + 1)) = (rows.drop (before * size)).take size := by
    intro before hbefore
    have hmore := (lt_pageCount hsize).1 (List.mem_range.1 hbefore)
    have hle : before ≤ before * size := Nat.le_mul_of_pos_right _ hsize
    rw [hchunk, toNat_pageNumber (by omega), Nat.add_sub_cancel]
  have hall : rows.length ≤ pageCount size rows.length * size :=
    Nat.not_lt.1 fun hlt => Nat.lt_irrefl _ ((lt_pageCount hsize).2 hlt)
  rw [List.flatMap_congr hpages, flatMap_chunks, List.take_of_length_le hall]

/-- The place of a row, divided by the size of the pages, is the number of pages before its own. -/
theorem existsUnique_page (hsize : 1 ≤ size) (hrows : rows.length ≤ Find.maxSigned) {place : Nat}
    (hplace : place < rows.length) :
    ∃! number : UInt64, 1 ≤ number.toNat ∧ (number.toNat - 1) * size ≤ place ∧
      place < (number.toNat - 1) * size + (page number).length := by
  have hbegin := Nat.div_mul_le_self place size
  have hend := Nat.lt_div_mul_add (a := place) hsize
  have hnumber : (UInt64.ofNat (place / size + 1)).toNat = place / size + 1 :=
    toNat_pageNumber (by have hle := Nat.div_le_self place size; omega)
  refine ⟨.ofNat (place / size + 1), ⟨?_, ?_, ?_⟩, fun number ⟨hone, hfirst, hpast⟩ => ?_⟩
  · rw [hnumber]
    exact Nat.le_add_left 1 _
  · rw [hnumber, Nat.add_sub_cancel]
    exact hbegin
  · rw [length_page hchunk, hnumber, Nat.add_sub_cancel]
    omega
  · rw [length_page hchunk] at hpast
    have hdiv : place / size = number.toNat - 1 :=
      Nat.div_eq_of_lt_le hfirst (by rw [Nat.succ_mul]; omega)
    apply UInt64.toNat_inj.1
    rw [hnumber, hdiv, Nat.sub_add_cancel hone]

theorem tiles_of_chunk (hsize : 1 ≤ size) (hrows : rows.length ≤ Find.maxSigned) :
    Tiles size rows page where
  chunk := hchunk
  inOrder := flatMap_pages hchunk hsize hrows
  once _ hplace := existsUnique_page hchunk hsize hrows hplace
  nonempty number hone hle := by
    have hbegin := (lt_pageCount hsize).1 (Nat.sub_one_lt_of_le hone hle)
    rw [← List.length_pos_iff, length_page hchunk]
    omega
  full number hone hlt := by
    have hend := (lt_pageCount hsize).1 hlt
    rw [← Nat.sub_add_cancel hone, Nat.succ_mul] at hend
    rw [length_page hchunk]
    omega
  beyond number hlt := by
    have hbegin := mt (lt_pageCount hsize).2 (Nat.not_lt.2 (Nat.le_sub_one_of_lt hlt))
    rw [← List.length_eq_zero_iff, length_page hchunk]
    omega
  zero := by
    rw [hchunk, hchunk]
    rfl

end Chunks

/-! ## Pages of a query -/

/-- A request for a page of rows. Whatever else is asked for with it stays. -/
def Paging.ofPage (paging : Paging) (size page : UInt64) : Paging :=
  { paging with page := some page, size := some size }

namespace Find

/-- The rows of a page: what the written query for it keeps. -/
def pageRows {α : Type} (find : Find) (paging : Paging) (size : UInt64) (rows : List α)
    (page : UInt64) : List α :=
  rowsKept ({ find with window := (paging.ofPage size page).window } : Find).toDocument rows

/-- Where the number of rows before a page is cut off, there are no more rows either way. -/
theorem pageRows_eq {α : Type} (find : Find) (paging : Paging) (size : UInt64) {rows : List α}
    (hrows : rows.length ≤ maxSigned) (page : UInt64) :
    pageRows find paging size rows page =
      (rows.drop ((page.toNat - 1) * size.toNat)).take size.toNat := by
  have hwindow : (paging.ofPage size page).window =
      ⟨some (Paging.rowsBefore page size), some size⟩ := rfl
  have hbefore : rows.drop (Paging.rowsBefore page size).toNat =
      rows.drop ((page.toNat - 1) * size.toNat) := by
    have hmax : maxSigned ≤ Number.maxCount := by decide
    rw [Paging.rowsBefore, Number.toNat_saturate, List.drop_eq_drop_iff]
    omega
  rw [pageRows, rowsKept_toDocument _ hrows, hwindow]
  exact congrArg (List.take size.toNat) hbefore

/-- **The pages of one size tile the rows.** Their windows depend on the page and its size alone,
and no count of a written query is negative. -/
theorem pages_tile {α : Type} (find : Find) (paging : Paging) (size : UInt64) :
    (∀ page, (paging.ofPage size page).window = (Paging.ofPage {} size page).window ∧
      (Paging.rowsBefore page size).toNat =
        min ((page.toNat - 1) * size.toNat) Number.maxCount) ∧
    (∀ key ∈ ["skip", "limit"], ∀ value, Entries.get? key find.toDocument = some value →
      ∃ n : Int64, value = .int64 n ∧ 0 ≤ n.toInt) ∧
    (1 ≤ size.toNat → ∀ rows : List α, rows.length ≤ maxSigned →
      Tiles size.toNat rows (pageRows find paging size rows)) := by
  have hcount (count : Option UInt64) (value : Value) (h : count.map countValue = some value) :
      ∃ n : Int64, value = .int64 n ∧ 0 ≤ n.toInt := by
    obtain ⟨count, -, rfl⟩ := Option.map_eq_some_iff.1 h
    obtain ⟨n, hvalue, hn⟩ := countValue_eq count
    have hnonneg := Int.natCast_nonneg count.toNat
    exact ⟨n, hvalue, by omega⟩
  refine ⟨fun page => ⟨rfl, Number.toNat_saturate _⟩, fun key hkey value hvalue => ?_,
    fun hsize rows hrows => ?_⟩
  · simp only [List.mem_cons, List.not_mem_nil, or_false] at hkey
    rcases hkey with rfl | rfl
    · rw [get?_skip] at hvalue
      exact hcount _ value hvalue
    · rw [get?_limit] at hvalue
      exact hcount _ value hvalue
  · exact tiles_of_chunk (pageRows_eq find paging size hrows) hsize hrows

/-- Three pages of at most two rows; one beyond them that begins past the greatest count. -/
theorem pages_tile_five :
    let paging : Paging := { limit := some 1, offset := some 4, page := some 9 }
    let page := pageRows { filter := [("age", .int32 7)] } paging 2 ["a", "b", "c", "d", "e"]
    Tiles 2 ["a", "b", "c", "d", "e"] page ∧ page 3 = ["e"] ∧ page 0xFFFFFFFFFFFFFFFF = [] := by
  intro paging page
  have htiles : Tiles 2 ["a", "b", "c", "d", "e"] page :=
    (pages_tile _ paging 2).2.2 (by decide) _ (by decide)
  exact ⟨htiles, htiles.chunk 3, htiles.beyond _ (by decide)⟩

end Find

end DocumentQuery
